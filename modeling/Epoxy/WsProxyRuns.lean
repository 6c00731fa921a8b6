/-
Whole runs of the connections of the proxy.  Each is a task that refuses its
request or relays, and closes the WebSocket once; what it records of its
stream it removes again, but for a stream to a wispnet server that is gone.
-/
import Epoxy.WsProxy

namespace Epoxy.Server

open ActionMachine ByteCursor RelayLoop TaskWorld

/-- The loop of an open stream. -/
inductive Loop where
  | tcp (relay : Relay UInt8 String)
  | udp (relay : Relay Bytes String)
  | wispnet (muxId : String) (relay : Relay Bytes String)

inductive LoopAnswer where
  | tcp (answer : TcpAnswer)
  | udp (answer : UdpAnswer)
  | wispnet (answer : WispnetAnswer)

namespace Loop

def step : Loop → LoopAnswer → Option Loop
  | .tcp relay, .tcp answer =>
      (relay.step tcpKind answer.event).map .tcp
  | .udp relay, .udp answer =>
      (relay.step udpKind answer.event).map .udp
  | .wispnet muxId relay, .wispnet answer =>
      (relay.step wispnetKind answer.event).map (.wispnet muxId)
  | _, _ => none

/-- The messages that the client was sent. -/
def messages : Loop → List Bytes
  | .tcp relay => relay.messages
  | .udp relay => relay.messages.map List.flatten
  | .wispnet _ relay => relay.messages.map List.flatten

/-- What the stream was given. -/
def written : Loop → Bytes
  | .tcp relay => relay.toRight.given
  | .udp relay => relay.toRight.given.flatten
  | .wispnet _ relay => relay.toRight.given.flatten

def wait : Loop → Wait String
  | .tcp relay => relay.wait
  | .udp relay => relay.wait
  | .wispnet _ relay => relay.wait

def machine : Machine Loop LoopAnswer := ⟨step⟩

/-- A loop before its first answer. -/
inductive IsStart : Loop → Prop where
  | tcp : IsStart (.tcp .init)
  | udp : IsStart (.udp .init)
  | wispnet (muxId : String) : IsStart (.wispnet muxId .init)

end Loop

namespace LoopAnswer

/-- What was read from the stream. -/
def fromStream : LoopAnswer → Option Bytes
  | .tcp answer => answer.filled
  | .udp answer => answer.received
  | .wispnet answer => answer.received

/-- What the client sent for the stream. -/
def fromClient : LoopAnswer → Option Bytes
  | .tcp answer => answer.payload
  | .udp answer => answer.payload
  | .wispnet answer => answer.payload

end LoopAnswer

namespace Loop

/-- The run of a loop is one of its relay. -/
theorem run_tcp {relay : Relay UInt8 String} {answers : List LoopAnswer}
    {loop : Loop} (hrun : machine.run (.tcp relay) answers = some loop) :
    ∃ (given : List TcpAnswer) (next : Relay UInt8 String),
      answers = given.map .tcp ∧ loop = .tcp next ∧
      (Relay.machine tcpKind).run relay (given.map TcpAnswer.event) =
        some next := by
  refine machine.run_of_embed (fun relay answer loop hstep => ?_) hrun
  cases answer with
  | tcp answer =>
      obtain ⟨next, hnext, rfl⟩ := Option.map_eq_some_iff.mp hstep
      exact ⟨answer, next, rfl, rfl, hnext⟩
  | udp answer => cases hstep
  | wispnet answer => cases hstep

theorem run_udp {relay : Relay Bytes String} {answers : List LoopAnswer}
    {loop : Loop} (hrun : machine.run (.udp relay) answers = some loop) :
    ∃ (given : List UdpAnswer) (next : Relay Bytes String),
      answers = given.map .udp ∧ loop = .udp next ∧
      (Relay.machine udpKind).run relay (given.map UdpAnswer.event) =
        some next := by
  refine machine.run_of_embed (fun relay answer loop hstep => ?_) hrun
  cases answer with
  | udp answer =>
      obtain ⟨next, hnext, rfl⟩ := Option.map_eq_some_iff.mp hstep
      exact ⟨answer, next, rfl, rfl, hnext⟩
  | tcp answer => cases hstep
  | wispnet answer => cases hstep

theorem run_wispnet {muxId : String} {relay : Relay Bytes String}
    {answers : List LoopAnswer} {loop : Loop}
    (hrun : machine.run (.wispnet muxId relay) answers = some loop) :
    ∃ (given : List WispnetAnswer) (next : Relay Bytes String),
      answers = given.map .wispnet ∧ loop = .wispnet muxId next ∧
      (Relay.machine wispnetKind).run relay
        (given.map WispnetAnswer.event) = some next := by
  refine machine.run_of_embed (fun relay answer loop hstep => ?_) hrun
  cases answer with
  | wispnet answer =>
      obtain ⟨next, hnext, rfl⟩ := Option.map_eq_some_iff.mp hstep
      exact ⟨answer, next, rfl, rfl, hnext⟩
  | tcp answer => cases hstep
  | udp answer => cases hstep

theorem flatten_mono {first second : List Bytes} (h : first <+: second) :
    first.flatten <+: second.flatten := by
  obtain ⟨rest, rfl⟩ := h
  rw [List.flatten_append]
  exact List.prefix_append _ _

theorem filterMap_map {A : Type} (answers : List A) (make : A → LoopAnswer)
    (data : LoopAnswer → Option Bytes) :
    (answers.map make).filterMap data =
      answers.filterMap fun answer => data (make answer) :=
  List.filterMap_map

/-- Either side gets a beginning of what the other one had, and all of it
where the loop ended well. -/
theorem relayed_run {start loop : Loop} (hstart : start.IsStart)
    {answers : List LoopAnswer}
    (hrun : machine.run start answers = some loop) :
    (loop.messages.flatten <+:
        (answers.filterMap LoopAnswer.fromStream).flatten ∧
      loop.written <+:
        (answers.filterMap LoopAnswer.fromClient).flatten) ∧
      (loop.wait = .ended (.ok ()) →
        loop.messages.flatten =
            (answers.filterMap LoopAnswer.fromStream).flatten ∧
          loop.written =
            (answers.filterMap LoopAnswer.fromClient).flatten) := by
  cases hstart with
  | tcp =>
      obtain ⟨given, next, rfl, rfl, hnext⟩ := run_tcp hrun
      obtain ⟨hright, hleft, -, hended⟩ := tcp_relayed hnext
      rw [filterMap_map, filterMap_map]
      exact ⟨⟨hleft, hright⟩,
        fun hwait => ⟨(hended hwait).2, (hended hwait).1⟩⟩
  | udp =>
      obtain ⟨given, next, rfl, rfl, hnext⟩ := run_udp hrun
      obtain ⟨hright, hleft, hended⟩ := udp_relayed hnext
      rw [filterMap_map, filterMap_map]
      exact ⟨⟨flatten_mono hleft, flatten_mono hright⟩, fun hwait =>
        ⟨congrArg List.flatten (hended hwait).2,
          congrArg List.flatten (hended hwait).1⟩⟩
  | wispnet muxId =>
      obtain ⟨given, next, rfl, rfl, hnext⟩ := run_wispnet hrun
      obtain ⟨hright, hleft, hended⟩ := wispnet_relayed hnext
      rw [filterMap_map, filterMap_map]
      exact ⟨⟨flatten_mono hleft, flatten_mono hright⟩, fun hwait =>
        ⟨congrArg List.flatten (hended hwait).2,
          congrArg List.flatten (hended hwait).1⟩⟩

end Loop

/-- What follows the close frame. -/
inductive Ending where
  /-- nothing, before the stream was recorded -/
  | refused
  /-- nothing, after the stream was recorded -/
  | returned
  | removed
deriving Repr, DecidableEq

/-- Where `handle_wsproxy` stands. -/
inductive ProxyPhase where
  | resolving (connect : ConnectPacket)
  | inserting (requested resolved : ConnectPacket) (stream : ClientStream)
  | routing (muxId : String) (resolved : ConnectPacket)
  | relaying (loop : Loop)
  | unrouting (muxId : String) (reply : WebSocketReply)
  | closing (reply : WebSocketReply) (ending : Ending)
  | removing
  | finished

/-- What the client was sent, and what the stream was given. -/
structure Exchange where
  replies : List WebSocketReply
  written : Bytes

namespace Exchange

def empty : Exchange := ⟨[], []⟩

/-- The messages that a loop has sent since, and what it has written. -/
def answer (exchange : Exchange) (loop next : Loop) : Exchange :=
  ⟨exchange.replies ++
      (next.messages.drop loop.messages.length).map .binary, next.written⟩

def close (exchange : Exchange) (closes : List WebSocketReply) : Exchange :=
  { exchange with replies := exchange.replies ++ closes }

end Exchange

/-- A connection of the proxy. -/
structure ProxyTask where
  id : String
  phase : ProxyPhase
  exchange : Exchange

namespace ProxyTask

def start (config : StreamConfig) (id path : String) (udp : Bool) :
    ProxyTask :=
  match wsproxyRequest config path udp with
  | .ok connect => ⟨id, .resolving connect, .empty⟩
  | .error (code, reason) =>
      ⟨id, .closing (.close code reason) .refused, .empty⟩

/-- What is done with an open stream. -/
def opened (resolved : ConnectPacket) : ClientStream → ProxyPhase
  | .tcp => .relaying (.tcp .init)
  | .udp => .relaying (.udp .init)
  | .wispnet muxId => .routing muxId resolved
  | .pty =>
      .closing (.close .policyViolation "twisp is not supported") .removed
  | .noResolvedAddrs =>
      .closing (.close .internalServerError
        "host did not resolve to any addrs") .returned
  | .blocked => .closing (.close .policyViolation "host is blocked") .removed
  | .invalid => .closing (.close .policyViolation "host is invalid") .removed

/-- A loop that has ended is followed by the close frame. -/
def relayed (loop : Loop) : ProxyPhase :=
  match loop.wait with
  | .ended result =>
      match loop with
      | .wispnet muxId _ => .unrouting muxId (closeReply result)
      | _ => .closing (closeReply result) .removed
  | _ => .relaying loop

inductive Action where
  | resolve (around : Surroundings)
  | insert
  | route
  | answer (answer : LoopAnswer)
  | unroute
  /-- The WebSocket takes the close frame, or does not. -/
  | close (taken : Bool)
  | remove

/-- A step of one connection; `none` where it is somewhere else. -/
def step (config : Config) (uuid : Uuid) (action : Action)
    (clients : Clients) (task : ProxyTask) : Option (Clients × ProxyTask) :=
  match action with
  | .resolve around =>
      match task.phase with
      | .resolving connect =>
          match wsproxyResolve config around connect with
          | .ok (requested, resolved, stream) =>
              some (clients, { task with
                phase := .inserting requested resolved stream })
          | .err (code, reason) =>
              some (clients, { task with
                phase := .closing (.close code reason) .refused })
          -- a panic ends the process
          | .panic => none
      | _ => none
  | .insert =>
      match task.phase with
      | .inserting requested resolved stream =>
          some (clients.record task.id uuid (requested, resolved),
            { task with phase := opened resolved stream })
      | _ => none
  | .route =>
      match task.phase with
      | .routing muxId resolved =>
          some (clients.record muxId uuid (resolved, resolved),
            { task with phase := .relaying (.wispnet muxId .init) })
      | _ => none
  | .answer answer =>
      match task.phase with
      | .relaying loop =>
          (loop.step answer).map fun next =>
            (clients, { task with
              phase := relayed next
              exchange := task.exchange.answer loop next })
      | _ => none
  | .unroute =>
      match task.phase with
      | .unrouting muxId reply =>
          some (clients.forget muxId uuid,
            { task with phase := .closing reply .removed })
      | _ => none
  | .close taken =>
      match task.phase with
      | .closing reply ending =>
          some (clients, { task with
            phase := if ending = .removed then .removing else .finished
            exchange := task.exchange.close (if taken then [reply] else []) })
      | _ => none
  | .remove =>
      match task.phase with
      | .removing =>
          some (clients.forget task.id uuid, { task with phase := .finished })
      | _ => none

/-- What the loop is answered with in a step. -/
def Action.answers : Action → List LoopAnswer
  | .answer given => [given]
  | _ => []

end ProxyTask

/-- The clients and the connections of the proxy. -/
abbrev ProxyWorld := World Uuid Clients ProxyTask

namespace ProxyWorld

inductive Action where
  | connected (id clientType : String)
  | disconnected (id : String)
  | start (uuid : Uuid) (id path : String) (udp : Bool)
  | task (uuid : Uuid) (action : ProxyTask.Action)

def init : ProxyWorld := World.init ∅

/-- Uuids are drawn anew for every connection, and not twice. -/
def move (config : Config) : Action → Move Uuid Clients ProxyTask
  | .connected id clientType =>
      .change fun clients => clients.insert id ⟨∅, clientType⟩
  | .disconnected id => .change fun clients => clients.erase id
  | .start uuid id path udp =>
      .spawn uuid (.start config.stream id path udp)
  | .task uuid action => .own uuid (ProxyTask.step config uuid action)

def machine (config : Config) : Machine ProxyWorld Action :=
  World.machine (move config)

/-- The stream of a connection that has finished is in nobody's entry. -/
def Undone (world : ProxyWorld) : Prop :=
  ∀ uuid task, world.tasks uuid = some task → task.phase = .finished →
    ∀ id, ¬ world.shared.Lists id uuid

/-- What the loop of a connection is answered with in a step. -/
def Action.answersOf (uuid : Uuid) : Action → List LoopAnswer
  | .task other action => if other = uuid then action.answers else []
  | _ => []

end ProxyWorld

namespace Loop

theorem messages_step {loop next : Loop} {answer : LoopAnswer}
    (hstep : loop.step answer = some next) :
    loop.messages <+: next.messages := by
  cases loop with
  | tcp relay =>
      cases answer with
      | tcp answer =>
          obtain ⟨relay', hrelay, rfl⟩ := Option.map_eq_some_iff.mp hstep
          exact Relay.messages_step hrelay
      | udp answer => cases hstep
      | wispnet answer => cases hstep
  | udp relay =>
      cases answer with
      | udp answer =>
          obtain ⟨relay', hrelay, rfl⟩ := Option.map_eq_some_iff.mp hstep
          exact (Relay.messages_step hrelay).map _
      | tcp answer => cases hstep
      | wispnet answer => cases hstep
  | wispnet muxId relay =>
      cases answer with
      | wispnet answer =>
          obtain ⟨relay', hrelay, rfl⟩ := Option.map_eq_some_iff.mp hstep
          exact (Relay.messages_step hrelay).map _
      | tcp answer => cases hstep
      | udp answer => cases hstep

/-- The messages of before and the new ones. -/
theorem replies_step {loop next : Loop} {answer : LoopAnswer}
    (hstep : loop.step answer = some next) :
    loop.messages.map WebSocketReply.binary ++
        (next.messages.drop loop.messages.length).map .binary =
      next.messages.map .binary := by
  obtain ⟨rest, hrest⟩ := messages_step hstep
  rw [← hrest, List.drop_left, List.map_append]

end Loop

namespace ProxyTask

/-- What was exchanged is what a loop did that these answers led to. -/
def InLoop (answers : List LoopAnswer) (loop : Loop)
    (exchange : Exchange) : Prop :=
  ∃ start : Loop, start.IsStart ∧
    Loop.machine.run start answers = some loop ∧
    exchange = ⟨loop.messages.map .binary, loop.written⟩

/-- The loop has ended, and this close frame says how. -/
def Ended (answers : List LoopAnswer) (reply : WebSocketReply)
    (exchange : Exchange) : Prop :=
  ∃ loop result, InLoop answers loop exchange ∧ loop.wait = .ended result ∧
    reply = closeReply result

/-- There was no loop. -/
def Refused (answers : List LoopAnswer) (reply : WebSocketReply)
    (exchange : Exchange) : Prop :=
  answers = [] ∧ exchange = .empty ∧ ∃ code reason, reply = .close code reason

/-- What was said before a close frame and with it, if that was taken. -/
def Closed (answers : List LoopAnswer) (exchange : Exchange) : Prop :=
  ∃ (reply : WebSocketReply) (before : Exchange)
    (closes : List WebSocketReply), exchange = before.close closes ∧
    (closes = [] ∨ closes = [reply]) ∧
    (Ended answers reply before ∨ Refused answers reply before)

theorem InLoop.answer {answers : List LoopAnswer} {loop next : Loop}
    {answer : LoopAnswer} {exchange : Exchange}
    (h : InLoop answers loop exchange)
    (hstep : loop.step answer = some next) :
    InLoop (answers ++ [answer]) next (exchange.answer loop next) := by
  obtain ⟨start, hstart, hrun, rfl⟩ := h
  refine ⟨start, hstart, Loop.machine.run_append_of_eq_some hrun ?_, ?_⟩
  · rw [Machine.run_cons]
    exact Option.bind_eq_some_iff.mpr ⟨next, hstep, rfl⟩
  · rw [Exchange.answer, Loop.replies_step hstep]

end ProxyTask

namespace ProxyWorld

open ProxyTask

/-- What a step of a connection can do. -/
inductive TaskSteps (clients : Clients) (uuid : Uuid) (id : String)
    (exchange : Exchange) :
    ProxyPhase → List LoopAnswer → Clients → ProxyTask → Prop where
  | resolved (connect requested resolved : ConnectPacket)
      (stream : ClientStream) :
      TaskSteps clients uuid id exchange (.resolving connect) [] clients
        ⟨id, .inserting requested resolved stream, exchange⟩
  | refused (connect : ConnectPacket) (code : CloseCode) (reason : String) :
      TaskSteps clients uuid id exchange (.resolving connect) [] clients
        ⟨id, .closing (.close code reason) .refused, exchange⟩
  | inserted (requested resolved : ConnectPacket) (stream : ClientStream) :
      TaskSteps clients uuid id exchange
        (.inserting requested resolved stream) []
        (clients.record id uuid (requested, resolved))
        ⟨id, opened resolved stream, exchange⟩
  | routed (muxId : String) (resolved : ConnectPacket) :
      TaskSteps clients uuid id exchange (.routing muxId resolved) []
        (clients.record muxId uuid (resolved, resolved))
        ⟨id, .relaying (.wispnet muxId .init), exchange⟩
  | answered (loop next : Loop) (answer : LoopAnswer)
      (hstep : loop.step answer = some next) :
      TaskSteps clients uuid id exchange (.relaying loop) [answer] clients
        ⟨id, relayed next, exchange.answer loop next⟩
  | unrouted (muxId : String) (reply : WebSocketReply) :
      TaskSteps clients uuid id exchange (.unrouting muxId reply) []
        (clients.forget muxId uuid) ⟨id, .closing reply .removed, exchange⟩
  | closed (reply : WebSocketReply) (ending : Ending)
      (closes : List WebSocketReply)
      (hcloses : closes = [] ∨ closes = [reply]) :
      TaskSteps clients uuid id exchange (.closing reply ending) [] clients
        ⟨id, if ending = .removed then .removing else .finished,
          exchange.close closes⟩
  | removed :
      TaskSteps clients uuid id exchange .removing []
        (clients.forget id uuid) ⟨id, .finished, exchange⟩

section Task

variable {config : Config} {clients clients' : Clients} {uuid : Uuid}
  {task task' : ProxyTask} {answers : List LoopAnswer}

theorem taskSteps_of_step {action : ProxyTask.Action}
    (hstep : ProxyTask.step config uuid action clients task =
      some (clients', task')) :
    TaskSteps clients uuid task.id task.exchange task.phase action.answers
      clients' task' := by
  obtain ⟨id, phase, exchange⟩ := task
  cases action with
  | resolve around =>
      cases phase with
      | resolving connect =>
          simp only [ProxyTask.step] at hstep
          cases hresolve : wsproxyResolve config around connect with
          | ok result =>
              rw [hresolve] at hstep
              cases hstep
              exact .resolved connect _ _ _
          | err refusal =>
              rw [hresolve] at hstep
              cases hstep
              exact .refused connect _ _
          | panic =>
              rw [hresolve] at hstep
              cases hstep
      | _ => cases hstep
  | insert =>
      cases phase with
      | inserting requested resolved stream =>
          cases hstep
          exact .inserted requested resolved stream
      | _ => cases hstep
  | route =>
      cases phase with
      | routing muxId resolved =>
          cases hstep
          exact .routed muxId resolved
      | _ => cases hstep
  | answer answer =>
      cases phase with
      | relaying loop =>
          simp only [ProxyTask.step, Option.map_eq_some_iff,
            Prod.mk.injEq] at hstep
          obtain ⟨next, hnext, rfl, rfl⟩ := hstep
          exact .answered loop next answer hnext
      | _ => cases hstep
  | unroute =>
      cases phase with
      | unrouting muxId reply =>
          cases hstep
          exact .unrouted muxId reply
      | _ => cases hstep
  | close taken =>
      cases phase with
      | closing reply ending =>
          cases hstep
          refine .closed reply ending _ ?_
          cases taken with
          | false => exact .inl rfl
          | true => exact .inr rfl
      | _ => cases hstep
  | remove =>
      cases phase with
      | removing =>
          cases hstep
          exact .removed
      | _ => cases hstep

/-- Under whose clients a connection may have its stream listed. -/
def Allows (id : String) (key : String) : ProxyPhase → Prop
  | .resolving _ => False
  | .inserting _ _ _ => False
  | .routing _ _ => key = id
  | .relaying (.wispnet muxId _) => key = id ∨ key = muxId
  | .relaying _ => key = id
  | .unrouting muxId _ => key = id ∨ key = muxId
  | .closing _ .refused => False
  | .closing _ _ => key = id
  | .removing => key = id
  | .finished => False

theorem allows_relayed {id key : String} {loop next : Loop}
    {answer : LoopAnswer} (hstep : loop.step answer = some next)
    (h : Allows id key (.relaying loop)) : Allows id key (relayed next) := by
  have hkept : Allows id key (.relaying next) := by
    cases loop with
    | tcp relay =>
        cases answer with
        | tcp answer =>
            obtain ⟨relay', -, rfl⟩ := Option.map_eq_some_iff.mp hstep
            exact h
        | udp answer => cases hstep
        | wispnet answer => cases hstep
    | udp relay =>
        cases answer with
        | udp answer =>
            obtain ⟨relay', -, rfl⟩ := Option.map_eq_some_iff.mp hstep
            exact h
        | tcp answer => cases hstep
        | wispnet answer => cases hstep
    | wispnet muxId relay =>
        cases answer with
        | wispnet answer =>
            obtain ⟨relay', -, rfl⟩ := Option.map_eq_some_iff.mp hstep
            exact h
        | tcp answer => cases hstep
        | udp answer => cases hstep
  cases hwait : next.wait with
  | ended result =>
      cases next with
      | tcp relay =>
          simp only [relayed, hwait]
          exact hkept
      | udp relay =>
          simp only [relayed, hwait]
          exact hkept
      | wispnet muxId relay =>
          simp only [relayed, hwait]
          exact hkept
  | select | handing | closing | sending =>
      simp only [relayed, hwait]
      exact hkept

theorem keeps_taskSteps {id : String} {phase : ProxyPhase}
    {exchange : Exchange} {more : List LoopAnswer}
    (hallows : ∀ key, clients.Lists key uuid → Allows id key phase)
    (hreturned : ∀ reply, phase = .closing reply .returned →
      ¬ clients.Lists id uuid)
    (hsteps : TaskSteps clients uuid id exchange phase more clients' task') :
    Clients.Keeps clients clients' uuid fun key =>
      Allows task'.id key task'.phase := by
  cases hsteps with
  | resolved connect requested resolved stream =>
      exact .of_eq fun key hlists => (hallows key hlists).elim
  | refused connect code reason =>
      exact .of_eq fun key hlists => (hallows key hlists).elim
  | inserted requested resolved stream =>
      refine .record ?_ fun key hlists => (hallows key hlists).elim
      cases stream <;> exact rfl
  | routed muxId resolved =>
      exact .record (.inr rfl) fun key hlists => .inl (hallows key hlists)
  | answered loop next answer hstep =>
      exact .of_eq fun key hlists =>
        allows_relayed hstep (hallows key hlists)
  | unrouted muxId reply =>
      exact .forget fun key hkey hlists =>
        (hallows key hlists).resolve_right hkey
  | closed reply ending closes hcloses =>
      refine .of_eq fun key hlists => ?_
      have hkey := hallows key hlists
      cases ending with
      | refused => exact hkey
      | removed => exact hkey
      | returned =>
          obtain rfl : key = id := hkey
          exact (hreturned reply rfl hlists).elim
  | removed =>
      exact .forget fun key hkey hlists => (hkey (hallows key hlists)).elim

end Task

section Runs

variable {config : Config} {world next : ProxyWorld} {action : Action}

/-- Only the close leaves the place before it. -/
theorem eq_close_of_step {clients : Clients} {uuid : Uuid}
    {task : ProxyTask} {result : Clients × ProxyTask}
    {reply : WebSocketReply} {ending : Ending} {action : ProxyTask.Action}
    (hphase : task.phase = .closing reply ending)
    (hstep : ProxyTask.step config uuid action clients task = some result) :
    ∃ taken, action = .close taken := by
  cases action with
  | close taken => exact ⟨taken, rfl⟩
  | resolve | insert | route | answer | unroute | remove =>
      simp [ProxyTask.step, hphase] at hstep

/-- Every stream that is listed has a connection that will forget it. -/
def Tracked (world : ProxyWorld) : Prop :=
  world.Ties fun clients uuid task => ∀ key, clients.Lists key uuid →
    ∃ found, task = some found ∧ Allows found.id key found.phase

theorem tracked_init : Tracked init := by
  intro uuid key hlists
  exact absurd hlists Clients.not_lists_empty

theorem Tracked.undone (h : Tracked world) : Undone world := by
  intro uuid task htask hfinished key hlists
  obtain ⟨found, hfound, hallows⟩ := h uuid key hlists
  obtain rfl := Option.some.inj (htask.symm.trans hfound)
  rw [hfinished] at hallows
  exact hallows

/-- A connection that returns early, for a wispnet server that is gone, does
so when its client's entry is no longer there. -/
def LeavesNothing (world : ProxyWorld) : Action → Prop
  | .task uuid (.close _) => ∀ task reply, world.tasks uuid = some task →
      task.phase = .closing reply .returned →
      ¬ world.shared.Lists task.id uuid
  | _ => True

theorem Tracked.step (h : Tracked world) (hleaves : LeavesNothing world action)
    (hstep : (machine config).step world action = some next) :
    Tracked next := by
  cases action with
  | connected id clientType =>
      exact World.Ties.change h (fun uuid task hties key hlists =>
        hties key (Clients.lists_insert_empty hlists)) hstep
  | disconnected id =>
      exact World.Ties.change h (fun uuid task hties key hlists =>
        hties key (Clients.lists_erase hlists)) hstep
  | start uuid id path udp =>
      refine World.Ties.spawn h (fun hties key hlists => ?_) hstep
      obtain ⟨found, hfound, -⟩ := hties key hlists
      cases hfound
  | task uuid action =>
      refine World.Ties.own h ?_ hstep
      intro task clients task' htask hresult hties
      have hkeeps := keeps_taskSteps (fun key hlists => ?_)
        (fun reply hphase => ?_) (taskSteps_of_step hresult)
      · refine ⟨fun key hlists => ⟨task', rfl, hkeeps.own key hlists⟩, ?_⟩
        intro other hother hties key hlists
        exact hties key (hkeeps.others key other hother hlists)
      · obtain ⟨found, hfound, hallowed⟩ := hties key hlists
        obtain rfl := Option.some.inj hfound
        exact hallowed
      · obtain ⟨taken, rfl⟩ := eq_close_of_step hphase hresult
        exact hleaves task reply htask hphase

/-- The step that breaks the guard leaves a finished connection listed. -/
theorem not_undone_of_not_leavesNothing
    (hleaves : ¬ LeavesNothing world action)
    (hstep : (machine config).step world action = some next) :
    ¬ Undone next := by
  cases action with
  | connected | disconnected | start => exact absurd trivial hleaves
  | task uuid action =>
      cases action with
      | resolve | insert | route | answer | unroute | remove =>
          exact absurd trivial hleaves
      | close taken =>
          simp only [LeavesNothing, not_forall, not_not] at hleaves
          obtain ⟨task, reply, htask, hphase, hlists⟩ := hleaves
          obtain ⟨found, clients, task', hfound, hresult, rfl⟩ :=
            World.move_own hstep
          obtain rfl := Option.some.inj (htask.symm.trans hfound)
          simp only [ProxyTask.step, hphase, reduceCtorEq, if_false,
            Option.some.injEq, Prod.mk.injEq] at hresult
          obtain ⟨rfl, rfl⟩ := hresult
          intro hundone
          exact hundone uuid _ (World.tasks_put_self _ _ _ _) rfl _ hlists

/-- The exact condition under which the proxy forgets every stream. -/
theorem undone_iff {actions : List Action}
    (hrun : (machine config).run init actions = some world) :
    (machine config).Meets (fun world action => ∀ next,
        (machine config).step world action = some next → Undone next)
      init actions ↔
      (machine config).Meets LeavesNothing init actions :=
  (machine config).meets_iff_of_invariant
    (fun s action next hs hstep => ⟨fun hundone => by
      by_contra hleaves
      exact not_undone_of_not_leavesNothing hleaves hstep
        (hundone next hstep),
      fun hleaves other hother =>
        (Tracked.step hs hleaves hother).undone⟩)
    (fun _ _ _ hs hleaves hstep => Tracked.step hs hleaves hstep)
    tracked_init hrun

/-- What the client of a connection sent for its stream. -/
def sent (uuid : Uuid) (actions : List Action) : List Bytes :=
  (actions.flatMap (Action.answersOf uuid)).filterMap LoopAnswer.fromClient

/-- What the stream of a connection had for its client. -/
def received (uuid : Uuid) (actions : List Action) : List Bytes :=
  (actions.flatMap (Action.answersOf uuid)).filterMap LoopAnswer.fromStream

section Conversation

variable {answers : List LoopAnswer} {exchange : Exchange}
  {phase : ProxyPhase}

end Conversation

end Runs

section Example

open RequestWorld (fullConfig agreeable)

/-- A stream to a wispnet server that is not there. -/
def gone : List Action :=
  [.connected "client" "WsProxy",
    .start 0 "client" "/MQ==.wisp:80" false,
    .task 0 (.resolve { agreeable [] with servers := ∅ }), .task 0 .insert,
    .task 0 (.close true)]

/-- It stays listed behind its connection. -/
theorem not_undone_of_gone :
    ∃ world, (machine fullConfig).run init gone = some world ∧
      ¬ (machine fullConfig).Meets (fun world action => ∀ next,
          (machine fullConfig).step world action = some next → Undone next)
        init gone := by
  refine ⟨_, rfl, fun h => ?_⟩
  have hleaves := (undone_iff rfl).mp h
  have hclose := (((((hleaves.2 _ rfl).2 _ rfl).2 _ rfl).2 _ rfl)).1
  exact hclose _ _ rfl rfl ⟨_, rfl, by decide⟩

end Example

end ProxyWorld

end Epoxy.Server
