/-
The streams of the Wisp clients with the data that is forwarded.  Seen from
afar they are the tasks of which only the record of the streams is kept; seen
from near each one passes data on until one end is over, and asks for a close.
-/
import Epoxy.StreamBookkeeping
import Epoxy.TaskWorld
import Epoxy.WispForwarding

namespace Epoxy.Server

open ActionMachine ByteCursor RelayLoop CopyRace TaskWorld

/-- Where `forward_stream` stands.  An entry is the wispnet server's client
and the packet that are recorded while a stream is routed there. -/
inductive ForwardTask where
  | inserting (muxId : String) (resolved : ConnectPacket)
  | forwarding (entry : Option (String × ConnectPacket)) (loop : Forward)
  | closing (entry : Option (String × ConnectPacket)) (loop : Forward)
  | refusing (reason : CloseReason)
  | removing (muxId : String) (resolved : ConnectPacket) (loop : Forward)
      (asked : CloseReason)
  | finished (loop : Option Forward) (asked : CloseReason)

namespace ForwardTask

/-- `forward_stream` before its first step. -/
def start (resolved : ConnectPacket) : ClientStream → ForwardTask
  | .tcp => .forwarding none (.copyFast .init)
  | .udp => .forwarding none (.datagrams .init)
  | .pty => .forwarding none (.twisp .init)
  | .wispnet muxId => .inserting muxId resolved
  | .noResolvedAddrs => .refusing .serverStreamUnreachable
  | .invalid => .refusing .serverStreamInvalidInfo
  | .blocked => .refusing .serverStreamBlockedAddress

inductive Action where
  /-- The wispnet server's client gets the entry, and loses it. -/
  | record
  | answer (answer : ForwardAnswer)
  /-- The stream may have been closed before, with this reason. -/
  | close (known : Option CloseReason)
  | forget

/-- What the stream is closed with behind a loop. -/
def closeReason (known : Option CloseReason) : Forward → CloseReason
  | .wispnet _ => known.getD .unknown
  | loop => if loop.outcome = some true then .voluntary else .unexpected

def answered (entry : Option (String × ConnectPacket)) (loop : Forward) :
    ForwardTask :=
  if loop.outcome.isSome then .closing entry loop else .forwarding entry loop

def step (uuid : Uuid) (action : Action) (clients : Clients) :
    ForwardTask → Option (Clients × ForwardTask)
  | .inserting muxId resolved =>
      match action with
      | .record =>
          some (clients.record muxId uuid (resolved, resolved),
            .forwarding (some (muxId, resolved)) (.wispnet .init))
      | _ => none
  | .forwarding entry loop =>
      match action with
      | .answer answer =>
          (loop.step answer).map fun next => (clients, answered entry next)
      | _ => none
  | .closing entry loop =>
      match action, entry with
      | .close known, some (muxId, resolved) =>
          some (clients,
            .removing muxId resolved loop (closeReason known loop))
      | .close known, none =>
          some (clients, .finished (some loop) (closeReason known loop))
      | _, _ => none
  | .refusing reason =>
      match action with
      | .close _ => some (clients, .finished none reason)
      | _ => none
  | .removing muxId _ loop asked =>
      match action with
      | .forget =>
          some (clients.forget muxId uuid, .finished (some loop) asked)
      | _ => none
  | .finished _ _ => none

/-- What the record of the streams sees of a task. -/
def stage : ForwardTask → Forwarding
  | .inserting muxId resolved => .wispnet muxId resolved .inserting
  | .forwarding (some (muxId, resolved)) _ => .wispnet muxId resolved .copying
  | .closing (some (muxId, resolved)) _ => .wispnet muxId resolved .copying
  | .removing muxId resolved _ _ => .wispnet muxId resolved .removing
  | _ => .plain

def isFinished : ForwardTask → Bool
  | .finished _ _ => true
  | _ => false

/-- What the loop is answered with in a step. -/
def Action.answers : Action → List ForwardAnswer
  | .answer given => [given]
  | .record | .close _ | .forget => []

end ForwardTask

/-- Where `handle_stream` stands, with what there was of `forward_stream`. -/
inductive HandlePhase where
  | resolving (connect : ConnectPacket)
  | inserting (requested resolved : ConnectPacket) (stream : ClientStream)
  | forwarding (forward : ForwardTask)
  | removing (forward : ForwardTask)
  | finished (forward : Option ForwardTask)

structure HandleTask where
  connection : Nat
  id : String
  phase : HandlePhase
  notified : Bool

namespace HandlePhase

/-- What the record of the streams sees of a phase. -/
def stage : HandlePhase → StreamPhase
  | .resolving connect => .resolving connect
  | .inserting requested resolved stream =>
      .inserting requested resolved stream
  | .forwarding forward => .forwarding forward.stage
  | .removing _ => .removing
  | .finished _ => .finished

end HandlePhase

namespace HandleTask

/-- Only tasks that wait in a `select!` listen. -/
def notify (connection : Nat) (task : HandleTask) : HandleTask :=
  match task.phase with
  | .resolving _ | .forwarding _ =>
      { task with
        notified := task.notified || decide (task.connection = connection) }
  | _ => task

inductive Action where
  | resolve (around : Surroundings)
  | insert
  | forward (action : ForwardTask.Action)
  | remove
  | cancel

/-- A step of one task; `none` where it is somewhere else. -/
def step (config : Config) (uuid : Uuid) (action : Action)
    (clients : Clients) (task : HandleTask) : Option (Clients × HandleTask) :=
  match action with
  | .resolve around =>
      match task.phase with
      | .resolving connect =>
          match resolveStream config around connect with
          | .ok (requested, resolved, stream) =>
              some (clients, { task with
                phase := .inserting requested resolved stream })
          | .err _ => some (clients, { task with phase := .finished none })
          -- a panic ends the process
          | .panic => none
      | _ => none
  | .insert =>
      match task.phase with
      | .inserting requested resolved stream =>
          -- the second `select!` listens anew
          some (clients.record task.id uuid (requested, resolved),
            { task with
              phase := .forwarding (.start resolved stream)
              notified := false })
      | _ => none
  | .forward action =>
      match task.phase with
      | .forwarding forward =>
          (forward.step uuid action clients).map fun (clients, next) =>
            (clients, { task with
              phase :=
                if next.isFinished then .removing next else .forwarding next })
      | _ => none
  | .remove =>
      match task.phase with
      | .removing forward =>
          some (clients.forget task.id uuid,
            { task with phase := .finished (some forward) })
      | _ => none
  | .cancel =>
      if task.notified then
        match task.phase with
        | .resolving _ => some (clients, { task with phase := .finished none })
        | .forwarding forward =>
            some (clients, { task with phase := .removing forward })
        | _ => none
      else none

/-- What there was of `forward_stream`. -/
def forward? (task : HandleTask) : Option ForwardTask :=
  match task.phase with
  | .forwarding forward => some forward
  | .removing forward => some forward
  | .finished forward => forward
  | _ => none

def stage (task : HandleTask) : StreamTask :=
  ⟨task.connection, task.id, task.phase.stage, task.notified⟩

/-- What the loop is answered with in a step. -/
def Action.answers : Action → List ForwardAnswer
  | .forward action => action.answers
  | .resolve _ | .insert | .remove | .cancel => []

end HandleTask

/-- The clients and the tasks of all connections, with their data. -/
abbrev StreamWorld := World Uuid Clients HandleTask

namespace StreamWorld

inductive Action where
  | connected (id clientType : String)
  | disconnected (id : String)
  | spawn (uuid : Uuid) (connection : Nat) (id : String)
      (connect : ConnectPacket)
  | shutdown (connection : Nat)
  | task (uuid : Uuid) (action : HandleTask.Action)

def init : StreamWorld := World.init ∅

/-- Uuids are drawn anew for every stream, and not twice. -/
def move (config : Config) : Action → Move Uuid Clients HandleTask
  | .connected id clientType =>
      .change fun clients => clients.insert id ⟨∅, clientType⟩
  | .disconnected id => .change fun clients => clients.erase id
  | .spawn uuid connection id connect =>
      .spawn uuid ⟨connection, id, .resolving connect, false⟩
  | .shutdown connection => .every (HandleTask.notify connection)
  | .task uuid action => .own uuid (HandleTask.step config uuid action)

def machine (config : Config) : Machine StreamWorld Action :=
  World.machine (move config)

/-- The record of the streams that a world keeps. -/
def record (world : StreamWorld) : ServerWorld :=
  ⟨world.shared, fun uuid => (world.tasks uuid).map HandleTask.stage⟩

end StreamWorld

section Record

variable {config : Config} {clients clients' : Clients} {uuid : Uuid}

/-- A step of `forward_stream` is one that the record sees, or none. -/
theorem ForwardTask.stage_step {action : ForwardTask.Action}
    {task task' : ForwardTask}
    (hstep : task.step uuid action clients = some (clients', task')) :
    clients' = clients ∧ task'.isFinished = false ∧
        task'.stage = task.stage ∨
      StreamTask.forwardStep clients uuid task.stage =
        (clients', if task'.isFinished then none else some task'.stage) := by
  cases task with
  | inserting muxId resolved =>
      cases action with
      | record =>
          cases hstep
          exact .inr rfl
      | answer | close | forget => cases hstep
  | forwarding entry loop =>
      cases action with
      | answer answer =>
          simp only [ForwardTask.step, Option.map_eq_some_iff,
            Prod.mk.injEq] at hstep
          obtain ⟨next, -, rfl, rfl⟩ := hstep
          refine .inl ⟨rfl, ?_⟩
          unfold answered
          cases next.outcome with
          | none => cases entry <;> exact ⟨rfl, rfl⟩
          | some ok => cases entry <;> exact ⟨rfl, rfl⟩
      | record | close | forget => cases hstep
  | closing entry loop =>
      cases action with
      | close known =>
          cases entry with
          | none =>
              cases hstep
              exact .inr rfl
          | some entry =>
              cases hstep
              exact .inr rfl
      | record | answer | forget => cases hstep
  | refusing reason =>
      cases action with
      | close known =>
          cases hstep
          exact .inr rfl
      | record | answer | forget => cases hstep
  | removing muxId resolved loop asked =>
      cases action with
      | forget =>
          cases hstep
          exact .inr rfl
      | record | answer | close => cases hstep
  | finished loop asked => cases hstep

/-- The record sees a new `forward_stream` as it would start one. -/
theorem ForwardTask.stage_start (resolved : ConnectPacket)
    (stream : ClientStream) :
    (ForwardTask.start resolved stream).stage =
      StreamTask.forwardStream resolved stream := by
  cases stream <;> rfl

theorem HandleTask.stage_notify (connection : Nat) (task : HandleTask) :
    (task.notify connection).stage = task.stage.notify connection := by
  obtain ⟨other, id, phase, notified⟩ := task
  cases phase <;> rfl

/-- A step of a task is one that the record sees, or none. -/
theorem HandleTask.stage_step {action : HandleTask.Action}
    {task task' : HandleTask}
    (hstep : task.step config uuid action clients = some (clients', task')) :
    clients' = clients ∧ task'.stage = task.stage ∨
      ∃ seen : StreamTask.Action,
        StreamTask.step config uuid seen clients task.stage =
          some (clients', task'.stage) := by
  obtain ⟨connection, id, phase, notified⟩ := task
  cases action with
  | resolve around =>
      cases phase with
      | resolving connect =>
          refine .inr ⟨.resolve around, ?_⟩
          simp only [HandleTask.step] at hstep
          cases hresolve : resolveStream config around connect with
          | ok result =>
              rw [hresolve] at hstep
              cases hstep
              simp [StreamTask.step, HandleTask.stage, HandlePhase.stage,
                hresolve]
          | err error =>
              rw [hresolve] at hstep
              cases hstep
              simp [StreamTask.step, HandleTask.stage, HandlePhase.stage,
                hresolve]
          | panic =>
              rw [hresolve] at hstep
              cases hstep
      | inserting | forwarding | removing | finished => cases hstep
  | insert =>
      cases phase with
      | inserting requested resolved stream =>
          cases hstep
          refine .inr ⟨.insert, ?_⟩
          simp only [HandleTask.stage, HandlePhase.stage,
            ForwardTask.stage_start]
          rfl
      | resolving | forwarding | removing | finished => cases hstep
  | forward action =>
      cases phase with
      | forwarding forward =>
          simp only [HandleTask.step, Option.map_eq_some_iff,
            Prod.mk.injEq] at hstep
          obtain ⟨⟨shared, next⟩, hnext, rfl, rfl⟩ := hstep
          rcases ForwardTask.stage_step hnext with
            ⟨rfl, hgoing, hstage⟩ | hforward
          · refine .inl ⟨rfl, ?_⟩
            simp [HandleTask.stage, HandlePhase.stage, hgoing, hstage]
          · refine .inr ⟨.forward, ?_⟩
            simp only [StreamTask.step, HandleTask.stage,
              HandlePhase.stage, hforward]
            cases next.isFinished with
            | true => rfl
            | false => rfl
      | resolving | inserting | removing | finished => cases hstep
  | remove =>
      cases phase with
      | removing forward =>
          cases hstep
          exact .inr ⟨.remove, rfl⟩
      | resolving | inserting | forwarding | finished => cases hstep
  | cancel =>
      cases notified with
      | false => cases hstep
      | true =>
          cases phase with
          | resolving connect =>
              cases hstep
              exact .inr ⟨.cancel, rfl⟩
          | forwarding forward =>
              cases hstep
              exact .inr ⟨.cancel, rfl⟩
          | inserting | removing | finished => cases hstep

namespace StreamWorld

variable {world next : StreamWorld}

theorem record_put (world : StreamWorld) (clients : Clients) (uuid : Uuid)
    (task : HandleTask) :
    record (world.put clients uuid task) =
      (record world).put clients uuid task.stage := by
  simp only [record, World.put]
  congr 1
  funext other
  by_cases hother : other = uuid
  · subst hother
    simp
  · simp [Function.update_of_ne hother]

/-- The record takes every step of the world, or stands still. -/
theorem record_step {action : Action}
    (hstep : (machine config).step world action = some next) :
    record next = record world ∨
      ∃ seen, (ServerWorld.machine config).step (record world) seen =
        some (record next) := by
  cases action with
  | connected id clientType =>
      cases hstep
      exact .inr ⟨.connected id clientType, rfl⟩
  | disconnected id =>
      cases hstep
      exact .inr ⟨.disconnected id, rfl⟩
  | spawn uuid connection id connect =>
      obtain ⟨hnone, rfl⟩ := World.move_spawn hstep
      refine .inr ⟨.spawn uuid connection id connect, ?_⟩
      rw [record_put]
      have hfree : (record world).tasks uuid = none := by
        simp [record, hnone]
      simp only [ServerWorld.machine, World.machine, ServerWorld.move,
        World.move, hfree, Option.isNone_none, if_true]
      rfl
  | shutdown connection =>
      cases hstep
      refine .inr ⟨.shutdown connection, ?_⟩
      simp only [ServerWorld.machine, World.machine, ServerWorld.move,
        World.move, record, Option.map_map, Option.some.injEq]
      congr 1
      funext uuid
      congr 1
      funext task
      exact (HandleTask.stage_notify connection task).symm
  | task uuid action =>
      obtain ⟨task, clients, task', htask, hresult, rfl⟩ :=
        World.move_own hstep
      rw [record_put]
      have hseen : (record world).tasks uuid = some task.stage := by
        simp [record, htask]
      rcases HandleTask.stage_step hresult with
        ⟨rfl, hstage⟩ | ⟨seen, hrecord⟩
      · refine .inl ?_
        rw [hstage, World.put, Function.update_eq_self_iff.mpr hseen.symm]
        rfl
      · refine .inr ⟨.task uuid seen, ?_⟩
        simp only [ServerWorld.machine, World.machine, ServerWorld.move,
          World.move, hseen, Option.bind_some]
        change (StreamTask.step config uuid seen world.shared
          task.stage).map _ = _
        rw [hrecord]
        rfl

/-- Whatever the streams do with their data, their record is reachable in the
world of records. -/
theorem record_of_reachable (hreach : (machine config).Reachable init world) :
    (ServerWorld.machine config).Reachable ServerWorld.init (record world) := by
  have hmatch : ∀ (world : StreamWorld) (seen : ServerWorld) action next,
      seen = record world → (machine config).step world action = some next →
      ∃ actions seen', (ServerWorld.machine config).run seen actions =
        some seen' ∧ seen' = record next := by
    rintro world seen action next rfl hstep
    rcases record_step hstep with hsame | ⟨other, hother⟩
    · exact ⟨[], _, rfl, hsame.symm⟩
    · exact ⟨[other], _, by simp [hother], rfl⟩
  obtain ⟨seen, hseen, rfl⟩ := hreach.simulate
    (fun world seen => seen = record world) hmatch
    (rfl : ServerWorld.init = record init)
  exact hseen

end StreamWorld

end Record

namespace StreamWorld

section Example

open RequestWorld (fullConfig agreeable)

/-- Two bytes for a TCP stream are written one by one; it has three bytes of
which two reach the client before the client's end of the stream is over. -/
def cutShort : List Action :=
  [.connected "client" "Wisp",
    .spawn 0 0 "client" ⟨.tcp, "example.com", 80⟩,
    .task 0 (.resolve (agreeable [])), .task 0 .insert] ++
  [.muxrx (.read (.ok [1, 2])), .tcprx (.read (.ok [7, 8, 9])),
    .muxrx (.write (.ok 1)), .tcprx (.write (.ok 2)),
    .muxrx (.write (.ok 1)), .muxrx (.read (.ok [])),
    .muxrx (.flush (.ok ()))].map
      (fun answer => .task 0 (.forward (.answer (.copyFast answer)))) ++
  [.task 0 (.forward (.close none)), .task 0 .remove]

theorem record_of_cutShort :
    ∃ world, (machine fullConfig).run init cutShort = some world ∧
      (ServerWorld.machine fullConfig).Reachable ServerWorld.init
        (record world) := by
  obtain ⟨world, hrun⟩ : ∃ world,
      (machine fullConfig).run init cutShort = some world := ⟨_, rfl⟩
  exact ⟨world, hrun, record_of_reachable ⟨cutShort, hrun⟩⟩

end Example

end StreamWorld

end Epoxy.Server
