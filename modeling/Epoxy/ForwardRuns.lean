/-
What is passed on between the Wisp clients and their upstreams, over every run
of the server and for every stream, and what the close reasons tell of it.
-/
import Epoxy.ForwardStream

namespace Epoxy.Server

open ActionMachine ByteCursor RelayLoop CopyRace TaskWorld

namespace ForwardAnswer

/-- What was read from the client. -/
def client : ForwardAnswer → Option Bytes
  | .copyFast given => given.client
  | .datagrams given => given.client
  | .twisp given => given.client
  | .wispnet given => given.client

/-- What was read from the upstream. -/
def upstream : ForwardAnswer → Option Bytes
  | .copyFast given => given.upstream
  | .datagrams given => given.upstream
  | .twisp given => given.upstream
  | .wispnet given => given.upstream

end ForwardAnswer

namespace Forward

/-- One end is over, and the other one has all of it; a terminal may also have
ended with its command. -/
def Completes (answers : List ForwardAnswer) (client upstream : List Bytes) :
    Forward → Prop
  | .copyFast race =>
      race.first.pump.given = client.flatten ∨
        race.second.pump.given = upstream.flatten
  | .datagrams relay =>
      relay.toRight.given = client ∧ relay.messages.map List.flatten =
        upstream.filter fun datagram => !datagram.isEmpty
  | .twisp race =>
      race.first.pump.given = client.flatten ∨
        race.second.pump.given = upstream.flatten ∨
        .twisp (.wait (.ok ())) ∈ answers
  | .wispnet race =>
      race.first.pump.given = client ∨ race.second.pump.given = upstream

/-- The loop is one that these answers led to. -/
def LedBy (answers : List ForwardAnswer) (loop : Forward) : Prop :=
  ∃ start : Forward, start.IsStart ∧
    machine.run start answers = some loop

section Run

variable {answers : List ForwardAnswer} {loop : Forward}

theorem run_copyFast {race : Race UInt8 String}
    (hrun : machine.run (.copyFast race) answers = some loop) :
    ∃ (given : List CopyFastAnswer) (next : Race UInt8 String),
      answers = given.map .copyFast ∧ loop = .copyFast next ∧
      (Race.machine copyBuf tcpToMux).run race
        (given.map CopyFastAnswer.event) = some next := by
  refine machine.run_of_embed (fun race answer loop hstep => ?_) hrun
  cases answer with
  | copyFast answer =>
      obtain ⟨next, hnext, rfl⟩ := Option.map_eq_some_iff.mp hstep
      exact ⟨answer, next, rfl, rfl, hnext⟩
  | datagrams | twisp | wispnet => cases hstep

theorem run_datagrams {relay : Relay Bytes String}
    (hrun : machine.run (.datagrams relay) answers = some loop) :
    ∃ (given : List DatagramAnswer) (next : Relay Bytes String),
      answers = given.map .datagrams ∧ loop = .datagrams next ∧
      (Relay.machine datagramKind).run relay
        (given.map DatagramAnswer.event) = some next := by
  refine machine.run_of_embed (fun relay answer loop hstep => ?_) hrun
  cases answer with
  | datagrams answer =>
      obtain ⟨next, hnext, rfl⟩ := Option.map_eq_some_iff.mp hstep
      exact ⟨answer, next, rfl, rfl, hnext⟩
  | copyFast | twisp | wispnet => cases hstep

theorem run_twisp {race : Race UInt8 String}
    (hrun : machine.run (.twisp race) answers = some loop) :
    ∃ (given : List TwispAnswer) (next : Race UInt8 String),
      answers = given.map .twisp ∧ loop = .twisp next ∧
      (Race.machine copy copy).run race (given.map TwispAnswer.event) =
        some next := by
  refine machine.run_of_embed (fun race answer loop hstep => ?_) hrun
  cases answer with
  | twisp answer =>
      obtain ⟨next, hnext, rfl⟩ := Option.map_eq_some_iff.mp hstep
      exact ⟨answer, next, rfl, rfl, hnext⟩
  | copyFast | datagrams | wispnet => cases hstep

theorem run_wispnet {race : Race Bytes WispError}
    (hrun : machine.run (.wispnet race) answers = some loop) :
    ∃ (given : List WispnetCopyAnswer) (next : Race Bytes WispError),
      answers = given.map .wispnet ∧ loop = .wispnet next ∧
      (Race.machine copyWisp copyWisp).run race
        (given.map WispnetCopyAnswer.event) = some next := by
  refine machine.run_of_embed (fun race answer loop hstep => ?_) hrun
  cases answer with
  | wispnet answer =>
      obtain ⟨next, hnext, rfl⟩ := Option.map_eq_some_iff.mp hstep
      exact ⟨answer, next, rfl, rfl, hnext⟩
  | copyFast | datagrams | twisp => cases hstep

theorem filterMap_map {A : Type} (given : List A) (make : A → ForwardAnswer)
    (data : ForwardAnswer → Option Bytes) :
    (given.map make).filterMap data =
      given.filterMap fun answer => data (make answer) :=
  List.filterMap_map

theorem eq_ok_of_outcome {E : Type} {outcome : Option (Except E Unit)}
    (h : outcome.map Except.isOk = some true) : outcome = some (.ok ()) := by
  obtain ⟨result, rfl, hok⟩ := Option.map_eq_some_iff.mp h
  cases result with
  | error error => cases hok
  | ok => rfl

theorem LedBy.completes (h : LedBy answers loop)
    (hok : loop.outcome = some true) :
    loop.Completes answers (answers.filterMap ForwardAnswer.client)
      (answers.filterMap ForwardAnswer.upstream) := by
  obtain ⟨start, hstart, hrun⟩ := h
  cases hstart with
  | copyFast =>
      obtain ⟨given, next, rfl, rfl, hnext⟩ := run_copyFast hrun
      rw [filterMap_map, filterMap_map]
      exact (copyFast_passed hnext).2.2 (eq_ok_of_outcome hok)
  | datagrams =>
      obtain ⟨given, next, rfl, rfl, hnext⟩ := run_datagrams hrun
      rw [filterMap_map, filterMap_map]
      refine (datagrams_delivered hnext).2.2 ?_
      unfold Forward.outcome at hok
      cases hwait : next.wait with
      | ended result =>
          simp only [hwait, Option.some.injEq] at hok
          cases result with
          | error error => cases hok
          | ok => rfl
      | select | handing | closing | sending =>
          simp only [hwait] at hok
          cases hok
  | twisp =>
      obtain ⟨given, next, rfl, rfl, hnext⟩ := run_twisp hrun
      rw [filterMap_map, filterMap_map]
      rcases (twisp_passed hnext).2.2 (eq_ok_of_outcome hok) with
        hfirst | hsecond | hwaited
      · exact .inl hfirst
      · exact .inr (.inl hsecond)
      · exact .inr (.inr (List.mem_map_of_mem hwaited))
  | wispnet =>
      obtain ⟨given, next, rfl, rfl, hnext⟩ := run_wispnet hrun
      rw [filterMap_map, filterMap_map]
      exact (wispnet_delivered hnext).2.2 (eq_ok_of_outcome hok)

theorem LedBy.answer {next : Forward} {given : ForwardAnswer}
    (h : LedBy answers loop) (hstep : loop.step given = some next) :
    LedBy (answers ++ [given]) next := by
  obtain ⟨start, hstart, hrun⟩ := h
  refine ⟨start, hstart, machine.run_append_of_eq_some hrun ?_⟩
  rw [Machine.run_cons]
  exact Option.bind_eq_some_iff.mpr ⟨next, hstep, rfl⟩

end Run

end Forward

namespace ForwardTask

/-- The loop of a stream, as far as it got. -/
def loop? : ForwardTask → Option Forward
  | .forwarding _ loop => some loop
  | .closing _ loop => some loop
  | .removing _ _ loop _ => some loop
  | .finished loop _ => loop
  | _ => none

/-- The reason that a close was asked for with. -/
def asked? : ForwardTask → Option CloseReason
  | .removing _ _ _ asked => some asked
  | .finished _ asked => some asked
  | _ => none

/-- A stream that is not forwarded is closed with one of these. -/
def refusals : List CloseReason :=
  [.serverStreamUnreachable, .serverStreamInvalidInfo,
    .serverStreamBlockedAddress]

/-- The close was asked for behind the loop. -/
def AskedBehind (loop : Forward) (asked : CloseReason) : Prop :=
  loop.outcome.isSome ∧ ∃ known, asked = closeReason known loop

/-- What holds of a task that has got these answers. -/
def Sound (answers : List ForwardAnswer) : ForwardTask → Prop
  | .inserting _ _ => answers = []
  | .refusing reason => answers = [] ∧ reason ∈ refusals
  | .forwarding _ loop => loop.LedBy answers
  | .closing _ loop => loop.LedBy answers ∧ loop.outcome.isSome
  | .removing _ _ loop asked => loop.LedBy answers ∧ AskedBehind loop asked
  | .finished none asked => answers = [] ∧ asked ∈ refusals
  | .finished (some loop) asked =>
      loop.LedBy answers ∧ AskedBehind loop asked

variable {answers : List ForwardAnswer} {uuid : Uuid}
  {clients clients' : Clients} {task task' : ForwardTask}

theorem sound_start (resolved : ConnectPacket) (stream : ClientStream) :
    (start resolved stream).Sound [] := by
  cases stream with
  | tcp => exact ⟨_, .copyFast, rfl⟩
  | udp => exact ⟨_, .datagrams, rfl⟩
  | pty => exact ⟨_, .twisp, rfl⟩
  | wispnet muxId => exact rfl
  | noResolvedAddrs | blocked | invalid =>
      exact ⟨rfl, by simp [refusals]⟩

theorem Sound.step (h : task.Sound answers) {action : Action}
    (hstep : task.step uuid action clients = some (clients', task')) :
    task'.Sound (answers ++ action.answers) := by
  cases task with
  | inserting muxId resolved =>
      obtain rfl : answers = [] := h
      cases action with
      | record =>
          cases hstep
          exact ⟨_, .wispnet, rfl⟩
      | answer | close | forget => cases hstep
  | forwarding entry loop =>
      cases action with
      | answer given =>
          simp only [ForwardTask.step, Option.map_eq_some_iff,
            Prod.mk.injEq] at hstep
          obtain ⟨next, hnext, rfl, rfl⟩ := hstep
          have hled := Forward.LedBy.answer h hnext
          cases hended : next.outcome.isSome with
          | false =>
              simp only [answered, hended]
              exact hled
          | true =>
              simp only [answered, hended, if_true]
              exact ⟨hled, hended⟩
      | record | close | forget => cases hstep
  | closing entry loop =>
      cases action with
      | close known =>
          rw [Action.answers, List.append_nil]
          obtain ⟨hled, hended⟩ := h
          cases entry with
          | none =>
              cases hstep
              exact ⟨hled, hended, known, rfl⟩
          | some entry =>
              cases hstep
              exact ⟨hled, hended, known, rfl⟩
      | record | answer | forget => cases hstep
  | refusing reason =>
      cases action with
      | close known =>
          rw [Action.answers, List.append_nil]
          cases hstep
          exact h
      | record | answer | forget => cases hstep
  | removing muxId resolved loop asked =>
      cases action with
      | forget =>
          rw [Action.answers, List.append_nil]
          cases hstep
          exact h
      | record | answer | close => cases hstep
  | finished loop asked => cases hstep

/-- What a sound task has asked for. -/
theorem Sound.asked (h : task.Sound answers) {asked : CloseReason}
    (hasked : task.asked? = some asked) :
    task.loop? = none ∧ asked ∈ refusals ∨
      ∃ loop, task.loop? = some loop ∧ AskedBehind loop asked := by
  cases task with
  | inserting | forwarding | closing | refusing => cases hasked
  | removing muxId resolved loop other =>
      obtain rfl := Option.some.inj hasked
      exact .inr ⟨loop, rfl, h.2⟩
  | finished loop other =>
      obtain rfl := Option.some.inj hasked
      cases loop with
      | none => exact .inl ⟨rfl, h.2⟩
      | some loop => exact .inr ⟨loop, rfl, h.2⟩

end ForwardTask

namespace HandleTask

/-- What holds of a task that has got these answers. -/
def Sound (task : HandleTask) (answers : List ForwardAnswer) : Prop :=
  match task.forward? with
  | some forward => forward.Sound answers
  | none => answers = []

theorem Sound.step {config : Config} {uuid : Uuid} {action : Action}
    {clients clients' : Clients} {task task' : HandleTask}
    {answers : List ForwardAnswer} (h : task.Sound answers)
    (hstep : task.step config uuid action clients = some (clients', task')) :
    task'.Sound (answers ++ action.answers) := by
  obtain ⟨connection, id, phase, notified⟩ := task
  cases action with
  | resolve around =>
      cases phase with
      | resolving connect =>
          obtain rfl : answers = [] := h
          simp only [HandleTask.step] at hstep
          cases hresolve : resolveStream config around connect with
          | ok result =>
              rw [hresolve] at hstep
              cases hstep
              exact rfl
          | err error =>
              rw [hresolve] at hstep
              cases hstep
              exact rfl
          | panic =>
              rw [hresolve] at hstep
              cases hstep
      | inserting | forwarding | removing | finished => cases hstep
  | insert =>
      cases phase with
      | inserting requested resolved stream =>
          obtain rfl : answers = [] := h
          cases hstep
          exact ForwardTask.sound_start resolved stream
      | resolving | forwarding | removing | finished => cases hstep
  | forward action =>
      cases phase with
      | forwarding forward =>
          simp only [HandleTask.step, Option.map_eq_some_iff,
            Prod.mk.injEq] at hstep
          obtain ⟨⟨shared, next⟩, hnext, rfl, rfl⟩ := hstep
          have hsound : next.Sound (answers ++ action.answers) :=
            ForwardTask.Sound.step h hnext
          unfold Sound forward?
          cases next.isFinished with
          | true => exact hsound
          | false => exact hsound
      | resolving | inserting | removing | finished => cases hstep
  | remove =>
      rw [Action.answers, List.append_nil]
      cases phase with
      | removing forward =>
          cases hstep
          exact h
      | resolving | inserting | forwarding | finished => cases hstep
  | cancel =>
      rw [Action.answers, List.append_nil]
      cases notified with
      | false => cases hstep
      | true =>
          cases phase with
          | resolving connect =>
              cases hstep
              exact h
          | forwarding forward =>
              cases hstep
              exact h
          | inserting | removing | finished => cases hstep

theorem Sound.notify {task : HandleTask} {answers : List ForwardAnswer}
    (h : task.Sound answers) (connection : Nat) :
    (task.notify connection).Sound answers := by
  obtain ⟨other, id, phase, notified⟩ := task
  cases phase with
  | resolving | inserting | forwarding | removing | finished => exact h

end HandleTask

namespace StreamWorld

variable {config : Config} {world : StreamWorld} {actions : List Action}

/-- What the loop of a stream is answered with in a step. -/
def Action.answersOf (uuid : Uuid) : Action → List ForwardAnswer
  | .task other action => if other = uuid then action.answers else []
  | _ => []

/-- What the loop of a stream was answered with in a run. -/
def answersOf (uuid : Uuid) (actions : List Action) : List ForwardAnswer :=
  actions.flatMap (Action.answersOf uuid)

section Example

open RequestWorld (fullConfig)

end Example

end StreamWorld

end Epoxy.Server
