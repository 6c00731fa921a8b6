/-
A task that closes a stream through its writing half.  The sending end of the
actor's channel keeps the close request it is given until it is polled again,
and a poll that waits must have left the task's waker with somebody who will
call it; the task is polled only when it is new or has been woken.
-/
import Epoxy.ActionMachine
import Epoxy.StreamClose
import Epoxy.StreamPolls

namespace Epoxy

open ActionMachine ByteCursor PollChannel

/-- Whom an inner poll that has to wait leaves the waker with. -/
inductive WakeSource where
  | sink
  | actorChannel
  | oneshot
deriving Repr, DecidableEq

/-- The two types with a `poll_close`. -/
inductive Closer where
  | write (half : MuxStreamWrite)
  | asyncWrite (half : MuxStreamAsyncWrite)
deriving Repr, DecidableEq

structure CloserPoll where
  closer : Closer
  info : StreamInfo
  request : CloseRequest

/-- The lock is there and the sink takes what is saved and flushes it. -/
def SinkAnswers.Flushes (sink : SinkAnswers) (locked : Bool)
    (chunk : Option Bytes) : Prop :=
  sink.pollLock locked = .ready () ∧
    (chunk.isSome = true → sink.ready = .ready (.ok ()) ∧ sink.send = .ok ()) ∧
    sink.flush = .ready (.ok ())

instance (sink : SinkAnswers) (locked : Bool) (chunk : Option Bytes) :
    Decidable (sink.Flushes locked chunk) :=
  inferInstanceAs (Decidable (_ ∧ _))

namespace Closer

def locked : Closer → Bool
  | .write half => half.locked
  | .asyncWrite half => half.locked

/-- The chunk that is still to be written. -/
def chunk : Closer → Option Bytes
  | .write half => half.chunk
  | .asyncWrite _ => none

def pollClose (closer : Closer) (oneshot : Bool) (info : StreamInfo)
    (sink : SinkAnswers) (actor : ActorAnswers) (channel : Nat) : CloserPoll :=
  match closer with
  | .write half =>
      let result := half.pollClose oneshot info sink actor channel
      ⟨.write result.poll.write, result.poll.info, result.poll.answer,
        result.oneshot, result.event⟩
  | .asyncWrite half =>
      let result := half.pollClose oneshot info sink actor channel
      ⟨.asyncWrite result.poll.write, result.poll.info, result.poll.answer,
        result.oneshot, result.event⟩

/-- The answer of the flush that `pollClose` begins with. -/
def flushAnswer (closer : Closer) (info : StreamInfo) (sink : SinkAnswers) :
    Poll (Except WispError Unit) :=
  match closer with
  | .write half => (half.pollFlush info sink).answer
  | .asyncWrite half => (half.pollFlush info sink).answer

/-- The inner poll of a `pollClose` that was told to wait, if one was: that
of the reply, or else that of the flush or the one of the actor's channel. -/
def waitsFor (closer : Closer) (oneshot : Bool) (info : StreamInfo)
    (sink : SinkAnswers) (actor : ActorAnswers) : Option WakeSource :=
  if oneshot then
    if actor.reply.isPending then some .oneshot else none
  else
    match closer.flushAnswer info sink with
    | .pending => some .sink
    | .ready (.error _) => none
    | .ready (.ok ()) =>
        if actor.ready.isPending then some .actorChannel else none

theorem flushAnswer_eq_ok (closer : Closer) (info : StreamInfo)
    (sink : SinkAnswers) :
    closer.flushAnswer info sink = .ready (.ok ()) ↔
      sink.Flushes closer.locked closer.chunk := by
  cases closer with
  | write half =>
      have hpolled := half.polledFlush info sink
      change (half.pollFlush info sink).answer = _ ↔
        sink.Flushes half.locked half.chunk
      unfold SinkAnswers.Flushes
      generalize half.pollFlush info sink = result at hpolled ⊢
      cases hpolled with
      | lockTaken hlock => simp [hlock]
      | kept _ hchunk hlock hwritten hanswer =>
          cases hwritten with
          | notReady hready => simp [hchunk, hready]
          | failed _ hready => simp [hchunk, hready]
          | refused _ _ hready _ hsend => simp [hchunk, hsend]
          | nothing | written => exact absurd rfl hanswer
      | nothing hchunk hlock => simp [hchunk, hlock]
      | written _ hchunk hlock hready hsend =>
          simp [hchunk, hlock, hready, hsend]
  | asyncWrite half =>
      change (half.pollFlush info sink).answer = _ ↔
        sink.Flushes half.locked none
      unfold MuxStreamAsyncWrite.pollFlush SinkAnswers.Flushes
      cases sink.pollLock half.locked with
      | pending => simp
      | ready =>
          cases sink.flush with
          | pending => simp
          | ready answer =>
              cases answer with
              | error => simp
              | ok => simp

/-- The poll is the one that gives the close request to the channel. -/
def Requests (closer : Closer) (sink : SinkAnswers) (actor : ActorAnswers) :
    Prop :=
  sink.Flushes closer.locked closer.chunk ∧
    actor.ready = .ready (.ok ()) ∧ actor.send = .ok ()

theorem request_pollClose (closer : Closer) (info : StreamInfo)
    (sink : SinkAnswers) (actor : ActorAnswers) (channel : Nat) :
    (closer.pollClose false info sink actor channel).request =
      match closer.flushAnswer info sink with
      | .ready (.ok ()) => actor.requestClose info.id channel
      | answer => ⟨answer, false, none⟩ := by
  cases closer with
  | write half =>
      simp only [pollClose, MuxStreamWrite.pollClose, flushAnswer]
      cases hflush : (half.pollFlush info sink).answer with
      | pending => simp [hflush]
      | ready answer =>
          cases answer with
          | error => simp [hflush]
          | ok => rfl
  | asyncWrite half =>
      simp only [pollClose, MuxStreamAsyncWrite.pollClose, flushAnswer]
      cases hflush : (half.pollFlush info sink).answer with
      | pending => simp [hflush]
      | ready answer =>
          cases answer with
          | error => simp [hflush]
          | ok => rfl

instance (closer : Closer) (sink : SinkAnswers) (actor : ActorAnswers) :
    Decidable (closer.Requests sink actor) :=
  inferInstanceAs (Decidable (_ ∧ _))

/-- A poll that makes no request has ended, or somebody has the waker; it
awaits no reply. -/
theorem pollClose_of_not_requests {closer : Closer} {sink : SinkAnswers}
    {actor : ActorAnswers} (info : StreamInfo) (channel : Nat)
    (h : ¬ closer.Requests sink actor) :
    (closer.pollClose false info sink actor channel).request.event = none ∧
      ((closer.pollClose false info sink actor channel).request.answer =
          .pending →
        (closer.pollClose false info sink actor channel).request.oneshot =
          false ∧
        ∃ source, closer.waitsFor false info sink actor = some source) := by
  rw [Requests, ← closer.flushAnswer_eq_ok info] at h
  rw [request_pollClose, waitsFor]
  cases hflush : closer.flushAnswer info sink with
  | pending => simp
  | ready answer =>
      cases answer with
      | error => simp
      | ok =>
          unfold ActorAnswers.requestClose
          cases hready : actor.ready with
          | pending => simp [Poll.isPending]
          | ready answer =>
              cases answer with
              | error => simp
              | ok =>
                  cases hsend : actor.send with
                  | error => simp
                  | ok => exact absurd ⟨hflush, hready, hsend⟩ h

/-- The request is made, and nobody has the waker. -/
theorem pollClose_of_requests {closer : Closer} {sink : SinkAnswers}
    {actor : ActorAnswers} (info : StreamInfo) (channel : Nat)
    (h : closer.Requests sink actor) :
    (closer.pollClose false info sink actor channel).request =
        ⟨.pending, true, some (.close info.id ⟨.unknown⟩ channel)⟩ ∧
      closer.waitsFor false info sink actor = none := by
  obtain ⟨hflush, hready, hsend⟩ := h
  rw [← closer.flushAnswer_eq_ok info] at hflush
  rw [request_pollClose, waitsFor, hflush]
  simp [ActorAnswers.requestClose, hready, hsend, Poll.isPending]

end Closer

/-- The task, and the channel to the actor as far as it comes from here:
`stored` is what the sending end keeps, `entered` everything it has let in.
`waiting` is whom the last poll left the waker with, `wakers` all of them. -/
structure CloseTask where
  closer : Closer
  info : StreamInfo
  oneshot : Bool
  stored : Option WsEvent
  entered : List WsEvent
  reply : Poll (Except Unit (Except WispError Unit))
  waiting : Option WakeSource
  wakers : List WakeSource
  scheduled : Bool
  finished : Bool

/-- `share` is what others do to the stream's record, and `reply` the live
actor's answer to a close event it has received. -/
inductive CloseTaskAction where
  | poll (sink : SinkAnswers) (ready : Poll (Except Unit Unit))
  | wake (source : WakeSource)
  | share (info : StreamInfo)
  | reply (result : Except WispError Unit)

def WsEvent.closes (id : UInt32) : WsEvent → Bool
  | .close streamId _ _ => streamId = id
  | _ => false

namespace CloseTask

def init (closer : Closer) (info : StreamInfo) : CloseTask :=
  ⟨closer, info, false, none, [], .pending, none, [], true, false⟩

/-- How many closes of the stream have come into the channel. -/
def closes (task : CloseTask) : Nat :=
  task.entered.countP (·.closes task.info.id)

/-- The answers of the actor's side; `start_send` on the sending end never
fails. -/
def actor (task : CloseTask) (ready : Poll (Except Unit Unit)) :
    ActorAnswers :=
  ⟨ready, .ok (), task.reply⟩

/-- One poll.  Where the sending end is polled and ready, what it has stored
comes into the channel, and the event it is then given is stored. -/
def poll (task : CloseTask) (sink : SinkAnswers)
    (ready : Poll (Except Unit Unit)) : CloseTask :=
  let actor := task.actor ready
  let result := task.closer.pollClose task.oneshot task.info sink actor 0
  let waiting := task.closer.waitsFor task.oneshot task.info sink actor
  let admitted : Bool := !task.oneshot && task.closer.Requests sink actor
  { closer := result.closer
    info := result.info
    oneshot := result.request.oneshot
    stored := if admitted then result.request.event else task.stored
    entered :=
      if admitted then task.entered ++ task.stored.toList else task.entered
    reply := task.reply
    waiting
    wakers := task.wakers ++ waiting.toList
    scheduled := false
    finished := !result.request.answer.isPending }

def step (task : CloseTask) : CloseTaskAction → Option CloseTask
  | .poll sink ready =>
      if task.scheduled && !task.finished then some (task.poll sink ready)
      else none
  | .wake source =>
      if source ∈ task.wakers then some { task with scheduled := true }
      else none
  | .share info =>
      if info.id = task.info.id then some { task with info } else none
  | .reply result =>
      if task.closes = 0 then none
      else some { task with reply := .ready (.ok result) }

def machine : Machine CloseTask CloseTaskAction := ⟨step⟩

/-- A poll that returns `Pending` has left the waker with somebody, and if it
waits for the reply then one close has come into the channel. -/
def WaitsProperly (action : CloseTaskAction) (next : CloseTask) : Prop :=
  match action with
  | .poll _ _ =>
      next.finished = false →
        (∃ source, next.waiting = some source) ∧
          (next.oneshot = true → next.closes = 1)
  | _ => True

def ClosesGracefully (task : CloseTask) (actions : List CloseTaskAction) :
    Prop :=
  machine.Meets (fun task action =>
    ∀ next, machine.step task action = some next →
      WaitsProperly action next) task actions

/-- No poll gets as far as giving its request to the channel. -/
def NeverRequests (task : CloseTask) : CloseTaskAction → Prop
  | .poll sink ready =>
      task.oneshot = false → ¬ task.closer.Requests sink (task.actor ready)
  | _ => True

/-- Nothing has been requested so far. -/
def Untouched (task : CloseTask) : Prop :=
  task.finished = false →
    task.oneshot = false ∧ task.stored = none ∧ task.entered = []

variable {task next : CloseTask} {action : CloseTaskAction}

theorem step_poll {sink : SinkAnswers} {ready : Poll (Except Unit Unit)}
    (h : task.step (.poll sink ready) = some next) :
    task.scheduled = true ∧ task.finished = false ∧
      next = task.poll sink ready := by
  simp only [step, Option.ite_none_right_eq_some, Option.some.injEq,
    Bool.and_eq_true, Bool.not_eq_true'] at h
  exact ⟨h.1.1, h.1.2, h.2.symm⟩

theorem poll_of_requests {sink : SinkAnswers}
    {ready : Poll (Except Unit Unit)} (honeshot : task.oneshot = false)
    (h : task.closer.Requests sink (task.actor ready)) :
    (task.poll sink ready).stored =
        some (.close task.info.id ⟨.unknown⟩ 0) ∧
      (task.poll sink ready).entered = task.entered ++ task.stored.toList ∧
      (task.poll sink ready).waiting = none ∧
      (task.poll sink ready).wakers = task.wakers ∧
      (task.poll sink ready).finished = false := by
  obtain ⟨hrequest, hnobody⟩ := Closer.pollClose_of_requests task.info 0 h
  simp [poll, honeshot, h, hrequest, hnobody]

theorem waitsProperly_iff (huntouched : task.Untouched)
    (hstep : task.step action = some next) :
    WaitsProperly action next ↔ NeverRequests task action := by
  cases action with
  | wake | share | reply => simp [WaitsProperly, NeverRequests]
  | poll sink ready =>
      obtain ⟨-, hrunning, rfl⟩ := step_poll hstep
      obtain ⟨honeshot, -, -⟩ := huntouched hrunning
      simp only [WaitsProperly, NeverRequests, honeshot, true_imp_iff]
      constructor
      · intro hwaits hrequests
        obtain ⟨-, -, hwaiting, -, hpending⟩ :=
          poll_of_requests honeshot hrequests
        obtain ⟨⟨source, hsource⟩, -⟩ := hwaits hpending
        rw [hwaiting] at hsource
        cases hsource
      · intro hquiet hpending
        obtain ⟨-, hwaits⟩ :=
          Closer.pollClose_of_not_requests task.info 0 hquiet
        simp only [poll, honeshot, Bool.not_eq_false',
          Poll.isPending_iff] at hpending
        obtain ⟨hreply, hsource⟩ := hwaits hpending
        refine ⟨by simpa [poll, honeshot] using hsource, fun hnext => ?_⟩
        simp only [poll, honeshot, hreply] at hnext
        cases hnext

theorem Untouched.step (huntouched : task.Untouched)
    (hquiet : NeverRequests task action)
    (hstep : task.step action = some next) : next.Untouched := by
  cases action with
  | wake source =>
      simp only [CloseTask.step, Option.ite_none_right_eq_some,
        Option.some.injEq] at hstep
      obtain ⟨-, rfl⟩ := hstep
      exact huntouched
  | share info =>
      simp only [CloseTask.step, Option.ite_none_right_eq_some,
        Option.some.injEq] at hstep
      obtain ⟨-, rfl⟩ := hstep
      exact huntouched
  | reply result =>
      simp only [CloseTask.step, Option.ite_none_left_eq_some,
        Option.some.injEq] at hstep
      obtain ⟨-, rfl⟩ := hstep
      exact huntouched
  | poll sink ready =>
      obtain ⟨-, hrunning, rfl⟩ := step_poll hstep
      obtain ⟨honeshot, hstored, hentered⟩ := huntouched hrunning
      obtain ⟨-, hwaits⟩ := Closer.pollClose_of_not_requests task.info 0
        (hquiet honeshot)
      intro hpending
      simp only [poll, honeshot, Bool.not_eq_false',
        Poll.isPending_iff] at hpending
      simp only [poll, honeshot, hstored, hentered, (hwaits hpending).1,
        hquiet honeshot]
      simp

/-- The close goes as it should exactly in the runs without a request. -/
theorem closesGracefully_iff (closer : Closer) (info : StreamInfo)
    {actions : List CloseTaskAction} {task : CloseTask}
    (hrun : machine.run (.init closer info) actions = some task) :
    ClosesGracefully (.init closer info) actions ↔
      machine.Meets NeverRequests (.init closer info) actions := by
  have hiff : ∀ s action t, s.Untouched → machine.step s action = some t →
      ((∀ next, machine.step s action = some next →
        WaitsProperly action next) ↔ NeverRequests s action) := by
    intro s action t huntouched hstep
    constructor
    · intro hwaits
      exact (waitsProperly_iff huntouched hstep).mp (hwaits t hstep)
    · intro hquiet next hnext
      exact (waitsProperly_iff huntouched hnext).mpr hquiet
  exact machine.meets_iff_of_invariant hiff
    (fun _ _ _ huntouched hquiet hstep => huntouched.step hquiet hstep)
    (fun _ => ⟨rfl, rfl, rfl⟩) hrun

/-- A stream's record with nothing special in it. -/
def plainInfo : StreamInfo := .new 1 .disabled 0

/-- The lock is held elsewhere, then given back, and the flush fails. -/
theorem closesGracefully_of_failing_flush :
    ClosesGracefully (.init (.write .new) plainInfo)
      [.poll { SinkAnswers.prompt with lock := .pending } (.ready (.ok ())),
        .wake .sink,
        .poll { SinkAnswers.prompt with
          flush := .ready (.error .wsImplError) } (.ready (.ok ()))] := by
  refine (closesGracefully_iff (.write .new) plainInfo rfl).mpr ?_
  refine .cons ?_ rfl (.cons trivial rfl (.cons ?_ rfl trivial))
  · intro _
    decide
  · intro _
    decide

/-- With everything ready the first poll stores the close event, where it
stays, and returns `Pending` without having left the waker anywhere. -/
theorem not_closesGracefully_of_prompt_sink :
    ¬ ClosesGracefully (.init (.write .new) plainInfo)
        [.poll .prompt (.ready (.ok ()))] ∧
      ¬ ClosesGracefully (.init (.asyncWrite ⟨false⟩) plainInfo)
        [.poll .prompt (.ready (.ok ()))] := by
  constructor
  · intro hmeets
    obtain ⟨⟨source, hsource⟩, -⟩ := hmeets.1 _ rfl rfl
    revert hsource
    cases source <;> decide
  · intro hmeets
    obtain ⟨⟨source, hsource⟩, -⟩ := hmeets.1 _ rfl rfl
    revert hsource
    cases source <;> decide

/-- The request for the stream is stored and nobody will wake the task. -/
structure Forgotten (id : UInt32) (task : CloseTask) : Prop where
  asleep : task.scheduled = false
  unheard : task.wakers = []
  stored : ∃ channel, task.stored = some (.close id ⟨.unknown⟩ channel)
  entered : task.entered = []

theorem forgotten_of_first_request (closer : Closer) (info : StreamInfo)
    {sink : SinkAnswers} {ready : Poll (Except Unit Unit)}
    (h : closer.Requests sink ((init closer info).actor ready)) :
    ((init closer info).poll sink ready).Forgotten info.id := by
  obtain ⟨hstored, hentered, -, hwakers, -⟩ :=
    @poll_of_requests (init closer info) sink ready rfl h
  exact ⟨rfl, hwakers, ⟨0, hstored⟩, hentered⟩

theorem Forgotten.step {id : UInt32} (hforgotten : task.Forgotten id)
    (hstep : task.step action = some next) : next.Forgotten id := by
  obtain ⟨hasleep, hunheard, hstored, hentered⟩ := hforgotten
  cases action with
  | poll sink ready =>
      obtain ⟨hscheduled, -, -⟩ := step_poll hstep
      rw [hasleep] at hscheduled
      cases hscheduled
  | wake source => simp [CloseTask.step, hunheard] at hstep
  | share info =>
      simp only [CloseTask.step, Option.ite_none_right_eq_some,
        Option.some.injEq] at hstep
      obtain ⟨-, rfl⟩ := hstep
      exact ⟨hasleep, hunheard, hstored, hentered⟩
  | reply result => simp [CloseTask.step, closes, hentered] at hstep

/-- A task whose first poll makes the request is never polled again, and the
actor never learns that the stream is to be closed. -/
theorem forgotten_forever (closer : Closer) (info : StreamInfo)
    {sink : SinkAnswers} {ready : Poll (Except Unit Unit)}
    {actions : List CloseTaskAction} {task : CloseTask}
    (hrequests : closer.Requests sink ((init closer info).actor ready))
    (hrun : machine.run ((init closer info).poll sink ready) actions =
      some task) : task.Forgotten info.id :=
  machine.run_invariant
    (fun _ _ _ hforgotten hstep => hforgotten.step hstep)
    (forgotten_of_first_request closer info hrequests) hrun

end CloseTask

end Epoxy
