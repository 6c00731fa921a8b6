/-
The iterator transports under the contracts of `Stream` and `Sink`.  A caller
may do whatever the contracts allow, in any order, with any user functions.
The transports keep the contracts in turn as long as no user future has ended
in an error; the writer panics and the reader polls a completed future when
they are used once more after one has.
-/
import Epoxy.ActionMachine
import Epoxy.IteratorTransport

namespace Epoxy

open PollChannel (Poll)
open AsyncFn (Tracked History)

universe u v w x y z t s e

section Reader

variable {W : Type u} {S : Type v} {F : Type w} {P : Type x} {E : Type e}

abbrev ReadHistory (S : Type v) (P : Type x) (E : Type e) :=
  History S (Except E (Option (P × S)))

/-- What a reader that never failed, or failed only now, holds. -/
def AsyncIteratorTransportRead.Tracks (history : ReadHistory S P E)
    (ended : Bool) : IteratorState S (Tracked F) → Prop
  | .value _ => history.Idle ∧ ¬ history.Failed
  | .future fut =>
      (history.Busy fut ∧ ¬ history.Failed) ∨
        (history.Sound ∧ fut.completed = true ∧
          (ended = true ∨ history.Failed))
  | .empty => False

namespace AsyncIteratorTransportRead

def isEnd : Poll (Option (Except E P)) → Bool
  | .ready none => true
  | _ => false

variable (func : AsyncFn W S F (Except E (Option (P × S))))
  {history : ReadHistory S P E}

theorem Tracks.sound {ended : Bool} {state : IteratorState S (Tracked F)}
    (h : Tracks history ended state) : history.Sound := by
  cases state with
  | value state => exact h.1.toSound
  | future fut =>
      obtain ⟨hbusy, -⟩ | ⟨hsound, -⟩ := h
      · exact hbusy.toSound
      · exact hsound
  | empty => exact h.elim

/-- The future of a failed read is still there. -/
theorem Tracks.completed {ended : Bool} {state : IteratorState S (Tracked F)}
    (h : Tracks history ended state) (hfailed : history.Failed) :
    ∃ fut, state = .future fut ∧ fut.completed = true := by
  cases state with
  | value state => exact absurd hfailed h.2
  | future fut =>
      obtain ⟨-, hnot⟩ | ⟨-, hcompleted, -⟩ := h
      · exact absurd hfailed hnot
      · exact ⟨fut, rfl, hcompleted⟩
  | empty => exact h.elim

/-- A running future is polled, and kept exactly while it runs. -/
theorem pollNext_busy (world : W) {fut : Tracked F} (hbusy : history.Busy fut)
    (hfailed : ¬ history.Failed) :
    ∃ world' history' this answer,
      (AsyncIteratorTransportRead.mk (.future fut)).pollNext func.recorded
        (world, history) = some ((world', history'), this, answer) ∧
      Tracks history' (isEnd answer) this.state := by
  obtain ⟨world', fut', answer, hpoll⟩ : ∃ world' fut' answer,
      func.poll world fut.future = (world', fut', answer) := ⟨_, _, _, rfl⟩
  rw [pollNext_future, AsyncFn.recorded_poll hpoll]
  cases answer with
  | pending =>
      refine ⟨_, _, _, _, rfl, Or.inl ⟨?_, ?_⟩⟩
      · simpa using hbusy.pending fut'
      · exact fun h => hfailed (History.failed_pending.mp h)
  | ready ret =>
      have hidle := hbusy.ready ret
      cases ret with
      | error err =>
          exact ⟨_, _, _, _, rfl,
            Or.inr ⟨hidle.toSound, by simp, .inr History.failed_error⟩⟩
      | ok next =>
          cases next with
          | none =>
              exact ⟨_, _, _, _, rfl,
                Or.inr ⟨hidle.toSound, by simp, .inl rfl⟩⟩
          | some pair =>
              exact ⟨_, _, _, _, rfl, hidle,
                fun h => hfailed (History.failed_ok.mp h)⟩

theorem pollNext_tracks (world : W) {state : IteratorState S (Tracked F)}
    (htracks : Tracks history false state) (hfailed : ¬ history.Failed) :
    ∃ world' history' this answer,
      (AsyncIteratorTransportRead.mk state).pollNext func.recorded
        (world, history) = some ((world', history'), this, answer) ∧
      Tracks history' (isEnd answer) this.state := by
  cases state with
  | value state =>
      rw [pollNext_value]
      exact pollNext_busy func _ htracks.1.called hfailed
  | future fut =>
      obtain ⟨hbusy, -⟩ | ⟨-, -, hended⟩ := htracks
      · exact pollNext_busy func world hbusy hfailed
      · cases hended.resolve_right hfailed
  | empty => exact htracks.elim

/-- Polling a reader that holds a future polls just this future. -/
theorem exists_pollNext_future (world : W) (history : ReadHistory S P E)
    (fut : Tracked F) :
    ∃ ret world' this answer,
      (AsyncIteratorTransportRead.mk (.future fut)).pollNext func.recorded
        (world, history) =
        some ((world', history.polled fut.completed ret), this, answer) := by
  obtain ⟨world', fut', ret, hpoll⟩ : ∃ world' fut' ret,
      func.poll world fut.future = (world', fut', ret) := ⟨_, _, _, rfl⟩
  rw [pollNext_future, AsyncFn.recorded_poll hpoll]
  refine ⟨ret, world', ?_⟩
  cases ret with
  | pending => exact ⟨_, _, rfl⟩
  | ready ret =>
      cases ret with
      | error err => exact ⟨_, _, rfl⟩
      | ok item =>
          cases item with
          | none => exact ⟨_, _, rfl⟩
          | some pair => exact ⟨_, _, rfl⟩

/-- Whatever a completed future answers, it has been polled again. -/
theorem pollNext_completed (world : W) (history : ReadHistory S P E)
    {fut : Tracked F} (hcompleted : fut.completed = true) :
    ∃ world' history' this answer,
      (AsyncIteratorTransportRead.mk (.future fut)).pollNext func.recorded
        (world, history) = some ((world', history'), this, answer) ∧
      history'.repolled = true := by
  obtain ⟨ret, world', this, answer, hpoll⟩ :=
    exists_pollNext_future func world history fut
  exact ⟨_, _, _, _, hpoll, by simp [History.polled, hcompleted]⟩

/-- A future that was polled too often is not forgotten. -/
theorem pollNext_repolled {world world' : W}
    {history' : ReadHistory S P E}
    {this next : AsyncIteratorTransportRead S (Tracked F)}
    {answer : Poll (Option (Except E P))}
    (hpoll : this.pollNext func.recorded (world, history) =
      some ((world', history'), next, answer))
    (hrepolled : history.repolled = true) : history'.repolled = true := by
  obtain ⟨state⟩ := this
  cases state with
  | empty => cases hpoll
  | value state =>
      rw [pollNext_value] at hpoll
      obtain ⟨ret, world', this, answer, hpoll'⟩ :=
        exists_pollNext_future func (func.call world state).1
          (history.called state) ⟨(func.call world state).2, false⟩
      cases hpoll'.symm.trans hpoll
      simp [History.polled, History.called, hrepolled]
  | future fut =>
      obtain ⟨ret, world', this, answer, hpoll'⟩ :=
        exists_pollNext_future func world history fut
      cases hpoll'.symm.trans hpoll
      simp [History.polled, hrepolled]

end AsyncIteratorTransportRead

end Reader

section Writer

variable {W : Type u} {S : Type v} {F : Type w} {C : Type x} {G : Type y}
  {P : Type z} {E : Type e} {X : Type t}

abbrev WriteHistory (S : Type v) (P : Type z) (E : Type e) :=
  History (S × P) (Except E S)

abbrev CloseHistory (C : Type x) (E : Type e) := History C (Except E Unit)

namespace AsyncIteratorTransportWrite

/-- What the writer holds for its payloads; one that is ready has no future,
though it may have nothing at all. -/
def Tracks (history : WriteHistory S P E) (ready : Bool) :
    IteratorState S (Tracked F) → Prop
  | .value _ => history.Idle ∧ ¬ history.Failed
  | .future fut => history.Busy fut ∧ ¬ history.Failed ∧ ready = false
  | .empty => history.Sound ∧ history.Failed

def CloseTracks (history : CloseHistory C E) (closed : Bool) :
    IteratorState C (Tracked G) → Prop
  | .value _ => history.Idle
  | .future fut => history.Busy fut
  | .empty => history.Sound ∧ closed = true

def isOk : Poll (Except E Unit) → Bool
  | .ready (.ok ()) => true
  | _ => false

theorem Tracks.not_ready {history : WriteHistory S P E} {ready : Bool}
    {state : IteratorState S (Tracked F)} (h : Tracks history ready state) :
    Tracks history false state := by
  cases state with
  | value state => exact h
  | future fut => exact ⟨h.1, h.2.1, rfl⟩
  | empty => exact h

theorem Tracks.sound {history : WriteHistory S P E} {ready : Bool}
    {state : IteratorState S (Tracked F)} (h : Tracks history ready state) :
    history.Sound := by
  cases state with
  | value state => exact h.1.toSound
  | future fut => exact h.1.toSound
  | empty => exact h.1

theorem CloseTracks.sound {history : CloseHistory C E} {closed : Bool}
    {state : IteratorState C (Tracked G)}
    (h : CloseTracks history closed state) : history.Sound := by
  cases state with
  | value state => exact h.toSound
  | future fut => exact h.toSound
  | empty => exact h.1

theorem CloseTracks.of_open {history : CloseHistory C E} {closed : Bool}
    {state : IteratorState C (Tracked G)}
    (h : CloseTracks history false state) :
    CloseTracks history closed state := by
  cases state with
  | value state => exact h
  | future fut => exact h
  | empty => cases h.2

variable (func : AsyncFn W (S × P) F (Except E S))
  {history : WriteHistory S P E} {ready : Bool}
  {state : IteratorState S (Tracked F)}
  (closeState : IteratorState C (Tracked G))

/-- A flush polls the future there is and puts away what it answers. -/
theorem pollFlush_tracks (world : W) (beside : X)
    (htracks : Tracks history ready state) :
    ∃ world' history' state' answer,
      (AsyncIteratorTransportWrite.mk state closeState).pollFlush
        func.recorded.onFst ((world, history), beside) =
        (((world', history'), beside), ⟨state', closeState⟩, answer) ∧
      Tracks history' (isOk answer) state' ∧
      history'.passed = history.passed := by
  cases state with
  | value state => exact ⟨_, _, _, _, rfl, htracks, rfl⟩
  | empty => exact ⟨_, _, _, _, rfl, htracks, rfl⟩
  | future fut =>
      obtain ⟨hbusy, hfailed, -⟩ := htracks
      obtain ⟨world', fut', answer, hpoll⟩ : ∃ world' fut' answer,
          func.poll world fut.future = (world', fut', answer) :=
        ⟨_, _, _, rfl⟩
      simp only [pollFlush, IteratorState.getFuture, AsyncFn.onFst,
        AsyncFn.recorded_poll hpoll]
      cases answer with
      | pending =>
          refine ⟨_, _, _, _, rfl, ⟨?_, ?_, rfl⟩, rfl⟩
          · simpa using hbusy.pending fut'
          · exact fun h => hfailed (History.failed_pending.mp h)
      | ready ret =>
          have hidle := hbusy.ready ret
          cases ret with
          | ok state =>
              exact ⟨_, _, _, _, rfl,
                ⟨hidle, fun h => hfailed (History.failed_ok.mp h)⟩, rfl⟩
          | error err =>
              exact ⟨_, _, _, _, rfl,
                ⟨hidle.toSound, History.failed_error⟩, rfl⟩

theorem startSend_tracks (world : W) (beside : X) (item : P)
    (htracks : Tracks history true state) (hfailed : ¬ history.Failed) :
    ∃ world' history' state',
      (AsyncIteratorTransportWrite.mk state closeState).startSend
        func.recorded.onFst ((world, history), beside) item =
        some (((world', history'), beside), ⟨state', closeState⟩) ∧
      Tracks history' false state' ∧
      history'.passed.map Prod.snd = history.passed.map Prod.snd ++ [item] := by
  cases state with
  | value state =>
      refine ⟨_, _, _, rfl, ⟨htracks.1.called, hfailed, rfl⟩, ?_⟩
      simp [History.called]
  | future fut => cases htracks.2.2
  | empty => exact absurd htracks.2 hfailed

/-- A writer whose send has failed has nothing left to send with. -/
theorem startSend_failed (world : W) (beside : X) (item : P)
    (htracks : Tracks history true state) (hfailed : history.Failed) :
    (AsyncIteratorTransportWrite.mk state closeState).startSend
      func.recorded.onFst ((world, history), beside) item = none := by
  cases state with
  | value state => exact absurd hfailed htracks.2
  | future fut => cases htracks.2.2
  | empty => rfl

theorem pollClose_tracks (close : AsyncFn W C G (Except E Unit)) (world : W)
    {closes : CloseHistory C E} (htracks : Tracks history ready state)
    (hclose : CloseTracks closes false closeState) :
    ∃ world' history' closes' state' closeState' answer,
      (AsyncIteratorTransportWrite.mk state closeState).pollClose
        func.recorded.onFst close.onFst.recorded ((world, history), closes) =
        some (((world', history'), closes'), ⟨state', closeState'⟩, answer) ∧
      Tracks history' false state' ∧
      history'.passed = history.passed ∧
      CloseTracks closes' (!answer.isPending) closeState' := by
  obtain ⟨world', history', state', answer, hflush, htracks', hpassed⟩ :=
    pollFlush_tracks func closeState world closes htracks
  simp only [pollClose, hflush]
  have hnot := htracks'.not_ready
  cases answer with
  | pending => exact ⟨_, _, _, _, _, _, rfl, hnot, hpassed, hclose.of_open⟩
  | ready ret =>
      cases ret with
      | error err =>
          exact ⟨_, _, _, _, _, _, rfl, hnot, hpassed, hclose.of_open⟩
      | ok =>
          cases closeState with
          | value value =>
              exact ⟨_, _, _, _, _, _, rfl, hnot, hpassed, hclose.called⟩
          | empty => cases hclose.2
          | future fut =>
              obtain ⟨first, fut', answer, hpoll⟩ : ∃ first fut' answer,
                  close.poll world' fut.future = (first, fut', answer) :=
                ⟨_, _, _, rfl⟩
              have hpoll' : close.onFst.poll (world', history') fut.future =
                  ((first, history'), fut', answer) := by
                simp only [AsyncFn.onFst, hpoll]
              simp only [IteratorState.getFuture,
                AsyncFn.recorded_poll hpoll']
              have hbusy : closes.Busy fut := hclose
              cases answer with
              | pending =>
                  refine ⟨_, _, _, _, _, _, rfl, hnot, hpassed, ?_⟩
                  simpa [CloseTracks] using hbusy.pending fut'
              | ready ret =>
                  exact ⟨_, _, _, _, _, _, rfl, hnot, hpassed,
                    (hbusy.ready ret).toSound, rfl⟩

end AsyncIteratorTransportWrite

end Writer

/-- The functions that the two transports are made of. -/
structure UserFns (W S F T G C H P E : Type u) where
  read : AsyncFn W S F (Except E (Option (P × S)))
  write : AsyncFn W (T × P) G (Except E T)
  close : AsyncFn W C H (Except E Unit)

/-- A reader and a writer in one world, with what has been seen of their
functions.  `ended`, `ready` and `closed` are what the caller has been told:
the reader's end, readiness just now, and the end of the close. -/
structure IteratorTransports (W S F T G C H P E : Type u) where
  world : W
  reader : AsyncIteratorTransportRead S (Tracked F)
  reads : ReadHistory S P E := {}
  ended : Bool := false
  writer : AsyncIteratorTransportWrite T (Tracked G) C (Tracked H)
  writes : WriteHistory T P E := {}
  closes : CloseHistory C E := {}
  ready : Bool := false
  closed : Bool := false
  accepted : List P := []
  panicked : Bool := false

/-- What the caller does, and what happens to the functions' world between
the calls. -/
inductive TransportCall (W P : Type u) where
  | pollNext
  | pollReady
  | startSend (item : P)
  | pollFlush
  | pollClose
  | change (world : W)
deriving Repr, DecidableEq

variable {W S F T G C H P E : Type u}

namespace IteratorTransports

def init (world : W) (read : S) (write : T) (close : C) :
    IteratorTransports W S F T G C H P E where
  world := world
  reader := asyncIteratorTransportRead read
  writer := asyncIteratorTransportWrite write close

/-- The world of the writer's functions, with their histories. -/
def writeWorld (transports : IteratorTransports W S F T G C H P E) :
    (W × WriteHistory T P E) × CloseHistory C E :=
  ((transports.world, transports.writes), transports.closes)

def setWriter (transports : IteratorTransports W S F T G C H P E)
    (world : (W × WriteHistory T P E) × CloseHistory C E)
    (writer : AsyncIteratorTransportWrite T (Tracked G) C (Tracked H)) :
    IteratorTransports W S F T G C H P E :=
  { transports with
    world := world.1.1
    writes := world.1.2
    closes := world.2
    writer := writer
    ready := false }

/-- One call; `none` is a call that the contracts do not allow. -/
def step (fns : UserFns W S F T G C H P E)
    (transports : IteratorTransports W S F T G C H P E) :
    TransportCall W P → Option (IteratorTransports W S F T G C H P E)
  | .pollNext =>
      if transports.panicked || transports.ended then none
      else
        match transports.reader.pollNext fns.read.recorded
            (transports.world, transports.reads) with
        | none => some { transports with panicked := true }
        | some ((world, reads), reader, answer) =>
            some { transports with
              world := world
              reads := reads
              reader := reader
              ended := AsyncIteratorTransportRead.isEnd answer }
  | .pollReady =>
      if transports.panicked then none
      else
        let (world, writer, answer) := transports.writer.pollReady
          fns.write.recorded.onFst transports.writeWorld
        some { transports.setWriter world writer with
          ready := AsyncIteratorTransportWrite.isOk answer }
  | .startSend item =>
      if transports.panicked || !transports.ready then none
      else
        match transports.writer.startSend fns.write.recorded.onFst
            transports.writeWorld item with
        | none => some { transports with panicked := true }
        | some (world, writer) =>
            some { transports.setWriter world writer with
              accepted := transports.accepted ++ [item] }
  | .pollFlush =>
      if transports.panicked then none
      else
        let (world, writer, _) := transports.writer.pollFlush
          fns.write.recorded.onFst transports.writeWorld
        some (transports.setWriter world writer)
  | .pollClose =>
      if transports.panicked || transports.closed then none
      else
        match transports.writer.pollClose fns.write.recorded.onFst
            fns.close.onFst.recorded transports.writeWorld with
        | none => some { transports with panicked := true }
        | some (world, writer, answer) =>
            some { transports.setWriter world writer with
              closed := !answer.isPending }
  | .change world => some { transports with world := world }

def machine (fns : UserFns W S F T G C H P E) :
    ActionMachine.Machine (IteratorTransports W S F T G C H P E)
      (TransportCall W P) where
  step := step fns

/-- The transports' side of the contracts, over everything seen so far. -/
structure Obeys (transports : IteratorTransports W S F T G C H P E) :
    Prop where
  calm : transports.panicked = false
  reads : transports.reads.Sound
  writes : transports.writes.Sound
  closes : transports.closes.Sound
  payloads : transports.writes.passed.map Prod.snd = transports.accepted

/-- The caller uses neither end again once a future of it ended in an
error: no payload after a failed send, no poll of the reader after a failed
read. -/
def StopsAtErrors (transports : IteratorTransports W S F T G C H P E) :
    TransportCall W P → Prop
  | .pollNext => ¬ transports.reads.Failed
  | .startSend _ => ¬ transports.writes.Failed
  | _ => True

/-- What the transports keep while the caller stops at errors. -/
structure Keeps (transports : IteratorTransports W S F T G C H P E) :
    Prop where
  calm : transports.panicked = false
  reader : AsyncIteratorTransportRead.Tracks transports.reads
    transports.ended transports.reader.state
  writer : AsyncIteratorTransportWrite.Tracks transports.writes
    transports.ready transports.writer.state
  closer : AsyncIteratorTransportWrite.CloseTracks transports.closes
    transports.closed transports.writer.closeState
  payloads : transports.writes.passed.map Prod.snd = transports.accepted

variable {fns : UserFns W S F T G C H P E}
  {transports next : IteratorTransports W S F T G C H P E}

theorem keeps_init (world : W) (read : S) (write : T) (close : C) :
    (init world read write close :
      IteratorTransports W S F T G C H P E).Keeps where
  calm := rfl
  reader := ⟨History.idle_initial, History.not_failed_initial⟩
  writer := ⟨History.idle_initial, History.not_failed_initial⟩
  closer := History.idle_initial
  payloads := rfl

theorem Keeps.obeys (h : transports.Keeps) : transports.Obeys where
  calm := h.calm
  reads := h.reader.sound
  writes := h.writer.sound
  closes := h.closer.sound
  payloads := h.payloads

theorem Keeps.pollNext (h : transports.Keeps)
    (hfailed : ¬ transports.reads.Failed)
    (hstep : transports.step fns .pollNext = some next) : next.Keeps := by
  cases hended : transports.ended with
  | true => simp [step, hended] at hstep
  | false =>
      have hreader := h.reader
      rw [hended] at hreader
      obtain ⟨world, reads, reader, answer, hpoll, htracks⟩ :=
        AsyncIteratorTransportRead.pollNext_tracks fns.read transports.world
          hreader hfailed
      change transports.reader.pollNext _ _ = _ at hpoll
      simp only [step, h.calm, hended, hpoll, Bool.or_self, Bool.false_eq_true,
        if_false, Option.some.injEq] at hstep
      subst hstep
      exact ⟨rfl, htracks, h.writer, h.closer, h.payloads⟩

/-- The three polls of the writer that only flush. -/
theorem Keeps.flushed (fns : UserFns W S F T G C H P E)
    (h : transports.Keeps) :
    ∃ world writer answer,
      transports.writer.pollFlush fns.write.recorded.onFst
        transports.writeWorld = (world, writer, answer) ∧
      { transports.setWriter world writer with
        ready := AsyncIteratorTransportWrite.isOk answer }.Keeps := by
  obtain ⟨world, writes, state, answer, hflush, htracks, hpassed⟩ :=
    AsyncIteratorTransportWrite.pollFlush_tracks
      fns.write transports.writer.closeState transports.world
      transports.closes h.writer
  refine ⟨_, _, _, hflush, h.calm, h.reader, htracks, h.closer, ?_⟩
  exact (congrArg _ hpassed).trans h.payloads

theorem Keeps.startSend (h : transports.Keeps) {item : P}
    (hfailed : ¬ transports.writes.Failed)
    (hstep : transports.step fns (.startSend item) = some next) :
    next.Keeps := by
  cases hready : transports.ready with
  | false => simp [step, hready] at hstep
  | true =>
      have hwriter := h.writer
      rw [hready] at hwriter
      obtain ⟨world, writes, state, hsend, htracks, hpassed⟩ :=
        AsyncIteratorTransportWrite.startSend_tracks
          fns.write transports.writer.closeState transports.world
          transports.closes item hwriter hfailed
      change transports.writer.startSend _ transports.writeWorld _ = _ at hsend
      simp only [step, h.calm, hready, hsend, Bool.not_true, Bool.or_self,
        Bool.false_eq_true, if_false, Option.some.injEq] at hstep
      subst hstep
      refine ⟨h.calm, h.reader, htracks, h.closer, ?_⟩
      rw [← h.payloads]
      exact hpassed

theorem Keeps.pollClose (h : transports.Keeps)
    (hstep : transports.step fns .pollClose = some next) : next.Keeps := by
  cases hclosed : transports.closed with
  | true => simp [step, hclosed] at hstep
  | false =>
      have hcloser := h.closer
      rw [hclosed] at hcloser
      obtain ⟨world, writes, closes, state, closeState, answer, hclose,
          htracks, hpassed, hcloser'⟩ :=
        AsyncIteratorTransportWrite.pollClose_tracks fns.write
          transports.writer.closeState fns.close transports.world h.writer
          hcloser
      change transports.writer.pollClose _ _ transports.writeWorld = _ at hclose
      simp only [step, h.calm, hclosed, hclose, Bool.or_self,
        Bool.false_eq_true, if_false, Option.some.injEq] at hstep
      subst hstep
      exact ⟨h.calm, h.reader, htracks, hcloser',
        (congrArg _ hpassed).trans h.payloads⟩

theorem Keeps.step {call : TransportCall W P} (h : transports.Keeps)
    (hstops : transports.StopsAtErrors call)
    (hstep : transports.step fns call = some next) : next.Keeps := by
  cases call with
  | pollNext => exact h.pollNext hstops hstep
  | startSend item => exact h.startSend hstops hstep
  | pollClose => exact h.pollClose hstep
  | pollReady =>
      obtain ⟨world, writer, answer, hflush, hkeeps⟩ := h.flushed fns
      simp only [IteratorTransports.step, h.calm, Bool.false_eq_true,
        if_false, AsyncIteratorTransportWrite.pollReady, hflush,
        Option.some.injEq] at hstep
      exact hstep ▸ hkeeps
  | pollFlush =>
      obtain ⟨world, writer, answer, hflush, hkeeps⟩ := h.flushed fns
      simp only [IteratorTransports.step, h.calm, Bool.false_eq_true,
        if_false, hflush, Option.some.injEq] at hstep
      subst hstep
      exact ⟨hkeeps.calm, hkeeps.reader, hkeeps.writer.not_ready,
        hkeeps.closer, hkeeps.payloads⟩
  | change world =>
      simp only [IteratorTransports.step, Option.some.injEq] at hstep
      subst hstep
      exact ⟨h.calm, h.reader, h.writer, h.closer, h.payloads⟩

/-- What no later call takes back. -/
def Broken (transports : IteratorTransports W S F T G C H P E) : Prop :=
  transports.panicked = true ∨ transports.reads.repolled = true

theorem Keeps.broken {call : TransportCall W P} (h : transports.Keeps)
    (hstops : ¬ transports.StopsAtErrors call)
    (hstep : transports.step fns call = some next) : next.Broken := by
  cases call with
  | pollNext =>
      have hfailed : transports.reads.Failed := not_not.mp hstops
      cases hended : transports.ended with
      | true => simp [IteratorTransports.step, hended] at hstep
      | false =>
          obtain ⟨fut, hstate, hcompleted⟩ := h.reader.completed hfailed
          obtain ⟨world, reads, reader, answer, hpoll, hrepolled⟩ :=
            AsyncIteratorTransportRead.pollNext_completed fns.read
              transports.world transports.reads hcompleted
          rw [← hstate] at hpoll
          change transports.reader.pollNext _ _ = _ at hpoll
          simp only [IteratorTransports.step, h.calm, hended, hpoll,
            Bool.or_self, Bool.false_eq_true, if_false,
            Option.some.injEq] at hstep
          subst hstep
          exact .inr hrepolled
  | startSend item =>
      have hfailed : transports.writes.Failed := not_not.mp hstops
      cases hready : transports.ready with
      | false => simp [IteratorTransports.step, hready] at hstep
      | true =>
          have hwriter := h.writer
          rw [hready] at hwriter
          have hsend := AsyncIteratorTransportWrite.startSend_failed
            fns.write transports.writer.closeState transports.world
            transports.closes item hwriter hfailed
          change transports.writer.startSend _ transports.writeWorld _ = _
            at hsend
          simp only [IteratorTransports.step, h.calm, hready, hsend,
            Bool.not_true, Bool.or_self, Bool.false_eq_true, if_false,
            Option.some.injEq] at hstep
          subst hstep
          exact .inl rfl
  | pollReady => exact absurd trivial hstops
  | pollFlush => exact absurd trivial hstops
  | pollClose => exact absurd trivial hstops
  | change world => exact absurd trivial hstops

/-- Only a poll of the reader has its function do anything. -/
theorem reads_step {call : TransportCall W P}
    (hstep : transports.step fns call = some next)
    (hcall : call ≠ .pollNext) : next.reads = transports.reads := by
  cases call with
  | pollNext => exact absurd rfl hcall
  | startSend item =>
      simp only [step] at hstep
      split at hstep
      · cases hstep
      · split at hstep
        · cases hstep
          rfl
        · cases hstep
          rfl
  | pollClose =>
      simp only [step] at hstep
      split at hstep
      · cases hstep
      · split at hstep
        · cases hstep
          rfl
        · cases hstep
          rfl
  | pollReady =>
      simp only [step] at hstep
      split at hstep
      · cases hstep
      · cases hstep
        rfl
  | pollFlush =>
      simp only [step] at hstep
      split at hstep
      · cases hstep
      · cases hstep
        rfl
  | change world =>
      cases hstep
      rfl

theorem reads_pollNext (hrepolled : transports.reads.repolled = true)
    (hstep : transports.step fns .pollNext = some next) :
    next.reads.repolled = true := by
  simp only [step] at hstep
  split at hstep
  · cases hstep
  · split at hstep
    · cases hstep
      exact hrepolled
    · next world reads reader answer hpoll =>
        cases hstep
        exact AsyncIteratorTransportRead.pollNext_repolled fns.read hpoll
          hrepolled

theorem Broken.step {call : TransportCall W P} (h : transports.Broken)
    (hstep : transports.step fns call = some next) : next.Broken := by
  obtain hpanicked | hrepolled := h
  · cases call with
    | change world =>
        cases hstep
        exact .inl hpanicked
    | _ => simp [IteratorTransports.step, hpanicked] at hstep
  · right
    by_cases hcall : call = .pollNext
    · subst hcall
      exact reads_pollNext hrepolled hstep
    · rw [reads_step hstep hcall]
      exact hrepolled

theorem obeys_not_broken (h : transports.Obeys) : ¬ transports.Broken := by
  rintro (hpanicked | hrepolled)
  · rw [h.calm] at hpanicked
    cases hpanicked
  · rw [h.reads.once] at hrepolled
    cases hrepolled

/-- The transports keep the contracts in a run exactly if the caller stopped
at every error. -/
theorem obeys_iff_stopsAtErrors (fns : UserFns W S F T G C H P E) (world : W)
    (read : S) (write : T) (close : C) (calls : List (TransportCall W P))
    (transports : IteratorTransports W S F T G C H P E)
    (hrun : (machine fns).run (init world read write close) calls =
      some transports) :
    transports.Obeys ↔
      (machine fns).Meets StopsAtErrors (init world read write close)
        calls := by
  exact (machine fns).holds_iff_meets
    (fun _ _ _ hkeeps hstops hstep => Keeps.step hkeeps hstops hstep)
    (fun _ _ _ hkeeps hstops hstep => Keeps.broken hkeeps hstops hstep)
    (fun _ _ _ hbroken hstep => Broken.step hbroken hstep)
    (fun _ hkeeps => Keeps.obeys hkeeps)
    (fun _ hbroken hobeys => obeys_not_broken hobeys hbroken)
    (keeps_init world read write close) hrun

/-- Functions whose every read and send ends in an error at once. -/
def failingFns : UserFns Unit Unit Unit Unit Unit Unit Unit Nat Unit where
  read := ⟨fun _ _ => ((), ()), fun _ _ => ((), (), .ready (.error ()))⟩
  write := ⟨fun _ _ => ((), ()), fun _ _ => ((), (), .ready (.error ()))⟩
  close := ⟨fun _ _ => ((), ()), fun _ _ => ((), (), .ready (.ok ()))⟩

theorem obeys_iff_stopsAtErrors_failingFns :
    ∃ transports,
      (machine failingFns).run (init () () () ())
        [.pollReady, .startSend 1, .pollFlush, .pollClose, .pollClose] =
        some transports ∧
      (transports.Obeys ↔
        (machine failingFns).Meets StopsAtErrors (init () () () ())
          [.pollReady, .startSend 1, .pollFlush, .pollClose, .pollClose]) :=
  ⟨_, rfl, obeys_iff_stopsAtErrors failingFns () () () () _ _ rfl⟩

/-- After the failed send the writer says that it is ready, and panics; the
reader polls its failed future again. -/
theorem not_obeys_after_error :
    (∃ transports,
      (machine failingFns).run (init () () () ())
        [.pollReady, .startSend 1, .pollFlush, .pollReady, .startSend 2] =
        some transports ∧
      transports.panicked = true ∧ ¬ transports.Obeys) ∧
    ∃ transports,
      (machine failingFns).run (init () () () ()) [.pollNext, .pollNext] =
        some transports ∧
      transports.reads.repolled = true ∧ ¬ transports.Obeys := by
  constructor
  · refine ⟨_, rfl, rfl, fun h => ?_⟩
    cases h.calm
  · refine ⟨_, rfl, rfl, fun h => ?_⟩
    cases h.reads.once

end IteratorTransports

end Epoxy
