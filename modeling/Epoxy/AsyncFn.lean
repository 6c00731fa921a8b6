/-
Asynchronous functions over a world.  A call answers with a future, and every
poll of the future may change the world.  A recorded function keeps, beside
the world, what it was called with and what its futures answered, so that a
caller who polls a completed future again, or who makes a second future
before the first has completed, is seen in the state.
-/
import Epoxy.PollChannel

open PollChannel (Poll)

universe u v w x y

/-- `call` makes a future of an argument; `poll` polls it once. -/
structure AsyncFn (W : Type u) (A : Type v) (F : Type w) (R : Type x) where
  call : W → A → W × F
  poll : W → F → W × F × Poll R

namespace AsyncFn

variable {W : Type u} {A : Type v} {F : Type w} {R : Type x}

/-- The same function in a world that has more to it. -/
def onFst {X : Type y} (fn : AsyncFn W A F R) : AsyncFn (W × X) A F R where
  call world arg :=
    let (first, future) := fn.call world.1 arg
    ((first, world.2), future)
  poll world future :=
    let (first, future, answer) := fn.poll world.1 future
    ((first, world.2), future, answer)

/-- A future, and whether it has completed. -/
structure Tracked (F : Type w) where
  future : F
  completed : Bool
deriving Repr, DecidableEq

/-- What has been seen of one function and its futures. -/
structure History (A : Type v) (R : Type x) where
  passed : List A := []
  answers : List R := []
  overlapped : Bool := false
  repolled : Bool := false
deriving Repr, DecidableEq

namespace History

/-- A future has been made that has not completed. -/
def running (history : History A R) : Bool :=
  history.answers.length < history.passed.length

def called (history : History A R) (arg : A) : History A R :=
  { history with
    passed := history.passed ++ [arg]
    overlapped := history.overlapped || history.running }

def polled (history : History A R) (completed : Bool) (answer : Poll R) :
    History A R :=
  { history with
    answers := history.answers ++
      match answer with
      | .ready value => [value]
      | .pending => []
    repolled := history.repolled || completed }

/-- There never were two futures at once, and none was polled too often. -/
structure Sound (history : History A R) : Prop where
  single : history.overlapped = false
  once : history.repolled = false

/-- No future is running. -/
structure Idle (history : History A R) : Prop extends Sound history where
  answered : history.answers.length = history.passed.length

/-- Of all the futures only this one is running. -/
structure Busy (history : History A R) (future : Tracked F) : Prop
    extends Sound history where
  waiting : history.passed.length = history.answers.length + 1
  running : future.completed = false

/-- One of the futures has ended in an error. -/
def Failed {E : Type y} (history : History A (Except E R)) : Prop :=
  ∃ err, .error err ∈ history.answers

variable {history : History A R}

theorem idle_initial : (({} : History A R)).Idle := ⟨⟨rfl, rfl⟩, rfl⟩

theorem not_failed_initial {E : Type y} :
    ¬ (({} : History A (Except E R))).Failed := by
  rintro ⟨err, herr⟩
  cases herr

theorem failed_pending {E : Type y} {history : History A (Except E R)}
    {completed : Bool} :
    (history.polled completed .pending).Failed ↔ history.Failed := by
  simp [Failed, polled]

theorem failed_ok {E : Type y} {history : History A (Except E R)}
    {completed : Bool} {value : R} :
    (history.polled completed (.ready (.ok value))).Failed ↔
      history.Failed := by
  simp [Failed, polled]

theorem failed_error {E : Type y} {history : History A (Except E R)}
    {completed : Bool} {err : E} :
    (history.polled completed (.ready (.error err))).Failed := by
  exact ⟨err, by simp [polled]⟩

theorem Idle.called (h : history.Idle) {arg : A} {future : F} :
    (history.called arg).Busy ⟨future, false⟩ where
  single := by simp [History.called, History.running, h.single, h.answered]
  once := h.once
  waiting := by simp [History.called, h.answered]
  running := rfl

variable {future : Tracked F}

theorem Busy.pending (h : history.Busy future) (next : F) :
    (history.polled future.completed .pending).Busy
      ⟨next, future.completed⟩ where
  single := h.single
  once := by simp [polled, h.once, h.running]
  waiting := by simp [polled, h.waiting]
  running := h.running

theorem Busy.ready (h : history.Busy future) (value : R) :
    (history.polled future.completed (.ready value)).Idle where
  single := h.single
  once := by simp [polled, h.once, h.running]
  answered := by simp [polled, h.waiting]

end History

/-- The function with its history beside the world. -/
def recorded (fn : AsyncFn W A F R) :
    AsyncFn (W × History A R) A (Tracked F) R where
  call world arg :=
    let (first, future) := fn.call world.1 arg
    ((first, world.2.called arg), ⟨future, false⟩)
  poll world tracked :=
    let (first, future, answer) := fn.poll world.1 tracked.future
    ((first, world.2.polled tracked.completed answer),
      ⟨future, tracked.completed || !answer.isPending⟩, answer)

theorem recorded_poll {fn : AsyncFn W A F R} {world first : W}
    {history : History A R} {tracked : Tracked F} {future : F}
    {answer : Poll R}
    (hpoll : fn.poll world tracked.future = (first, future, answer)) :
    fn.recorded.poll (world, history) tracked =
      ((first, history.polled tracked.completed answer),
        ⟨future, tracked.completed || !answer.isPending⟩, answer) := by
  simp only [recorded, hpoll]

end AsyncFn
