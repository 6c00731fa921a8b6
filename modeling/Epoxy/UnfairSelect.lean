/-
The select over two streams that decides which of them the actor serves next.
A stream is a state with a poll; the select alternates between the two sides
and ends as soon as either of them has ended.
-/
import Epoxy.PollChannel

namespace Epoxy

open PollChannel

universe u v w

inductive PollNext where
  | left
  | right
deriving Repr, DecidableEq

namespace PollNext

def other : PollNext → PollNext
  | left => right
  | right => left

/-- The new value and the old one. -/
def toggle (next : PollNext) : PollNext × PollNext := (next.other, next)

@[simp] theorem other_other (side : PollNext) : side.other.other = side := by
  cases side <;> rfl

theorem eq_other_of_ne {side other : PollNext} (h : side ≠ other) :
    side = other.other := by
  cases side with
  | left =>
      cases other with
      | left => exact absurd rfl h
      | right => rfl
  | right =>
      cases other with
      | left => rfl
      | right => exact absurd rfl h

/-- What holds of one side and of the other holds of both. -/
theorem forall_of_other {P : PollNext → Prop} (side : PollNext) (h : P side)
    (hother : P side.other) (which : PollNext) : P which := by
  by_cases heq : which = side
  · exact heq ▸ h
  · exact eq_other_of_ne heq ▸ hother

end PollNext

structure UnfairSelect (S₁ : Type u) (S₂ : Type v) where
  stream1 : S₁
  stream2 : S₂
  next : PollNext
  finished : Bool
deriving Repr, DecidableEq

def unfairSelect {S₁ : Type u} {S₂ : Type v} (stream1 : S₁) (stream2 : S₂) :
    UnfairSelect S₁ S₂ :=
  ⟨stream1, stream2, .left, false⟩

namespace UnfairSelect

variable {S₁ : Type u} {S₂ : Type v} {α : Type w}
  (poll₁ : S₁ → S₁ × Poll (Option α)) (poll₂ : S₂ → S₂ × Poll (Option α))

def pollSide (select : UnfairSelect S₁ S₂) :
    PollNext → UnfairSelect S₁ S₂ × Poll (Option α)
  | .left =>
      let (stream1, answer) := poll₁ select.stream1
      ({ select with stream1 }, answer)
  | .right =>
      let (stream2, answer) := poll₂ select.stream2
      ({ select with stream2 }, answer)

/-- Poll this side, and the other one when this one has nothing yet. -/
def pollInner (select : UnfairSelect S₁ S₂) (side : PollNext) :
    UnfairSelect S₁ S₂ × Poll (Option α) :=
  match select.pollSide poll₁ poll₂ side with
  | (select, .ready (some item)) => (select, .ready (some item))
  | (select, .ready none) => ({ select with finished := true }, .ready none)
  | (select, .pending) =>
      match select.pollSide poll₁ poll₂ side.other with
      | (select, .ready none) =>
          ({ select with finished := true }, .ready none)
      | answer => answer

def pollNext (select : UnfairSelect S₁ S₂) :
    UnfairSelect S₁ S₂ × Poll (Option α) :=
  let (toggled, next) := select.next.toggle
  let select := { select with next := toggled }
  if select.finished then (select, .ready none)
  else select.pollInner poll₁ poll₂ next

variable {poll₂} {select : UnfairSelect S₁ S₂}

/-- A second stream that has nothing leaves the answer to the first, whose
end is the end of the select. -/
theorem pollNext_of_right_pending (hfinished : select.finished = false)
    (hidle : poll₂ select.stream2 = (select.stream2, .pending)) :
    select.pollNext poll₁ poll₂ =
      ({ select with
          stream1 := (poll₁ select.stream1).1
          next := select.next.other
          finished :=
            match (poll₁ select.stream1).2 with
            | .ready none => true
            | _ => false },
        (poll₁ select.stream1).2) := by
  cases hnext : select.next with
  | left | right =>
      cases hanswer : (poll₁ select.stream1).2 with
      | pending =>
          simp [pollNext, pollInner, pollSide, PollNext.toggle,
            PollNext.other, hnext, hfinished, hanswer, hidle]
      | ready item =>
          cases item <;> simp [pollNext, pollInner, pollSide,
            PollNext.toggle, PollNext.other, hnext, hfinished, hanswer, hidle]

end UnfairSelect

end Epoxy
