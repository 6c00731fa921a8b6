/-
The select as a merge of its two streams.  Whatever happens to the streams
between the polls, the items come through once and in order, neither stream
can keep the other one from being served, and a poll that answers `Pending`
has left its waker with both of them.
-/
import Epoxy.UnfairSelect
import Mathlib.Data.List.Basic

namespace Epoxy

open PollChannel

universe u v w

/-- A list that is made of two others, each in its order. -/
inductive Interleaves {α : Type w} : List α → List α → List α → Prop where
  | nil : Interleaves [] [] []
  | left {first second merged : List α} (item : α)
      (h : Interleaves first second merged) :
      Interleaves (first ++ [item]) second (merged ++ [item])
  | right {first second merged : List α} (item : α)
      (h : Interleaves first second merged) :
      Interleaves first (second ++ [item]) (merged ++ [item])

/-- A stream and what it has answered so far. -/
structure Observed (S : Type u) (α : Type w) where
  stream : S
  answers : List (Poll (Option α))

namespace Observed

variable {S : Type u} {α : Type w}

def pollNext (poll : S → S × Poll (Option α)) (observed : Observed S α) :
    Observed S α × Poll (Option α) :=
  let (stream, answer) := poll observed.stream
  (⟨stream, observed.answers ++ [answer]⟩, answer)

end Observed

/-- The items among the answers. -/
def itemsOf {α : Type w} (answers : List (Poll (Option α))) : List α :=
  answers.filterMap fun
    | .ready item => item
    | .pending => none

section Items

variable {α : Type w} (answers : List (Poll (Option α)))

@[simp] theorem itemsOf_append_item (item : α) :
    itemsOf (answers ++ [.ready (some item)]) = itemsOf answers ++ [item] := by
  simp [itemsOf]

@[simp] theorem itemsOf_append_end :
    itemsOf (answers ++ [.ready none]) = itemsOf answers := by
  simp [itemsOf]

@[simp] theorem itemsOf_append_pending :
    itemsOf (answers ++ [.pending]) = itemsOf answers := by
  simp [itemsOf]

end Items

namespace UnfairSelect

variable {S₁ : Type u} {S₂ : Type v} {α : Type w}

/-- What the input on this side has answered so far. -/
def answersOf (select : UnfairSelect (Observed S₁ α) (Observed S₂ α)) :
    PollNext → List (Poll (Option α))
  | .left => select.stream1.answers
  | .right => select.stream2.answers

variable (poll₁ : S₁ → S₁ × Poll (Option α))
  (poll₂ : S₂ → S₂ × Poll (Option α))

/-- What the input on this side would answer now. -/
def offers (select : UnfairSelect (Observed S₁ α) (Observed S₂ α)) :
    PollNext → Poll (Option α)
  | .left => (poll₁ select.stream1.stream).2
  | .right => (poll₂ select.stream2.stream).2

/-- The ways through `poll_next`: which side answers for both, if any. -/
inductive PolledNext
    (select next : UnfairSelect (Observed S₁ α) (Observed S₂ α)) :
    Poll (Option α) → Prop where
  | finished
      (hfinished : select.finished = true)
      (hnext : next.finished = true)
      (hstream1 : next.stream1 = select.stream1)
      (hstream2 : next.stream2 = select.stream2) :
      PolledNext select next (.ready none)
  | answered (side : PollNext) (answer : Option α)
      (hopen : select.finished = false)
      (hoffers : select.offers poll₁ poll₂ side = .ready answer)
      (hfirst : side = select.next ∨
        select.offers poll₁ poll₂ select.next = .pending)
      (htoggled : next.next = select.next.other)
      (hfinished : next.finished = answer.isNone)
      (hside : next.answersOf side = select.answersOf side ++ [.ready answer])
      (hother : next.answersOf side.other = select.answersOf side.other ∨
        next.answersOf side.other =
          select.answersOf side.other ++ [.pending]) :
      PolledNext select next (.ready answer)
  | pending
      (hopen : select.finished = false)
      (hoffers : ∀ side, select.offers poll₁ poll₂ side = .pending)
      (htoggled : next.next = select.next.other)
      (hfinished : next.finished = false)
      (hside : ∀ side,
        next.answersOf side = select.answersOf side ++ [.pending]) :
      PolledNext select next .pending

/-- What polling one side leaves of the select. -/
structure SidePolled (side : PollNext)
    (select next : UnfairSelect (Observed S₁ α) (Observed S₂ α)) : Prop where
  answers : next.answersOf side =
    select.answersOf side ++ [select.offers poll₁ poll₂ side]
  other : next.answersOf side.other = select.answersOf side.other
  offers : next.offers poll₁ poll₂ side.other =
    select.offers poll₁ poll₂ side.other
  finished : next.finished = select.finished
  turn : next.next = select.next

variable {poll₁ poll₂}
  {select : UnfairSelect (Observed S₁ α) (Observed S₂ α)}

variable (poll₁ poll₂) in
theorem exists_pollSide (side : PollNext)
    (select : UnfairSelect (Observed S₁ α) (Observed S₂ α)) :
    ∃ next, SidePolled poll₁ poll₂ side select next ∧
      select.pollSide (Observed.pollNext poll₁) (Observed.pollNext poll₂)
        side = (next, select.offers poll₁ poll₂ side) := by
  refine ⟨(select.pollSide (Observed.pollNext poll₁) (Observed.pollNext poll₂)
    side).1, ?_, ?_⟩
  · cases side with
    | left => exact ⟨rfl, rfl, rfl, rfl, rfl⟩
    | right => exact ⟨rfl, rfl, rfl, rfl, rfl⟩
  · cases side with
    | left => rfl
    | right => rfl

theorem polledNext
    (select : UnfairSelect (Observed S₁ α) (Observed S₂ α)) :
    PolledNext poll₁ poll₂ select
      (select.pollNext (Observed.pollNext poll₁) (Observed.pollNext poll₂)).1
      (select.pollNext (Observed.pollNext poll₁)
        (Observed.pollNext poll₂)).2 := by
  unfold pollNext
  dsimp only [PollNext.toggle]
  split
  · next hfinished => exact .finished hfinished hfinished rfl rfl
  · next hopen =>
      rw [Bool.not_eq_true] at hopen
      obtain ⟨first, hfirst, hpolled⟩ := exists_pollSide poll₁ poll₂
        select.next { select with next := select.next.other }
      have hside : first.answersOf select.next =
          select.answersOf select.next ++
            [select.offers poll₁ poll₂ select.next] := hfirst.answers
      change _ = (first, select.offers poll₁ poll₂ select.next) at hpolled
      unfold pollInner
      rw [hpolled]
      cases hoffers : select.offers poll₁ poll₂ select.next with
      | ready answer =>
          rw [hoffers] at hside
          cases answer with
          | some item =>
              exact .answered _ _ hopen hoffers (.inl rfl) hfirst.turn
                (hfirst.finished.trans hopen) hside (.inl hfirst.other)
          | none =>
              exact .answered _ _ hopen hoffers (.inl rfl) hfirst.turn rfl
                hside (.inl hfirst.other)
      | pending =>
          rw [hoffers] at hside
          -- the side that was skipped over is polled now, and decides
          obtain ⟨second, hsecond, hpolled'⟩ := exists_pollSide poll₁ poll₂
            select.next.other first
          have hleft := hsecond.other
          rw [PollNext.other_other, hside] at hleft
          have hanswer : first.offers poll₁ poll₂ select.next.other =
              select.offers poll₁ poll₂ select.next.other := hfirst.offers
          have hother := hsecond.answers
          rw [hanswer, hfirst.other] at hother
          rw [hanswer] at hpolled'
          dsimp only
          rw [hpolled']
          have hturn := hsecond.turn.trans hfirst.turn
          have hfinished := hsecond.finished.trans (hfirst.finished.trans hopen)
          cases hoffers' : select.offers poll₁ poll₂ select.next.other with
          | ready answer =>
              rw [hoffers'] at hother
              cases answer with
              | some item =>
                  refine .answered select.next.other _ hopen hoffers'
                    (.inr hoffers) hturn hfinished hother (.inr ?_)
                  rw [PollNext.other_other]
                  exact hleft
              | none =>
                  refine .answered select.next.other _ hopen hoffers'
                    (.inr hoffers) hturn rfl hother (.inr ?_)
                  rw [PollNext.other_other]
                  exact hleft
          | pending =>
              rw [hoffers'] at hother
              exact .pending hopen
                (PollNext.forall_of_other select.next hoffers hoffers') hturn
                hfinished (PollNext.forall_of_other select.next hleft hother)

end UnfairSelect

/-- The select is polled, or the streams have got into other states in the
meantime. -/
inductive MergeAction (S₁ : Type u) (S₂ : Type v) where
  | pollNext
  | change (stream1 : S₁) (stream2 : S₂)

/-- `answers` is what the select has answered so far. -/
structure MergeWorld (S₁ : Type u) (S₂ : Type v) (α : Type w) where
  select : UnfairSelect (Observed S₁ α) (Observed S₂ α)
  answers : List (Poll (Option α))

namespace MergeWorld

variable {S₁ : Type u} {S₂ : Type v} {α : Type w}

def init (stream1 : S₁) (stream2 : S₂) : MergeWorld S₁ S₂ α :=
  ⟨unfairSelect ⟨stream1, []⟩ ⟨stream2, []⟩, []⟩

variable (poll₁ : S₁ → S₁ × Poll (Option α))
  (poll₂ : S₂ → S₂ × Poll (Option α))

/-- One call of `poll_next`. -/
def poll (world : MergeWorld S₁ S₂ α) : MergeWorld S₁ S₂ α :=
  let (select, answer) :=
    world.select.pollNext (Observed.pollNext poll₁) (Observed.pollNext poll₂)
  ⟨select, world.answers ++ [answer]⟩

def change (world : MergeWorld S₁ S₂ α) (stream1 : S₁) (stream2 : S₂) :
    MergeWorld S₁ S₂ α :=
  { world with select := { world.select with
      stream1 := { world.select.stream1 with stream := stream1 }
      stream2 := { world.select.stream2 with stream := stream2 } } }

def step (world : MergeWorld S₁ S₂ α) :
    MergeAction S₁ S₂ → MergeWorld S₁ S₂ α
  | .pollNext => world.poll poll₁ poll₂
  | .change stream1 stream2 => world.change stream1 stream2

def run (world : MergeWorld S₁ S₂ α) (actions : List (MergeAction S₁ S₂)) :
    MergeWorld S₁ S₂ α :=
  actions.foldl (step poll₁ poll₂) world

/-- The call returns an item, and it is the one that this input gave. -/
def Serves (world : MergeWorld S₁ S₂ α) (side : PollNext) : Prop :=
  ∃ item,
    (world.poll poll₁ poll₂).answers =
        world.answers ++ [.ready (some item)] ∧
      (world.poll poll₁ poll₂).select.answersOf side =
        world.select.answersOf side ++ [.ready (some item)]

/-- What is promised of a select with this history, and of its next calls.  In
`fair`, the two calls have nothing but changes of the streams between them. -/
structure MergesFairly (world : MergeWorld S₁ S₂ α) : Prop where
  interleaves : Interleaves (itemsOf (world.select.answersOf .left))
    (itemsOf (world.select.answersOf .right)) (itemsOf world.answers)
  ends : .ready none ∈ world.answers ↔
    ∃ side, .ready none ∈ world.select.answersOf side
  pending : (world.poll poll₁ poll₂).answers = world.answers ++ [.pending] →
    ∀ side, (world.poll poll₁ poll₂).select.answersOf side =
      world.select.answersOf side ++ [.pending]
  fair : ∀ side stream1 stream2 item item',
    .ready none ∉ (world.poll poll₁ poll₂).answers →
    world.select.offers poll₁ poll₂ side = .ready (some item) →
    ((world.poll poll₁ poll₂).change stream1 stream2).select.offers
        poll₁ poll₂ side = .ready (some item') →
    world.Serves poll₁ poll₂ side ∨
      ((world.poll poll₁ poll₂).change stream1 stream2).Serves
        poll₁ poll₂ side
  finished : .ready none ∈ world.answers →
    (world.poll poll₁ poll₂).answers = world.answers ++ [.ready none] ∧
      (world.poll poll₁ poll₂).select.stream1 = world.select.stream1 ∧
      (world.poll poll₁ poll₂).select.stream2 = world.select.stream2

variable {poll₁ poll₂} {world : MergeWorld S₁ S₂ α}

theorem poll_cases (world : MergeWorld S₁ S₂ α) :
    ∃ answer, (world.poll poll₁ poll₂).answers = world.answers ++ [answer] ∧
      UnfairSelect.PolledNext poll₁ poll₂ world.select
        (world.poll poll₁ poll₂).select answer :=
  ⟨_, rfl, world.select.polledNext⟩

/-- What holds of every history: the items are merged, and the end of an input
is the end of the select. -/
structure Merged (world : MergeWorld S₁ S₂ α) : Prop where
  interleaves : Interleaves (itemsOf (world.select.answersOf .left))
    (itemsOf (world.select.answersOf .right)) (itemsOf world.answers)
  returned : .ready none ∈ world.answers ↔ world.select.finished = true
  ended : (∃ side, .ready none ∈ world.select.answersOf side) ↔
    world.select.finished = true

theorem merged_init (stream1 : S₁) (stream2 : S₂) :
    Merged (init stream1 stream2 : MergeWorld S₁ S₂ α) := by
  refine ⟨.nil, ?_, ?_⟩
  · simp [init, unfairSelect]
  · simp only [init, unfairSelect, Bool.false_eq_true, iff_false]
    rintro ⟨side, hside⟩
    cases side with
    | left => cases hside
    | right => cases hside

theorem Merged.change (h : Merged world) (stream1 : S₁) (stream2 : S₂) :
    Merged (world.change stream1 stream2) := by
  have hanswers : ∀ side, (world.change stream1 stream2).select.answersOf
      side = world.select.answersOf side := by
    intro side
    cases side with
    | left => rfl
    | right => rfl
  refine ⟨h.interleaves, h.returned, ?_⟩
  simp only [hanswers]
  exact h.ended

theorem interleaves_of_answered
    {select next : UnfairSelect (Observed S₁ α) (Observed S₂ α)}
    {merged : List (Poll (Option α))} {side : PollNext} {answer : Option α}
    (h : Interleaves (itemsOf (select.answersOf .left))
      (itemsOf (select.answersOf .right)) (itemsOf merged))
    (hside : next.answersOf side = select.answersOf side ++ [.ready answer])
    (hother : itemsOf (next.answersOf side.other) =
      itemsOf (select.answersOf side.other)) :
    Interleaves (itemsOf (next.answersOf .left))
      (itemsOf (next.answersOf .right))
      (itemsOf (merged ++ [.ready answer])) := by
  cases side with
  | left =>
      rw [PollNext.other] at hother
      rw [hside, hother]
      cases answer with
      | none => simpa using h
      | some item => simpa using h.left item
  | right =>
      rw [PollNext.other] at hother
      rw [hside, hother]
      cases answer with
      | none => simpa using h
      | some item => simpa using h.right item

theorem Merged.poll (h : Merged world) :
    Merged (world.poll poll₁ poll₂) := by
  obtain ⟨answer, hanswers, hpolled⟩ := world.poll_cases
  generalize world.poll poll₁ poll₂ = next at hanswers hpolled ⊢
  cases hpolled with
  | finished hfinished hnext hstream1 hstream2 =>
      have hsame : ∀ side, next.select.answersOf side =
          world.select.answersOf side := by
        intro side
        cases side with
        | left => exact congrArg Observed.answers hstream1
        | right => exact congrArg Observed.answers hstream2
      refine ⟨?_, ?_, ?_⟩
      · rw [hsame, hsame, hanswers, itemsOf_append_end]
        exact h.interleaves
      · simp [hanswers, hnext]
      · simp only [hsame, hnext, iff_true]
        exact h.ended.mpr hfinished
  | answered side answer hopen _ _ _ hfinished hside hother =>
      have hnone := mt h.returned.mp (Bool.eq_false_iff.mp hopen)
      have hnot : ∀ side, .ready none ∉ world.select.answersOf side := by
        intro side hmem
        exact Bool.eq_false_iff.mp hopen (h.ended.mp ⟨side, hmem⟩)
      have hitems : itemsOf (next.select.answersOf side.other) =
          itemsOf (world.select.answersOf side.other) := by
        rcases hother with hother | hother
        · rw [hother]
        · rw [hother, itemsOf_append_pending]
      refine ⟨?_, ?_, ?_⟩
      · rw [hanswers]
        exact interleaves_of_answered h.interleaves hside hitems
      · rw [hanswers, hfinished]
        cases answer with
        | none => simp
        | some item => simpa using hnone
      · rw [hfinished, Option.isNone_iff_eq_none]
        have honly : ∀ which, .ready none ∈ next.select.answersOf which →
            answer = none := by
          refine PollNext.forall_of_other side (fun hmem => ?_) fun hmem => ?_
          · simpa [hside, hnot, eq_comm] using hmem
          · rcases hother with hother | hother
            · exact absurd (hother ▸ hmem) (hnot _)
            · simp [hother, hnot] at hmem
        constructor
        · rintro ⟨which, hmem⟩
          exact honly which hmem
        · rintro rfl
          exact ⟨side, by simp [hside]⟩
  | pending hopen _ _ hfinished hside =>
      refine ⟨?_, ?_, ?_⟩
      · rw [hside, hside, hanswers, itemsOf_append_pending,
          itemsOf_append_pending, itemsOf_append_pending]
        exact h.interleaves
      · simp [hanswers, h.returned, hopen, hfinished]
      · simp only [hside, List.mem_append, List.mem_singleton, reduceCtorEq,
          or_false, hfinished]
        refine h.ended.trans ?_
        simp [hopen]

theorem merged_run (stream1 : S₁) (stream2 : S₂)
    (actions : List (MergeAction S₁ S₂)) :
    Merged ((init stream1 stream2 : MergeWorld S₁ S₂ α).run
      poll₁ poll₂ actions) := by
  have hrun : ∀ (actions : List (MergeAction S₁ S₂))
      (world : MergeWorld S₁ S₂ α), Merged world →
        Merged (world.run poll₁ poll₂ actions) := by
    intro actions
    induction actions with
    | nil => exact fun world h => h
    | cons action rest ih =>
        intro world h
        refine ih _ ?_
        cases action with
        | pollNext => exact h.poll
        | change stream1 stream2 => exact h.change stream1 stream2
  exact hrun actions _ (merged_init stream1 stream2)

/-- The preferred side is served if it has anything. -/
theorem serves_of_next (hopen : world.select.finished = false) {item : α}
    (hoffers : world.select.offers poll₁ poll₂ world.select.next =
      .ready (some item)) :
    world.Serves poll₁ poll₂ world.select.next := by
  obtain ⟨answer, hanswers, hpolled⟩ := world.poll_cases
  unfold Serves
  generalize world.poll poll₁ poll₂ = next at hanswers hpolled ⊢
  cases hpolled with
  | finished hfinished =>
      rw [hopen] at hfinished
      cases hfinished
  | answered side answer _ hoffers' hfirst _ _ hside =>
      rcases hfirst with rfl | hpending
      · rw [hoffers] at hoffers'
        cases hoffers'
        exact ⟨item, hanswers, hside⟩
      · rw [hoffers] at hpending
        cases hpending
  | pending _ hpending =>
      rw [hpending] at hoffers
      cases hoffers

/-- The other side is served now, or is the preferred one in the next call. -/
theorem serves_or_next (hnone : .ready none ∉ (world.poll poll₁ poll₂).answers)
    {side : PollNext} {item : α}
    (hoffers : world.select.offers poll₁ poll₂ side = .ready (some item)) :
    world.Serves poll₁ poll₂ side ∨
      (world.poll poll₁ poll₂).select.finished = false ∧
        (world.poll poll₁ poll₂).select.next = side := by
  obtain ⟨answer, hanswers, hpolled⟩ := world.poll_cases
  unfold Serves
  generalize world.poll poll₁ poll₂ = next at hanswers hpolled hnone ⊢
  rw [hanswers] at hnone
  cases hpolled with
  | finished => exact absurd (List.mem_concat_self) hnone
  | answered other answer hopen hoffers' hfirst htoggled hfinished hside =>
      cases answer with
      | none => exact absurd (List.mem_concat_self) hnone
      | some item' =>
          by_cases heq : side = other
          · subst heq
            exact .inl ⟨item', hanswers, hside⟩
          · refine .inr ⟨hfinished, ?_⟩
            obtain rfl := PollNext.eq_other_of_ne heq
            rcases hfirst with hfirst | hpending
            · rw [htoggled, hfirst]
            · -- then this side was asked first, and had its item
              have hne : world.select.next ≠ other := by
                rintro rfl
                rw [hpending] at hoffers'
                cases hoffers'
              rw [PollNext.eq_other_of_ne hne, hoffers] at hpending
              cases hpending
  | pending _ hpending =>
      rw [hpending] at hoffers
      cases hoffers

/-- Every history of the select, over any two streams. -/
theorem mergesFairly_run (poll₁ : S₁ → S₁ × Poll (Option α))
    (poll₂ : S₂ → S₂ × Poll (Option α)) (stream1 : S₁) (stream2 : S₂)
    (actions : List (MergeAction S₁ S₂)) :
    MergesFairly poll₁ poll₂
      ((init stream1 stream2).run poll₁ poll₂ actions) := by
  have h := @merged_run _ _ _ poll₁ poll₂ stream1 stream2 actions
  generalize (init stream1 stream2).run poll₁ poll₂ actions = world at h ⊢
  obtain ⟨answer, hanswers, hpolled⟩ := @poll_cases _ _ _ poll₁ poll₂ world
  refine ⟨h.interleaves, h.returned.trans h.ended.symm, ?_, ?_, ?_⟩
  · intro hpending
    rw [hanswers, List.append_cancel_left_eq, List.singleton_inj] at hpending
    subst hpending
    cases hpolled with
    | pending _ _ _ _ hside => exact hside
  · intro side stream1 stream2 item item' hnone hoffers hoffers'
    refine (serves_or_next hnone hoffers).imp_right ?_
    rintro ⟨hopen, rfl⟩
    exact serves_of_next hopen hoffers'
  · intro hnone
    have hfinished := h.returned.mp hnone
    cases hpolled with
    | finished _ _ hstream1 hstream2 =>
        exact ⟨hanswers, hstream1, hstream2⟩
    | answered _ _ hopen =>
        rw [hfinished] at hopen
        cases hopen
    | pending hopen =>
        rw [hfinished] at hopen
        cases hopen

end MergeWorld

end Epoxy
