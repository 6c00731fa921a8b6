/-
Machines with refused actions.  A machine answers an action with its next
state or refuses it; runs are lists of actions, and an invariant is proved
once per action and carried along every run by the rules below.  A recording
machine pairs its state with the observations made so far, so that a property
of a whole history is again a property of one state.
-/
import Mathlib.Data.List.Basic

namespace ActionMachine

universe u v w

variable {S : Type u} {A : Type v} {O : Type w}

/-- `step s a = none` means that `a` cannot be taken in `s`. -/
structure Machine (S : Type u) (A : Type v) where
  step : S → A → Option S

namespace Machine

/-- Take the actions from left to right; a refused action refuses the run. -/
def run (M : Machine S A) : S → List A → Option S
  | s, [] => some s
  | s, a :: rest => (M.step s a).bind fun t => M.run t rest

def Reachable (M : Machine S A) (init s : S) : Prop :=
  ∃ actions, M.run init actions = some s

/-- Every action of the run satisfies `G` in the state where it is taken. -/
def Meets (M : Machine S A) (G : S → A → Prop) : S → List A → Prop
  | _, [] => True
  | s, a :: rest => G s a ∧ ∀ t, M.step s a = some t → M.Meets G t rest

/-- What the actions of a run contribute to its history, in order. -/
def collect (M : Machine S A) (f : S → A → List O) : S → List A → List O
  | _, [] => []
  | s, a :: rest =>
      match M.step s a with
      | some t => f s a ++ M.collect f t rest
      | none => []

variable (M : Machine S A)

@[simp] theorem run_nil (s : S) : M.run s [] = some s := rfl

@[simp] theorem run_cons (s : S) (a : A) (rest : List A) :
    M.run s (a :: rest) = (M.step s a).bind fun t => M.run t rest := rfl

theorem run_append (s : S) (first second : List A) :
    M.run s (first ++ second) =
      (M.run s first).bind fun t => M.run t second := by
  induction first generalizing s with
  | nil => rfl
  | cons a rest ih =>
      cases hstep : M.step s a with
      | none => simp [hstep]
      | some t => simp [hstep, ih]

/-- Two runs, one from where the other stopped, are one run. -/
theorem run_append_of_eq_some {s t u : S} {first second : List A}
    (hfirst : M.run s first = some t) (hsecond : M.run t second = some u) :
    M.run s (first ++ second) = some u := by
  rw [run_append, hfirst]
  exact hsecond

theorem run_cons_eq_some {s u : S} {a : A} {rest : List A}
    (hrun : M.run s (a :: rest) = some u) :
    ∃ t, M.step s a = some t ∧ M.run t rest = some u := by
  simpa [Option.bind_eq_some_iff] using hrun

theorem meets_append {G : S → A → Prop} {s : S} {first second : List A} :
    M.Meets G s (first ++ second) ↔
      M.Meets G s first ∧
        ∀ t, M.run s first = some t → M.Meets G t second := by
  induction first generalizing s with
  | nil => simp [Meets]
  | cons a rest ih =>
      simp only [List.cons_append, Meets, run_cons,
        Option.bind_eq_some_iff, and_assoc]
      constructor
      · rintro ⟨ha, hrest⟩
        refine ⟨ha, fun t ht => (ih.mp (hrest t ht)).1, ?_⟩
        rintro u ⟨t, ht, hu⟩
        exact (ih.mp (hrest t ht)).2 u hu
      · rintro ⟨ha, hrest, hlast⟩
        refine ⟨ha, fun t ht => ih.mpr ⟨hrest t ht, fun u hu => ?_⟩⟩
        exact hlast u ⟨t, ht, hu⟩

theorem Meets.cons {M : Machine S A} {G : S → A → Prop} {s t : S} {a : A}
    {rest : List A} (ha : G s a) (hstep : M.step s a = some t)
    (hrest : M.Meets G t rest) : M.Meets G s (a :: rest) := by
  refine ⟨ha, fun u hu => ?_⟩
  rw [hstep] at hu
  cases hu
  exact hrest

/-- A guard that holds of some actions in every state holds along them. -/
theorem meets_of_forall {G : S → A → Prop} {s : S} {actions : List A}
    (hall : ∀ s, ∀ a ∈ actions, G s a) : M.Meets G s actions := by
  induction actions generalizing s with
  | nil => trivial
  | cons a rest ih =>
      refine ⟨hall s a List.mem_cons_self, fun t _ => ih fun s b hb => ?_⟩
      exact hall s b (List.mem_cons_of_mem a hb)

theorem meets_and {G H : S → A → Prop} {s : S} {actions : List A} :
    M.Meets (fun s a => G s a ∧ H s a) s actions ↔
      M.Meets G s actions ∧ M.Meets H s actions := by
  induction actions generalizing s with
  | nil => simp [Meets]
  | cons a rest ih =>
      simp only [Meets, ih]
      constructor
      · rintro ⟨⟨hG, hH⟩, hrest⟩
        exact ⟨⟨hG, fun t ht => (hrest t ht).1⟩,
          ⟨hH, fun t ht => (hrest t ht).2⟩⟩
      · rintro ⟨⟨hG, hrest⟩, ⟨hH, hrest'⟩⟩
        exact ⟨⟨hG, hH⟩, fun t ht => ⟨hrest t ht, hrest' t ht⟩⟩

/-- The rule for runs whose actions all meet a guard. -/
theorem run_invariant_of_meets {G : S → A → Prop} {I : S → Prop}
    (hstep : ∀ s a t, I s → G s a → M.step s a = some t → I t)
    {s t : S} {actions : List A} (hs : I s)
    (hmeets : M.Meets G s actions) (hrun : M.run s actions = some t) :
    I t := by
  induction actions generalizing s with
  | nil =>
      obtain rfl : s = t := by simpa using hrun
      exact hs
  | cons a rest ih =>
      obtain ⟨next, hnext, hrest⟩ := M.run_cons_eq_some hrun
      exact ih (hstep s a next hs hmeets.1 hnext) (hmeets.2 next hnext) hrest

/-- What every step of a run establishes holds where the run ends. -/
theorem Meets.holds {M : Machine S A} {P : S → Prop} {s t : S}
    {actions : List A}
    (h : M.Meets (fun s a => ∀ t, M.step s a = some t → P t) s actions)
    (hs : P s) (hrun : M.run s actions = some t) : P t :=
  M.run_invariant_of_meets (fun _ _ t _ hg hstep => hg t hstep) hs h hrun

/-- The invariant rule: one obligation per action, one conclusion per run. -/
theorem run_invariant {I : S → Prop}
    (hstep : ∀ s a t, I s → M.step s a = some t → I t)
    {s t : S} {actions : List A} (hs : I s)
    (hrun : M.run s actions = some t) : I t := by
  exact M.run_invariant_of_meets
    (fun s a t hs _ hnext => hstep s a t hs hnext) hs
    (M.meets_of_forall fun _ _ _ => trivial) hrun

/-- A guard that another one implies wherever an invariant holds. -/
theorem meets_of_invariant {G H : S → A → Prop} {I : S → Prop}
    (himp : ∀ s a t, I s → H s a → M.step s a = some t → G s a)
    (hstep : ∀ s a t, I s → H s a → M.step s a = some t → I t)
    {s t : S} {actions : List A} (hs : I s)
    (hrun : M.run s actions = some t) (hmeets : M.Meets H s actions) :
    M.Meets G s actions := by
  induction actions generalizing s with
  | nil => trivial
  | cons a rest ih =>
      obtain ⟨next, hnext, hrest⟩ := M.run_cons_eq_some hrun
      exact .cons (himp s a next hs hmeets.1 hnext) hnext
        (ih (hstep s a next hs hmeets.1 hnext) hrest (hmeets.2 next hnext))

/-- Two guards that say the same of every step, where an invariant holds, say
the same of every run. -/
theorem meets_iff_of_invariant {G H : S → A → Prop} {I : S → Prop}
    (hiff : ∀ s a t, I s → M.step s a = some t → (G s a ↔ H s a))
    (hstep : ∀ s a t, I s → H s a → M.step s a = some t → I t)
    {s t : S} {actions : List A} (hs : I s)
    (hrun : M.run s actions = some t) :
    M.Meets G s actions ↔ M.Meets H s actions := by
  induction actions generalizing s with
  | nil => simp [Meets]
  | cons a rest ih =>
      obtain ⟨next, hnext, hrest⟩ := M.run_cons_eq_some hrun
      have hhead := hiff s a next hs hnext
      constructor
      · rintro ⟨ha, hmeets⟩
        have hnextInv := hstep s a next hs (hhead.mp ha) hnext
        exact .cons (hhead.mp ha) hnext
          ((ih hnextInv hrest).mp (hmeets next hnext))
      · rintro ⟨ha, hmeets⟩
        have hnextInv := hstep s a next hs ha hnext
        exact .cons (hhead.mpr ha) hnext
          ((ih hnextInv hrest).mpr (hmeets next hnext))

/-- Where every step that misses the guard ruins for good what the others
keep, a run has kept it exactly if all of its steps met the guard. -/
theorem holds_iff_meets {G : S → A → Prop} {I L P : S → Prop}
    (hkeep : ∀ s a t, I s → G s a → M.step s a = some t → I t)
    (hruin : ∀ s a t, I s → ¬ G s a → M.step s a = some t → L t)
    (hstay : ∀ s a t, L s → M.step s a = some t → L t)
    (hgood : ∀ s, I s → P s) (hbad : ∀ s, L s → ¬ P s)
    {s t : S} {actions : List A} (hs : I s)
    (hrun : M.run s actions = some t) : P t ↔ M.Meets G s actions := by
  induction actions generalizing s with
  | nil =>
      obtain rfl : s = t := by simpa using hrun
      exact iff_of_true (hgood s hs) trivial
  | cons a rest ih =>
      obtain ⟨next, hnext, hrest⟩ := M.run_cons_eq_some hrun
      by_cases ha : G s a
      · rw [ih (hkeep s a next hs ha hnext) hrest]
        constructor
        · intro hmeets
          exact .cons ha hnext hmeets
        · intro hmeets
          exact hmeets.2 next hnext
      · have hruined : L t :=
          M.run_invariant hstay (hruin s a next hs ha hnext) hrest
        exact iff_of_false (hbad t hruined) fun hmeets => ha hmeets.1

theorem collect_cons {f : S → A → List O} {s t : S} {a : A} {rest : List A}
    (hstep : M.step s a = some t) :
    M.collect f s (a :: rest) = f s a ++ M.collect f t rest := by
  simp only [collect, hstep]

/-- The invariant rule for a state and the history that led to it. -/
theorem run_collect_invariant {f : S → A → List O} {I : S → List O → Prop}
    (hstep : ∀ s a t history, I s history → M.step s a = some t →
      I t (history ++ f s a))
    {s t : S} {actions : List A} {history : List O} (hs : I s history)
    (hrun : M.run s actions = some t) :
    I t (history ++ M.collect f s actions) := by
  induction actions generalizing s history with
  | nil =>
      obtain rfl : s = t := by simpa using hrun
      simpa [collect] using hs
  | cons a rest ih =>
      obtain ⟨next, hnext, hrest⟩ := M.run_cons_eq_some hrun
      have hlast := ih (hstep s a next history hs hnext) hrest
      rw [M.collect_cons hnext, ← List.append_assoc]
      exact hlast

/-- The same for a history that the actions alone make. -/
theorem run_history_invariant {f : A → List O} {I : S → List O → Prop}
    (hstep : ∀ s a t history, I s history → M.step s a = some t →
      I t (history ++ f a))
    {s t : S} {actions : List A} {history : List O} (hs : I s history)
    (hrun : M.run s actions = some t) :
    I t (history ++ actions.flatMap f) := by
  induction actions generalizing s history with
  | nil =>
      obtain rfl : s = t := by simpa using hrun
      simpa using hs
  | cons a rest ih =>
      obtain ⟨next, hnext, hrest⟩ := M.run_cons_eq_some hrun
      have hlast := ih (hstep s a next history hs hnext) hrest
      rwa [List.append_assoc, ← List.flatMap_cons] at hlast

theorem Reachable.run {M : Machine S A} {init s t : S} {actions : List A}
    (hreach : M.Reachable init s) (hrun : M.run s actions = some t) :
    M.Reachable init t := by
  obtain ⟨first, hfirst⟩ := hreach
  exact ⟨first ++ actions, M.run_append_of_eq_some hfirst hrun⟩

theorem Reachable.step {M : Machine S A} {init s t : S} {a : A}
    (hreach : M.Reachable init s) (hstep : M.step s a = some t) :
    M.Reachable init t := by
  exact hreach.run (show M.run s [a] = some t by simp [hstep])

/-- Whatever is reachable after a step is reachable before it. -/
theorem Reachable.of_step {M : Machine S A} {s t u : S} {a : A}
    (hstep : M.step s a = some t) (hreach : M.Reachable t u) :
    M.Reachable s u := by
  obtain ⟨actions, hrun⟩ := hreach
  refine ⟨a :: actions, ?_⟩
  rw [run_cons, hstep]
  exact hrun

theorem Reachable.invariant {M : Machine S A} {I : S → Prop}
    (hstep : ∀ s a t, I s → M.step s a = some t → I t)
    {init s : S} (hinit : I init) (hreach : M.Reachable init s) : I s := by
  obtain ⟨actions, hrun⟩ := hreach
  exact M.run_invariant hstep hinit hrun

variable {T : Type*} {B : Type*}

/-- Where every step of one machine is matched by a run of another, every
state it reaches is related to one that the other reaches. -/
theorem Reachable.simulate {M : Machine S A} {N : Machine T B}
    (R : S → T → Prop)
    (hmatch : ∀ s t a s', R s t → M.step s a = some s' →
      ∃ actions t', N.run t actions = some t' ∧ R s' t')
    {init s : S} {start : T} (hinit : R init start)
    (hreach : M.Reachable init s) : ∃ t, N.Reachable start t ∧ R s t := by
  obtain ⟨actions, hrun⟩ := hreach
  induction actions generalizing init start with
  | nil =>
      obtain rfl : init = s := by simpa using hrun
      exact ⟨start, ⟨[], rfl⟩, hinit⟩
  | cons a rest ih =>
      obtain ⟨next, hnext, hrest⟩ := M.run_cons_eq_some hrun
      obtain ⟨first, mid, hfirst, hmid⟩ := hmatch init start a next hinit hnext
      obtain ⟨t, ⟨last, hlast⟩, hrel⟩ := ih hmid hrest
      exact ⟨t, ⟨first ++ last, N.run_append_of_eq_some hfirst hlast⟩, hrel⟩

/-- Where every step from an embedded state is one of the embedded machine,
so is every run. -/
theorem run_of_embed (M : Machine S A) {N : Machine T B} {C : Type*}
    {f : T → S} {g : C → A} {e : C → B}
    (hstep : ∀ t a s, M.step (f t) a = some s →
      ∃ c next, a = g c ∧ s = f next ∧ N.step t (e c) = some next)
    {t : T} {actions : List A} {s : S}
    (hrun : M.run (f t) actions = some s) :
    ∃ given next, actions = List.map g given ∧ s = f next ∧
      N.run t (List.map e given) = some next := by
  induction actions generalizing t with
  | nil =>
      cases hrun
      exact ⟨[], t, rfl, rfl, rfl⟩
  | cons a rest ih =>
      obtain ⟨mid, hmid, hrest⟩ := M.run_cons_eq_some hrun
      obtain ⟨c, between, rfl, rfl, hbetween⟩ := hstep t a mid hmid
      obtain ⟨given, next, rfl, rfl, hnext⟩ := ih hrest
      refine ⟨c :: given, next, rfl, rfl, ?_⟩
      rw [List.map_cons, run_cons]
      exact Option.bind_eq_some_iff.mpr ⟨between, hbetween, hnext⟩

/-- No action can be taken. -/
def Terminal (M : Machine S A) (s : S) : Prop := ∀ a, M.step s a = none

/-- Two different actions that can both be taken can be taken in either
order, with the same result. -/
def Diamond (M : Machine S A) : Prop :=
  ∀ s a b t u, a ≠ b → M.step s a = some t → M.step s b = some u →
    ∃ v, M.step t b = some v ∧ M.step u a = some v

/-- A run to its end survives any first step, and becomes one shorter. -/
theorem Diamond.run_of_step [DecidableEq A] {M : Machine S A}
    (hdiamond : M.Diamond) {s t u : S} {a : A} {actions : List A}
    (hend : M.Terminal t) (hrun : M.run s actions = some t)
    (hstep : M.step s a = some u) :
    ∃ rest, M.run u rest = some t ∧ actions.length = rest.length + 1 := by
  induction actions generalizing s u with
  | nil =>
      obtain rfl : s = t := by simpa using hrun
      rw [hend a] at hstep
      cases hstep
  | cons b rest ih =>
      obtain ⟨v, hv, hrest⟩ := M.run_cons_eq_some hrun
      by_cases hab : a = b
      · subst hab
        obtain rfl : u = v := by simpa [hstep] using hv
        exact ⟨rest, hrest, rfl⟩
      · obtain ⟨w, huw, hvw⟩ := hdiamond s a b u v hab hstep hv
        obtain ⟨last, hlast, hlength⟩ := ih hrest hvw
        refine ⟨b :: last, ?_, ?_⟩
        · rw [run_cons, huw]
          exact hlast
        · simp only [List.length_cons, hlength]

/-- Where the actions commute, one run to an end decides all runs: each of
them can be completed to this end, in the same number of steps. -/
theorem Diamond.complete [DecidableEq A] {M : Machine S A}
    (hdiamond : M.Diamond) {s t u : S} {actions other : List A}
    (hend : M.Terminal t) (hrun : M.run s actions = some t)
    (hother : M.run s other = some u) :
    ∃ rest, M.run u rest = some t ∧
      actions.length = other.length + rest.length := by
  induction other generalizing s actions with
  | nil =>
      obtain rfl : s = u := by simpa using hother
      exact ⟨actions, hrun, by simp⟩
  | cons a last ih =>
      obtain ⟨v, hv, hlast⟩ := M.run_cons_eq_some hother
      obtain ⟨first, hfirst, hlength⟩ := hdiamond.run_of_step hend hrun hv
      obtain ⟨rest, hrest, hsum⟩ := ih hfirst hlast
      refine ⟨rest, hrest, ?_⟩
      simp only [List.length_cons]
      omega

/-- An end stays reachable from wherever a run has got to. -/
theorem Diamond.reachable_end [DecidableEq A] {M : Machine S A}
    (hdiamond : M.Diamond) {s t u : S} (hend : M.Terminal t)
    (hreach : M.Reachable s t) (hreach' : M.Reachable s u) :
    M.Reachable u t := by
  obtain ⟨actions, hrun⟩ := hreach
  obtain ⟨other, hother⟩ := hreach'
  obtain ⟨rest, hrest, -⟩ := hdiamond.complete hend hrun hother
  exact ⟨rest, hrest⟩

/-- Where the actions commute there is at most one end. -/
theorem Diamond.eq_of_terminal [DecidableEq A] {M : Machine S A}
    (hdiamond : M.Diamond) {s t u : S} (hend : M.Terminal t)
    (hother : M.Terminal u) (hreach : M.Reachable s t)
    (hreach' : M.Reachable s u) : u = t := by
  obtain ⟨rest, hrest⟩ := hdiamond.reachable_end hend hreach hreach'
  cases rest with
  | nil => simpa using hrest
  | cons a last =>
      obtain ⟨v, hv, -⟩ := M.run_cons_eq_some hrest
      rw [hother a] at hv
      cases hv

/-- A machine whose runs are bounded comes to an end. -/
theorem exists_terminal_of_bounded (M : Machine S A) {s : S} {n : Nat}
    (hbound : ∀ actions t, M.run s actions = some t → actions.length ≤ n) :
    ∃ t, M.Reachable s t ∧ M.Terminal t := by
  induction n generalizing s with
  | zero =>
      refine ⟨s, ⟨[], rfl⟩, fun a => ?_⟩
      cases hstep : M.step s a with
      | none => rfl
      | some t =>
          have := hbound [a] t (by simp [hstep])
          simp at this
  | succ n ih =>
      by_cases hend : M.Terminal s
      · exact ⟨s, ⟨[], rfl⟩, hend⟩
      · simp only [Terminal, not_forall] at hend
        obtain ⟨a, ha⟩ := hend
        obtain ⟨u, hstep⟩ := Option.ne_none_iff_exists'.mp ha
        have hrest : ∀ actions t, M.run u actions = some t →
            actions.length ≤ n := by
          intro actions t hrun
          have := hbound (a :: actions) t (by simp [hstep, hrun])
          simpa using this
        obtain ⟨t, ⟨actions, hrun⟩, hterminal⟩ := ih hrest
        exact ⟨t, ⟨a :: actions, by simp [hstep, hrun]⟩, hterminal⟩

end Machine

/-- The machine that keeps, beside the state, what has been observed. -/
def recording (step : S → A → Option (S × List O)) :
    Machine (S × List O) A where
  step s a := (step s.1 a).map fun next => (next.1, s.2 ++ next.2)

theorem recording_step_eq_some {step : S → A → Option (S × List O)}
    {s t : S × List O} {a : A} (h : (recording step).step s a = some t) :
    ∃ seen, step s.1 a = some (t.1, seen) ∧ t.2 = s.2 ++ seen := by
  simp only [recording, Option.map_eq_some_iff] at h
  obtain ⟨⟨next, seen⟩, hstep, rfl⟩ := h
  exact ⟨seen, hstep, rfl⟩

end ActionMachine
