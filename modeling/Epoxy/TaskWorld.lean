/-
Tasks that share a state.  An action makes a step of one task, starts a task,
or changes what all of them see; what a task does follows from its own steps
alone, and what ties the shared state to the tasks is checked task by task.
-/
import Epoxy.ActionMachine
import Mathlib.Logic.Function.Basic

namespace TaskWorld

open ActionMachine

universe u v w x y

variable {K : Type u} {C : Type v} {T : Type w} {A : Type x} {O : Type y}

/-- What the tasks share, and the tasks that there have been. -/
structure World (K : Type u) (C : Type v) (T : Type w) where
  shared : C
  tasks : K → Option T

/-- What an action does. -/
inductive Move (K : Type u) (C : Type v) (T : Type w) where
  | change (f : C → C)
  /-- a task with a key that was not used before -/
  | spawn (key : K) (task : T)
  | own (key : K) (step : C → T → Option (C × T))
  | every (f : T → T)

namespace World

def init (shared : C) : World K C T := ⟨shared, fun _ => none⟩

variable [DecidableEq K]

def put (world : World K C T) (shared : C) (key : K) (task : T) :
    World K C T :=
  ⟨shared, Function.update world.tasks key (some task)⟩

@[simp] theorem shared_put (world : World K C T) (shared : C) (key : K)
    (task : T) : (world.put shared key task).shared = shared := rfl

@[simp] theorem tasks_put_self (world : World K C T) (shared : C) (key : K)
    (task : T) : (world.put shared key task).tasks key = some task :=
  Function.update_self _ _ _

theorem tasks_put_of_ne (world : World K C T) (shared : C) {key other : K}
    (h : other ≠ key) (task : T) :
    (world.put shared key task).tasks other = world.tasks other :=
  Function.update_of_ne h _ _

def move (world : World K C T) : Move K C T → Option (World K C T)
  | .change f => some { world with shared := f world.shared }
  | .spawn key task =>
      if (world.tasks key).isNone then
        some (world.put world.shared key task)
      else none
  | .own key step =>
      (world.tasks key).bind fun task =>
        (step world.shared task).map fun next =>
          world.put next.1 key next.2
  | .every f =>
      some { world with tasks := fun key => (world.tasks key).map f }

/-- The machine of a world whose actions are moves. -/
def machine (moves : A → Move K C T) : Machine (World K C T) A :=
  ⟨fun world action => world.move (moves action)⟩

section Moves

variable {world next : World K C T}

theorem move_spawn {key : K} {task : T}
    (h : world.move (.spawn key task) = some next) :
    world.tasks key = none ∧
      next = world.put world.shared key task := by
  simp only [move, Option.ite_none_right_eq_some, Option.isNone_iff_eq_none,
    Option.some.injEq] at h
  exact ⟨h.1, h.2.symm⟩

theorem move_own {key : K} {step : C → T → Option (C × T)}
    (h : world.move (.own key step) = some next) :
    ∃ task shared task', world.tasks key = some task ∧
      step world.shared task = some (shared, task') ∧
      next = world.put shared key task' := by
  simp only [move, Option.bind_eq_some_iff, Option.map_eq_some_iff] at h
  obtain ⟨task, htask, ⟨shared, task'⟩, hstep, rfl⟩ := h
  exact ⟨task, shared, task', htask, hstep, rfl⟩

end Moves

section History

/-- What is asked of a property of one task and of what the task has heard:
only its own steps hear anything. -/
structure Hears (moves : A → Move K C T) (key : K) (heard : A → List O)
    (I : T → List O → Prop) : Prop where
  own : ∀ action step shared task next history,
    moves action = .own key step → I task history →
    step shared task = some next → I next.2 (history ++ heard action)
  spawn : ∀ action task, moves action = .spawn key task → I task []
  every : ∀ action f task history, moves action = .every f →
    I task history → I (f task) history
  others : ∀ action, (∀ step, moves action ≠ .own key step) →
    heard action = []

variable {moves : A → Move K C T} {key : K} {heard : A → List O}
  {I : T → List O → Prop} {world next : World K C T}

/-- A task that there is not yet has heard nothing. -/
def Heard (I : T → List O → Prop) (task : Option T) (history : List O) :
    Prop :=
  match task with
  | none => history = []
  | some task => I task history

theorem Hears.step (h : Hears moves key heard I) {action : A}
    {history : List O} (hheard : Heard I (world.tasks key) history)
    (hstep : world.move (moves action) = some next) :
    Heard I (next.tasks key) (history ++ heard action) := by
  by_cases hown : ∃ step, moves action = .own key step
  · obtain ⟨step, hmoves⟩ := hown
    rw [hmoves] at hstep
    obtain ⟨task, shared, task', htask, hresult, rfl⟩ := move_own hstep
    rw [htask] at hheard
    rw [tasks_put_self]
    exact h.own action step _ task (shared, task') history hmoves hheard
      hresult
  · rw [h.others action fun step hmoves => hown ⟨step, hmoves⟩,
      List.append_nil]
    cases hmoves : moves action with
    | change f =>
        rw [hmoves] at hstep
        cases hstep
        exact hheard
    | spawn other task =>
        rw [hmoves] at hstep
        obtain ⟨hnone, rfl⟩ := move_spawn hstep
        by_cases hother : other = key
        · subst hother
          rw [hnone] at hheard
          obtain rfl : history = [] := hheard
          rw [tasks_put_self]
          exact h.spawn action task hmoves
        · rwa [tasks_put_of_ne _ _ (Ne.symm hother)]
    | own other step =>
        rw [hmoves] at hstep
        obtain ⟨task, shared, task', -, -, rfl⟩ := move_own hstep
        have hother : key ≠ other := by
          rintro rfl
          exact hown ⟨step, hmoves⟩
        rwa [tasks_put_of_ne _ _ hother]
    | every f =>
        rw [hmoves] at hstep
        cases hstep
        cases htask : world.tasks key with
        | none =>
            rw [htask] at hheard
            simpa only [htask, Option.map_none] using hheard
        | some task =>
            rw [htask] at hheard
            simp only [htask, Option.map_some]
            exact h.every action f task history hmoves hheard

/-- The rule for whole runs: what a task is, beside what it has heard. -/
theorem Hears.run (h : Hears moves key heard I) {shared : C}
    {actions : List A}
    (hrun : (machine moves).run (init shared) actions = some world)
    {task : T} (htask : world.tasks key = some task) :
    I task (actions.flatMap heard) := by
  have hkeep : ∀ (world : World K C T) action next history,
      Heard I (world.tasks key) history →
      (machine moves).step world action = some next →
      Heard I (next.tasks key) (history ++ heard action) :=
    fun _ _ _ _ => h.step
  have hstart : Heard I ((init shared : World K C T).tasks key) [] := rfl
  have hheard := (machine moves).run_history_invariant hkeep hstart hrun
  rwa [htask, List.nil_append] at hheard

end History

section Ties

/-- What holds of the shared state and every task, or key without one. -/
def Ties (R : C → K → Option T → Prop) (world : World K C T) : Prop :=
  ∀ key, R world.shared key (world.tasks key)

variable {R : C → K → Option T → Prop} {world next : World K C T}

theorem Ties.change {f : C → C} (h : world.Ties R)
    (hchange : ∀ key task, R world.shared key task →
      R (f world.shared) key task)
    (hstep : world.move (.change f) = some next) : next.Ties R := by
  cases hstep
  exact fun key => hchange key _ (h key)

theorem Ties.spawn {key : K} {task : T} (h : world.Ties R)
    (hspawn : R world.shared key none → R world.shared key (some task))
    (hstep : world.move (.spawn key task) = some next) : next.Ties R := by
  obtain ⟨hnone, rfl⟩ := move_spawn hstep
  intro other
  by_cases hother : other = key
  · subst hother
    rw [tasks_put_self]
    exact hspawn (hnone ▸ h other)
  · rw [tasks_put_of_ne _ _ hother]
    exact h other

/-- A step of one task must leave the ties of the others. -/
theorem Ties.own {key : K} {step : C → T → Option (C × T)} (h : world.Ties R)
    (hown : ∀ task shared task', world.tasks key = some task →
      step world.shared task = some (shared, task') →
      R world.shared key (some task) →
      R shared key (some task') ∧
        ∀ other, other ≠ key → R world.shared other (world.tasks other) →
          R shared other (world.tasks other))
    (hstep : world.move (.own key step) = some next) : next.Ties R := by
  obtain ⟨task, shared, task', htask, hresult, rfl⟩ := move_own hstep
  obtain ⟨hkey, hothers⟩ := hown task shared task' htask hresult
    (htask ▸ h key)
  intro other
  by_cases hother : other = key
  · subst hother
    rw [tasks_put_self]
    exact hkey
  · rw [tasks_put_of_ne _ _ hother]
    exact hothers other hother (h other)

theorem Ties.every {f : T → T} (h : world.Ties R)
    (hevery : ∀ key task, R world.shared key (some task) →
      R world.shared key (some (f task)))
    (hstep : world.move (.every f) = some next) : next.Ties R := by
  cases hstep
  intro key
  have hkey := h key
  cases htask : world.tasks key with
  | none =>
      rw [htask] at hkey
      simpa only [htask, Option.map_none] using hkey
  | some task =>
      rw [htask] at hkey
      simp only [htask, Option.map_some]
      exact hevery key task hkey

end Ties

end World

end TaskWorld
