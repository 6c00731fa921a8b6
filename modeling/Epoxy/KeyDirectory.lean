/-
Directories of numbered items.  An item is added under a key and numbered in
the order of addition; a key finds the item that was last added under it, until
it is removed.  Keys may be used again, numbers never are, so that an item that
was lost is never found again.
-/
import Epoxy.ActionMachine
import Mathlib.Logic.Function.Basic

namespace KeyDirectory

open ActionMachine

universe u

/-- `keys` has the key of every item ever added, by its number. -/
structure Directory (K : Type u) where
  keys : List K
  find : K → Option Nat

inductive Move (K : Type u) where
  | stay
  | add (key : K)
  | remove (key : K)
  | clear
deriving Repr, DecidableEq

namespace Directory

variable {K : Type u}

def empty : Directory K := ⟨[], fun _ => none⟩

/-- What a key finds was added under this key. -/
def Keyed (d : Directory K) : Prop :=
  ∀ key number, d.find key = some number → d.keys[number]? = some key

/-- What a key finds is the last item that was added under it. -/
def Latest (d : Directory K) : Prop :=
  ∀ key number, d.find key = some number →
    ∀ later, number < later → d.keys[later]? ≠ some key

/-- The item is not found under any key. -/
def Lost (d : Directory K) (number : Nat) : Prop :=
  ∀ key, d.find key ≠ some number

theorem keyed_empty : (empty : Directory K).Keyed := by
  intro key number h
  cases h

theorem latest_empty : (empty : Directory K).Latest := by
  intro key number h
  cases h

/-- Different keys find different items. -/
theorem Keyed.key_unique {d : Directory K} (h : d.Keyed) {key other : K}
    {number : Nat} (hkey : d.find key = some number)
    (hother : d.find other = some number) : key = other := by
  have heq := (h key number hkey).symm.trans (h other number hother)
  exact Option.some.inj heq

variable [DecidableEq K]

def move (d : Directory K) : Move K → Directory K
  | .stay => d
  | .add key =>
      ⟨d.keys ++ [key], Function.update d.find key (some d.keys.length)⟩
  | .remove key => ⟨d.keys, Function.update d.find key none⟩
  | .clear => ⟨d.keys, fun _ => none⟩

theorem keys_move (d : Directory K) (m : Move K) :
    d.keys <+: (d.move m).keys := by
  cases m with
  | add key => exact List.prefix_append d.keys [key]
  | stay => exact List.prefix_refl d.keys
  | remove key => exact List.prefix_refl d.keys
  | clear => exact List.prefix_refl d.keys

/-- An item keeps its key. -/
theorem getElem?_keys_move {d : Directory K} {number : Nat} {key : K}
    (h : d.keys[number]? = some key) (m : Move K) :
    (d.move m).keys[number]? = some key := by
  obtain ⟨rest, hrest⟩ := d.keys_move m
  rw [← hrest, List.getElem?_append_left (List.getElem?_eq_some_iff.mp h).1]
  exact h

/-- What is found after a move was found before it, or is new. -/
theorem find_move {d : Directory K} {m : Move K} {key : K} {number : Nat}
    (h : (d.move m).find key = some number) :
    d.find key = some number ∨ (m = .add key ∧ number = d.keys.length) := by
  cases m with
  | stay => exact .inl h
  | add other =>
      by_cases heq : key = other
      · subst heq
        simp only [move, Function.update_self, Option.some.injEq] at h
        exact .inr ⟨rfl, h.symm⟩
      · simp only [move, Function.update_of_ne heq] at h
        exact .inl h
  | remove other =>
      by_cases heq : key = other
      · subst heq
        simp only [move, Function.update_self] at h
        cases h
      · simp only [move, Function.update_of_ne heq] at h
        exact .inl h
  | clear => cases h

/-- A removal makes nothing findable. -/
theorem find_move_remove_eq_none {d : Directory K} {key : K}
    (h : d.find key = none) (other : K) :
    (d.move (.remove other)).find key = none := by
  cases hfind : (d.move (.remove other)).find key with
  | none => rfl
  | some number =>
      rcases find_move hfind with hold | ⟨hadd, -⟩
      · rw [h] at hold
        cases hold
      · cases hadd

theorem Keyed.move {d : Directory K} (h : d.Keyed) (m : Move K) :
    (d.move m).Keyed := by
  intro key number hfind
  rcases find_move hfind with hold | ⟨rfl, rfl⟩
  · exact getElem?_keys_move (h key number hold) m
  · simp [Directory.move]

theorem Latest.move {d : Directory K} (h : d.Latest) (m : Move K) :
    (d.move m).Latest := by
  intro key number hfind later hlater hkey
  rcases find_move hfind with hold | ⟨rfl, rfl⟩
  · cases m with
    | add other =>
        simp only [Directory.move] at hkey
        rcases Nat.lt_trichotomy later d.keys.length with hlt | rfl | hgt
        · rw [List.getElem?_append_left hlt] at hkey
          exact h key number hold later hlater hkey
        · simp only [List.getElem?_concat_length, Option.some.injEq] at hkey
          subst hkey
          simp only [Directory.move, Function.update_self,
            Option.some.injEq] at hfind
          omega
        · rw [List.getElem?_eq_none (by simp; omega)] at hkey
          cases hkey
    | stay => exact h key number hold later hlater hkey
    | remove other => exact h key number hold later hlater hkey
    | clear => exact h key number hold later hlater hkey
  · simp only [Directory.move] at hkey
    rw [List.getElem?_eq_none (by simp; omega)] at hkey
    cases hkey

/-- The moves after which the item that a key found is found no more. -/
theorem eq_of_lost_move {d : Directory K} {m : Move K} {key : K} {number : Nat}
    (hkey : d.find key = some number) (hlost : (d.move m).Lost number) :
    m = .add key ∨ m = .remove key ∨ m = .clear := by
  have hnone := hlost key
  cases m with
  | stay => exact absurd hkey hnone
  | add other =>
      by_cases heq : key = other
      · exact .inl (by rw [heq])
      · simp only [Directory.move, Function.update_of_ne heq] at hnone
        exact absurd hkey hnone
  | remove other =>
      by_cases heq : key = other
      · exact .inr (.inl (by rw [heq]))
      · simp only [Directory.move, Function.update_of_ne heq] at hnone
        exact absurd hkey hnone
  | clear => exact .inr (.inr rfl)

theorem Keyed.lost_move {d : Directory K} (h : d.Keyed) {m : Move K} {key : K}
    {number : Nat} (hkey : d.find key = some number)
    (hm : m = .add key ∨ m = .remove key ∨ m = .clear) :
    (d.move m).Lost number := by
  intro other hother
  rcases find_move hother with hold | ⟨-, rfl⟩
  · obtain rfl := h.key_unique hold hkey
    rcases hm with rfl | rfl | rfl
    · simp only [Directory.move, Function.update_self,
        Option.some.injEq] at hother
      obtain ⟨hlt, -⟩ := List.getElem?_eq_some_iff.mp (h other number hkey)
      omega
    · simp [Directory.move] at hother
    · cases hother
  · obtain ⟨hlt, -⟩ := List.getElem?_eq_some_iff.mp (h key _ hkey)
    exact Nat.lt_irrefl _ hlt

/-- What a move adds can be found. -/
theorem not_lost_move_of_new {d : Directory K} {m : Move K} {number : Nat}
    (hnew : d.keys.length ≤ number)
    (hlt : number < (d.move m).keys.length) : ¬ (d.move m).Lost number := by
  cases m with
  | add key =>
      simp only [Directory.move, List.length_append, List.length_singleton]
        at hlt
      obtain rfl : number = d.keys.length := by omega
      exact fun hlost => hlost key (by simp [Directory.move])
  | stay => exact absurd hlt (Nat.not_lt.mpr hnew)
  | remove key => exact absurd hlt (Nat.not_lt.mpr hnew)
  | clear => exact absurd hlt (Nat.not_lt.mpr hnew)

end Directory

end KeyDirectory
