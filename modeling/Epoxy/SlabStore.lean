/-
A slab: values in numbered slots, as the `slab` crate documents itself.  The
vacant slots are a stack: a freed slot is pushed onto it, an insertion takes
the one on top, and a new slot is made at the end when there is none.  The
stack carries the proof that its slots are vacant, so that an insertion can
never overwrite a live entry.
-/
import Mathlib.Data.List.Basic

namespace SlabStore

universe u v

variable {α : Type u} {β : Type v}

/-- `free` is the chain of vacant slots, the most recently freed one first. -/
structure Slab (α : Type u) where
  entries : List (Option α)
  free : List Nat
  vacant : ∀ key ∈ free, entries[key]? = some none
  free_nodup : free.Nodup

namespace Slab

def empty : Slab α := ⟨[], [], by simp, List.nodup_nil⟩

def get? (slab : Slab α) (key : Nat) : Option α := slab.entries[key]?.join

/-- The slot that the next insertion fills. -/
def nextKey (slab : Slab α) : Nat := slab.free.headD slab.entries.length

def insert (slab : Slab α) (value : α) : Slab α :=
  match hfree : slab.free with
  | [] => ⟨slab.entries ++ [some value], [], by simp, List.nodup_nil⟩
  | key :: rest =>
      ⟨slab.entries.set key (some value), rest, by
        intro other hother
        have hnodup : (key :: rest).Nodup := hfree ▸ slab.free_nodup
        have hne : key ≠ other := by
          rintro rfl
          exact (List.nodup_cons.mp hnodup).1 hother
        rw [List.getElem?_set_ne hne]
        exact slab.vacant other (hfree ▸ List.mem_cons_of_mem key hother), by
        have hnodup : (key :: rest).Nodup := hfree ▸ slab.free_nodup
        exact (List.nodup_cons.mp hnodup).2⟩

private theorem not_mem_free_of_get?_eq_some {slab : Slab α} {key : Nat}
    {value : α} (hvalue : slab.get? key = some value) : key ∉ slab.free := by
  intro hmem
  rw [get?, slab.vacant key hmem] at hvalue
  cases hvalue

/-- Change an occupied slot in place; a vacant key is refused. -/
def modify? (slab : Slab α) (key : Nat) (f : α → α) : Option (Slab α) :=
  match hvalue : slab.get? key with
  | none => none
  | some value =>
      some ⟨slab.entries.set key (some (f value)), slab.free, by
        intro other hother
        have hne : key ≠ other := by
          rintro rfl
          exact not_mem_free_of_get?_eq_some hvalue hother
        rw [List.getElem?_set_ne hne]
        exact slab.vacant other hother, slab.free_nodup⟩

/-- Vacate an occupied slot; a vacant key is refused. -/
def remove? (slab : Slab α) (key : Nat) : Option (Slab α) :=
  match hvalue : slab.get? key with
  | none => none
  | some _ =>
      some ⟨slab.entries.set key none, key :: slab.free, by
        have hlt : key < slab.entries.length := by
          by_contra hge
          rw [get?, List.getElem?_eq_none (Nat.le_of_not_lt hge)] at hvalue
          cases hvalue
        intro other hother
        by_cases heq : key = other
        · subst heq
          simp [List.getElem?_set_self hlt]
        · rw [List.getElem?_set_ne heq]
          rcases List.mem_cons.mp hother with rfl | hmem
          · exact absurd rfl heq
          · exact slab.vacant other hmem,
        List.nodup_cons.mpr
          ⟨not_mem_free_of_get?_eq_some hvalue, slab.free_nodup⟩⟩

@[simp] theorem get?_empty (key : Nat) : (empty : Slab α).get? key = none := by
  simp [empty, get?]

theorem get?_nextKey (slab : Slab α) : slab.get? slab.nextKey = none := by
  rw [get?, nextKey]
  cases hfree : slab.free with
  | nil => simp
  | cons key rest =>
      have hvacant := slab.vacant key (hfree ▸ List.mem_cons_self)
      simp [hvacant]

@[simp] theorem get?_insert_nextKey (slab : Slab α) (value : α) :
    (slab.insert value).get? slab.nextKey = some value := by
  unfold insert nextKey get?
  split
  · next hfree => simp [hfree]
  · next key rest hfree =>
      have hvacant := slab.vacant key (hfree ▸ List.mem_cons_self)
      have hlt : key < slab.entries.length := by
        by_contra hge
        rw [List.getElem?_eq_none (Nat.le_of_not_lt hge)] at hvacant
        cases hvacant
      simp [hfree, List.getElem?_set_self hlt]

theorem get?_insert_of_ne {slab : Slab α} {value : α} {key : Nat}
    (hne : key ≠ slab.nextKey) :
    (slab.insert value).get? key = slab.get? key := by
  unfold nextKey at hne
  unfold insert get?
  split
  · next hfree =>
      rw [hfree] at hne
      change key ≠ slab.entries.length at hne
      rcases Nat.lt_or_gt_of_ne hne with hlt | hgt
      · simp [List.getElem?_append_left hlt]
      · have hout : slab.entries.length + 1 ≤ key := hgt
        rw [List.getElem?_eq_none (by simpa using hout),
          List.getElem?_eq_none (Nat.le_of_lt hgt)]
  · next head rest hfree =>
      rw [hfree] at hne
      change key ≠ head at hne
      simp [List.getElem?_set_ne (Ne.symm hne)]

private theorem lt_length_of_get?_eq_some {slab : Slab α} {key : Nat}
    {value : α} (hvalue : slab.get? key = some value) :
    key < slab.entries.length := by
  by_contra hge
  rw [get?, List.getElem?_eq_none (Nat.le_of_not_lt hge)] at hvalue
  cases hvalue

theorem exists_modify? {slab : Slab α} {key : Nat} (f : α → α)
    (hkey : (slab.get? key).isSome = true) :
    ∃ next, slab.modify? key f = some next := by
  unfold modify?
  split
  · next hnone =>
      rw [hnone] at hkey
      cases hkey
  · exact ⟨_, rfl⟩

theorem exists_remove? {slab : Slab α} {key : Nat}
    (hkey : (slab.get? key).isSome = true) :
    ∃ next, slab.remove? key = some next := by
  unfold remove?
  split
  · next hnone =>
      rw [hnone] at hkey
      cases hkey
  · exact ⟨_, rfl⟩

theorem modify?_eq_some {slab next : Slab α} {key : Nat} {f : α → α}
    (hnext : slab.modify? key f = some next) :
    ∃ value, slab.get? key = some value ∧ next.get? key = some (f value) ∧
      ∀ other, other ≠ key → next.get? other = slab.get? other := by
  unfold modify? at hnext
  split at hnext
  · cases hnext
  · next value hvalue =>
      cases hnext
      refine ⟨value, hvalue, ?_, ?_⟩
      · simp [get?, List.getElem?_set_self (lt_length_of_get?_eq_some hvalue)]
      · intro other hother
        simp [get?, List.getElem?_set_ne (Ne.symm hother)]

theorem remove?_eq_some {slab next : Slab α} {key : Nat}
    (hnext : slab.remove? key = some next) :
    (slab.get? key).isSome ∧ next.get? key = none ∧
      ∀ other, other ≠ key → next.get? other = slab.get? other := by
  unfold remove? at hnext
  split at hnext
  · cases hnext
  · next value hvalue =>
      cases hnext
      refine ⟨by simp [hvalue], ?_, ?_⟩
      · simp [get?, List.getElem?_set_self (lt_length_of_get?_eq_some hvalue)]
      · intro other hother
        simp [get?, List.getElem?_set_ne (Ne.symm hother)]

/-- Visit the values in slot order until the visitor returns something.
Every visited value is replaced by what the visitor leaves. -/
def visitEntries (f : α → α × Option β) :
    List (Option α) → List (Option α) × Option β
  | [] => ([], none)
  | none :: rest =>
      let visited := visitEntries f rest
      (none :: visited.1, visited.2)
  | some value :: rest =>
      match f value with
      | (left, some found) => (some left :: rest, some found)
      | (left, none) =>
          let visited := visitEntries f rest
          (some left :: visited.1, visited.2)

theorem visitEntries_isSome (f : α → α × Option β)
    (entries : List (Option α)) (key : Nat) :
    ((visitEntries f entries).1[key]?).map Option.isSome =
      (entries[key]?).map Option.isSome := by
  induction entries generalizing key with
  | nil => rfl
  | cons head tail ih =>
      cases head with
      | none =>
          cases key with
          | zero => rfl
          | succ key => simpa [visitEntries] using ih key
      | some value =>
          cases hvisit : f value with
          | mk left found =>
              cases found with
              | none =>
                  cases key with
                  | zero => simp [visitEntries, hvisit]
                  | succ key => simpa [visitEntries, hvisit] using ih key
              | some found =>
                  cases key with
                  | zero => simp [visitEntries, hvisit]
                  | succ key => simp [visitEntries, hvisit]

/-- `visitEntries` on a slab. -/
def visit (slab : Slab α) (f : α → α × Option β) : Slab α × Option β :=
  let visited := visitEntries f slab.entries
  (⟨visited.1, slab.free, by
    intro key hkey
    have hsome := visitEntries_isSome f slab.entries key
    rw [slab.vacant key hkey] at hsome
    cases hentry : visited.1[key]? with
    | none => simp [visited] at hentry hsome; simp [hentry] at hsome
    | some entry =>
        cases entry with
        | none => rfl
        | some value => simp [visited] at hentry hsome; simp [hentry] at hsome,
    slab.free_nodup⟩, visited.2)

/-- A visit changes values only; the same slots are occupied after it. -/
theorem visit_isSome (slab : Slab α) (f : α → α × Option β) (key : Nat) :
    ((slab.visit f).1.get? key).isSome = (slab.get? key).isSome := by
  have hsome := visitEntries_isSome f slab.entries key
  unfold get? visit
  cases hleft : (visitEntries f slab.entries).1[key]? <;>
    cases hright : slab.entries[key]? <;>
    simp [hleft, hright] at hsome ⊢
  rename_i left right
  cases left <;> cases right <;> simp_all

end Slab

end SlabStore
