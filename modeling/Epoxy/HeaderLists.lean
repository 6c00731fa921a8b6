/-
Header fields, and values that are lists: elements between separators, each
with white space around it.  A name may have several fields.
-/
import Mathlib.Data.List.Basic
import Mathlib.Data.List.DropRight

namespace HeaderLists

universe u v w

section Fields

variable {N : Type u} {V : Type v} [DecidableEq N]

/-- Fields in their order. -/
abbrev Fields (N : Type u) (V : Type v) := List (N × V)

/-- The first field of a name. -/
def get (fields : Fields N V) (name : N) : Option V :=
  (fields.find? fun field => field.1 = name).map (·.2)

/-- Beside the fields that the name has. -/
def append (fields : Fields N V) (name : N) (value : V) : Fields N V :=
  fields ++ [(name, value)]

variable {fields : Fields N V} {name other : N} {value : V}

end Fields

section Elements

variable {α : Type w}

/-- A part of a list that separators or the ends of the list are around. -/
structure Between (sep : α) (part l : List α) : Prop where
  free : sep ∉ part
  around : ∃ before after, l = before ++ part ++ after ∧
    (before = [] ∨ ∃ rest, before = rest ++ [sep]) ∧
    (after = [] ∨ ∃ rest, after = sep :: rest)

section Splitting

variable [DecidableEq α] {sep : α} {part l : List α}

end Splitting

variable {space : α → Bool} {token part : List α}

/-- Without the white space around it. -/
def trim (space : α → Bool) (part : List α) : List α :=
  (part.dropWhile space).rdropWhile space

/-- Neither end is white space. -/
structure Bare (space : α → Bool) (token : List α) : Prop where
  head : ∃ c, token.head? = some c ∧ space c = false
  last : ∃ c, token.getLast? = some c ∧ space c = false

theorem Bare.dropWhile (h : Bare space token) (rest : List α) :
    (token ++ rest).dropWhile space = token ++ rest := by
  obtain ⟨c, hhead, hc⟩ := h.head
  cases token with
  | nil => cases hhead
  | cons d token =>
      obtain rfl := Option.some.inj hhead
      rw [List.cons_append, List.dropWhile_cons_of_neg (by simp [hc])]

theorem Bare.reverse (h : Bare space token) : Bare space token.reverse where
  head := by simpa [List.head?_reverse] using h.last
  last := by simpa [List.getLast?_reverse] using h.head

end Elements

end HeaderLists
