/-
Numbers as text.  A number is printed as its digits in some base, without
leading zeros, and read back from the front of a text; a reader takes all the
digits that are there and refuses too many of them, superfluous zeros and
values that are out of range.
-/
import Mathlib.Algebra.Group.Nat.Defs
import Mathlib.Data.List.Basic

namespace NumberText

/-- The value of a digit in bases up to 36. -/
def digitValue (c : Char) : Option Nat :=
  if '0' ≤ c ∧ c ≤ '9' then some (c.toNat - '0'.toNat)
  else if 'a' ≤ c ∧ c ≤ 'z' then some (c.toNat - 'a'.toNat + 10)
  else if 'A' ≤ c ∧ c ≤ 'Z' then some (c.toNat - 'A'.toNat + 10)
  else none

def toDigit (radix : Nat) (c : Char) : Option Nat :=
  (digitValue c).filter (· < radix)

def isDigit (radix : Nat) (c : Char) : Bool := (toDigit radix c).isSome

def value (radix : Nat) (digits : List Char) : Nat :=
  digits.foldl (fun result c => result * radix + (toDigit radix c).getD 0) 0

/-- Read a number below `limit` from the front of a text. -/
def readNumber (radix maxDigits limit : Nat) (allowZeroPrefix : Bool)
    (text : List Char) : Option (Nat × List Char) :=
  let digits := text.takeWhile (isDigit radix)
  if maxDigits < digits.length then none
  else if digits.length = 0 then none
  else if !allowZeroPrefix && digits.head? = some '0' && 1 < digits.length then
    none
  else if value radix digits < limit then
    some (value radix digits, text.dropWhile (isDigit radix))
  else none

def readGivenChar (c : Char) : List Char → Option (List Char)
  | [] => none
  | d :: rest => if d = c then some rest else none

/-- The text does not go on with a digit. -/
def Stops (radix : Nat) (rest : List Char) : Prop :=
  ∀ c ∈ rest.head?, isDigit radix c = false

variable {radix n : Nat}

theorem digitValue_digitChar :
    ∀ d < 16, digitValue (Nat.digitChar d) = some d := by
  decide

theorem toDigit_digitChar (hradix : radix ≤ 16) (hn : n < radix) :
    toDigit radix (Nat.digitChar n) = some n := by
  rw [toDigit, digitValue_digitChar n (by omega)]
  simp [hn]

theorem isDigit_of_mem_toDigits (hpos : 1 < radix) (hradix : radix ≤ 16)
    {c : Char} (hc : c ∈ Nat.toDigits radix n) : isDigit radix c = true := by
  induction n using Nat.base_induction radix hpos with
  | single m hm =>
      rw [Nat.toDigits_of_lt_base hm, List.mem_singleton] at hc
      rw [hc, isDigit, toDigit_digitChar hradix hm]
      rfl
  | digit m k hk hm ih =>
      rw [← Nat.toDigits_append_toDigits hpos hm hk, List.mem_append,
        Nat.toDigits_of_lt_base hk, List.mem_singleton] at hc
      rcases hc with hc | hc
      · exact ih hc
      · rw [hc, isDigit, toDigit_digitChar hradix hk]
        rfl

theorem value_toDigits (hpos : 1 < radix) (hradix : radix ≤ 16) :
    value radix (Nat.toDigits radix n) = n := by
  induction n using Nat.base_induction radix hpos with
  | single m hm =>
      rw [Nat.toDigits_of_lt_base hm]
      simp [value, toDigit_digitChar hradix hm]
  | digit m k hk hm ih =>
      have hlast : toDigit radix (Nat.digitChar k) = some k :=
        toDigit_digitChar hradix hk
      rw [← Nat.toDigits_append_toDigits hpos hm hk,
        Nat.toDigits_of_lt_base hk, value, List.foldl_append]
      change value radix (Nat.toDigits radix m) * radix +
        (toDigit radix (Nat.digitChar k)).getD 0 = _
      rw [ih, hlast, Nat.mul_comm]
      rfl

/-- Only zero is printed with a zero in front. -/
theorem head_toDigits (hpos : 1 < radix) (hradix : radix ≤ 16)
    (hn : 0 < n) : (Nat.toDigits radix n).head? ≠ some '0' := by
  induction n using Nat.base_induction radix hpos with
  | single m hm =>
      rw [Nat.toDigits_of_lt_base hm]
      intro hzero
      have hdigit := toDigit_digitChar hradix hm
      rw [Option.some.inj hzero] at hdigit
      have hvalue : digitValue '0' = some 0 := rfl
      rw [toDigit, hvalue] at hdigit
      have := (Option.filter_eq_some_iff.mp hdigit).1
      simp only [Option.some.injEq] at this
      omega
  | digit m k hk hm ih =>
      rw [← Nat.toDigits_append_toDigits hpos hm hk, List.head?_append]
      intro hzero
      cases hhead : (Nat.toDigits radix m).head? with
      | none =>
          rw [List.head?_eq_none_iff] at hhead
          exact Nat.toDigits_ne_nil hhead
      | some c =>
          rw [hhead] at hzero
          exact ih hm (hhead.trans hzero)

theorem takeWhile_of_stops {digits rest : List Char}
    (hdigits : ∀ c ∈ digits, isDigit radix c = true)
    (hrest : Stops radix rest) :
    (digits ++ rest).takeWhile (isDigit radix) = digits ∧
      (digits ++ rest).dropWhile (isDigit radix) = rest := by
  rw [List.takeWhile_append_of_pos hdigits, List.dropWhile_append_of_pos hdigits]
  cases rest with
  | nil => simp
  | cons c rest =>
      have hc : isDigit radix c = false := hrest c rfl
      simp [hc]

/-- A number that is in range is read as it was printed. -/
theorem readNumber_toDigits {maxDigits limit : Nat} (allowZeroPrefix : Bool)
    (hpos : 1 < radix) (hradix : radix ≤ 16) (hmax : 0 < maxDigits)
    (hdigits : n < radix ^ maxDigits) (hlimit : n < limit)
    {rest : List Char} (hrest : Stops radix rest) :
    readNumber radix maxDigits limit allowZeroPrefix
      (Nat.toDigits radix n ++ rest) = some (n, rest) := by
  have hall : ∀ c ∈ Nat.toDigits radix n, isDigit radix c = true :=
    fun c hc => isDigit_of_mem_toDigits hpos hradix hc
  obtain ⟨htake, hdrop⟩ := takeWhile_of_stops hall hrest
  have hlength : ¬ maxDigits < (Nat.toDigits radix n).length := by
    rw [Nat.not_lt, Nat.length_toDigits_le_iff hpos hmax]
    exact hdigits
  have hne : (Nat.toDigits radix n).length ≠ 0 :=
    Nat.pos_iff_ne_zero.mp Nat.length_toDigits_pos
  have hzero : (!allowZeroPrefix && (Nat.toDigits radix n).head? = some '0' &&
      1 < (Nat.toDigits radix n).length) = false := by
    rcases Nat.eq_zero_or_pos n with rfl | hn
    · simp
    · simp [head_toDigits hpos hradix hn]
  rw [readNumber, htake, hdrop, value_toDigits hpos hradix]
  simp only [hlength, hne, hzero, hlimit, if_true, if_false, Bool.false_eq_true]

/-- A number leaves the text behind all its digits. -/
theorem rest_of_readNumber {maxDigits limit : Nat} {allowZeroPrefix : Bool}
    {text rest : List Char}
    (h : readNumber radix maxDigits limit allowZeroPrefix text =
      some (n, rest)) : rest = text.dropWhile (isDigit radix) := by
  simp only [readNumber, Option.ite_none_left_eq_some,
    Option.ite_none_right_eq_some, Option.some.injEq, Prod.mk.injEq] at h
  exact h.2.2.2.2.2.symm

theorem readNumber_of_stops {maxDigits limit : Nat} {allowZeroPrefix : Bool}
    {text : List Char} (hstops : Stops radix text) :
    readNumber radix maxDigits limit allowZeroPrefix text = none := by
  obtain ⟨htake, -⟩ := @takeWhile_of_stops radix [] text (by simp) hstops
  rw [List.nil_append] at htake
  simp [readNumber, htake]

theorem readGivenChar_eq_some {c : Char} {text rest : List Char} :
    readGivenChar c text = some rest ↔ text = c :: rest := by
  cases text with
  | nil => simp [readGivenChar]
  | cons d text =>
      simp only [readGivenChar, Option.ite_none_right_eq_some,
        Option.some.injEq, List.cons.injEq]

end NumberText
