/-
Values of HTTP as its crates hand them out: header values, which are any bytes,
of which only the visible ones, spaces and tabs can be read as text, and URIs by
their parts.
-/
import Mathlib.Data.List.Basic

namespace HttpValues

/-- The parts of a URI, as texts. -/
structure Uri where
  scheme : Option (List Char)
  authority : Option (List Char)
  pathAndQuery : Option (List Char)
deriving Repr, DecidableEq

abbrev HeaderValue := List UInt8

/-- A byte that `to_str` takes. -/
def isVisibleAscii (byte : UInt8) : Bool :=
  32 ≤ byte.toNat && byte.toNat < 127 || byte.toNat = 9

/-- A text that is not all visible is none. -/
def toStr (value : HeaderValue) : Option (List Char) :=
  if value.all isVisibleAscii then
    some (value.map fun byte => Char.ofNat byte.toNat)
  else none

def ofText (text : List Char) : HeaderValue :=
  text.map fun c => UInt8.ofNat c.toNat

def isVisible (c : Char) : Bool :=
  32 ≤ c.toNat && c.toNat < 127 || c.toNat = 9

theorem isVisible_of_isAlphanum {c : Char} (h : c.isAlphanum = true) :
    isVisible c = true := by
  unfold Char.isAlphanum Char.isAlpha Char.isUpper Char.isLower
    Char.isDigit at h
  simp only [Bool.or_eq_true, Bool.and_eq_true, decide_eq_true_eq,
    UInt32.le_iff_toNat_le, ge_iff_le] at h
  have hval : c.toNat = c.val.toNat := rfl
  have hZ : 'Z'.val.toNat = 90 := rfl
  have hz : 'z'.val.toNat = 122 := rfl
  have h9 : '9'.val.toNat = 57 := rfl
  have hA : 'A'.val.toNat = 65 := rfl
  have ha : 'a'.val.toNat = 97 := rfl
  have h0 : '0'.val.toNat = 48 := rfl
  simp only [isVisible, Bool.or_eq_true, Bool.and_eq_true, decide_eq_true_eq]
  omega

theorem toNat_ofNat_of_isVisible {c : Char} (h : isVisible c = true) :
    (UInt8.ofNat c.toNat).toNat = c.toNat := by
  have hlt : c.toNat < 256 := by
    simp only [isVisible, Bool.or_eq_true, Bool.and_eq_true,
      decide_eq_true_eq] at h
    omega
  rw [UInt8.toNat_ofNat']
  exact Nat.mod_eq_of_lt hlt

/-- A text of visible characters is read back. -/
theorem toStr_ofText {text : List Char}
    (hvisible : ∀ c ∈ text, isVisible c = true) :
    toStr (ofText text) = some text := by
  have hall : (ofText text).all isVisibleAscii = true := by
    rw [List.all_eq_true]
    intro byte hbyte
    obtain ⟨c, hc, rfl⟩ := List.mem_map.mp hbyte
    have hv := hvisible c hc
    rw [isVisibleAscii, toNat_ofNat_of_isVisible hv]
    exact hv
  rw [toStr, if_pos hall, ofText, List.map_map, Option.some.injEq]
  conv => rhs; rw [← List.map_id text]
  apply List.map_congr_left
  intro c hc
  rw [Function.comp_apply, toNat_ofNat_of_isVisible (hvisible c hc),
    Char.ofNat_toNat]
  rfl

end HttpValues
