/-
Readers of text.  A reader takes a value from the front of a text and leaves
the rest.  Two kinds of facts go through every way of putting readers together:
that a reader does the same on a text that has been changed in some way, and
that what it leaves still has some property of what it was given.
-/
import Epoxy.NumberText

namespace TextReader

open NumberText

universe u v

variable {α : Type u} {β : Type v}

abbrev Reader (α : Type u) := List Char → Option (α × List Char)

/-- The reader reads the same from a changed text, and leaves the rest changed
in the same way. -/
def Natural (T : List Char → List Char) (read : Reader α) : Prop :=
  ∀ text, read (T text) = (read text).map fun found => (found.1, T found.2)

/-- What the reader leaves has the property if what it is given has it. -/
def Keeps (I : List Char → Prop) (read : Reader α) : Prop :=
  ∀ text value rest, I text → read text = some (value, rest) → I rest

variable {T : List Char → List Char} {I : List Char → Prop}
  {read other : Reader α}

theorem Natural.map {g : α × List Char → β × List Char} (h : Natural T read)
    (hg : ∀ value text,
      g (value, T text) = ((g (value, text)).1, T (g (value, text)).2)) :
    Natural T fun text => (read text).map g := by
  intro text
  dsimp only
  rw [h text]
  cases read text with
  | none => rfl
  | some found => exact congrArg some (hg found.1 found.2)

theorem Natural.bind {next : α × List Char → Option (β × List Char)}
    (h : Natural T read)
    (hnext : ∀ value, Natural T fun text => next (value, text)) :
    Natural T fun text => (read text).bind next := by
  intro text
  dsimp only
  rw [h text]
  cases read text with
  | none => rfl
  | some found => exact hnext found.1 found.2

theorem Natural.orElse (h : Natural T read) (h' : Natural T other) :
    Natural T fun text => read text <|> other text := by
  intro text
  dsimp only
  rw [h text, h' text]
  cases read text with
  | none => rfl
  | some found => rfl

theorem Keeps.map {g : α × List Char → β × List Char} (h : Keeps I read)
    (hg : ∀ value text, (g (value, text)).2 = text) :
    Keeps I fun text => (read text).map g := by
  intro text value rest htext hread
  obtain ⟨⟨inner, left⟩, hinner, heq⟩ := Option.map_eq_some_iff.mp hread
  have hleft := hg inner left
  rw [heq] at hleft
  dsimp only at hleft
  rw [hleft]
  exact h text inner left htext hinner

theorem Keeps.bind {next : α × List Char → Option (β × List Char)}
    (h : Keeps I read)
    (hnext : ∀ value, Keeps I fun text => next (value, text)) :
    Keeps I fun text => (read text).bind next := by
  intro text value rest htext hread
  obtain ⟨⟨first, left⟩, hfirst, hlast⟩ := Option.bind_eq_some_iff.mp hread
  exact hnext first left value rest (h text first left htext hfirst) hlast

theorem Keeps.orElse (h : Keeps I read) (h' : Keeps I other) :
    Keeps I fun text => read text <|> other text := by
  intro text value rest htext hread
  cases hfirst : read text with
  | none =>
      simp only [hfirst] at hread
      exact h' text value rest htext hread
  | some found =>
      simp only [hfirst] at hread
      cases hread
      exact h text value rest htext hfirst

section Numbers

variable {radix : Nat} (maxDigits limit : Nat) (allowZeroPrefix : Bool)

theorem value_map {f : Char → Char}
    (hf : ∀ c, toDigit radix (f c) = toDigit radix c) (digits : List Char) :
    value radix (digits.map f) = value radix digits := by
  simp only [value, List.foldl_map, hf]

/-- A number is read by what its digits are worth. -/
theorem natural_readNumber_map {f : Char → Char}
    (hf : ∀ c, toDigit radix (f c) = toDigit radix c)
    (hzero : ∀ c, f c = '0' ↔ c = '0') :
    Natural (List.map f)
      (readNumber radix maxDigits limit allowZeroPrefix) := by
  have hdigit : isDigit radix ∘ f = isDigit radix := by
    funext c
    simp only [Function.comp_apply, isDigit, hf]
  intro text
  have hhead : ((text.takeWhile (isDigit radix)).map f).head? = some '0' ↔
      (text.takeWhile (isDigit radix)).head? = some '0' := by
    rw [List.head?_map]
    cases (text.takeWhile (isDigit radix)).head? with
    | none => simp
    | some c => simp [hzero]
  simp only [readNumber, List.takeWhile_map, List.dropWhile_map, hdigit,
    List.length_map, value_map hf, hhead]
  repeat' split
  all_goals rfl

/-- A number ends where no digit follows. -/
theorem natural_readNumber_append {more : List Char}
    (hmore : Stops radix more) :
    Natural (· ++ more)
      (readNumber radix maxDigits limit allowZeroPrefix) := by
  intro text
  have hstops : Stops radix (text.dropWhile (isDigit radix) ++ more) := by
    intro c hc
    cases hrest : text.dropWhile (isDigit radix) with
    | nil =>
        rw [hrest] at hc
        exact hmore c hc
    | cons d rest =>
        have hd := List.head?_dropWhile_not (isDigit radix) text
        rw [hrest] at hc hd
        cases hc
        exact hd
  have hdigits : ∀ c ∈ text.takeWhile (isDigit radix), isDigit radix c = true :=
    List.all_eq_true.mp List.all_takeWhile
  obtain ⟨htake, hdrop⟩ := takeWhile_of_stops hdigits hstops
  rw [← List.append_assoc, List.takeWhile_append_dropWhile] at htake hdrop
  simp only [readNumber, htake, hdrop]
  repeat' split
  all_goals rfl

theorem readNumber_nil :
    readNumber radix maxDigits limit allowZeroPrefix [] = none := by
  simp [readNumber]

/-- An end that does not begin with a digit is left. -/
theorem keeps_readNumber_suffix {last : List Char} (hlast : Stops radix last) :
    Keeps (last <:+ ·)
      (readNumber radix maxDigits limit allowZeroPrefix) := by
  intro text value rest htext hread
  rw [rest_of_readNumber hread]
  obtain ⟨left, rfl⟩ := htext
  rw [List.dropWhile_append]
  split
  · cases last with
    | nil => simp
    | cons c more => simp [hlast c rfl]
  · exact List.suffix_append _ _

/-- What is left is an end of what was given. -/
theorem keeps_readNumber_of_suffix (whole : List Char) :
    Keeps (· <:+ whole)
      (readNumber radix maxDigits limit allowZeroPrefix) := by
  intro text value rest htext hread
  rw [rest_of_readNumber hread]
  exact (List.dropWhile_suffix _).trans htext

end Numbers

theorem readGivenChar_map {f : Char → Char} {c : Char}
    (hf : ∀ d, f d = c ↔ d = c) (text : List Char) :
    readGivenChar c (text.map f) = (readGivenChar c text).map (List.map f) := by
  cases text with
  | nil => rfl
  | cons d rest =>
      simp only [readGivenChar, List.map_cons, hf]
      split
      · rfl
      · rfl

theorem readGivenChar_append {c : Char} {more : List Char}
    (hmore : more.head? ≠ some c) (text : List Char) :
    readGivenChar c (text ++ more) =
      (readGivenChar c text).map (· ++ more) := by
  cases text with
  | nil =>
      cases more with
      | nil => rfl
      | cons d rest =>
          have hne : d ≠ c := fun heq => hmore (congrArg some heq)
          simp [readGivenChar, hne]
  | cons d rest =>
      simp only [readGivenChar, List.cons_append]
      split
      · rfl
      · rfl

/-- An end that does not begin with the given character is left behind it. -/
theorem suffix_of_readGivenChar {c : Char} {last text rest : List Char}
    (hlast : last.head? ≠ some c) (htext : last <:+ text)
    (hread : readGivenChar c text = some rest) : last <:+ rest := by
  rw [readGivenChar_eq_some.mp hread, List.suffix_cons_iff] at htext
  rcases htext with heq | hrest
  · exact absurd (by rw [heq]; rfl) hlast
  · exact hrest

theorem suffix_readGivenChar {c : Char} {text rest : List Char}
    (hread : readGivenChar c text = some rest) : rest <:+ text := by
  rw [readGivenChar_eq_some.mp hread]
  exact List.suffix_cons c rest

section Letters

theorem char_le_iff {a b : Char} : a ≤ b ↔ a.toNat ≤ b.toNat :=
  UInt32.le_iff_toNat_le

theorem toLower_cases (c : Char) :
    (c.toLower = c ∧ ¬ ('A' ≤ c ∧ c ≤ 'Z')) ∨
      ('A' ≤ c ∧ c ≤ 'Z') ∧ c.toLower.toNat = c.toNat + 32 := by
  unfold Char.toLower
  split
  · next hupper =>
      right
      refine ⟨hupper, ?_⟩
      have hlast := char_le_iff.mp hupper.2
      change (c.val + ('a'.val - 'A'.val)).toNat = c.val.toNat + 32
      change c.val.toNat ≤ 90 at hlast
      rw [UInt32.toNat_add]
      change (c.val.toNat + 32) % 2 ^ 32 = _
      omega
  · next hother => exact .inl ⟨rfl, hother⟩

/-- A digit has one value in both cases. -/
theorem digitValue_toLower (c : Char) :
    digitValue c.toLower = digitValue c := by
  rcases toLower_cases c with ⟨heq, -⟩ | ⟨⟨hfirst, hlast⟩, hlower⟩
  · rw [heq]
  · simp only [char_le_iff] at hfirst hlast
    simp only [digitValue, char_le_iff, hlower]
    have hA : 'A'.toNat = 65 := rfl
    have hZ : 'Z'.toNat = 90 := rfl
    have ha : 'a'.toNat = 97 := rfl
    have hz : 'z'.toNat = 122 := rfl
    have h0 : '0'.toNat = 48 := rfl
    have h9 : '9'.toNat = 57 := rfl
    rw [if_neg (by omega), if_pos (by omega), if_neg (by omega),
      if_neg (by omega), if_pos (by omega)]
    exact congrArg some (by omega)

/-- Lowering changes letters only. -/
theorem toLower_eq_iff {c d : Char} (hd : d < 'A') :
    c.toLower = d ↔ c = d := by
  rcases toLower_cases c with ⟨heq, -⟩ | ⟨⟨hfirst, -⟩, hlower⟩
  · rw [heq]
  · have hlt : d.toNat < 65 := UInt32.lt_iff_toNat_lt.mp hd
    have hle : 65 ≤ c.toNat := char_le_iff.mp hfirst
    constructor
    · rintro rfl
      omega
    · rintro rfl
      omega

theorem toDigit_toLower (radix : Nat) (c : Char) :
    toDigit radix c.toLower = toDigit radix c := by
  rw [toDigit, toDigit, digitValue_toLower]

end Letters

end TextReader
