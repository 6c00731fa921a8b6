/-
Strings written as JSON into the script of a page.  Quotes, backslashes and
control characters are escaped, so that the script has one string there, with
the value that was written; everything else stays, an end tag too.
-/
import Epoxy.HtmlTokens

namespace ScriptStrings

open HtmlTokens

def hexDigit (n : Nat) : Char := Nat.digitChar (n % 16)

/-- The characters with an escape of two characters, and its second one. -/
def shortEscapes : List (Char × Char) :=
  [('"', '"'), ('\\', '\\'), ('\x08', 'b'), ('\t', 't'), ('\n', 'n'),
    ('\x0c', 'f'), ('\r', 'r')]

def jsonChar (c : Char) : Text :=
  match shortEscapes.lookup c with
  | some escape => ['\\', escape]
  | none =>
      if c.toNat < 32 then
        ['\\', 'u', '0', '0', hexDigit (c.toNat / 16), hexDigit c.toNat]
      else [c]

def jsonBody (text : Text) : Text := text.flatMap jsonChar

def jsonString (text : Text) : Text := '"' :: (jsonBody text ++ ['"'])

def hexValue (c : Char) : Option Nat :=
  if c.isDigit then some (c.toNat - '0'.toNat)
  else if 'a' ≤ c ∧ c ≤ 'f' then some (c.toNat - 'a'.toNat + 10)
  else if 'A' ≤ c ∧ c ≤ 'F' then some (c.toNat - 'A'.toNat + 10)
  else none

/-- What a script means by a backslash and a character, which is the character
itself but for some. -/
def escapedChar (c : Char) : Char :=
  if c = 'b' then '\x08'
  else if c = 't' then '\t'
  else if c = 'n' then '\n'
  else if c = 'f' then '\x0c'
  else if c = 'r' then '\r'
  else c

/-- What has been read of a character: nothing, its backslash, or the first of
its hexadecimal digits, with how many more there are but one. -/
inductive Reading where
  | plain
  | backslash
  | hex (left value : Nat)
deriving Repr, DecidableEq

def consValue (c : Char) (read : Text × Text) : Text × Text :=
  (c :: read.1, read.2)

/-- The value of the rest of a string of a script, and what comes after its
closing quote.  A line ends no string, and the escapes that JSON does not have
are left out. -/
def readBody : Reading → Text → Option (Text × Text)
  | _, [] => none
  | .plain, c :: rest =>
      if c = '"' then some ([], rest)
      else if c = '\n' ∨ c = '\r' then none
      else if c = '\\' then readBody .backslash rest
      else (readBody .plain rest).map (consValue c)
  | .backslash, c :: rest =>
      if c = 'u' then readBody (.hex 3 0) rest
      else if c.isAlphanum ∧ c ∉ ['b', 'f', 'n', 'r', 't'] then none
      else (readBody .plain rest).map (consValue (escapedChar c))
  | .hex left value, c :: rest =>
      match hexValue c, left with
      | none, _ => none
      | some digit, 0 =>
          (readBody .plain rest).map
            (consValue (Char.ofNat (value * 16 + digit)))
      | some digit, left + 1 =>
          readBody (.hex left (value * 16 + digit)) rest

def readString : Text → Option (Text × Text)
  | [] => none
  | c :: rest => if c = '"' then readBody .plain rest else none

@[simp] theorem jsonBody_nil : jsonBody [] = [] := rfl

@[simp] theorem jsonBody_cons (c : Char) (text : Text) :
    jsonBody (c :: text) = jsonChar c ++ jsonBody text := rfl

@[simp] theorem jsonBody_append (before after : Text) :
    jsonBody (before ++ after) = jsonBody before ++ jsonBody after :=
  List.flatMap_append

theorem mem_of_lookup {c escape : Char}
    (h : shortEscapes.lookup c = some escape) : (c, escape) ∈ shortEscapes := by
  obtain ⟨before, after, heq, -⟩ := List.lookup_eq_some_iff.mp h
  rw [heq]
  simp

theorem ne_of_lookup {c : Char} (h : shortEscapes.lookup c = none) :
    ∀ pair ∈ shortEscapes, c ≠ pair.1 := by
  intro pair hpair heq
  have hne := List.lookup_eq_none_iff.mp h pair hpair
  simp [heq] at hne

section Reading

theorem hexValue_hexDigit : ∀ n < 16, hexValue (hexDigit n) = some n := by
  decide

theorem readBody_hex {n : Nat} (h : n < 32) (rest : Text) :
    readBody .plain
        (['\\', 'u', '0', '0', hexDigit (n / 16), hexDigit n] ++ rest) =
      (readBody .plain rest).map (consValue (Char.ofNat n)) := by
  have hhigh := hexValue_hexDigit (n / 16) (by omega)
  have hlow := hexValue_hexDigit (n % 16) (by omega)
  have hdigit : hexDigit (n % 16) = hexDigit n := by simp [hexDigit]
  have hzero : hexValue '0' = some 0 := by decide
  have hsum : n / 16 * 16 + n % 16 = n := by omega
  rw [hdigit] at hlow
  simp [readBody, hzero, hhigh, hlow, hsum]

theorem escapedChar_of_mem : ∀ pair ∈ shortEscapes,
    pair.2 ≠ 'u' ∧
      ¬(pair.2.isAlphanum = true ∧ pair.2 ∉ ['b', 'f', 'n', 'r', 't']) ∧
      escapedChar pair.2 = pair.1 := by
  decide

theorem readBody_jsonChar (c : Char) (rest : Text) :
    readBody .plain (jsonChar c ++ rest) =
      (readBody .plain rest).map (consValue c) := by
  rw [jsonChar]
  cases hlookup : shortEscapes.lookup c with
  | some escape =>
      obtain ⟨hu, hletter, hvalue⟩ :=
        escapedChar_of_mem _ (mem_of_lookup hlookup)
      simp only [List.cons_append, List.nil_append]
      rw [readBody, if_neg (by decide), if_neg (by decide), if_pos rfl,
        readBody, if_neg hu, if_neg hletter, hvalue]
  | none =>
      have hne := ne_of_lookup hlookup
      by_cases hcontrol : c.toNat < 32
      · simp only [if_pos hcontrol]
        rw [readBody_hex hcontrol, Char.ofNat_toNat]
      · have hquote : c ≠ '"' := hne ('"', '"') (by decide)
        have hbackslash : c ≠ '\\' := hne ('\\', '\\') (by decide)
        have hline : c ≠ '\n' := hne ('\n', 'n') (by decide)
        have hreturn : c ≠ '\r' := hne ('\r', 'r') (by decide)
        simp only [if_neg hcontrol, List.singleton_append]
        rw [readBody, if_neg hquote, if_neg (by simp [hline, hreturn]),
          if_neg hbackslash]

theorem readBody_jsonBody (text rest : Text) :
    readBody .plain (jsonBody text ++ '"' :: rest) = some (text, rest) := by
  induction text with
  | nil => rfl
  | cons c text ih =>
      rw [jsonBody_cons, List.append_assoc, readBody_jsonChar, ih]
      rfl

/-- The script reads the string that was written, and goes on after it. -/
theorem readString_jsonString (text rest : Text) :
    readString (jsonString text ++ rest) = some (text, rest) := by
  rw [jsonString, List.cons_append, List.append_assoc]
  exact readBody_jsonBody text rest

end Reading

section EndTags

theorem jsonChar_short : ∀ pair ∈ shortEscapes,
    pair.1.toLower ∉ endTagStart ∧
      '<' ∉ ['\\', pair.2].map Char.toLower := by
  decide

theorem jsonChar_control : ∀ n < 32,
    (Char.ofNat n).toLower ∉ endTagStart ∧
      '<' ∉ ['\\', 'u', '0', '0', hexDigit (n / 16), hexDigit n].map
        Char.toLower := by
  decide

/-- A character is left as it is, or else is none of those of an end tag, and
is written without the first of them. -/
theorem jsonChar_cases (c : Char) :
    jsonChar c = [c] ∨ c.toLower ∉ endTagStart ∧
      (∃ rest, jsonChar c = '\\' :: rest) ∧
      '<' ∉ (jsonChar c).map Char.toLower := by
  rw [jsonChar]
  cases hlookup : shortEscapes.lookup c with
  | some escape =>
      obtain ⟨hlower, hescape⟩ := jsonChar_short _ (mem_of_lookup hlookup)
      exact .inr ⟨hlower, ⟨_, rfl⟩, hescape⟩
  | none =>
      by_cases hcontrol : c.toNat < 32
      · obtain ⟨hlower, hrest⟩ := jsonChar_control _ hcontrol
        rw [Char.ofNat_toNat] at hlower
        simp only [if_pos hcontrol]
        exact .inr ⟨hlower, ⟨_, rfl⟩, hrest⟩
      · exact .inl (by simp only [if_neg hcontrol])

/-- The beginning of an end tag is found in what is written exactly if it is
found in the text. -/
theorem isPrefixOf_jsonBody {word : Text} (hword : ∀ c ∈ word, c ∈ endTagStart)
    (text : Text) :
    word.isPrefixOf ((jsonBody text ++ ['"']).map Char.toLower) =
      word.isPrefixOf (text.map Char.toLower) := by
  have houtside (d : Char) (hd : d ∉ endTagStart) {c : Char}
      (hc : c ∈ endTagStart) : (c == d) = false := by
    rw [beq_eq_false_iff_ne]
    rintro rfl
    exact hd hc
  induction text generalizing word with
  | nil =>
      cases word with
      | nil => rfl
      | cons x word =>
          have hx := houtside '"' (by decide)
            (hword x List.mem_cons_self)
          simp [List.isPrefixOf, hx]
  | cons c text ih =>
      cases word with
      | nil => rfl
      | cons x word =>
          have hx := hword x List.mem_cons_self
          obtain hplain | ⟨hlower, ⟨rest, hescaped⟩, -⟩ := jsonChar_cases c
          · simp only [jsonBody_cons, hplain, List.nil_append,
              List.cons_append, List.map_cons, List.isPrefixOf]
            rw [ih fun c hc => hword c (List.mem_cons_of_mem _ hc)]
          · have hback := houtside '\\' (by decide) hx
            have hbackslash : ('\\').toLower = '\\' := by decide
            simp only [jsonBody_cons, hescaped, List.cons_append,
              List.map_cons, List.isPrefixOf, hbackslash, hback,
              houtside _ hlower hx, Bool.false_and]

theorem endTagAt_cons_of_ne {c : Char} (h : c.toLower ≠ '<') (rest : Text) :
    endTagAt (c :: rest) = false := by
  have hne : ('<' == c.toLower) = false := by
    rw [beq_eq_false_iff_ne]
    exact h.symm
  simp only [endTagAt, endTagStart, List.map_cons, List.isPrefixOf, hne,
    Bool.false_and]

theorem hasEndTag_append_of_not_mem {before : Text}
    (h : '<' ∉ before.map Char.toLower) (rest : Text) :
    hasEndTag (before ++ rest) = hasEndTag rest := by
  induction before with
  | nil => rfl
  | cons c before ih =>
      rw [List.map_cons] at h
      obtain ⟨hc, hbefore⟩ := List.ne_and_not_mem_of_not_mem_cons h
      rw [List.cons_append, hasEndTag, endTagAt_cons_of_ne (Ne.symm hc),
        Bool.false_or]
      exact ih hbefore

theorem hasEndTag_jsonBody (text : Text) :
    hasEndTag (jsonBody text ++ ['"']) = hasEndTag text := by
  induction text with
  | nil => decide
  | cons c text ih =>
      obtain hplain | ⟨hlower, -, hwritten⟩ := jsonChar_cases c
      · have hat : endTagAt (jsonBody (c :: text) ++ ['"']) =
            endTagAt (c :: text) := isPrefixOf_jsonBody (fun _ h => h) _
        rw [jsonBody_cons, hplain] at hat ⊢
        simp only [List.cons_append, List.nil_append] at hat ⊢
        rw [hasEndTag, hat, ih, hasEndTag]
      · have hne : c.toLower ≠ '<' := by
          intro heq
          exact hlower (heq ▸ by decide)
        rw [jsonBody_cons, List.append_assoc,
          hasEndTag_append_of_not_mem hwritten, ih, hasEndTag,
          endTagAt_cons_of_ne hne, Bool.false_or]

/-- An end tag is in the string that is written exactly if it is in the
text. -/
theorem hasEndTag_jsonString (text : Text) :
    hasEndTag (jsonString text) = hasEndTag text := by
  have hquote : '<' ∉ ['"'].map Char.toLower := by decide
  rw [jsonString, ← List.singleton_append, hasEndTag_append_of_not_mem hquote,
    hasEndTag_jsonBody]

end EndTags

end ScriptStrings
