/-
The tags in the text of an HTML page, as they are told apart from its text,
character by character.  A script has rules of its own: it ends at its end tag,
unless it has begun a comment and a script in it.
-/
import Mathlib.Data.List.Basic

namespace HtmlTokens

abbrev Text := List Char

/-- Attributes are as they are written, with no references resolved. -/
structure Tag where
  closing : Bool
  name : Text
  attributes : List (Text × Text)
deriving Repr, DecidableEq

inductive Escape where
  | plain
  | escaped
  | doubleEscaped
deriving Repr, DecidableEq

/-- The states in a script, with the end of the text that still matters. -/
inductive ScriptState where
  | text (level : Escape)
  | dash (level : Escape)
  | dashes (level : Escape)
  | less (level : Escape)
  | bang
  | bangDash
  | endTag (level : Escape) (name : Text)
  | doubleStart (name : Text)
  | doubleEnd (name : Text)
deriving Repr, DecidableEq

inductive RawState where
  | text
  | less
  | endTag (name : Text)
deriving Repr, DecidableEq

inductive CommentState where
  | start
  | startDash
  | text
  | dash
  | dashes
  | bang
deriving Repr, DecidableEq

/-- Names and values are held with their last character first. -/
inductive State where
  | data
  | raw (element : Text) (state : RawState)
  | script (state : ScriptState)
  | tagOpen
  | endTagOpen
  | tagName (closing : Bool) (name : Text)
  | beforeAttribute (tag : Tag)
  | attributeName (tag : Tag) (name : Text)
  | afterAttributeName (tag : Tag) (name : Text)
  | beforeValue (tag : Tag) (name : Text)
  | quotedValue (quote : Char) (tag : Tag) (name value : Text)
  | unquotedValue (tag : Tag) (name value : Text)
  | afterValue (tag : Tag)
  | selfClosing (tag : Tag)
  | declaration
  | declarationDash
  | comment (state : CommentState)
  | bogus
deriving Repr, DecidableEq

def isSpace (c : Char) : Bool := c ∈ [' ', '\t', '\n', '\r', '\x0c']

def isTagEnd (c : Char) : Bool := isSpace c || c = '/' || c = '>'

def scriptName : Text := ['s', 'c', 'r', 'i', 'p', 't']

/-- The elements that hold nothing but text. -/
def rawNames : List Text :=
  [['s', 't', 'y', 'l', 'e'], ['t', 'i', 't', 'l', 'e'],
    ['t', 'e', 'x', 't', 'a', 'r', 'e', 'a'], ['x', 'm', 'p'],
    ['i', 'f', 'r', 'a', 'm', 'e'], ['n', 'o', 'e', 'm', 'b', 'e', 'd'],
    ['n', 'o', 'f', 'r', 'a', 'm', 'e', 's']]

def Tag.addAttribute (tag : Tag) (name value : Text) : Tag :=
  { tag with attributes := tag.attributes ++ [(name.reverse, value.reverse)] }

/-- What comes after a start tag depends on what it starts. -/
def Tag.next (tag : Tag) : State :=
  if tag.closing then .data
  else if tag.name = scriptName then .script (.text .plain)
  else if tag.name ∈ rawNames then .raw tag.name .text
  else .data

def emit (tag : Tag) : State × Option Tag := (tag.next, some tag)

def stay (state : State) : State × Option Tag := (state, none)

namespace ScriptState

/-- A character of a script that is not part of something begun. -/
def start (level : Escape) (c : Char) : ScriptState :=
  if c = '<' then .less level
  else if c = '-' ∧ level ≠ .plain then .dash level
  else .text level

/-- The next state in the script, or none if the end tag's name is whole and
the character ends it. -/
def step : ScriptState → Char → Option ScriptState
  | .text level, c => some (start level c)
  | .dash level, c =>
      some (if c = '-' then .dashes level else start level c)
  | .dashes level, c =>
      some (if c = '-' then .dashes level
        else if c = '>' then .text .plain
        else start level c)
  | .less level, c =>
      some (if c = '/' then
          if level = .doubleEscaped then .doubleEnd [] else .endTag level []
        else if c = '!' ∧ level = .plain then .bang
        else if c.isAlpha ∧ level = .escaped then .doubleStart [c.toLower]
        else start level c)
  | .bang, c => some (if c = '-' then .bangDash else start .plain c)
  | .bangDash, c => some (if c = '-' then .dashes .escaped else start .plain c)
  | .endTag level name, c =>
      if c.isAlpha then some (.endTag level (c.toLower :: name))
      else if isTagEnd c ∧ name.reverse = scriptName then none
      else some (start level c)
  | .doubleStart name, c =>
      some (if isTagEnd c then
          .text (if name.reverse = scriptName then .doubleEscaped
            else .escaped)
        else if c.isAlpha then .doubleStart (c.toLower :: name)
        else start .escaped c)
  | .doubleEnd name, c =>
      some (if isTagEnd c then
          .text (if name.reverse = scriptName then .escaped
            else .doubleEscaped)
        else if c.isAlpha then .doubleEnd (c.toLower :: name)
        else start .doubleEscaped c)

end ScriptState

/-- The character after the name of a tag. -/
def endName (tag : Tag) (c : Char) : State × Option Tag :=
  if c = '/' then stay (.selfClosing tag)
  else if c = '>' then emit tag
  else stay (.beforeAttribute tag)

def beforeAttribute (tag : Tag) (c : Char) : State × Option Tag :=
  if isSpace c then stay (.beforeAttribute tag)
  else if c = '/' then stay (.selfClosing tag)
  else if c = '>' then emit tag
  else stay (.attributeName tag [c.toLower])

def rawStep (element : Text) : RawState → Char → State × Option Tag
  | .text, c => stay (.raw element (if c = '<' then .less else .text))
  | .less, c =>
      stay (.raw element (if c = '/' then .endTag []
        else if c = '<' then .less else .text))
  | .endTag name, c =>
      if c.isAlpha then stay (.raw element (.endTag (c.toLower :: name)))
      else if isTagEnd c ∧ name.reverse = element then
        endName ⟨true, element, []⟩ c
      else stay (.raw element (if c = '<' then .less else .text))

def commentStep : CommentState → Char → State × Option Tag
  | .start, c =>
      stay (if c = '-' then .comment .startDash
        else if c = '>' then .data else .comment .text)
  | .startDash, c =>
      stay (if c = '-' then .comment .dashes
        else if c = '>' then .data else .comment .text)
  | .text, c => stay (.comment (if c = '-' then .dash else .text))
  | .dash, c => stay (.comment (if c = '-' then .dashes else .text))
  | .dashes, c =>
      stay (if c = '-' then .comment .dashes
        else if c = '!' then .comment .bang
        else if c = '>' then .data else .comment .text)
  | .bang, c =>
      stay (if c = '-' then .comment .dash
        else if c = '>' then .data else .comment .text)

def step : State → Char → State × Option Tag
  | .data, c => stay (if c = '<' then .tagOpen else .data)
  | .raw element state, c => rawStep element state c
  | .script state, c =>
      match state.step c with
      | some next => stay (.script next)
      | none => endName ⟨true, scriptName, []⟩ c
  | .tagOpen, c =>
      stay (if c = '!' then .declaration
        else if c = '/' then .endTagOpen
        else if c.isAlpha then .tagName false [c.toLower]
        else if c = '?' then .bogus
        else if c = '<' then .tagOpen
        else .data)
  | .endTagOpen, c =>
      stay (if c.isAlpha then .tagName true [c.toLower]
        else if c = '>' then .data
        else .bogus)
  | .tagName closing name, c =>
      if isTagEnd c then endName ⟨closing, name.reverse, []⟩ c
      else stay (.tagName closing (c.toLower :: name))
  | .beforeAttribute tag, c => beforeAttribute tag c
  | .attributeName tag name, c =>
      if isSpace c then stay (.afterAttributeName tag name)
      else if isTagEnd c then endName (tag.addAttribute name []) c
      else if c = '=' then stay (.beforeValue tag name)
      else stay (.attributeName tag (c.toLower :: name))
  | .afterAttributeName tag name, c =>
      if isSpace c then stay (.afterAttributeName tag name)
      else if isTagEnd c then endName (tag.addAttribute name []) c
      else if c = '=' then stay (.beforeValue tag name)
      else stay (.attributeName (tag.addAttribute name []) [c.toLower])
  | .beforeValue tag name, c =>
      if isSpace c then stay (.beforeValue tag name)
      else if c = '"' ∨ c = '\'' then stay (.quotedValue c tag name [])
      else if c = '>' then emit (tag.addAttribute name [])
      else stay (.unquotedValue tag name [c])
  | .quotedValue quote tag name value, c =>
      stay (if c = quote then .afterValue (tag.addAttribute name value)
        else .quotedValue quote tag name (c :: value))
  | .unquotedValue tag name value, c =>
      if isSpace c then stay (.beforeAttribute (tag.addAttribute name value))
      else if c = '>' then emit (tag.addAttribute name value)
      else stay (.unquotedValue tag name (c :: value))
  | .afterValue tag, c => beforeAttribute tag c
  | .selfClosing tag, c =>
      if c = '>' then emit tag else beforeAttribute tag c
  | .declaration, c =>
      stay (if c = '-' then .declarationDash
        else if c = '>' then .data else .bogus)
  | .declarationDash, c =>
      stay (if c = '-' then .comment .start
        else if c = '>' then .data else .bogus)
  | .comment state, c => commentStep state c
  | .bogus, c => stay (if c = '>' then .data else .bogus)

/-- The state after the text. -/
def final (state : State) (text : Text) : State :=
  text.foldl (fun state c => (step state c).1) state

/-- The tags that the text completes. -/
def tags (state : State) : Text → List Tag
  | [] => []
  | c :: rest => (step state c).2.toList ++ tags (step state c).1 rest

/-- The tags of a page. -/
def skeleton (page : Text) : List Tag := tags .data page

/-- The text of a page that is written in pieces. -/
def lines (text : List String) : Text := text.flatMap String.toList

/-- The text that is meant by text with references to characters, of those
that are written for markup. -/
def resolved : Text → Text
  | '&' :: 'a' :: 'm' :: 'p' :: ';' :: rest => '&' :: resolved rest
  | '&' :: 'l' :: 't' :: ';' :: rest => '<' :: resolved rest
  | '&' :: 'g' :: 't' :: ';' :: rest => '>' :: resolved rest
  | '&' :: 'q' :: 'u' :: 'o' :: 't' :: ';' :: rest => '"' :: resolved rest
  | '&' :: '#' :: '3' :: '9' :: ';' :: rest => '\'' :: resolved rest
  | c :: rest => c :: resolved rest
  | [] => []

section Runs

@[simp] theorem final_nil (state : State) : final state [] = state := rfl

@[simp] theorem final_cons (state : State) (c : Char) (text : Text) :
    final state (c :: text) = final (step state c).1 text := rfl

theorem final_append (state : State) (before after : Text) :
    final state (before ++ after) = final (final state before) after := by
  rw [final, List.foldl_append]
  rfl

theorem tags_append (state : State) (before after : Text) :
    tags state (before ++ after) =
      tags state before ++ tags (final state before) after := by
  induction before generalizing state with
  | nil => rfl
  | cons c before ih =>
      rw [List.cons_append, tags, tags, ih, List.append_assoc]
      rfl

end Runs

section Texts

variable {text : Text}

theorem final_data (h : '<' ∉ text) : final .data text = .data := by
  induction text with
  | nil => rfl
  | cons c text ih =>
      obtain ⟨hc, htext⟩ := List.ne_and_not_mem_of_not_mem_cons h
      rw [final_cons, step, stay, if_neg (Ne.symm hc)]
      exact ih htext

theorem tags_data (h : '<' ∉ text) : tags .data text = [] := by
  induction text with
  | nil => rfl
  | cons c text ih =>
      obtain ⟨hc, htext⟩ := List.ne_and_not_mem_of_not_mem_cons h
      rw [tags, step, stay, if_neg (Ne.symm hc)]
      exact ih htext

theorem final_raw (element : Text) (h : '<' ∉ text) :
    final (.raw element .text) text = .raw element .text := by
  induction text with
  | nil => rfl
  | cons c text ih =>
      obtain ⟨hc, htext⟩ := List.ne_and_not_mem_of_not_mem_cons h
      rw [final_cons, step, rawStep, stay, if_neg (Ne.symm hc)]
      exact ih htext

theorem final_quotedValue {quote : Char} (h : quote ∉ text) (tag : Tag)
    (name value : Text) :
    final (.quotedValue quote tag name value) text =
      .quotedValue quote tag name (text.reverse ++ value) := by
  induction text generalizing value with
  | nil => rfl
  | cons c text ih =>
      obtain ⟨hc, htext⟩ := List.ne_and_not_mem_of_not_mem_cons h
      rw [final_cons, step, stay, if_neg (Ne.symm hc), ih htext]
      simp

theorem lines_nil : lines [] = [] := rfl

theorem lines_cons {line : String} {rest : List String} {chars after : Text}
    (hline : line = String.ofList chars) (hrest : lines rest = after) :
    lines (line :: rest) = chars ++ after := by
  rw [lines, List.flatMap_cons, hline, String.toList_ofList, ← hrest]
  rfl

/-- A fact about text in literals is one about its characters. -/
theorem of_lines (fact : Text → Prop) {text : List String} {chars : Text}
    (htext : lines text = chars) (h : fact chars) : fact (lines text) := by
  rw [htext]
  exact h

end Texts

/-- The state after text that stays in a script, or none. -/
def scriptRun (state : ScriptState) : Text → Option ScriptState
  | [] => some state
  | c :: rest => (state.step c).bind fun next => scriptRun next rest

def endTagStart : Text := '<' :: '/' :: scriptName

/-- An end tag begins here, in capitals or not. -/
def endTagAt (text : Text) : Bool :=
  endTagStart.isPrefixOf (text.map Char.toLower)

def hasEndTag : Text → Bool
  | [] => false
  | c :: rest => endTagAt (c :: rest) || hasEndTag rest

section Scripts

theorem scriptRun_append (state : ScriptState) (before after : Text) :
    scriptRun state (before ++ after) =
      (scriptRun state before).bind fun next => scriptRun next after := by
  induction before generalizing state with
  | nil => rfl
  | cons c before ih =>
      rw [List.cons_append, scriptRun, scriptRun]
      cases state.step c with
      | none => rfl
      | some next => exact ih next

theorem final_script {state next : ScriptState} {text : Text}
    (h : scriptRun state text = some next) :
    final (.script state) text = .script next := by
  induction text generalizing state with
  | nil => rw [final_nil, Option.some.inj h]
  | cons c text ih =>
      obtain ⟨after, hstep, hrest⟩ := Option.bind_eq_some_iff.mp h
      rw [final_cons, step, hstep]
      exact ih hrest

theorem tags_script {state next : ScriptState} {text : Text}
    (h : scriptRun state text = some next) :
    tags (.script state) text = [] := by
  induction text generalizing state with
  | nil => rfl
  | cons c text ih =>
      obtain ⟨after, hstep, hrest⟩ := Option.bind_eq_some_iff.mp h
      rw [tags, step, hstep]
      exact ih hrest

/-- What has been read when an end tag has begun. -/
def Begun (read : Text) : ScriptState → Prop
  | .less _ => ∃ before, read = before ++ ['<']
  | .endTag _ name => ∃ before spelled,
      read = before ++ '<' :: '/' :: spelled ∧
        name.reverse = spelled.map Char.toLower
  | _ => True

theorem begun_start (read : Text) (level : Escape) (c : Char) :
    Begun (read ++ [c]) (ScriptState.start level c) := by
  rw [ScriptState.start]
  by_cases hless : c = '<'
  · rw [if_pos hless, hless]
    exact ⟨read, rfl⟩
  · rw [if_neg hless]
    split
    case isTrue => trivial
    case isFalse => trivial

/-- Nothing is begun in a state of these forms. -/
theorem begun_of_some {read : Text} {state next : ScriptState}
    (h : some state = some next) (hbegun : Begun read state) :
    Begun read next :=
  Option.some.inj h ▸ hbegun

/-- Whatever is read, an end tag's name has only been read after its start. -/
theorem Begun.step {read : Text} {state next : ScriptState} {c : Char}
    (h : Begun read state) (hstep : state.step c = some next) :
    Begun (read ++ [c]) next := by
  cases state with
  | text level => exact begun_of_some hstep (begun_start read level c)
  | dash level =>
      refine begun_of_some hstep ?_
      split
      case isTrue => trivial
      case isFalse => exact begun_start read level c
  | dashes level =>
      refine begun_of_some hstep ?_
      split
      case isTrue => trivial
      case isFalse =>
        split
        case isTrue => trivial
        case isFalse => exact begun_start read level c
  | less level =>
      obtain ⟨before, rfl⟩ := h
      refine begun_of_some hstep ?_
      by_cases hslash : c = '/'
      · rw [if_pos hslash, hslash]
        split
        case isTrue => trivial
        case isFalse => exact ⟨before, [], by simp, rfl⟩
      · rw [if_neg hslash]
        split
        case isTrue => trivial
        case isFalse =>
          split
          case isTrue => trivial
          case isFalse => exact begun_start _ level c
  | bang =>
      refine begun_of_some hstep ?_
      split
      case isTrue => trivial
      case isFalse => exact begun_start read .plain c
  | bangDash =>
      refine begun_of_some hstep ?_
      split
      case isTrue => trivial
      case isFalse => exact begun_start read .plain c
  | endTag level name =>
      rw [ScriptState.step] at hstep
      by_cases halpha : c.isAlpha = true
      · rw [if_pos halpha] at hstep
        refine begun_of_some hstep ?_
        obtain ⟨before, spelled, rfl, hname⟩ := h
        exact ⟨before, spelled ++ [c], by simp, by simp [hname]⟩
      · rw [if_neg halpha] at hstep
        split at hstep
        case isTrue => cases hstep
        case isFalse => exact begun_of_some hstep (begun_start read level c)
  | doubleStart name =>
      refine begun_of_some hstep ?_
      split
      case isTrue => trivial
      case isFalse =>
        split
        case isTrue => trivial
        case isFalse => exact begun_start read .escaped c
  | doubleEnd name =>
      refine begun_of_some hstep ?_
      split
      case isTrue => trivial
      case isFalse =>
        split
        case isTrue => trivial
        case isFalse => exact begun_start read .doubleEscaped c

/-- A script is only left after the name of its end tag. -/
theorem step_eq_none {state : ScriptState} {c : Char}
    (h : state.step c = none) :
    ∃ level name, state = .endTag level name ∧ name.reverse = scriptName := by
  cases state with
  | endTag level name =>
      rw [ScriptState.step] at h
      split at h
      case isTrue => cases h
      case isFalse =>
        split at h
        case isTrue hend => exact ⟨level, name, rfl, hend.2⟩
        case isFalse => cases h
  | _ => cases h

theorem endTagAt_append {spelled : Text}
    (h : spelled.map Char.toLower = scriptName) (rest : Text) :
    endTagAt ('<' :: '/' :: spelled ++ rest) = true := by
  have hlower : ('<' :: '/' :: spelled ++ rest).map Char.toLower =
      endTagStart ++ rest.map Char.toLower := by
    rw [List.map_append, List.map_cons, List.map_cons, h]
    rfl
  rw [endTagAt, hlower, List.isPrefixOf_iff_prefix]
  exact List.prefix_append _ _

theorem hasEndTag_append {text : Text} (h : hasEndTag text = true)
    (before : Text) : hasEndTag (before ++ text) = true := by
  induction before with
  | nil => exact h
  | cons c before ih =>
      rw [List.cons_append, hasEndTag, ih, Bool.or_true]

theorem hasEndTag_of_scriptRun {read text : Text} {state : ScriptState}
    (hbegun : Begun read state) (h : scriptRun state text = none) :
    hasEndTag (read ++ text) = true := by
  induction text generalizing read state with
  | nil => cases h
  | cons c text ih =>
      rw [scriptRun] at h
      cases hstep : state.step c with
      | some next =>
          rw [hstep] at h
          rw [← List.singleton_append, ← List.append_assoc]
          exact ih (hbegun.step hstep) h
      | none =>
          obtain ⟨level, name, rfl, hname⟩ := step_eq_none hstep
          obtain ⟨before, spelled, rfl, hspelled⟩ := hbegun
          rw [List.append_assoc]
          apply hasEndTag_append
          have hat := endTagAt_append (hspelled.symm.trans hname) (c :: text)
          rw [List.cons_append, hasEndTag]
          exact Bool.or_eq_true_iff.mpr (.inl hat)

/-- Text without an end tag stays in the script. -/
theorem exists_scriptRun {text : Text} (h : hasEndTag text = false)
    (level : Escape) : ∃ next, scriptRun (.text level) text = some next := by
  cases hrun : scriptRun (.text level) text with
  | some next => exact ⟨next, rfl⟩
  | none =>
      have hbegun : Begun [] (.text level) := trivial
      have hend := hasEndTag_of_scriptRun hbegun hrun
      rw [List.nil_append, h] at hend
      cases hend

namespace ScriptState

def level : ScriptState → Escape
  | .text level | .dash level | .dashes level | .less level
  | .endTag level _ => level
  | .bang | .bangDash => .plain
  | .doubleStart _ => .escaped
  | .doubleEnd _ => .doubleEscaped

/-- A character that is part of nothing ends whatever was begun. -/
def isInert (c : Char) : Bool :=
  !(c.isAlpha || isTagEnd c || c = '<' || c = '!' || c = '-')

theorem step_inert {c : Char} (h : isInert c = true) (state : ScriptState) :
    state.step c = some (.text state.level) := by
  simp only [isInert, Bool.not_eq_true', Bool.or_eq_false_iff,
    decide_eq_false_iff_not] at h
  obtain ⟨⟨⟨⟨halpha, hend⟩, hless⟩, hbang⟩, hdash⟩ := h
  have hslash : c ≠ '/' := by
    rintro rfl
    revert hend
    decide
  have hclose : c ≠ '>' := by
    rintro rfl
    revert hend
    decide
  cases state with
  | _ => simp [step, start, level, halpha, hend, hless, hbang, hdash, hslash,
      hclose]

end ScriptState

/-- How far the script is escaped after the text, or none if it has ended. -/
def levelAfter (level : Escape) (text : Text) : Option Escape :=
  (scriptRun (.text level) text).map ScriptState.level

theorem scriptRun_append_inert {c : Char}
    (hinert : ScriptState.isInert c = true) (level : Escape) (text : Text) :
    scriptRun (.text level) (text ++ [c]) =
      (levelAfter level text).map .text := by
  rw [scriptRun_append, levelAfter]
  cases scriptRun (.text level) text with
  | none => rfl
  | some next =>
      rw [Option.bind_some, scriptRun, ScriptState.step_inert hinert]
      rfl

/-- Text with nothing in it that begins anything. -/
theorem scriptRun_plain {text : Text}
    (h : ∀ c ∈ text, c ≠ '<' ∧ c ≠ '-') (level : Escape) :
    scriptRun (.text level) text = some (.text level) := by
  induction text with
  | nil => rfl
  | cons c text ih =>
      obtain ⟨hless, hdash⟩ := h c List.mem_cons_self
      have hstart : ScriptState.start level c = .text level := by
        simp [ScriptState.start, hless, hdash]
      rw [scriptRun, ScriptState.step, hstart]
      exact ih fun c hc => h c (List.mem_cons_of_mem _ hc)

end Scripts

end HtmlTokens
