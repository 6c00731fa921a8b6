/-
What the headers of a request can do to the page of the server.  Its text is
escaped and stays text; in the script an end tag is not escaped, so that with
a bridge configured the headers can end the script and go on as they like.
-/
import Epoxy.IndexPage

namespace Epoxy.Server

open HttpValues HtmlTokens ScriptStrings

def isMarkup (c : Char) : Bool := c ∈ ['<', '>', '"', '\'']

/-- The page has what is written as the text of the element that was opened
last, with no markup in it, and it means the value. -/
structure InElement (page before written after : Text) (tag : Tag)
    (value : Text) : Prop where
  place : page = before ++ written ++ after
  opened : (tags .data before).getLast? = some tag
  inText : final .data before = .data
  noMarkup : ∀ c ∈ written, isMarkup c = false
  meaning : resolved written = value
  closed : (tags .data after).head? = some ⟨true, tag.name, []⟩

/-- The page has what is written in the script that was opened last, after
some of its text, as one string with no end tag in it. -/
structure InScript (page before between written after : Text)
    (value : Text) : Prop where
  place : page = before ++ between ++ written ++ after
  opened : (tags .data before).getLast? = some ⟨false, scriptName, []⟩
  inText : final .data before = .script (.text .plain)
  stays : scriptRun (.text .plain) (between ++ written) ≠ none
  string : readString (written ++ after) = some (value, after)
  noEndTag : hasEndTag written = false

def codeTag : Tag := ⟨false, "code".toList, [("id".toList, "wisp-url".toList)]⟩

def codeBefore (target : Option (Text × Text)) : Text :=
  pageStart ++ autoconfigureLink target ++ pageHero

def codeAfter (rawUrl : Text) (target : Option (Text × Text)) : Text :=
  pageBottom ++ autoconfigureScript rawUrl target ++ pageEnd

def scriptBefore (rawUrl : Text) (target : Option (Text × Text)) : Text :=
  codeBefore target ++ htmlEscape rawUrl ++ pageBottom ++
    scriptStart

/-- The headers of a request to a host, with nothing forwarded. -/
def hostHeaders (host : Text) : HeaderMap := [("host", ofText host)]

/-- The page has the tags that it has for any host of plain letters, and the
endpoint is in it as text and, if there is a script for it, as a string. -/
structure Contained (parse : Text → Option Uri) (config : IndexConfig)
    (headers : HeaderMap) : Prop where
  sameTags : ∀ host, host ≠ [] → (∀ c ∈ host, c.isAlpha = true) →
    skeleton (indexResp parse config headers).body =
      skeleton (indexResp parse config (hostHeaders host)).body
  inElement : InElement (indexResp parse config headers).body
    (codeBefore (autoconfigureTarget parse config))
    (htmlEscape (websocketUrl config headers))
    (codeAfter (websocketUrl config headers)
      (autoconfigureTarget parse config))
    codeTag (websocketUrl config headers)
  inScript : ∀ bridgeUrl label,
    autoconfigureTarget parse config = some (bridgeUrl, label) →
    InScript (indexResp parse config headers).body
      (scriptBefore (websocketUrl config headers) (some (bridgeUrl, label)))
      (jsonString bridgeUrl ++ scriptMiddle)
      (jsonString (websocketUrl config headers))
      (scriptEnd ++ pageEnd) (websocketUrl config headers)

/-- Neither the bridge's URL nor the host, with the path after it, ends the
script, and with the host the script ends as well at its end tag as with the
path alone. -/
def KeepsScript (config : IndexConfig) (headers : HeaderMap)
    (bridgeUrl : Text) : Prop :=
  ∃ level, levelAfter .plain (jsonString bridgeUrl) = some level ∧
    hasEndTag (endpointHost headers ++ endpointPath config) = false ∧
    (levelAfter level
        (jsonString (endpointHost headers ++ endpointPath config)) =
      some .doubleEscaped ↔
      levelAfter level (jsonString (endpointPath config)) =
        some .doubleEscaped)

section Escaping

theorem resolved_cons_of_ne {c : Char} (h : c ≠ '&') (rest : Text) :
    resolved (c :: rest) = c :: resolved rest := by
  rw [resolved.eq_def]
  split
  all_goals simp_all

theorem resolved_htmlEscapeChar (c : Char) (rest : Text) :
    resolved (htmlEscapeChar c ++ rest) = c :: resolved rest := by
  rw [htmlEscapeChar]
  by_cases hamp : c = '&'
  · subst hamp
    rfl
  rw [if_neg hamp]
  by_cases hlt : c = '<'
  · subst hlt
    rfl
  rw [if_neg hlt]
  by_cases hgt : c = '>'
  · subst hgt
    rfl
  rw [if_neg hgt]
  by_cases hquote : c = '"'
  · subst hquote
    rfl
  rw [if_neg hquote]
  by_cases hapostrophe : c = '\''
  · subst hapostrophe
    rfl
  rw [if_neg hapostrophe]
  exact resolved_cons_of_ne hamp rest

/-- What is escaped means what it was. -/
theorem resolved_htmlEscape (value : Text) :
    resolved (htmlEscape value) = value := by
  induction value with
  | nil => rfl
  | cons c value ih =>
      rw [htmlEscape, List.flatMap_cons, resolved_htmlEscapeChar]
      exact congrArg _ ih

theorem isMarkup_of_not_mem {text : Text} (h : true ∉ text.map isMarkup)
    {c : Char} (hc : c ∈ text) : isMarkup c = false := by
  rw [← Bool.not_eq_true]
  intro hmarkup
  exact h (List.mem_map.mpr ⟨c, hc, hmarkup⟩)

theorem isMarkup_of_mem_htmlEscapeChar {c d : Char}
    (h : d ∈ htmlEscapeChar c) : isMarkup d = false := by
  have hreferences : ∀ reference ∈ [['&', 'a', 'm', 'p', ';'],
      ['&', 'l', 't', ';'], ['&', 'g', 't', ';'],
      ['&', 'q', 'u', 'o', 't', ';'], ['&', '#', '3', '9', ';']],
      true ∉ reference.map isMarkup := by decide
  rw [htmlEscapeChar] at h
  by_cases hamp : c = '&'
  · rw [if_pos hamp] at h
    exact isMarkup_of_not_mem (hreferences _ (by simp)) h
  rw [if_neg hamp] at h
  by_cases hlt : c = '<'
  · rw [if_pos hlt] at h
    exact isMarkup_of_not_mem (hreferences _ (by simp)) h
  rw [if_neg hlt] at h
  by_cases hgt : c = '>'
  · rw [if_pos hgt] at h
    exact isMarkup_of_not_mem (hreferences _ (by simp)) h
  rw [if_neg hgt] at h
  by_cases hquote : c = '"'
  · rw [if_pos hquote] at h
    exact isMarkup_of_not_mem (hreferences _ (by simp)) h
  rw [if_neg hquote] at h
  by_cases hapostrophe : c = '\''
  · rw [if_pos hapostrophe] at h
    exact isMarkup_of_not_mem (hreferences _ (by simp)) h
  rw [if_neg hapostrophe] at h
  obtain rfl := List.mem_singleton.mp h
  simp [isMarkup, hlt, hgt, hquote, hapostrophe]

theorem isMarkup_of_mem_htmlEscape {value : Text} {c : Char}
    (h : c ∈ htmlEscape value) : isMarkup c = false := by
  obtain ⟨d, -, hc⟩ := List.mem_flatMap.mp h
  exact isMarkup_of_mem_htmlEscapeChar hc

theorem not_mem_htmlEscape {c : Char} (hc : isMarkup c = true)
    (value : Text) : c ∉ htmlEscape value := by
  intro h
  rw [isMarkup_of_mem_htmlEscape h] at hc
  cases hc

end Escaping

set_option maxRecDepth 20000

section Pieces

theorem final_pageHead : final .data pageHead = .raw "style".toList .text := by
  apply of_lines (final .data · = .raw "style".toList .text)
  · repeat apply lines_cons rfl
    exact lines_nil
  · decide

theorem not_mem_pageStyle : '<' ∉ pageStyle := by
  apply of_lines ('<' ∉ ·)
  · repeat apply lines_cons rfl
    exact lines_nil
  · decide

theorem final_pageHeader :
    final (.raw "style".toList .text) pageHeader = .data := by
  apply of_lines (final (.raw "style".toList .text) · = .data)
  · repeat apply lines_cons rfl
    exact lines_nil
  · decide

theorem final_pageStart : final .data pageStart = .data := by
  rw [pageStart, final_append, final_append, final_pageHead,
    final_raw _ not_mem_pageStyle, final_pageHeader]

theorem final_pageHero : final .data pageHero = .data ∧
    (tags .data pageHero).getLast? = some codeTag := by
  apply of_lines fun text => final .data text = .data ∧
    (tags .data text).getLast? = some codeTag
  · repeat apply lines_cons rfl
    exact lines_nil
  · decide

theorem final_pageBottom : final .data pageBottom = .data ∧
    (tags .data pageBottom).head? = some ⟨true, codeTag.name, []⟩ := by
  apply of_lines fun text => final .data text = .data ∧
    (tags .data text).head? = some ⟨true, codeTag.name, []⟩
  · repeat apply lines_cons rfl
    exact lines_nil
  · decide

theorem final_scriptStart :
    final .data scriptStart = .script (.text .plain) ∧
      tags .data scriptStart = [⟨false, scriptName, []⟩] := by
  apply of_lines fun text => final .data text = .script (.text .plain) ∧
    tags .data text = [⟨false, scriptName, []⟩]
  · repeat apply lines_cons rfl
    exact lines_nil
  · decide

theorem scriptRun_scriptMiddle (level : Escape) :
    scriptRun (.text level) scriptMiddle = some (.text level) := by
  have hplain : '<' ∉ scriptMiddle ∧ '-' ∉ scriptMiddle := by
    apply of_lines fun text => '<' ∉ text ∧ '-' ∉ text
    · repeat apply lines_cons rfl
      exact lines_nil
    · decide
  refine scriptRun_plain (fun c hc => ⟨?_, ?_⟩) level
  · rintro rfl
    exact hplain.1 hc
  · rintro rfl
    exact hplain.2 hc

theorem final_scriptEnd : ∀ level ∈ [Escape.plain, .escaped],
    final (.script (.text level)) scriptEnd = .data ∧
      tags (.script (.text level)) scriptEnd = [⟨true, scriptName, []⟩] := by
  apply of_lines fun text => ∀ level ∈ [Escape.plain, .escaped],
    final (.script (.text level)) text = .data ∧
      tags (.script (.text level)) text = [⟨true, scriptName, []⟩]
  · repeat apply lines_cons rfl
    exact lines_nil
  · decide

theorem scriptRun_scriptEnd :
    scriptRun (.text .doubleEscaped) scriptEnd = some (.text .escaped) := by
  apply of_lines (scriptRun (.text .doubleEscaped) · = some (.text .escaped))
  · repeat apply lines_cons rfl
    exact lines_nil
  · decide

theorem tags_pageEnd :
    tags .data pageEnd =
        [⟨true, "body".toList, []⟩, ⟨true, "html".toList, []⟩] ∧
      scriptRun (.text .escaped) pageEnd ≠ none := by
  apply of_lines fun text => tags .data text =
      [⟨true, "body".toList, []⟩, ⟨true, "html".toList, []⟩] ∧
    scriptRun (.text .escaped) text ≠ none
  · repeat apply lines_cons rfl
    exact lines_nil
  · decide

/-- The script ends unless it is escaped twice. -/
theorem tags_scriptEnd (level : Escape) :
    tags (.script (.text level)) (scriptEnd ++ pageEnd) =
      if level = .doubleEscaped then []
      else [⟨true, scriptName, []⟩, ⟨true, "body".toList, []⟩,
        ⟨true, "html".toList, []⟩] := by
  by_cases hlevel : level = .doubleEscaped
  · obtain ⟨next, hpage⟩ := Option.ne_none_iff_exists'.mp tags_pageEnd.2
    rw [if_pos hlevel, hlevel, tags_append, tags_script scriptRun_scriptEnd,
      final_script scriptRun_scriptEnd, tags_script hpage]
    rfl
  · have hmem : level ∈ [Escape.plain, .escaped] := by
      cases level with
      | plain => decide
      | escaped => decide
      | doubleEscaped => exact absurd rfl hlevel
    obtain ⟨hfinal, htags⟩ := final_scriptEnd level hmem
    rw [if_neg hlevel, tags_append, hfinal, htags, tags_pageEnd.1]
    rfl

theorem final_linkPulse {tag : Tag} (hclosing : tag.closing = false)
    (hname : tag.name = ['a']) (name value : Text) :
    final (.quotedValue '"' tag name value) linkPulse = .data := by
  have hnext : (tag.addAttribute name value).next = .data := by
    have hscript : ['a'] ≠ scriptName := by decide
    have hraw : ['a'] ∉ rawNames := by decide
    simp only [Tag.next, Tag.addAttribute, hclosing, hname, Bool.false_eq_true,
      if_false, if_neg hscript, if_neg hraw]
  have hquote : (step (.quotedValue '"' tag name value) '"').1 =
      .afterValue (tag.addAttribute name value) := rfl
  have hclose (tag : Tag) : (step (.afterValue tag) '>').1 = tag.next := rfl
  apply of_lines (final (.quotedValue '"' tag name value) · = .data)
  · repeat apply lines_cons rfl
    exact lines_nil
  · rw [List.append_nil, final_cons, hquote, final_cons, hclose, hnext]
    decide

def linkTag : Tag :=
  ⟨false, ['a'], [("id".toList, "autoconfigure".toList),
    ("class".toList, "autoconfigure".toList)]⟩

theorem final_linkStart : final .data linkStart =
    .quotedValue '"' linkTag ['f', 'e', 'r', 'h'] [] := by
  apply of_lines (final .data · =
    .quotedValue '"' linkTag ['f', 'e', 'r', 'h'] [])
  · repeat apply lines_cons rfl
    exact lines_nil
  · decide

theorem final_linkEnd : final .data linkEnd = .data := by
  apply of_lines (final .data · = .data)
  · repeat apply lines_cons rfl
    exact lines_nil
  · decide

theorem final_autoconfigureLink (target : Option (Text × Text)) :
    final .data (autoconfigureLink target) = .data := by
  cases target with
  | none => rfl
  | some pair =>
      obtain ⟨bridgeUrl, label⟩ := pair
      rw [autoconfigureLink, final_append, final_append, final_append,
        final_append, final_linkStart,
        final_quotedValue (not_mem_htmlEscape (by decide) bridgeUrl),
        final_linkPulse rfl rfl,
        final_data (not_mem_htmlEscape (by decide) label), final_linkEnd]

end Pieces

section Levels

/-- A character that is written as itself and begins nothing in a script. -/
def isPlain (c : Char) : Bool := jsonChar c = [c] && c ≠ '<' && c ≠ '-'

theorem jsonBody_of_isPlain {text : Text} (h : ∀ c ∈ text, isPlain c = true) :
    jsonBody text = text := by
  induction text with
  | nil => rfl
  | cons c text ih =>
      have hc := h c List.mem_cons_self
      simp only [isPlain, Bool.and_eq_true, decide_eq_true_eq] at hc
      rw [jsonBody_cons, hc.1.1, ih fun c hc => h c (List.mem_cons_of_mem _ hc)]
      rfl

theorem scriptRun_of_isPlain {text : Text} (h : ∀ c ∈ text, isPlain c = true)
    (level : Escape) : scriptRun (.text level) text = some (.text level) := by
  refine scriptRun_plain (fun c hc => ?_) level
  have hplain := h c hc
  simp only [isPlain, Bool.and_eq_true, decide_eq_true_eq] at hplain
  exact ⟨hplain.1.2, hplain.2⟩

/-- Plain text in front of a string changes nothing. -/
theorem levelAfter_jsonString_append {before : Text}
    (h : ∀ c ∈ before, isPlain c = true) (level : Escape) (text : Text) :
    levelAfter level (jsonString (before ++ text)) =
      levelAfter level (jsonString text) := by
  have hquote : ∀ level, scriptRun (.text level) ['"'] =
      some (.text level) := by
    intro level
    cases level with
    | plain => rfl
    | escaped => rfl
    | doubleEscaped => rfl
  have hbefore : jsonString (before ++ text) =
      ['"'] ++ (before ++ (jsonBody text ++ ['"'])) := by
    rw [jsonString, jsonBody_append, jsonBody_of_isPlain h]
    simp
  have htext : jsonString text = ['"'] ++ (jsonBody text ++ ['"']) := rfl
  rw [hbefore, htext, levelAfter, levelAfter, scriptRun_append, hquote,
    Option.bind_some, scriptRun_append, scriptRun_of_isPlain h,
    Option.bind_some, scriptRun_append _ ['"'], hquote, Option.bind_some]

/-- A string ends in the text of the script, escaped or not. -/
theorem scriptRun_jsonString (level : Escape) (text : Text) :
    scriptRun (.text level) (jsonString text) =
      (levelAfter level (jsonString text)).map .text := by
  have hquote : jsonString text = ('"' :: jsonBody text) ++ ['"'] := rfl
  have hinert : ScriptState.isInert '"' = true := by decide
  have hrun := scriptRun_append_inert hinert level ('"' :: jsonBody text)
  rw [levelAfter, hquote, hrun]
  cases levelAfter level ('"' :: jsonBody text) with
  | none => rfl
  | some after => rfl

theorem exists_levelAfter {text : Text} (h : hasEndTag text = false)
    (level : Escape) :
    ∃ after, levelAfter level (jsonString text) = some after := by
  obtain ⟨next, hrun⟩ := exists_scriptRun
    ((hasEndTag_jsonString text).trans h) level
  exact ⟨next.level, by rw [levelAfter, hrun]; rfl⟩

def scheme (headers : HeaderMap) : Text :=
  (if isSecure headers then ['w', 's', 's'] else ['w', 's']) ++ [':', '/', '/']

theorem websocketUrl_eq (config : IndexConfig) (headers : HeaderMap) :
    websocketUrl config headers =
      scheme headers ++ (endpointHost headers ++ endpointPath config) := by
  simp [websocketUrl, scheme]

theorem isPlain_of_mem_scheme {headers : HeaderMap} :
    ∀ c ∈ scheme headers, isPlain c = true := by
  rw [scheme]
  split
  case isTrue => exact List.all_eq_true.mp (by decide)
  case isFalse => exact List.all_eq_true.mp (by decide)

theorem hasEndTag_websocketUrl (config : IndexConfig)
    (headers : HeaderMap) :
    hasEndTag (websocketUrl config headers) =
      hasEndTag (endpointHost headers ++ endpointPath config) := by
  have hscheme : '<' ∉ (scheme headers).map Char.toLower := by
    rw [scheme]
    split
    case isTrue => decide
    case isFalse => decide
  rw [websocketUrl_eq, hasEndTag_append_of_not_mem hscheme]

theorem levelAfter_websocketUrl (level : Escape) (config : IndexConfig)
    (headers : HeaderMap) :
    levelAfter level (jsonString (websocketUrl config headers)) =
      levelAfter level
        (jsonString (endpointHost headers ++ endpointPath config)) := by
  rw [websocketUrl_eq, levelAfter_jsonString_append isPlain_of_mem_scheme]

end Levels

section Hosts

theorem isPlain_of_isAlpha {c : Char} (h : c.isAlpha = true) :
    isPlain c = true := by
  have hshort : ∀ pair ∈ shortEscapes, pair.1.isAlpha = false := by decide
  have hlookup : shortEscapes.lookup c = none := by
    rw [List.lookup_eq_none_iff]
    intro pair hpair
    rw [bne_iff_ne]
    rintro rfl
    rw [hshort pair hpair] at h
    cases h
  have hcontrol : ¬c.toNat < 32 := by
    intro hlt
    have hsmall : ∀ n < 32, (Char.ofNat n).isAlpha = false := by decide
    have hfalse := hsmall c.toNat hlt
    rw [Char.ofNat_toNat, h] at hfalse
    cases hfalse
  have hless : c ≠ '<' := by
    rintro rfl
    revert h
    decide
  have hdash : c ≠ '-' := by
    rintro rfl
    revert h
    decide
  simp only [isPlain, jsonChar, hlookup, if_neg hcontrol, hless, hdash,
    decide_true, ne_eq, not_false_eq_true, Bool.and_self]

theorem toStr_ofText_of_isAlpha {host : Text}
    (hhost : ∀ c ∈ host, c.isAlpha = true) :
    toStr (ofText host) = some host := by
  refine toStr_ofText fun c hc => isVisible_of_isAlphanum ?_
  rw [Char.isAlphanum, hhost c hc, Bool.true_or]

theorem endpointHost_hostHeaders {host : Text}
    (hhost : ∀ c ∈ host, c.isAlpha = true) :
    endpointHost (hostHeaders host) = host := by
  have hforwarded : firstHeaderValue (hostHeaders host) "x-forwarded-host" =
      none := rfl
  have hget : getHeader (hostHeaders host) "host" = toStr (ofText host) := rfl
  rw [endpointHost, hforwarded, hget, toStr_ofText_of_isAlpha hhost]
  rfl

theorem levelAfter_hostHeaders {host : Text}
    (hhost : ∀ c ∈ host, c.isAlpha = true) (level : Escape)
    (config : IndexConfig) :
    levelAfter level
        (jsonString (websocketUrl config (hostHeaders host))) =
      levelAfter level (jsonString (endpointPath config)) := by
  rw [levelAfter_websocketUrl, endpointHost_hostHeaders hhost,
    levelAfter_jsonString_append fun c hc => isPlain_of_isAlpha (hhost c hc)]

end Hosts

section Pages

variable (parse : Text → Option Uri) (config : IndexConfig)
  (headers : HeaderMap)

theorem final_codeBefore (target : Option (Text × Text)) :
    final .data (codeBefore target) = .data := by
  rw [codeBefore, final_append, final_append, final_pageStart,
    final_autoconfigureLink, final_pageHero.1]

theorem getLast?_tags_codeBefore (target : Option (Text × Text)) :
    (tags .data (codeBefore target)).getLast? = some codeTag := by
  rw [codeBefore, tags_append, List.getLast?_append, final_append,
    final_pageStart, final_autoconfigureLink, final_pageHero.2]
  rfl

theorem body_eq :
    (indexResp parse config headers).body =
      codeBefore (autoconfigureTarget parse config) ++
        htmlEscape (websocketUrl config headers) ++
        codeAfter (websocketUrl config headers)
          (autoconfigureTarget parse config) := by
  simp [indexResp, codeBefore, codeAfter]

/-- The endpoint is the text of its element, whatever the headers are. -/
theorem inElement :
    InElement (indexResp parse config headers).body
      (codeBefore (autoconfigureTarget parse config))
      (htmlEscape (websocketUrl config headers))
      (codeAfter (websocketUrl config headers)
        (autoconfigureTarget parse config))
      codeTag (websocketUrl config headers) where
  place := body_eq parse config headers
  opened := getLast?_tags_codeBefore _
  inText := final_codeBefore _
  noMarkup _ h := isMarkup_of_mem_htmlEscape h
  meaning := resolved_htmlEscape _
  closed := by
    rw [codeAfter, List.append_assoc, tags_append, List.head?_append,
      final_pageBottom.2]
    rfl

theorem final_beforeScript (target : Option (Text × Text)) (rawUrl : Text) :
    final .data (codeBefore target ++ htmlEscape rawUrl ++
      pageBottom) = .data := by
  have hless : '<' ∉ htmlEscape rawUrl := not_mem_htmlEscape (by decide) _
  rw [final_append, final_append, final_codeBefore, final_data hless,
    final_pageBottom.1]

/-- The tags of the page up to the script of the bridge. -/
theorem tags_beforeScript (target : Option (Text × Text)) (rawUrl : Text) :
    tags .data (codeBefore target ++ htmlEscape rawUrl ++
      pageBottom) =
      tags .data (codeBefore target) ++ tags .data pageBottom := by
  have hless : '<' ∉ htmlEscape rawUrl := not_mem_htmlEscape (by decide) _
  rw [tags_append, tags_append, final_append, final_codeBefore,
    final_data hless, tags_data hless, List.append_nil]

theorem final_scriptBefore (rawUrl : Text) (target : Option (Text × Text)) :
    final .data (scriptBefore rawUrl target) = .script (.text .plain) := by
  rw [scriptBefore, final_append, final_beforeScript, final_scriptStart.1]

theorem tags_scriptBefore (rawUrl : Text) (target : Option (Text × Text)) :
    tags .data (scriptBefore rawUrl target) =
      tags .data (codeBefore target) ++ tags .data pageBottom ++
        tags .data scriptStart := by
  rw [scriptBefore, tags_append, tags_beforeScript, final_beforeScript]

variable {parse config headers}

theorem skeleton_of_none (h : autoconfigureTarget parse config = none) :
    skeleton (indexResp parse config headers).body =
      tags .data (codeBefore none) ++ tags .data pageBottom ++
        tags .data pageEnd := by
  have hbody : (indexResp parse config headers).body =
      (codeBefore none ++ htmlEscape (websocketUrl config headers) ++
        pageBottom) ++ pageEnd := by
    rw [body_eq, h]
    simp [codeAfter, autoconfigureScript]
  rw [skeleton, hbody, tags_append, tags_beforeScript, final_beforeScript]

variable {bridgeUrl label : Text}
  (htarget : autoconfigureTarget parse config = some (bridgeUrl, label))
include htarget

theorem body_eq_script :
    (indexResp parse config headers).body =
      scriptBefore (websocketUrl config headers) (some (bridgeUrl, label)) ++
        (jsonString bridgeUrl ++ scriptMiddle) ++
        jsonString (websocketUrl config headers) ++
        (scriptEnd ++ pageEnd) := by
  rw [body_eq, htarget]
  simp [scriptBefore, codeAfter, autoconfigureScript]

omit htarget in
theorem scriptRun_between {level : Escape}
    (hlevel : levelAfter .plain (jsonString bridgeUrl) = some level)
    (rest : Text) :
    scriptRun (.text .plain)
        ((jsonString bridgeUrl ++ scriptMiddle) ++ jsonString rest) =
      (levelAfter level (jsonString rest)).map .text := by
  rw [scriptRun_append, scriptRun_append, scriptRun_jsonString, hlevel,
    Option.map_some, Option.bind_some, scriptRun_scriptMiddle,
    Option.bind_some, scriptRun_jsonString]

/-- The headers only decide whether the script ends. -/
theorem skeleton_of_some {level after : Escape}
    (hlevel : levelAfter .plain (jsonString bridgeUrl) = some level)
    (hafter : levelAfter level
      (jsonString (websocketUrl config headers)) = some after) :
    skeleton (indexResp parse config headers).body =
      tags .data (codeBefore (some (bridgeUrl, label))) ++
        tags .data pageBottom ++ tags .data scriptStart ++
        tags (.script (.text after))
          (scriptEnd ++ pageEnd) := by
  have hrun := scriptRun_between hlevel (websocketUrl config headers)
  rw [hafter, Option.map_some] at hrun
  rw [skeleton, body_eq_script htarget, List.append_assoc (scriptBefore _ _),
    tags_append, tags_append, final_append, final_scriptBefore,
    tags_scriptBefore, tags_script hrun, final_script hrun, List.append_nil]

/-- The endpoint is one string of the script if it has no end tag and the
bridge's URL does not end the script before. -/
theorem inScript {level : Escape}
    (hlevel : levelAfter .plain (jsonString bridgeUrl) = some level)
    (hend : hasEndTag (websocketUrl config headers) = false) :
    InScript (indexResp parse config headers).body
      (scriptBefore (websocketUrl config headers) (some (bridgeUrl, label)))
      (jsonString bridgeUrl ++ scriptMiddle)
      (jsonString (websocketUrl config headers))
      (scriptEnd ++ pageEnd)
      (websocketUrl config headers) where
  place := body_eq_script htarget
  opened := by
    rw [tags_scriptBefore, List.getLast?_append, final_scriptStart.2]
    rfl
  inText := final_scriptBefore _ _
  stays := by
    obtain ⟨after, hafter⟩ := exists_levelAfter hend level
    rw [scriptRun_between hlevel, hafter]
    exact Option.some_ne_none _
  string := readString_jsonString _ _
  noEndTag := (hasEndTag_jsonString _).trans hend

end Pages

section Containment

variable {parse : Text → Option Uri} {config : IndexConfig}
  {headers : HeaderMap} {bridgeUrl label : Text}

/-- Whether the script ends shows in the tags. -/
theorem tags_scriptEnd_eq_iff (left right : Escape) :
    tags (.script (.text left)) (scriptEnd ++ pageEnd) =
        tags (.script (.text right)) (scriptEnd ++ pageEnd) ↔
      (left = .doubleEscaped ↔ right = .doubleEscaped) := by
  rw [tags_scriptEnd, tags_scriptEnd]
  by_cases hleft : left = .doubleEscaped
  · by_cases hright : right = .doubleEscaped
    · simp [hleft, hright]
    · simp [hleft, hright]
  · by_cases hright : right = .doubleEscaped
    · simp [hleft, hright]
    · simp [hleft, hright]

theorem hasEndTag_eq_false_of_append {before text : Text}
    (h : hasEndTag (before ++ text) = false) : hasEndTag text = false := by
  rw [← Bool.not_eq_true] at h ⊢
  exact mt (fun htext => hasEndTag_append htext before) h

theorem sameTags_of_keepsScript (h : KeepsScript config headers bridgeUrl)
    (htarget : autoconfigureTarget parse config = some (bridgeUrl, label))
    {host : Text} (hhost : ∀ c ∈ host, c.isAlpha = true) :
    skeleton (indexResp parse config headers).body =
      skeleton (indexResp parse config (hostHeaders host)).body := by
  obtain ⟨level, hlevel, hend, hescaped⟩ := h
  obtain ⟨after, hafter⟩ := exists_levelAfter hend level
  obtain ⟨other, hother⟩ := exists_levelAfter
    (hasEndTag_eq_false_of_append hend) level
  rw [hafter, hother, Option.some.injEq, Option.some.injEq] at hescaped
  rw [skeleton_of_some htarget hlevel
      ((levelAfter_websocketUrl level config headers).trans hafter),
    skeleton_of_some htarget hlevel
      ((levelAfter_hostHeaders hhost level config).trans hother),
    (tags_scriptEnd_eq_iff after other).mpr hescaped]

theorem keepsScript_of_contained (h : Contained parse config headers)
    (htarget : autoconfigureTarget parse config = some (bridgeUrl, label)) :
    KeepsScript config headers bridgeUrl := by
  have hscript := h.inScript bridgeUrl label htarget
  have hend : hasEndTag (websocketUrl config headers) = false :=
    (hasEndTag_jsonString _).symm.trans hscript.noEndTag
  have hstays := hscript.stays
  cases hlevel : levelAfter .plain (jsonString bridgeUrl) with
  | none =>
      rw [scriptRun_append, scriptRun_append, scriptRun_jsonString,
        hlevel] at hstays
      exact absurd rfl hstays
  | some level =>
      rw [hasEndTag_websocketUrl] at hend
      refine ⟨level, hlevel, hend, ?_⟩
      have hletter : ∀ c ∈ ['a'], c.isAlpha = true :=
        List.all_eq_true.mp (by decide)
      obtain ⟨after, hafter⟩ := exists_levelAfter hend level
      obtain ⟨other, hother⟩ := exists_levelAfter
        (hasEndTag_eq_false_of_append hend) level
      have hsame := h.sameTags ['a'] (by decide) hletter
      rw [skeleton_of_some htarget hlevel
          ((levelAfter_websocketUrl level config headers).trans hafter),
        skeleton_of_some htarget hlevel
          ((levelAfter_hostHeaders hletter level config).trans hother),
        List.append_cancel_left_eq, tags_scriptEnd_eq_iff] at hsame
      rw [hafter, hother, Option.some.injEq, Option.some.injEq]
      exact hsame

/-- The headers of a request are contained in the page exactly if there is no
script for a bridge or they keep it a script. -/
theorem contained_iff_keepsScript (parse : Text → Option Uri)
    (config : IndexConfig) (headers : HeaderMap) :
    Contained parse config headers ↔ ∀ bridgeUrl label,
      autoconfigureTarget parse config = some (bridgeUrl, label) →
        KeepsScript config headers bridgeUrl := by
  constructor
  · intro h bridgeUrl label htarget
    exact keepsScript_of_contained h htarget
  · intro h
    refine ⟨?_, inElement parse config headers, ?_⟩
    · intro host hne hhost
      cases htarget : autoconfigureTarget parse config with
      | none => rw [skeleton_of_none htarget, skeleton_of_none htarget]
      | some pair =>
          obtain ⟨bridgeUrl, label⟩ := pair
          exact sameTags_of_keepsScript (h bridgeUrl label htarget) htarget
            hhost
    · intro bridgeUrl label htarget
      obtain ⟨level, hlevel, hend, -⟩ := h bridgeUrl label htarget
      exact inScript htarget hlevel ((hasEndTag_websocketUrl _ _).trans hend)

end Containment

section Breaking

def bridgeConfig : IndexConfig where
  wispPrefix := []
  autoconfigureDomain := some "bridge.example".toList

/-- The one URL that is parsed for the configuration. -/
def bridgeParse (text : Text) : Option Uri :=
  if text = "https://bridge.example".toList then
    some ⟨some "https".toList, some "bridge.example".toList, some []⟩
  else none

/-- A host that ends the script and begins one of its own. -/
def scriptHost : Text :=
  'x' :: '<' :: '/' :: scriptName ++ '>' :: '<' :: scriptName ++ ['>']

theorem websocketUrl_scriptHost :
    websocketUrl bridgeConfig (hostHeaders scriptHost) =
      ['w', 's', ':', '/', '/'] ++ scriptHost ++ ['/'] := by
  decide

theorem not_contained_scriptHost :
    tags (.script (.text .plain)) (jsonString
        (websocketUrl bridgeConfig (hostHeaders scriptHost))) =
      [⟨true, scriptName, []⟩, ⟨false, scriptName, []⟩] ∧
      ¬Contained bridgeParse bridgeConfig (hostHeaders scriptHost) := by
  have hend : hasEndTag
      (websocketUrl bridgeConfig (hostHeaders scriptHost)) = true := by
    rw [websocketUrl_scriptHost]
    decide
  constructor
  · rw [websocketUrl_scriptHost]
    decide
  · intro h
    have htarget : autoconfigureTarget bridgeParse bridgeConfig =
        some ("https://bridge.example".toList, "bridge.example".toList) := by
      decide
    obtain ⟨-, -, hkept, -⟩ := keepsScript_of_contained h htarget
    rw [← hasEndTag_websocketUrl, hend] at hkept
    cases hkept

end Breaking

end Epoxy.Server
