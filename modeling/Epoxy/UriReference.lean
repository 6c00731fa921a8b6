/-
URI references and their resolution, in the generic syntax of URIs.  A path
is the text before its first slash and the segments after each slash, so that
every text is just one path; a reference is valid by construction, and what
it is resolved to has no dot segments left of its own.
-/
import Mathlib.Data.List.Basic
import Mathlib.Data.List.Flatten

namespace UriReference

abbrev Text := List Char

def isUnreserved (c : Char) : Bool := c.isAlphanum || c ∈ "-._~".toList

def isSubDelim (c : Char) : Bool := c ∈ "!$&'()*+,;=".toList

def isSchemeChar (c : Char) : Bool := c.isAlphanum || c ∈ "+-.".toList

/-- The characters of percent encodings are counted as characters. -/
def isPathChar (c : Char) : Bool :=
  isUnreserved c || isSubDelim c || c ∈ ":@%".toList

def isAuthorityChar (c : Char) : Bool := isPathChar c || c ∈ "[]".toList

def isQueryChar (c : Char) : Bool := isPathChar c || c ∈ "/?".toList

/-- The characters that end an authority. -/
def isDelimiter (c : Char) : Bool := c ∈ "/?#".toList

structure Path where
  head : Text
  rest : List Text
deriving Repr, DecidableEq

def segmentsText (segments : List Text) : Text :=
  segments.flatMap fun segment => '/' :: segment

def Path.text (path : Path) : Text := path.head ++ segmentsText path.rest

def isDotSegment (segment : Text) : Bool :=
  segment = ['.'] || segment = ['.', '.']

/-- What becomes of the segments that are left, after those that have been
moved out, each with its slash.  A dot segment at the end leaves a slash. -/
def removeDots (out : List Text) : List Text → Text
  | [] => out.flatten
  | [segment] =>
      if segment = ['.'] then out.flatten ++ ['/']
      else if segment = ['.', '.'] then out.dropLast.flatten ++ ['/']
      else (out ++ ['/' :: segment]).flatten
  | segment :: next :: rest =>
      if segment = ['.'] then removeDots out (next :: rest)
      else if segment = ['.', '.'] then removeDots out.dropLast (next :: rest)
      else removeDots (out ++ ['/' :: segment]) (next :: rest)

/-- Dot segments at the very front go; the others take a segment with them if
they are double. -/
def Path.removeDotSegments (path : Path) : Text :=
  match (path.head :: path.rest).dropWhile isDotSegment with
  | [] => []
  | first :: rest => removeDots [first] rest

/-- A valid reference: a path after an authority begins with a slash, one
without an authority not with two, and without a scheme there is no colon
before the first slash. -/
structure Reference where
  scheme : Option Text
  authority : Option Text
  path : Path
  query : Option Text
  fragment : Option Text
  schemeChars : ∀ text, scheme = some text →
    text ≠ [] ∧ ∀ c ∈ text, isSchemeChar c = true
  authorityChars : ∀ text, authority = some text →
    ∀ c ∈ text, isAuthorityChar c = true
  segmentChars : ∀ text ∈ path.head :: path.rest,
    ∀ c ∈ text, isPathChar c = true
  queryChars : ∀ text, query = some text → ∀ c ∈ text, isQueryChar c = true
  fragmentChars : ∀ text, fragment = some text →
    ∀ c ∈ text, isQueryChar c = true
  rooted : authority ≠ none → path.head = []
  single : authority = none → path.head = [] →
    ∀ next rest, path.rest ≠ [] :: next :: rest
  noColon : scheme = none → authority = none → ':' ∉ path.head

def queryText : Option Text → Text
  | none => []
  | some query => '?' :: query

namespace Reference

def fragmentText : Option Text → Text
  | none => []
  | some fragment => '#' :: fragment

def schemeText : Option Text → Text
  | none => []
  | some scheme => scheme ++ [':']

def authorityText : Option Text → Text
  | none => []
  | some authority => '/' :: '/' :: authority

/-- The path, the query and the fragment. -/
def tail (reference : Reference) : Text :=
  reference.path.text ++ queryText reference.query ++
    fragmentText reference.fragment

def text (reference : Reference) : Text :=
  schemeText reference.scheme ++ authorityText reference.authority ++
    reference.tail

end Reference

/-- A URI with an authority, as a reference is resolved against. -/
structure Base where
  scheme : Text
  authority : Text
  path : Path
  query : Option Text
  rooted : path.head = []
  segmentChars : ∀ text ∈ path.rest, ∀ c ∈ text, isDelimiter c = false

/-- What a reference is resolved to, without its fragment. -/
structure Target where
  scheme : Text
  authority : Option Text
  path : Text
  query : Option Text
deriving Repr, DecidableEq

/-- The reference takes the place of the last segment. -/
def Base.merge (base : Base) (path : Path) : Path :=
  ⟨[], base.path.rest.dropLast ++ path.head :: path.rest⟩

def resolve (base : Base) (reference : Reference) : Target :=
  match reference.scheme, reference.authority with
  | some scheme, authority =>
      ⟨scheme, authority, reference.path.removeDotSegments, reference.query⟩
  | none, some authority =>
      ⟨base.scheme, some authority, reference.path.removeDotSegments,
        reference.query⟩
  | none, none =>
      if reference.path = ⟨[], []⟩ then
        ⟨base.scheme, some base.authority, base.path.text,
          reference.query.or base.query⟩
      else if reference.path.head = [] then
        ⟨base.scheme, some base.authority, reference.path.removeDotSegments,
          reference.query⟩
      else
        ⟨base.scheme, some base.authority,
          (base.merge reference.path).removeDotSegments, reference.query⟩

section Dots

@[simp] theorem segmentsText_nil : segmentsText [] = [] := rfl

@[simp] theorem segmentsText_cons (segment : Text) (rest : List Text) :
    segmentsText (segment :: rest) = '/' :: segment ++ segmentsText rest :=
  rfl

theorem removeDots_of_no_dots {segments : List Text}
    (hdots : ∀ segment ∈ segments, isDotSegment segment = false)
    (out : List Text) :
    removeDots out segments = out.flatten ++ segmentsText segments := by
  fun_induction removeDots out segments with
  | case1 out => simp
  | case2 out => simp [isDotSegment] at hdots
  | case3 out => simp [isDotSegment] at hdots
  | case4 out segment => simp
  | case5 out next rest ih => simp [isDotSegment] at hdots
  | case6 out next rest h1 ih => simp [isDotSegment] at hdots
  | case7 out segment next rest h1 h2 ih =>
      rw [ih fun other hother => hdots other (List.mem_cons_of_mem _ hother)]
      simp

theorem length_dropLast_flatten (out : List Text) :
    out.dropLast.flatten.length ≤ out.flatten.length :=
  (List.dropLast_sublist out).flatten.length_le

theorem length_removeDots_le (segments out : List Text) :
    (removeDots out segments).length ≤
      out.flatten.length + (segmentsText segments).length := by
  fun_induction removeDots out segments with
  | case1 out => simp
  | case2 out => simp
  | case3 out =>
      have hle := length_dropLast_flatten out
      simp only [List.length_append, segmentsText_cons, List.length_cons,
        segmentsText_nil, List.length_nil]
      omega
  | case4 out segment => simp
  | case5 out next rest ih =>
      simp only [segmentsText_cons, List.length_append,
        List.length_cons] at ih ⊢
      omega
  | case6 out next rest h1 ih =>
      have hle := length_dropLast_flatten out
      simp only [segmentsText_cons, List.length_append,
        List.length_cons, List.length_nil] at ih ⊢
      omega
  | case7 out segment next rest h1 h2 ih =>
      simp only [segmentsText_cons, List.length_append, List.length_cons,
        List.flatten_append, List.flatten_cons, List.flatten_nil,
        List.append_nil] at ih ⊢
      omega

/-- A dot segment makes the text shorter. -/
theorem length_removeDots_lt {segments : List Text}
    (hdots : ∃ segment ∈ segments, isDotSegment segment = true)
    (out : List Text) :
    (removeDots out segments).length <
      out.flatten.length + (segmentsText segments).length := by
  fun_induction removeDots out segments with
  | case1 out => simp at hdots
  | case2 out => simp
  | case3 out =>
      have hle := length_dropLast_flatten out
      simp only [List.length_append, segmentsText_cons, List.length_cons,
        segmentsText_nil, List.length_nil]
      omega
  | case4 out segment h1 h2 =>
      simp [isDotSegment, h1, h2] at hdots
  | case5 out next rest ih =>
      have hle := length_removeDots_le (next :: rest) out
      simp only [segmentsText_cons, List.length_append,
        List.length_cons, List.length_nil] at hle ⊢
      omega
  | case6 out next rest h1 ih =>
      have hle := length_removeDots_le (next :: rest) out.dropLast
      have hdrop := length_dropLast_flatten out
      simp only [segmentsText_cons, List.length_append,
        List.length_cons, List.length_nil] at hle ⊢
      omega
  | case7 out segment next rest h1 h2 ih =>
      have hrest : ∃ other ∈ next :: rest, isDotSegment other = true := by
        obtain ⟨other, hother, hdot⟩ := hdots
        obtain rfl | hother := List.mem_cons.mp hother
        · simp [isDotSegment, h1, h2] at hdot
        · exact ⟨other, hother, hdot⟩
      have hlt := ih hrest
      simp only [segmentsText_cons, List.length_append, List.length_cons,
        List.flatten_append, List.flatten_cons, List.flatten_nil,
        List.append_nil] at hlt ⊢
      omega

variable {path : Path}

theorem removeDotSegments_of_rooted (hrooted : path.head = []) :
    path.removeDotSegments = removeDots [[]] path.rest := by
  simp [Path.removeDotSegments, hrooted, isDotSegment]

/-- A path that begins with a slash, or an empty one, is left as it is
exactly if it has no dot segment. -/
theorem removeDotSegments_eq_text_iff (hrooted : path.head = []) :
    path.removeDotSegments = path.text ↔
      ∀ segment ∈ path.rest, isDotSegment segment = false := by
  rw [removeDotSegments_of_rooted hrooted]
  constructor
  · intro heq segment hsegment
    rw [← Bool.not_eq_true]
    intro hdot
    have hlt := length_removeDots_lt ⟨segment, hsegment, hdot⟩ [[]]
    rw [heq] at hlt
    simp [Path.text, hrooted] at hlt
  · intro hdots
    rw [removeDots_of_no_dots hdots]
    simp [Path.text, hrooted]

theorem length_removeDotSegments_le (hrooted : path.head = []) :
    path.removeDotSegments.length ≤ path.text.length := by
  rw [removeDotSegments_of_rooted hrooted]
  simpa [Path.text, hrooted] using length_removeDots_le path.rest [[]]

theorem length_le_length_segmentsText {segments : List Text} {segment : Text}
    (h : segment ∈ segments) :
    segment.length + 1 ≤ (segmentsText segments).length := by
  induction segments with
  | nil => cases h
  | cons other rest ih =>
      rw [segmentsText_cons, List.length_append, List.length_cons]
      obtain rfl | h := List.mem_cons.mp h
      · omega
      · have hle := ih h
        omega

theorem ne_nil_of_isDotSegment {segment : Text}
    (h : isDotSegment segment = true) : segment ≠ [] := by
  rintro rfl
  revert h
  decide

theorem slash_mem_removeDots {segments : List Text} (hne : segments ≠ [])
    (out : List Text) : '/' ∈ removeDots out segments := by
  fun_induction removeDots out segments with
  | case1 out => exact absurd rfl hne
  | case2 out => simp
  | case3 out => simp
  | case4 out segment => simp
  | case5 out next rest ih => exact ih (by simp)
  | case6 out next rest h1 ih => exact ih (by simp)
  | case7 out segment next rest h1 h2 ih => exact ih (by simp)

end Dots

section Delimiters

theorem forall_mem_of_all {p : Char → Bool} {texts : List Text}
    (h : (texts.all fun text => text.all p) = true) :
    ∀ text ∈ texts, ∀ c ∈ text, p c = true := by
  intro text htext
  exact List.all_eq_true.mp (List.all_eq_true.mp h text htext)

theorem eq_of_isDelimiter {c : Char} (h : isDelimiter c = true) :
    c = '/' ∨ c = '?' ∨ c = '#' := by
  simpa [isDelimiter] using h

theorem not_isDelimiter_of_isAuthorityChar {c : Char}
    (h : isAuthorityChar c = true) : isDelimiter c = false := by
  rw [← Bool.not_eq_true]
  intro hdelimiter
  obtain rfl | rfl | rfl := eq_of_isDelimiter hdelimiter
  all_goals revert h; decide

theorem isAuthorityChar_of_isPathChar {c : Char} (h : isPathChar c = true) :
    isAuthorityChar c = true := by
  simp [isAuthorityChar, h]

theorem not_isDelimiter_of_isSchemeChar {c : Char}
    (h : isSchemeChar c = true) : isDelimiter c = false := by
  rw [← Bool.not_eq_true]
  intro hdelimiter
  obtain rfl | rfl | rfl := eq_of_isDelimiter hdelimiter
  all_goals revert h; decide

theorem ne_colon_of_isSchemeChar {c : Char} (h : isSchemeChar c = true) :
    c ≠ ':' := by
  rintro rfl
  revert h
  decide

theorem ne_hash_of_isQueryChar {c : Char} (h : isQueryChar c = true) :
    c ≠ '#' := by
  rintro rfl
  revert h
  decide

theorem isQueryChar_of_isPathChar {c : Char} (h : isPathChar c = true) :
    isQueryChar c = true := by
  simp [isQueryChar, h]

/-- The text up to the first delimiter. -/
def beforeDelimiter (text : Text) : Text :=
  text.takeWhile fun c => !isDelimiter c

def afterDelimiter (text : Text) : Text :=
  text.dropWhile fun c => !isDelimiter c

def withoutFragment (text : Text) : Text := text.takeWhile (· ≠ '#')

/-- Text that is empty or begins with a delimiter. -/
def Delimited (text : Text) : Prop :=
  ∀ c, text.head? = some c → isDelimiter c = true

theorem beforeDelimiter_append {before after : Text}
    (hbefore : ∀ c ∈ before, isDelimiter c = false)
    (hafter : Delimited after) :
    beforeDelimiter (before ++ after) = before := by
  rw [beforeDelimiter, List.takeWhile_append_of_pos (by simpa using hbefore)]
  cases after with
  | nil => simp
  | cons c after => simp [hafter c rfl]

theorem afterDelimiter_append {before after : Text}
    (hbefore : ∀ c ∈ before, isDelimiter c = false)
    (hafter : Delimited after) :
    afterDelimiter (before ++ after) = after := by
  rw [afterDelimiter, List.dropWhile_append_of_pos (by simpa using hbefore)]
  cases after with
  | nil => simp
  | cons c after => simp [hafter c rfl]

variable (reference : Reference)

theorem mem_segmentsText {segments : List Text} {c : Char}
    (h : c ∈ segmentsText segments) :
    c = '/' ∨ ∃ segment ∈ segments, c ∈ segment := by
  obtain ⟨segment, hsegment, hc⟩ := List.mem_flatMap.mp h
  obtain rfl | hc := List.mem_cons.mp hc
  · exact .inl rfl
  · exact .inr ⟨segment, hsegment, hc⟩

theorem Reference.isQueryChar_of_mem_path {c : Char}
    (h : c ∈ reference.path.text) : isQueryChar c = true := by
  obtain h | h := List.mem_append.mp h
  · exact isQueryChar_of_isPathChar
      (reference.segmentChars _ List.mem_cons_self c h)
  · obtain rfl | ⟨segment, hsegment, hc⟩ := mem_segmentsText h
    · decide
    · exact isQueryChar_of_isPathChar
        (reference.segmentChars _ (List.mem_cons_of_mem _ hsegment) c hc)

theorem Reference.isQueryChar_of_mem_query {c : Char}
    (h : c ∈ queryText reference.query) : isQueryChar c = true := by
  cases hquery : reference.query with
  | none => simp [hquery, queryText] at h
  | some query =>
      rw [hquery, queryText] at h
      obtain rfl | hc := List.mem_cons.mp h
      · decide
      · exact reference.queryChars query hquery c hc

theorem Reference.withoutFragment_append {before : Text}
    (hbefore : '#' ∉ before) :
    withoutFragment (before ++ reference.tail) =
      before ++ reference.path.text ++ queryText reference.query := by
  have hplain : ∀ c ∈ before ++ reference.path.text ++
      queryText reference.query, decide (c ≠ '#') = true := by
    intro c hc
    rw [decide_eq_true_eq]
    obtain hc | hc := List.mem_append.mp hc
    · obtain hc | hc := List.mem_append.mp hc
      · rintro rfl
        exact hbefore hc
      · exact ne_hash_of_isQueryChar (reference.isQueryChar_of_mem_path hc)
    · exact ne_hash_of_isQueryChar (reference.isQueryChar_of_mem_query hc)
  rw [tail, withoutFragment, ← List.append_assoc, ← List.append_assoc,
    List.takeWhile_append_of_pos hplain]
  cases reference.fragment with
  | none => simp [fragmentText]
  | some fragment => simp [fragmentText]

/-- All that is after the head of the path. -/
def Reference.afterHead : Text :=
  segmentsText reference.path.rest ++ queryText reference.query ++
    fragmentText reference.fragment

theorem Reference.tail_eq :
    reference.tail = reference.path.head ++ reference.afterHead := by
  simp [tail, afterHead, Path.text, List.append_assoc]

theorem Reference.delimited_afterHead : Delimited reference.afterHead := by
  intro c hc
  rw [afterHead] at hc
  cases hrest : reference.path.rest with
  | cons segment rest =>
      simp only [hrest, segmentsText_cons, List.cons_append, List.head?_cons,
        Option.some.injEq] at hc
      subst hc
      decide
  | nil =>
      rw [hrest, segmentsText_nil, List.nil_append] at hc
      cases hquery : reference.query with
      | some query =>
          simp only [hquery, queryText, List.cons_append, List.head?_cons,
            Option.some.injEq] at hc
          subst hc
          decide
      | none =>
          rw [hquery, queryText, List.nil_append] at hc
          cases hfragment : reference.fragment with
          | none => simp [hfragment, fragmentText] at hc
          | some fragment =>
              simp only [hfragment, fragmentText, List.head?_cons,
                Option.some.injEq] at hc
              subst hc
              decide

theorem Reference.delimited_tail (hhead : reference.path.head = []) :
    Delimited reference.tail := by
  rw [tail_eq, hhead, List.nil_append]
  exact reference.delimited_afterHead

theorem Reference.beforeDelimiter_tail :
    beforeDelimiter reference.tail = reference.path.head := by
  rw [tail_eq]
  refine beforeDelimiter_append ?_ reference.delimited_afterHead
  intro c hc
  exact not_isDelimiter_of_isAuthorityChar (isAuthorityChar_of_isPathChar
    (reference.segmentChars _ List.mem_cons_self c hc))

theorem head?_ending_ne_slash (query fragment : Option Text) :
    (queryText query ++ Reference.fragmentText fragment).head? ≠
      some '/' := by
  cases query with
  | some query => simp [queryText]
  | none =>
      cases fragment with
      | some fragment => simp [queryText, Reference.fragmentText]
      | none => simp [queryText, Reference.fragmentText]

theorem Reference.head_eq_nil_of_slash {rest : Text}
    (h : reference.tail = '/' :: rest) : reference.path.head = [] := by
  rw [← reference.beforeDelimiter_tail, h]
  rfl

/-- Without an authority, two slashes would be read as one. -/
theorem Reference.tail_ne_slashes (hauthority : reference.authority = none)
    (rest : Text) : reference.tail ≠ '/' :: '/' :: rest := by
  intro h
  have hhead := reference.head_eq_nil_of_slash h
  have hending := head?_ending_ne_slash reference.query reference.fragment
  rw [reference.tail_eq, hhead, List.nil_append, afterHead,
    List.append_assoc] at h
  cases hrest : reference.path.rest with
  | nil =>
      rw [hrest, segmentsText_nil, List.nil_append] at h
      exact hending (by rw [h]; rfl)
  | cons segment others =>
      rw [hrest, segmentsText_cons, List.cons_append, List.cons_append] at h
      have htail := (List.cons.inj h).2
      cases segment with
      | cons c segment =>
          obtain ⟨rfl, -⟩ := List.cons.inj htail
          have hchar := reference.segmentChars ('/' :: segment)
            (by simp [hrest]) '/' List.mem_cons_self
          revert hchar
          decide
      | nil =>
          cases others with
          | cons next more =>
              exact reference.single hauthority hhead next more hrest
          | nil =>
              rw [segmentsText_nil, List.nil_append, List.nil_append] at htail
              exact hending (by rw [htail]; rfl)

theorem Reference.head?_tail_eq_slash_iff :
    reference.tail.head? = some '/' ↔
      reference.path.head = [] ∧ reference.path.rest ≠ [] := by
  constructor
  · intro h
    obtain ⟨rest, heq⟩ := List.head?_eq_some_iff.mp h
    have hhead := reference.head_eq_nil_of_slash heq
    refine ⟨hhead, ?_⟩
    intro hrest
    rw [reference.tail_eq, hhead, List.nil_append, afterHead, hrest,
      segmentsText_nil, List.nil_append] at h
    exact head?_ending_ne_slash _ _ h
  · rintro ⟨hhead, hrest⟩
    obtain ⟨segment, others, heq⟩ := List.exists_cons_of_ne_nil hrest
    rw [reference.tail_eq, hhead, List.nil_append, afterHead, heq]
    rfl

/-- The text of a URI that has an authority, or of something like it. -/
def absoluteText (scheme rest : Text) : Text := scheme ++ "://".toList ++ rest

theorem colon_mem_beforeDelimiter {scheme : Text}
    (hscheme : ∀ c ∈ scheme, isSchemeChar c = true) (rest : Text) :
    ':' ∈ beforeDelimiter (absoluteText scheme rest) := by
  have hbefore : ∀ c ∈ scheme ++ [':'], isDelimiter c = false := by
    intro c hc
    obtain hc | hc := List.mem_append.mp hc
    · exact not_isDelimiter_of_isSchemeChar (hscheme c hc)
    · obtain rfl := List.mem_singleton.mp hc
      decide
  have heq : absoluteText scheme rest =
      (scheme ++ [':']) ++ '/' :: '/' :: rest := by
    simp [absoluteText]
  have hafter : Delimited ('/' :: '/' :: rest) := by
    rintro c hc
    obtain rfl := Option.some.inj hc
    decide
  rw [heq, beforeDelimiter_append hbefore hafter]
  simp

/-- The scheme ends at the first colon. -/
theorem scheme_append_colon_inj {scheme other rest after : Text}
    (hscheme : ∀ c ∈ scheme, isSchemeChar c = true)
    (hother : ∀ c ∈ other, isSchemeChar c = true)
    (h : scheme ++ ':' :: rest = other ++ ':' :: after) :
    scheme = other ∧ rest = after := by
  induction scheme generalizing other with
  | nil =>
      cases other with
      | nil => exact ⟨rfl, (List.cons.inj h).2⟩
      | cons c other =>
          obtain ⟨rfl, -⟩ := List.cons.inj h
          exact absurd rfl
            (ne_colon_of_isSchemeChar (hother _ List.mem_cons_self))
  | cons c scheme ih =>
      cases other with
      | nil =>
          obtain ⟨rfl, -⟩ := List.cons.inj h
          exact absurd rfl
            (ne_colon_of_isSchemeChar (hscheme _ List.mem_cons_self))
      | cons d other =>
          obtain ⟨rfl, htail⟩ := List.cons.inj h
          obtain ⟨rfl, rfl⟩ := ih
            (fun c hc => hscheme c (List.mem_cons_of_mem _ hc))
            (fun c hc => hother c (List.mem_cons_of_mem _ hc)) htail
          exact ⟨rfl, rfl⟩

end Delimiters

end UriReference
