/-
Where a redirect leads.  The value of the location header is parsed as the
target of a request, and what it has no scheme or authority for is filled in
from the request before.
-/
import Epoxy.HttpValues
import Epoxy.UriReference

namespace Epoxy

open HttpValues UriReference

/-- The parser of request targets, and the check of parts that are put
together. -/
structure Http where
  parse : Text → Option Uri
  fromParts : Uri → Option Uri

/-- The path of a parsed URI is a slash if there is none. -/
def slashed (pathAndQuery : Text) : Text :=
  if pathAndQuery = [] ∨ pathAndQuery.head? = some '?' then
    '/' :: pathAndQuery
  else pathAndQuery

/-- What is relied on.  Text with a slash in front is a path and a query, and a
reference with neither that nor a scheme is an authority, unless it is a star.
The path of text with a scheme may be stored with its slash or without. -/
structure Http.Documented (http : Http) : Prop where
  path : ∀ rest uri, http.parse ('/' :: rest) = some uri →
    uri = ⟨none, none, some (withoutFragment ('/' :: rest))⟩
  absolute : ∀ scheme rest uri, scheme ≠ [] →
    (∀ c ∈ scheme, isSchemeChar c = true) →
    http.parse (absoluteText scheme rest) = some uri →
    ∃ spelled pathAndQuery : Text,
      spelled.map Char.toLower = scheme.map Char.toLower ∧
      slashed pathAndQuery =
        slashed (withoutFragment (afterDelimiter rest)) ∧
      uri = ⟨some spelled, some (beforeDelimiter rest), some pathAndQuery⟩
  other : ∀ (reference : Reference) uri, reference.text.head? ≠ some '/' →
    (∀ scheme rest, (∀ c ∈ scheme, isSchemeChar c = true) →
      reference.text ≠ absoluteText scheme rest) →
    http.parse reference.text = some uri →
    uri = ⟨none, some reference.text, none⟩ ∨
      reference.text = ['*'] ∧ uri = ⟨none, none, some ['*']⟩
  complete : ∀ scheme authority pathAndQuery,
    http.fromParts ⟨some scheme, some authority, some pathAndQuery⟩ =
      some ⟨some scheme, some authority, some pathAndQuery⟩
  pathMissing : ∀ scheme authority,
    http.fromParts ⟨some scheme, authority, none⟩ = none

inductive RedirectError where
  | toStr
  | invalidUri
  | invalidUriParts
deriving Repr, DecidableEq

def getRedirect (http : Http) (uri : Uri) (location : HeaderValue) :
    Except RedirectError Uri :=
  match toStr location with
  | none => .error .toStr
  | some text =>
      match http.parse text with
      | none => .error .invalidUri
      | some newParts =>
          match http.fromParts
              { newParts with
                scheme := newParts.scheme.or uri.scheme
                authority := newParts.authority.or uri.authority } with
          | none => .error .invalidUriParts
          | some newUri => .ok newUri

def isRedirect (code : Nat) : Bool := [301, 302, 303, 307, 308].contains code

/-- A request, with all that a redirect leaves as it is. -/
structure Request (ρ : Type) where
  uri : Uri
  rest : ρ

structure Response (β : Type) where
  status : Nat
  location : Option HeaderValue
  rest : β

inductive EpoxyResponse (ρ β : Type) where
  | success (resp : Response β)
  | redirect (resp : Response β) (req : Request ρ)

/-- The HTTP client: what a request is answered with. -/
structure HttpClient (σ ρ β ε : Type) where
  request : σ → Request ρ → Except ε (Response β) × σ

variable {σ ρ β ε : Type}

/-- What becomes of an answer, with the request to send on if it may be. -/
def epoxyResponse (http : Http) (newReq : Option (Request ρ))
    (resp : Response β) : EpoxyResponse ρ β :=
  match isRedirect resp.status, newReq, resp.location with
  | true, some newReq, some location =>
      match getRedirect http newReq.uri location with
      | .ok redirectUrl => .redirect resp { newReq with uri := redirectUrl }
      | .error _ => .success resp
  | _, _, _ => .success resp

namespace HttpClient

def sendReqInner (client : HttpClient σ ρ β ε) (http : Http) (state : σ)
    (req : Request ρ) (shouldRedirect : Bool) :
    Except ε (EpoxyResponse ρ β) × σ :=
  let newReq := if shouldRedirect then some req else none
  match client.request state req with
  | (.ok resp, next) => (.ok (epoxyResponse http newReq resp), next)
  | (.error err, next) => (.error err, next)

end HttpClient

def targetPath (target : Target) : Text :=
  (if target.path = [] then ['/'] else target.path) ++ queryText target.query

/-- The URI is the target, schemes compared without case. -/
structure SameTarget (uri : Uri) (target : Target) : Prop where
  scheme : ∃ spelled, uri.scheme = some spelled ∧
    spelled.map Char.toLower = target.scheme.map Char.toLower
  authority : uri.authority = target.authority
  pathAndQuery : ∃ text, uri.pathAndQuery = some text ∧
    slashed text = targetPath target

def requestUri (base : Base) : Uri :=
  ⟨some base.scheme, some base.authority,
    some (base.path.text ++ queryText base.query)⟩

/-- The redirect goes where the reference leads from the request, and the
request that follows is sent there. -/
def FollowsReference (client : HttpClient σ ρ β ε) (http : Http) (base : Base)
    (reference : Reference) : Prop :=
  ∃ uri, SameTarget uri (resolve base reference) ∧
    getRedirect http (requestUri base) (ofText reference.text) = .ok uri ∧
    ∀ state next req resp, req.uri = requestUri base →
      client.request state req = (.ok resp, next) →
      isRedirect resp.status = true →
      resp.location = some (ofText reference.text) →
      client.sendReqInner http state req true =
        (.ok (.redirect resp { req with uri := uri }), next)

/-- The references that are followed as they should be: the parser takes
them, they are whole or an absolute path, and they have no dot segments. -/
structure WellFollowed (http : Http) (reference : Reference) : Prop where
  accepted : http.parse reference.text ≠ none
  plain : ∀ segment ∈ reference.path.rest, isDotSegment segment = false
  form : (reference.scheme ≠ none ∧ reference.authority ≠ none) ∨
    (reference.scheme = none ∧ reference.authority = none ∧
      reference.path.head = [] ∧ reference.path.rest ≠ [])

section Texts

theorem isVisible_of_mem {marks : List Char}
    (hmarks : ∀ mark ∈ marks, isVisible mark = true) {c : Char}
    (h : (c.isAlphanum || decide (c ∈ marks)) = true) :
    isVisible c = true := by
  obtain h | h := Bool.or_eq_true_iff.mp h
  · exact isVisible_of_isAlphanum h
  · exact hmarks c (of_decide_eq_true h)

theorem isVisible_of_isSchemeChar {c : Char} (h : isSchemeChar c = true) :
    isVisible c = true :=
  isVisible_of_mem (List.all_eq_true.mp (by decide)) h

theorem isVisible_of_isPathChar {c : Char} (h : isPathChar c = true) :
    isVisible c = true := by
  have hmarks : ∀ mark ∈ "-._~".toList, isVisible mark = true :=
    List.all_eq_true.mp (by decide)
  have hdelims : ∀ mark ∈ "!$&'()*+,;=".toList, isVisible mark = true :=
    List.all_eq_true.mp (by decide)
  have hothers : ∀ mark ∈ ":@%".toList, isVisible mark = true :=
    List.all_eq_true.mp (by decide)
  obtain h | h := Bool.or_eq_true_iff.mp h
  · obtain h | h := Bool.or_eq_true_iff.mp h
    · exact isVisible_of_mem hmarks h
    · exact hdelims c (of_decide_eq_true h)
  · exact hothers c (of_decide_eq_true h)

theorem isVisible_of_isQueryChar {c : Char} (h : isQueryChar c = true) :
    isVisible c = true := by
  have hmarks : ∀ mark ∈ "/?".toList, isVisible mark = true :=
    List.all_eq_true.mp (by decide)
  obtain h | h := Bool.or_eq_true_iff.mp h
  · exact isVisible_of_isPathChar h
  · exact hmarks c (of_decide_eq_true h)

theorem isVisible_of_isAuthorityChar {c : Char}
    (h : isAuthorityChar c = true) : isVisible c = true := by
  have hmarks : ∀ mark ∈ "[]".toList, isVisible mark = true :=
    List.all_eq_true.mp (by decide)
  obtain h | h := Bool.or_eq_true_iff.mp h
  · exact isVisible_of_isPathChar h
  · exact hmarks c (of_decide_eq_true h)

variable (reference : Reference)

theorem isVisible_of_mem_tail {c : Char} (h : c ∈ reference.tail) :
    isVisible c = true := by
  obtain h | h := List.mem_append.mp h
  · obtain h | h := List.mem_append.mp h
    · exact isVisible_of_isQueryChar (reference.isQueryChar_of_mem_path h)
    · exact isVisible_of_isQueryChar (reference.isQueryChar_of_mem_query h)
  · cases hfragment : reference.fragment with
    | none => simp [hfragment, Reference.fragmentText] at h
    | some fragment =>
        rw [hfragment, Reference.fragmentText] at h
        obtain rfl | hc := List.mem_cons.mp h
        · decide
        · exact isVisible_of_isQueryChar
            (reference.fragmentChars fragment hfragment c hc)

theorem isVisible_of_mem_text {c : Char} (h : c ∈ reference.text) :
    isVisible c = true := by
  obtain h | h := List.mem_append.mp h
  · obtain h | h := List.mem_append.mp h
    · cases hscheme : reference.scheme with
      | none => simp [hscheme, Reference.schemeText] at h
      | some scheme =>
          rw [hscheme, Reference.schemeText] at h
          obtain hc | hc := List.mem_append.mp h
          · exact isVisible_of_isSchemeChar
              ((reference.schemeChars scheme hscheme).2 c hc)
          · obtain rfl := List.mem_singleton.mp hc
            decide
    · cases hauthority : reference.authority with
      | none => simp [hauthority, Reference.authorityText] at h
      | some authority =>
          rw [hauthority, Reference.authorityText] at h
          obtain rfl | hc := List.mem_cons.mp h
          · decide
          · obtain rfl | hc := List.mem_cons.mp hc
            · decide
            · exact isVisible_of_isAuthorityChar
                (reference.authorityChars authority hauthority c hc)
  · exact isVisible_of_mem_tail reference h

theorem toStr_location :
    toStr (ofText reference.text) = some reference.text :=
  toStr_ofText fun _ => isVisible_of_mem_text reference

end Texts

section Parsing

variable {http : Http} {base : Base} {reference : Reference}

/-- The parts that are missing come from the request. -/
theorem getRedirect_eq_ok_iff {uri : Uri} :
    getRedirect http (requestUri base) (ofText reference.text) = .ok uri ↔
      ∃ newParts, http.parse reference.text = some newParts ∧
        http.fromParts
          ⟨newParts.scheme.or (some base.scheme),
            newParts.authority.or (some base.authority),
            newParts.pathAndQuery⟩ = some uri := by
  rw [getRedirect, toStr_location]
  cases hparse : http.parse reference.text with
  | none => simp [hparse]
  | some newParts =>
      simp only [hparse, requestUri, Option.some.injEq, exists_eq_left']
      cases http.fromParts
          ⟨newParts.scheme.or (some base.scheme),
            newParts.authority.or (some base.authority),
            newParts.pathAndQuery⟩ with
      | none => simp only [reduceCtorEq]
      | some newUri => simp only [Except.ok.injEq, Option.some.injEq]

theorem accepted_of_getRedirect {uri : Uri}
    (h : getRedirect http (requestUri base) (ofText reference.text) =
      .ok uri) :
    http.parse reference.text ≠ none := by
  obtain ⟨newParts, hparse, -⟩ := getRedirect_eq_ok_iff.mp h
  rw [hparse]
  exact Option.some_ne_none _

variable (hhttp : http.Documented)
include hhttp

/-- A reference with a scheme and an authority is parsed into its own parts. -/
theorem parse_whole {scheme authority : Text}
    (hscheme : reference.scheme = some scheme)
    (hauthority : reference.authority = some authority) {parts : Uri}
    (hparse : http.parse reference.text = some parts) :
    ∃ spelled pathAndQuery : Text,
      spelled.map Char.toLower = scheme.map Char.toLower ∧
      slashed pathAndQuery =
        slashed (reference.path.text ++ queryText reference.query) ∧
      parts = ⟨some spelled, some authority, some pathAndQuery⟩ := by
  have hhead : reference.path.head = [] :=
    reference.rooted (by rw [hauthority]; exact Option.some_ne_none _)
  have htext : reference.text =
      absoluteText scheme (authority ++ reference.tail) := by
    simp [Reference.text, hscheme, hauthority, Reference.schemeText,
      Reference.authorityText, absoluteText]
  have hchars : ∀ c ∈ authority, isDelimiter c = false := fun c hc =>
    not_isDelimiter_of_isAuthorityChar
      (reference.authorityChars authority hauthority c hc)
  have htail := reference.delimited_tail hhead
  obtain ⟨hne, hschemeChars⟩ := reference.schemeChars scheme hscheme
  rw [htext] at hparse
  obtain ⟨spelled, pathAndQuery, hspelled, hslashed, rfl⟩ :=
    hhttp.absolute _ _ _ hne hschemeChars hparse
  refine ⟨spelled, pathAndQuery, hspelled, ?_, ?_⟩
  · rw [hslashed, afterDelimiter_append hchars htail,
      ← List.nil_append reference.tail,
      reference.withoutFragment_append List.not_mem_nil, List.nil_append]
  · rw [beforeDelimiter_append hchars htail]

theorem getRedirect_whole {scheme authority : Text}
    (hscheme : reference.scheme = some scheme)
    (hauthority : reference.authority = some authority)
    (haccepted : http.parse reference.text ≠ none) :
    ∃ spelled pathAndQuery : Text,
      spelled.map Char.toLower = scheme.map Char.toLower ∧
      slashed pathAndQuery =
        slashed (reference.path.text ++ queryText reference.query) ∧
      getRedirect http (requestUri base) (ofText reference.text) =
        .ok ⟨some spelled, some authority, some pathAndQuery⟩ := by
  obtain ⟨parts, hparse⟩ := Option.ne_none_iff_exists'.mp haccepted
  obtain ⟨spelled, pathAndQuery, hspelled, hslashed, rfl⟩ :=
    parse_whole hhttp hscheme hauthority hparse
  refine ⟨spelled, pathAndQuery, hspelled, hslashed, ?_⟩
  rw [getRedirect_eq_ok_iff]
  exact ⟨_, hparse, hhttp.complete _ _ _⟩

/-- Text that begins with a slash stays with the authority of the request,
whatever is after the slash. -/
theorem getRedirect_slash {rest : Text} (htext : reference.text = '/' :: rest)
    (haccepted : http.parse reference.text ≠ none) :
    getRedirect http (requestUri base) (ofText reference.text) =
      .ok ⟨some base.scheme, some base.authority,
        some (withoutFragment reference.text)⟩ := by
  obtain ⟨parts, hparse⟩ := Option.ne_none_iff_exists'.mp haccepted
  have hparts := hhttp.path rest parts (htext ▸ hparse)
  rw [getRedirect_eq_ok_iff]
  refine ⟨parts, hparse, ?_⟩
  rw [hparts, htext]
  exact hhttp.complete _ _ _

/-- Any other text has no path, so that there is no redirect, unless it is a
star. -/
theorem getRedirect_other {uri : Uri}
    (hslash : reference.text.head? ≠ some '/')
    (habsolute : ∀ scheme rest, (∀ c ∈ scheme, isSchemeChar c = true) →
      reference.text ≠ absoluteText scheme rest)
    (h : getRedirect http (requestUri base) (ofText reference.text) =
      .ok uri) :
    reference.text = ['*'] ∧
      uri = ⟨some base.scheme, some base.authority, some ['*']⟩ := by
  obtain ⟨parts, hparse, hfrom⟩ := getRedirect_eq_ok_iff.mp h
  obtain rfl | ⟨hstar, rfl⟩ := hhttp.other _ _ hslash habsolute hparse
  · rw [Option.none_or, hhttp.pathMissing] at hfrom
    cases hfrom
  · refine ⟨hstar, ?_⟩
    rw [Option.none_or, Option.none_or, hhttp.complete] at hfrom
    exact (Option.some.inj hfrom).symm

end Parsing

section Targets

variable {reference : Reference}

/-- What the parser drops of a path and query is what a target does not
have. -/
theorem slashed_path (hhead : reference.path.head = []) :
    slashed (reference.path.text ++ queryText reference.query) =
      (if reference.path.text = [] then ['/'] else reference.path.text) ++
        queryText reference.query := by
  cases hrest : reference.path.rest with
  | nil =>
      have htext : reference.path.text = [] := by simp [Path.text, hhead, hrest]
      rw [htext, if_pos rfl, List.nil_append]
      cases reference.query with
      | none => rfl
      | some query => simp [slashed, queryText]
  | cons segment rest =>
      have htext : reference.path.text =
          '/' :: (segment ++ segmentsText rest) := by
        simp [Path.text, hhead, hrest]
      rw [htext, if_neg (List.cons_ne_nil _ _), slashed, if_neg (by simp)]

/-- The path stays what it is if it has no dot segments, and only then. -/
theorem slashed_eq_targetPath_iff (hhead : reference.path.head = [])
    (scheme : Text) (authority : Option Text) :
    slashed (reference.path.text ++ queryText reference.query) =
        targetPath ⟨scheme, authority, reference.path.removeDotSegments,
          reference.query⟩ ↔
      ∀ segment ∈ reference.path.rest, isDotSegment segment = false := by
  rw [slashed_path hhead, targetPath, List.append_left_inj]
  constructor
  · intro heq segment hsegment
    rw [← Bool.not_eq_true]
    intro hdot
    have hlt := length_removeDots_lt ⟨segment, hsegment, hdot⟩ [[]]
    rw [← removeDotSegments_of_rooted hhead] at hlt
    have hlong := length_le_length_segmentsText hsegment
    have hpos := List.length_pos_of_ne_nil (ne_nil_of_isDotSegment hdot)
    have htext : reference.path.text = segmentsText reference.path.rest := by
      simp [Path.text, hhead]
    have hne : reference.path.text ≠ [] := by
      intro hnil
      rw [← htext, hnil, List.length_nil] at hlong
      omega
    rw [if_neg hne, htext] at heq
    dsimp only at heq
    have hlength := congrArg List.length heq
    simp only [List.flatten_cons, List.flatten_nil, List.append_nil,
      List.length_nil, Nat.zero_add] at hlt
    split at hlength
    · rw [List.length_singleton] at hlength
      omega
    · omega
  · intro hdots
    rw [(removeDotSegments_eq_text_iff hhead).mpr hdots]

theorem slash_mem_targetPath {target : Target}
    (h : target.path = [] ∨ '/' ∈ target.path) : '/' ∈ targetPath target := by
  rw [targetPath, List.mem_append]
  left
  split
  case isTrue => exact List.mem_singleton.mpr rfl
  case isFalse hne => exact h.resolve_left hne

/-- A relative reference leads to a path that has a slash. -/
theorem slash_mem_resolve (base : Base) (hscheme : reference.scheme = none)
    (hauthority : reference.authority = none) :
    '/' ∈ targetPath (resolve base reference) := by
  apply slash_mem_targetPath
  rw [resolve, hscheme, hauthority]
  simp only
  split
  case isTrue =>
    cases hrest : base.path.rest with
    | nil => exact .inl (by simp [Path.text, base.rooted, hrest])
    | cons segment rest =>
        exact .inr (by simp [Path.text, base.rooted, hrest])
  case isFalse hne =>
    split
    case isTrue hhead =>
      have hrest : reference.path.rest ≠ [] := by
        intro hrest
        apply hne
        cases hpath : reference.path
        simp_all
      rw [removeDotSegments_of_rooted hhead]
      exact .inr (slash_mem_removeDots hrest _)
    case isFalse =>
      have hrest : (base.merge reference.path).rest ≠ [] := by
        simp [Base.merge]
      rw [removeDotSegments_of_rooted rfl]
      exact .inr (slash_mem_removeDots hrest _)

end Targets

section Requests

variable {client : HttpClient σ ρ β ε} {http : Http}

/-- The answer to a request sends it elsewhere. -/
def Redirects (http : Http) (uri : Uri) (resp : Response β) (target : Uri) :
    Prop :=
  isRedirect resp.status = true ∧ ∃ location,
    resp.location = some location ∧ getRedirect http uri location = .ok target

/-- The requests that come from one after so many redirects. -/
inductive Leads (client : HttpClient σ ρ β ε) (http : Http)
    (req : Request ρ) : Nat → Request ρ → Prop where
  | start : Leads client http req 0 req
  | step {steps : Nat} {current : Request ρ} {before next : σ}
      {resp : Response β} {uri : Uri}
      (leads : Leads client http req steps current)
      (answer : client.request before current = (.ok resp, next))
      (redirects : Redirects http current.uri resp uri) :
      Leads client http req (steps + 1) { current with uri := uri }

/-- A request that is to be redirected is, if there is a URI to go to. -/
theorem sendReqInner_redirect {state next : σ} {req : Request ρ}
    {resp : Response β} {location : HeaderValue} {uri : Uri}
    (hanswer : client.request state req = (.ok resp, next))
    (hstatus : isRedirect resp.status = true)
    (hlocation : resp.location = some location)
    (huri : getRedirect http req.uri location = .ok uri) :
    client.sendReqInner http state req true =
      (.ok (.redirect resp { req with uri := uri }), next) := by
  simp only [HttpClient.sendReqInner, epoxyResponse, hanswer, hstatus,
    hlocation, huri, if_true]

theorem followsReference_iff_sameTarget {base : Base}
    {reference : Reference} :
    FollowsReference client http base reference ↔
      ∃ uri, SameTarget uri (resolve base reference) ∧
        getRedirect http (requestUri base) (ofText reference.text) =
          .ok uri := by
  constructor
  · rintro ⟨uri, htarget, huri, -⟩
    exact ⟨uri, htarget, huri⟩
  · rintro ⟨uri, htarget, huri⟩
    refine ⟨uri, htarget, huri, ?_⟩
    intro state next req resp hreq hanswer hstatus hlocation
    exact sendReqInner_redirect hanswer hstatus hlocation (hreq ▸ huri)

end Requests

section Forms

variable {http : Http} {base : Base} {reference : Reference}

/-- Where the reference's own path and query are what is followed. -/
theorem sameTarget_iff_of_getRedirect {scheme : Text} {authority : Option Text}
    (hhead : reference.path.head = [])
    (hresolve : resolve base reference =
      ⟨scheme, authority, reference.path.removeDotSegments, reference.query⟩)
    (hredirect : http.parse reference.text ≠ none →
      ∃ spelled pathAndQuery : Text,
        spelled.map Char.toLower = scheme.map Char.toLower ∧
        slashed pathAndQuery =
          slashed (reference.path.text ++ queryText reference.query) ∧
        getRedirect http (requestUri base) (ofText reference.text) =
          .ok ⟨some spelled, authority, some pathAndQuery⟩) :
    (∃ uri, SameTarget uri (resolve base reference) ∧
        getRedirect http (requestUri base) (ofText reference.text) =
          .ok uri) ↔
      http.parse reference.text ≠ none ∧
        ∀ segment ∈ reference.path.rest, isDotSegment segment = false := by
  rw [hresolve, ← slashed_eq_targetPath_iff hhead scheme authority]
  constructor
  · rintro ⟨uri, htarget, huri⟩
    have haccepted := accepted_of_getRedirect huri
    obtain ⟨spelled, stored, -, hstored, heq⟩ := hredirect haccepted
    obtain rfl := Except.ok.inj (heq.symm.trans huri)
    obtain ⟨text, htext, hslashed⟩ := htarget.pathAndQuery
    obtain rfl := Option.some.inj htext
    exact ⟨haccepted, hstored ▸ hslashed⟩
  · rintro ⟨haccepted, hslashed⟩
    obtain ⟨spelled, stored, hspelled, hstored, heq⟩ := hredirect haccepted
    exact ⟨_, ⟨⟨spelled, rfl, hspelled⟩, rfl,
      ⟨_, rfl, hstored.trans hslashed⟩⟩, heq⟩

theorem text_of_relative (hscheme : reference.scheme = none)
    (hauthority : reference.authority = none) :
    reference.text = reference.tail := by
  simp [Reference.text, hscheme, hauthority, Reference.schemeText,
    Reference.authorityText]

variable (hhttp : http.Documented)
include hhttp

theorem whole_iff {scheme authority : Text}
    (hscheme : reference.scheme = some scheme)
    (hauthority : reference.authority = some authority) :
    (∃ uri, SameTarget uri (resolve base reference) ∧
        getRedirect http (requestUri base) (ofText reference.text) =
          .ok uri) ↔
      http.parse reference.text ≠ none ∧
        ∀ segment ∈ reference.path.rest, isDotSegment segment = false := by
  have hhead : reference.path.head = [] :=
    reference.rooted (by rw [hauthority]; exact Option.some_ne_none _)
  have hresolve : resolve base reference =
      ⟨scheme, some authority, reference.path.removeDotSegments,
        reference.query⟩ := by
    rw [resolve, hscheme, hauthority]
  exact sameTarget_iff_of_getRedirect hhead hresolve
    (getRedirect_whole hhttp hscheme hauthority)

theorem absolutePath_iff (hscheme : reference.scheme = none)
    (hauthority : reference.authority = none)
    (hhead : reference.path.head = []) (hrest : reference.path.rest ≠ []) :
    (∃ uri, SameTarget uri (resolve base reference) ∧
        getRedirect http (requestUri base) (ofText reference.text) =
          .ok uri) ↔
      http.parse reference.text ≠ none ∧
        ∀ segment ∈ reference.path.rest, isDotSegment segment = false := by
  have hne : reference.path ≠ ⟨[], []⟩ := by
    intro hpath
    exact hrest (by rw [hpath])
  have hresolve : resolve base reference =
      ⟨base.scheme, some base.authority, reference.path.removeDotSegments,
        reference.query⟩ := by
    rw [resolve, hscheme, hauthority]
    simp only [if_neg hne, if_pos hhead]
  refine sameTarget_iff_of_getRedirect hhead hresolve ?_
  intro haccepted
  have htext := text_of_relative hscheme hauthority
  obtain ⟨rest, hslash⟩ := List.head?_eq_some_iff.mp
    (reference.head?_tail_eq_slash_iff.mpr ⟨hhead, hrest⟩)
  have hplain : withoutFragment reference.text =
      reference.path.text ++ queryText reference.query := by
    rw [htext, ← List.nil_append reference.tail,
      reference.withoutFragment_append List.not_mem_nil, List.nil_append]
  refine ⟨base.scheme, _, rfl, rfl, ?_⟩
  rw [← hplain]
  exact getRedirect_slash hhttp (htext.trans hslash) haccepted

/-- The other authority would be taken for the beginning of a path. -/
theorem not_networkPath {authority : Text} (hscheme : reference.scheme = none)
    (hauthority : reference.authority = some authority) :
    ¬∃ uri, SameTarget uri (resolve base reference) ∧
      getRedirect http (requestUri base) (ofText reference.text) =
        .ok uri := by
  rintro ⟨uri, htarget, huri⟩
  have hhead : reference.path.head = [] :=
    reference.rooted (by rw [hauthority]; exact Option.some_ne_none _)
  have hresolve : resolve base reference =
      ⟨base.scheme, some authority, reference.path.removeDotSegments,
        reference.query⟩ := by
    rw [resolve, hscheme, hauthority]
  have htext : reference.text =
      '/' :: ('/' :: authority ++ reference.tail) := by
    simp [Reference.text, hscheme, hauthority, Reference.schemeText,
      Reference.authorityText]
  have hhash : '#' ∉ '/' :: '/' :: authority := by
    intro hmem
    obtain h | hmem := List.mem_cons.mp hmem
    · revert h
      decide
    · obtain h | hmem := List.mem_cons.mp hmem
      · revert h
        decide
      · have hchar := reference.authorityChars authority hauthority _ hmem
        revert hchar
        decide
  rw [getRedirect_slash hhttp htext (accepted_of_getRedirect huri)] at huri
  obtain rfl := Except.ok.inj huri
  obtain ⟨text, htext', hslashed⟩ := htarget.pathAndQuery
  obtain rfl := Option.some.inj htext'
  have hplain : withoutFragment reference.text =
      ('/' :: '/' :: authority) ++ reference.path.text ++
        queryText reference.query := by
    rw [htext, ← List.cons_append, reference.withoutFragment_append hhash]
  have hlength := congrArg List.length hslashed
  have hle := length_removeDotSegments_le hhead
  rw [hplain, slashed, if_neg (by simp), hresolve, targetPath] at hlength
  simp only [List.length_append, List.length_cons] at hlength
  split at hlength
  · rw [List.length_singleton] at hlength
    omega
  · omega

/-- A scheme without an authority is taken for an authority. -/
theorem not_bareScheme {scheme : Text}
    (hscheme : reference.scheme = some scheme)
    (hauthority : reference.authority = none) (uri : Uri) :
    getRedirect http (requestUri base) (ofText reference.text) ≠
      .ok uri := by
  intro huri
  obtain ⟨hne, hchars⟩ := reference.schemeChars scheme hscheme
  have htext : reference.text = scheme ++ ':' :: reference.tail := by
    simp [Reference.text, hscheme, hauthority, Reference.schemeText,
      Reference.authorityText]
  obtain ⟨c, rest, rfl⟩ := List.exists_cons_of_ne_nil hne
  have hslash : reference.text.head? ≠ some '/' := by
    rw [htext, List.cons_append, List.head?_cons]
    intro h
    obtain rfl := Option.some.inj h
    have hchar := hchars '/' List.mem_cons_self
    revert hchar
    decide
  have habsolute : ∀ other after, (∀ c ∈ other, isSchemeChar c = true) →
      reference.text ≠ absoluteText other after := by
    intro other after hother heq
    rw [htext, absoluteText, List.append_assoc] at heq
    obtain ⟨-, htail⟩ := scheme_append_colon_inj hchars hother heq
    exact reference.tail_ne_slashes hauthority after htail
  obtain ⟨hstar, -⟩ := getRedirect_other hhttp hslash habsolute huri
  rw [htext] at hstar
  simp at hstar

/-- What is neither whole nor a path with a slash in front is an authority,
and no path comes with it. -/
theorem not_relative (hscheme : reference.scheme = none)
    (hauthority : reference.authority = none)
    (hpath : ¬(reference.path.head = [] ∧ reference.path.rest ≠ [])) :
    ¬∃ uri, SameTarget uri (resolve base reference) ∧
      getRedirect http (requestUri base) (ofText reference.text) =
        .ok uri := by
  rintro ⟨uri, htarget, huri⟩
  have htext := text_of_relative hscheme hauthority
  have hslash : reference.text.head? ≠ some '/' := by
    rw [htext]
    exact mt reference.head?_tail_eq_slash_iff.mp hpath
  have habsolute : ∀ other after, (∀ c ∈ other, isSchemeChar c = true) →
      reference.text ≠ absoluteText other after := by
    intro other after hother heq
    have hcolon := colon_mem_beforeDelimiter hother after
    rw [← heq, htext, reference.beforeDelimiter_tail] at hcolon
    exact reference.noColon hscheme hauthority hcolon
  obtain ⟨-, rfl⟩ := getRedirect_other hhttp hslash habsolute huri
  obtain ⟨text, htext', hslashed⟩ := htarget.pathAndQuery
  obtain rfl := Option.some.inj htext'
  have hmem := slash_mem_resolve base hscheme hauthority
  rw [← hslashed] at hmem
  revert hmem
  decide

end Forms

/-- A redirect leads where its reference does if the reference is whole or an
absolute path, with no dot segments, and only then. -/
theorem followsReference_iff_wellFollowed (client : HttpClient σ ρ β ε)
    {http : Http} (hhttp : http.Documented) (base : Base)
    (reference : Reference) :
    FollowsReference client http base reference ↔
      WellFollowed http reference := by
  rw [followsReference_iff_sameTarget]
  cases hscheme : reference.scheme with
  | some scheme =>
      cases hauthority : reference.authority with
      | some authority =>
          rw [whole_iff hhttp hscheme hauthority]
          constructor
          · rintro ⟨haccepted, hplain⟩
            refine ⟨haccepted, hplain, .inl ?_⟩
            simp [hscheme, hauthority]
          · intro h
            exact ⟨h.accepted, h.plain⟩
      | none =>
          constructor
          · rintro ⟨uri, -, huri⟩
            exact absurd huri (not_bareScheme hhttp hscheme hauthority uri)
          · intro h
            have hform := h.form
            simp [hscheme, hauthority] at hform
  | none =>
      cases hauthority : reference.authority with
      | some authority =>
          constructor
          · intro h
            exact absurd h (not_networkPath hhttp hscheme hauthority)
          · intro h
            have hform := h.form
            simp [hscheme, hauthority] at hform
      | none =>
          by_cases hpath :
              reference.path.head = [] ∧ reference.path.rest ≠ []
          · rw [absolutePath_iff hhttp hscheme hauthority hpath.1 hpath.2]
            constructor
            · rintro ⟨haccepted, hplain⟩
              exact ⟨haccepted, hplain, .inr ⟨hscheme, hauthority, hpath⟩⟩
            · intro h
              exact ⟨h.accepted, h.plain⟩
          · constructor
            · intro h
              exact absurd h (not_relative hhttp hscheme hauthority hpath)
            · intro h
              obtain ⟨hne, -⟩ | ⟨-, -, hform⟩ := h.form
              · exact absurd hscheme hne
              · exact absurd hform hpath

/-- A parser that takes what the documented one may take. -/
def plainHttp : Http where
  parse text :=
    let scheme := text.takeWhile isSchemeChar
    let rest := text.drop (scheme.length + 3)
    if text.head? = some '/' then
      some ⟨none, none, some (withoutFragment text)⟩
    else if scheme ≠ [] ∧ text = absoluteText scheme rest then
      some ⟨some scheme, some (beforeDelimiter rest),
        some (withoutFragment (afterDelimiter rest))⟩
    else if text = ['*'] then some ⟨none, none, some text⟩
    else if text ≠ [] ∧ text.all isAuthorityChar then some ⟨none, text, none⟩
    else none
  fromParts
    | ⟨some scheme, some authority, some pathAndQuery⟩ =>
        some ⟨some scheme, some authority, some pathAndQuery⟩
    | ⟨some _, _, _⟩ => none
    | ⟨none, some _, some _⟩ => none
    | uri => some uri

theorem takeWhile_isSchemeChar_absoluteText {scheme : Text}
    (hscheme : ∀ c ∈ scheme, isSchemeChar c = true) (rest : Text) :
    (absoluteText scheme rest).takeWhile isSchemeChar = scheme := by
  rw [absoluteText, List.append_assoc, List.takeWhile_append_of_pos hscheme]
  have hcolon : isSchemeChar ':' = false := by decide
  simp [hcolon]

theorem drop_absoluteText (scheme rest : Text) :
    (absoluteText scheme rest).drop (scheme.length + 3) = rest := by
  rw [absoluteText, List.drop_append]
  simp

theorem documented_plainHttp : plainHttp.Documented where
  path rest uri h := by
    simp only [plainHttp, List.head?_cons, if_true] at h
    exact (Option.some.inj h).symm
  absolute scheme rest uri hne hscheme h := by
    have hslash : (absoluteText scheme rest).head? ≠ some '/' := by
      obtain ⟨c, tail, rfl⟩ := List.exists_cons_of_ne_nil hne
      intro hc
      obtain rfl := Option.some.inj hc
      have hchar := hscheme '/' List.mem_cons_self
      revert hchar
      decide
    simp only [plainHttp, takeWhile_isSchemeChar_absoluteText hscheme,
      drop_absoluteText, if_neg hslash, and_true, if_pos hne] at h
    exact ⟨scheme, _, rfl, rfl, (Option.some.inj h).symm⟩
  other reference uri hslash habsolute h := by
    have hscheme : ∀ c ∈ reference.text.takeWhile isSchemeChar,
        isSchemeChar c = true := fun c hc =>
      List.all_eq_true.mp List.all_takeWhile c hc
    have hne := habsolute _ (reference.text.drop
      ((reference.text.takeWhile isSchemeChar).length + 3)) hscheme
    simp only [plainHttp, if_neg hslash, hne, and_false, if_false] at h
    by_cases hstar : reference.text = ['*']
    · rw [if_pos hstar] at h
      exact .inr ⟨hstar, hstar ▸ (Option.some.inj h).symm⟩
    · rw [if_neg hstar] at h
      split at h
      case isTrue => exact .inl (Option.some.inj h).symm
      case isFalse => cases h
  complete scheme authority pathAndQuery := rfl
  pathMissing scheme authority := by
    cases authority with
    | none => rfl
    | some authority => rfl

/-- A client whose answers all redirect to one reference. -/
def redirectingClient (location : Text) : HttpClient Unit Unit Unit Unit where
  request state _ := (.ok ⟨302, some (ofText location), ()⟩, state)

def exampleBase : Base where
  scheme := "https".toList
  authority := "example.org".toList
  path := ⟨[], ["account".toList, "home".toList]⟩
  query := none
  rooted := rfl
  segmentChars := by simp [isDelimiter]

def absolutePathReference : Reference where
  scheme := none
  authority := none
  path := ⟨[], ["login".toList]⟩
  query := some "next=home".toList
  fragment := some "form".toList
  schemeChars := by simp
  authorityChars := by simp
  segmentChars := forall_mem_of_all (by decide)
  queryChars := by rintro _ ⟨⟩; exact List.all_eq_true.mp (by decide)
  fragmentChars := by rintro _ ⟨⟩; exact List.all_eq_true.mp (by decide)
  rooted := by simp
  single := by simp
  noColon := by decide

def networkPathReference : Reference where
  scheme := none
  authority := some "accounts.example.org".toList
  path := ⟨[], ["login".toList]⟩
  query := none
  fragment := none
  schemeChars := by simp
  authorityChars := by rintro _ ⟨⟩; exact List.all_eq_true.mp (by decide)
  segmentChars := forall_mem_of_all (by decide)
  queryChars := by simp
  fragmentChars := by simp
  rooted := by simp
  single := by simp
  noColon := by decide

example : resolve exampleBase networkPathReference =
    ⟨"https".toList, some "accounts.example.org".toList, "/login".toList,
      none⟩ := by decide

theorem followsReference_iff_wellFollowed_absolutePath :
    FollowsReference (redirectingClient absolutePathReference.text) plainHttp
      exampleBase absolutePathReference :=
  (followsReference_iff_wellFollowed _ documented_plainHttp _ _).mpr
    ⟨by decide, by decide, .inr ⟨rfl, rfl, rfl, by decide⟩⟩

theorem not_followsReference_networkPath :
    plainHttp.Documented ∧
      getRedirect plainHttp (requestUri exampleBase)
          (ofText networkPathReference.text) =
        .ok ⟨some "https".toList, some "example.org".toList,
          some "//accounts.example.org/login".toList⟩ ∧
      ¬FollowsReference (redirectingClient networkPathReference.text)
        plainHttp exampleBase networkPathReference := by
  refine ⟨documented_plainHttp, rfl, ?_⟩
  rw [followsReference_iff_sameTarget]
  exact not_networkPath documented_plainHttp rfl rfl

end Epoxy
