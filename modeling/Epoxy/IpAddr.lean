/-
Internet addresses and their text form.  An address is printed in the
canonical way, with the first longest run of zero groups left out, and read
back by the parser of the standard library; reading what was printed gives
the address again.
-/
import Epoxy.NumberText
import Mathlib.Data.List.Basic

namespace Net

open NumberText

structure Ipv4Addr where
  octet₀ : UInt8
  octet₁ : UInt8
  octet₂ : UInt8
  octet₃ : UInt8
deriving Repr, DecidableEq

structure Ipv6Addr where
  segments : List UInt16
  length_segments : segments.length = 8
deriving Repr, DecidableEq

inductive IpAddr where
  | v4 (addr : Ipv4Addr)
  | v6 (addr : Ipv6Addr)
deriving Repr, DecidableEq

/-- Two bytes, the most significant one first. -/
def fromBeBytes (high low : UInt8) : UInt16 :=
  UInt16.ofNat (high.toNat * 2 ^ 8 + low.toNat)

namespace Ipv4Addr

def octets (addr : Ipv4Addr) : List UInt8 :=
  [addr.octet₀, addr.octet₁, addr.octet₂, addr.octet₃]

def isLoopback (addr : Ipv4Addr) : Bool := addr.octet₀ = 127

def isPrivate (addr : Ipv4Addr) : Bool :=
  match addr.octets with
  | [10, _, _, _] => true
  | [172, b, _, _] => 16 ≤ b && b ≤ 31
  | [192, 168, _, _] => true
  | _ => false

def isLinkLocal (addr : Ipv4Addr) : Bool :=
  addr.octet₀ = 169 && addr.octet₁ = 254

def isMulticast (addr : Ipv4Addr) : Bool :=
  224 ≤ addr.octet₀ && addr.octet₀ ≤ 239

def isBroadcast (addr : Ipv4Addr) : Bool :=
  addr.octets = [255, 255, 255, 255]

def isDocumentation (addr : Ipv4Addr) : Bool :=
  match addr.octets with
  | [192, 0, 2, _] => true
  | [198, 51, 100, _] => true
  | [203, 0, 113, _] => true
  | _ => false

def toText (addr : Ipv4Addr) : List Char :=
  Nat.toDigits 10 addr.octet₀.toNat ++ '.' ::
    (Nat.toDigits 10 addr.octet₁.toNat ++ '.' ::
      (Nat.toDigits 10 addr.octet₂.toNat ++ '.' ::
        Nat.toDigits 10 addr.octet₃.toNat))

/-- The address `::ffff:a.b.c.d`. -/
def toIpv6Mapped (addr : Ipv4Addr) : Ipv6Addr where
  segments := [0, 0, 0, 0, 0, 0xffff, fromBeBytes addr.octet₀ addr.octet₁,
    fromBeBytes addr.octet₂ addr.octet₃]
  length_segments := rfl

end Ipv4Addr

structure Span where
  start : Nat
  len : Nat

namespace Ipv6Addr

def segment (addr : Ipv6Addr) (i : Nat) : UInt16 := addr.segments.getD i 0

/-- `u128::from_be_bytes(addr.octets())` -/
def toU128 (addr : Ipv6Addr) : Nat :=
  addr.segments.foldl (fun bits segment => bits * 2 ^ 16 + segment.toNat) 0

def isUnspecified (addr : Ipv6Addr) : Bool :=
  addr.segments = [0, 0, 0, 0, 0, 0, 0, 0]

def isLoopback (addr : Ipv6Addr) : Bool :=
  addr.segments = [0, 0, 0, 0, 0, 0, 0, 1]

def isMulticast (addr : Ipv6Addr) : Bool :=
  addr.segment 0 &&& 0xff00 = 0xff00

def toIpv4Mapped (addr : Ipv6Addr) : Option Ipv4Addr :=
  match addr.segments with
  | [0, 0, 0, 0, 0, 0xffff, ab, cd] =>
      some ⟨UInt8.ofNat (ab.toNat / 2 ^ 8), UInt8.ofNat ab.toNat,
        UInt8.ofNat (cd.toNat / 2 ^ 8), UInt8.ofNat cd.toNat⟩
  | _ => none

/-- The first longest run of zeros, by one pass over the segments. -/
def zeroSpan : List UInt16 → Nat → Span → Span → Span
  | [], _, longest, _ => longest
  | segment :: rest, i, longest, current =>
      if segment = 0 then
        let current : Span :=
          ⟨if current.len = 0 then i else current.start, current.len + 1⟩
        zeroSpan rest (i + 1)
          (if longest.len < current.len then current else longest) current
      else zeroSpan rest (i + 1) longest ⟨0, 0⟩

/-- The groups after the first one, each behind a colon. -/
def fmtTail (chunk : List UInt16) : List Char :=
  chunk.flatMap fun segment => ':' :: Nat.toDigits 16 segment.toNat

def fmtSubslice : List UInt16 → List Char
  | [] => []
  | first :: tail => Nat.toDigits 16 first.toNat ++ fmtTail tail

def toText (addr : Ipv6Addr) : List Char :=
  match addr.toIpv4Mapped with
  | some ipv4 => ':' :: ':' :: 'f' :: 'f' :: 'f' :: 'f' :: ':' :: ipv4.toText
  | none =>
      let zeroes := zeroSpan addr.segments 0 ⟨0, 0⟩ ⟨0, 0⟩
      if 1 < zeroes.len then
        fmtSubslice (addr.segments.take zeroes.start) ++ ':' :: ':' ::
          fmtSubslice (addr.segments.drop (zeroes.start + zeroes.len))
      else fmtSubslice addr.segments

end Ipv6Addr

/-- All but the first of a row of items have a separator in front. -/
def readSeparator {α : Type} (sep : Char) (index : Nat)
    (inner : List Char → Option (α × List Char)) (text : List Char) :
    Option (α × List Char) :=
  if 0 < index then (readGivenChar sep text).bind inner else inner text

def readOctet (index : Nat) (text : List Char) : Option (UInt8 × List Char) :=
  (readSeparator '.' index (readNumber 10 3 (2 ^ 8) false) text).map
    fun (octet, rest) => (UInt8.ofNat octet, rest)

def readIpv4Addr (text : List Char) : Option (Ipv4Addr × List Char) := do
  let (a, text) ← readOctet 0 text
  let (b, text) ← readOctet 1 text
  let (c, text) ← readOctet 2 text
  let (d, text) ← readOctet 3 text
  some (⟨a, b, c, d⟩, text)

def readGroup (index : Nat) (text : List Char) : Option (UInt16 × List Char) :=
  (readSeparator ':' index (readNumber 16 4 (2 ^ 16) true) text).map
    fun (group, rest) => (UInt16.ofNat group, rest)

/-- Read up to `left` groups, of which the last two may be an IPv4 address.
The groups, whether they end in such an address, and what is left. -/
def readGroups : (left index : Nat) → List Char →
    List UInt16 × Bool × List Char
  | 0, _, text => ([], false, text)
  | left + 1, index, text =>
      let ipv4 :=
        if 0 < left then readSeparator ':' index readIpv4Addr text else none
      match ipv4 with
      | some (addr, rest) =>
          ([fromBeBytes addr.octet₀ addr.octet₁,
            fromBeBytes addr.octet₂ addr.octet₃], true, rest)
      | none =>
          match readGroup index text with
          | some (group, rest) =>
              let (groups, ipv4, rest) := readGroups left (index + 1) rest
              (group :: groups, ipv4, rest)
          | none => ([], false, text)

def Ipv6Addr.ofSegments (segments : List UInt16) : Option Ipv6Addr :=
  if h : segments.length = 8 then some ⟨segments, h⟩ else none

def readIpv6Addr (text : List Char) : Option (Ipv6Addr × List Char) :=
  let (head, headIpv4, rest) := readGroups 8 0 text
  if head.length = 8 then
    (Ipv6Addr.ofSegments head).map fun addr => (addr, rest)
  else if headIpv4 then none
  else do
    let rest ← readGivenChar ':' rest
    let rest ← readGivenChar ':' rest
    let limit := 8 - (head.length + 1)
    let (tail, _, rest) := readGroups limit 0 rest
    let zeroes := List.replicate (8 - tail.length - head.length) 0
    (Ipv6Addr.ofSegments (head ++ zeroes ++ tail)).map fun addr => (addr, rest)

namespace IpAddr

def isIpv4 : IpAddr → Bool
  | .v4 _ => true
  | .v6 _ => false

def isLoopback : IpAddr → Bool
  | .v4 addr => addr.isLoopback
  | .v6 addr => addr.isLoopback

def isMulticast : IpAddr → Bool
  | .v4 addr => addr.isMulticast
  | .v6 addr => addr.isMulticast

def toText : IpAddr → List Char
  | .v4 addr => addr.toText
  | .v6 addr => addr.toText

protected def toString (addr : IpAddr) : String := .ofList addr.toText

def readIpAddr (text : List Char) : Option (IpAddr × List Char) :=
  ((readIpv4Addr text).map fun (addr, rest) => (.v4 addr, rest)) <|>
    (readIpv6Addr text).map fun (addr, rest) => (.v6 addr, rest)

/-- The whole text is an address. -/
def fromText (text : List Char) : Option IpAddr :=
  match readIpAddr text with
  | some (addr, []) => some addr
  | _ => none

def fromStr (text : String) : Option IpAddr := fromText text.toList

end IpAddr

theorem stops_cons {radix : Nat} {c : Char} (hc : isDigit radix c = false)
    (rest : List Char) : Stops radix (c :: rest) := by
  intro d hd
  cases hd
  exact hc

/-- An item is read behind its separator. -/
theorem readSeparator_append {α : Type} {sep : Char} {index : Nat}
    {inner : List Char → Option (α × List Char)} {text : List Char}
    {found : α × List Char} (hinner : inner text = some found) :
    readSeparator sep index inner
      ((if 0 < index then [sep] else []) ++ text) = some found := by
  unfold readSeparator
  split
  · simp [readGivenChar, hinner]
  · exact hinner

theorem readOctet_toDigits {index : Nat} (octet : UInt8) {rest : List Char}
    (hrest : Stops 10 rest) :
    readOctet index ((if 0 < index then ['.'] else []) ++
      Nat.toDigits 10 octet.toNat ++ rest) = some (octet, rest) := by
  have hlt : octet.toNat < 2 ^ 8 := octet.toNat_lt
  have hnumber : readNumber 10 3 (2 ^ 8) false
      (Nat.toDigits 10 octet.toNat ++ rest) = some (octet.toNat, rest) :=
    readNumber_toDigits false (by decide) (by decide) (by decide) (by omega)
      hlt hrest
  rw [readOctet, List.append_assoc, readSeparator_append hnumber,
    Option.map_some]
  dsimp only
  rw [UInt8.ofNat_toNat]

theorem readIpv4Addr_toText (addr : Ipv4Addr) {rest : List Char}
    (hrest : Stops 10 rest) :
    readIpv4Addr (addr.toText ++ rest) = some (addr, rest) := by
  have hdot : ∀ more, Stops 10 ('.' :: more) := stops_cons rfl
  have h₀ := fun more => @readOctet_toDigits 0 addr.octet₀ _ (hdot more)
  have h₁ := fun more => @readOctet_toDigits 1 addr.octet₁ _ (hdot more)
  have h₂ := fun more => @readOctet_toDigits 2 addr.octet₂ _ (hdot more)
  have h₃ := @readOctet_toDigits 3 addr.octet₃ _ hrest
  simp only [Nat.lt_irrefl, Nat.zero_lt_succ, if_true, if_false,
    List.nil_append, List.cons_append] at h₀ h₁ h₂ h₃
  simp [readIpv4Addr, Ipv4Addr.toText, h₀, h₁, h₂, h₃]

/-- An IPv4 address is refused where no dot follows the first digits. -/
theorem readIpv4Addr_eq_none {text : List Char}
    (h : (text.dropWhile (isDigit 10)).head? ≠ some '.') :
    readIpv4Addr text = none := by
  cases hfirst : readOctet 0 text with
  | none => simp [readIpv4Addr, hfirst]
  | some first =>
      obtain ⟨octet, rest⟩ := first
      have hread := hfirst
      simp only [readOctet, readSeparator, Nat.lt_irrefl, if_false,
        Option.map_eq_some_iff, Prod.mk.injEq] at hread
      obtain ⟨⟨n, left⟩, hnumber, -, rfl⟩ := hread
      rw [← rest_of_readNumber hnumber] at h
      have hdot : readGivenChar '.' left = none := by
        rw [Option.eq_none_iff_forall_ne_some]
        intro more hmore
        rw [readGivenChar_eq_some.mp hmore] at h
        exact h rfl
      have hsecond : readOctet 1 left = none := by
        rw [readOctet, readSeparator, if_pos Nat.zero_lt_one, hdot]
        rfl
      simp [readIpv4Addr, hfirst, hsecond]

/-- What stands behind a group of an IPv6 address. -/
def EndsGroup (rest : List Char) : Prop :=
  rest = [] ∨ ∃ more, rest = ':' :: more

theorem EndsGroup.stops {radix : Nat} {rest : List Char}
    (h : EndsGroup rest) : Stops radix rest := by
  rcases h with rfl | ⟨more, rfl⟩
  · intro c hc
    cases hc
  · refine stops_cons ?_ more
    simp [isDigit, toDigit, digitValue]

/-- No group of an IPv6 address begins an IPv4 address. -/
theorem readIpv4Addr_of_group {digits rest : List Char}
    (hdigits : ∀ c ∈ digits, isDigit 16 c = true) (hrest : EndsGroup rest) :
    readIpv4Addr (digits ++ rest) = none := by
  apply readIpv4Addr_eq_none
  induction digits with
  | nil =>
      rcases hrest with rfl | ⟨more, rfl⟩
      · simp
      · simp [isDigit, toDigit, digitValue]
  | cons c digits ih =>
      rw [List.cons_append, List.dropWhile_cons]
      split
      · exact ih fun d hd => hdigits d (List.mem_cons_of_mem c hd)
      · intro hdot
        have hc := hdigits c List.mem_cons_self
        rw [Option.some.inj hdot] at hc
        cases hc

theorem readGroup_toDigits {index : Nat} (group : UInt16) {rest : List Char}
    (hrest : EndsGroup rest) :
    readGroup index ((if 0 < index then [':'] else []) ++
      Nat.toDigits 16 group.toNat ++ rest) = some (group, rest) := by
  have hlt : group.toNat < 2 ^ 16 := group.toNat_lt
  have hnumber : readNumber 16 4 (2 ^ 16) true
      (Nat.toDigits 16 group.toNat ++ rest) = some (group.toNat, rest) :=
    readNumber_toDigits true (by decide) (by decide) (by decide) (by omega)
      hlt hrest.stops
  rw [readGroup, List.append_assoc, readSeparator_append hnumber,
    Option.map_some]
  dsimp only
  rw [UInt16.ofNat_toNat]

/-- What stands behind a row of groups that is not full. -/
def EndsGroups (rest : List Char) : Prop :=
  rest = [] ∨ ∃ more, rest = ':' :: ':' :: more

/-- Neither a group nor an address can be read at the end of a row. -/
theorem readSeparator_of_ends {α : Type}
    {inner : List Char → Option (α × List Char)} {rest : List Char}
    (index : Nat) (hinner : ∀ text, EndsGroup text → inner text = none)
    (hrest : EndsGroups rest) : readSeparator ':' index inner rest = none := by
  unfold readSeparator
  rcases hrest with rfl | ⟨more, rfl⟩
  · split
    · rfl
    · exact hinner [] (.inl rfl)
  · split
    · simp [readGivenChar, hinner (':' :: more) (.inr ⟨more, rfl⟩)]
    · exact hinner _ (.inr ⟨_, rfl⟩)

theorem readGroups_of_ends {rest : List Char} (left index : Nat)
    (hrest : EndsGroups rest) :
    readGroups left index rest = ([], false, rest) := by
  cases left with
  | zero => rfl
  | succ left =>
      have hipv4 : readSeparator ':' index readIpv4Addr rest = none :=
        readSeparator_of_ends index
          (fun text htext => @readIpv4Addr_of_group [] text (by simp) htext)
          hrest
      have hgroup : readGroup index rest = none := by
        rw [readGroup, readSeparator_of_ends index
          (fun text htext => readNumber_of_stops htext.stops) hrest]
        rfl
      simp [readGroups, hipv4, hgroup]

/-- A group is read before whatever is made of the text behind it. -/
theorem readGroups_toDigits {left index : Nat} (group : UInt16)
    {rest : List Char} (hrest : EndsGroup rest) :
    readGroups (left + 1) index ((if 0 < index then [':'] else []) ++
        Nat.toDigits 16 group.toNat ++ rest) =
      (group :: (readGroups left (index + 1) rest).1,
        (readGroups left (index + 1) rest).2) := by
  have hipv4 : readSeparator ':' index readIpv4Addr
      ((if 0 < index then [':'] else []) ++
        Nat.toDigits 16 group.toNat ++ rest) = none := by
    have hnone : readIpv4Addr (Nat.toDigits 16 group.toNat ++ rest) = none :=
      readIpv4Addr_of_group
        (fun c hc => isDigit_of_mem_toDigits (by decide) (by decide) hc) hrest
    unfold readSeparator
    split
    · simp [readGivenChar, hnone]
    · simpa using hnone
  rw [readGroups, hipv4, readGroup_toDigits group hrest]
  simp

theorem fmtTail_ends {groups : List UInt16} {rest : List Char}
    (hrest : EndsGroups rest) : EndsGroup (Ipv6Addr.fmtTail groups ++ rest) := by
  cases groups with
  | nil =>
      rcases hrest with rfl | ⟨more, rfl⟩
      · exact .inl rfl
      · exact .inr ⟨_, rfl⟩
  | cons group groups => exact .inr ⟨_, rfl⟩

theorem readGroups_fmtTail {index : Nat} {rest : List Char}
    (hrest : EndsGroups rest) (hindex : 0 < index) (groups : List UInt16)
    {left : Nat} (hleft : groups.length ≤ left) :
    readGroups left index (Ipv6Addr.fmtTail groups ++ rest) =
      (groups, false, rest) := by
  induction groups generalizing left index with
  | nil => exact readGroups_of_ends left index hrest
  | cons group groups ih =>
      obtain ⟨left, rfl⟩ : ∃ n, left = n + 1 := by
        rw [List.length_cons] at hleft
        exact ⟨left - 1, by omega⟩
      have hrow := @readGroups_toDigits left index group _
        (@fmtTail_ends groups rest hrest)
      rw [if_pos hindex, ih (Nat.succ_pos index) (by simpa using hleft)] at hrow
      simpa [Ipv6Addr.fmtTail] using hrow

theorem readGroups_fmtSubslice {rest : List Char} (hrest : EndsGroups rest)
    (groups : List UInt16) {left : Nat} (hleft : groups.length ≤ left) :
    readGroups left 0 (Ipv6Addr.fmtSubslice groups ++ rest) =
      (groups, false, rest) := by
  cases groups with
  | nil => exact readGroups_of_ends left 0 hrest
  | cons group groups =>
      obtain ⟨left, rfl⟩ : ∃ n, left = n + 1 := by
        rw [List.length_cons] at hleft
        exact ⟨left - 1, by omega⟩
      have hrow := @readGroups_toDigits left 0 group _
        (@fmtTail_ends groups rest hrest)
      rw [readGroups_fmtTail hrest (by omega) groups (by simpa using hleft)]
        at hrow
      simpa [Ipv6Addr.fmtSubslice] using hrow

/-- The span covers nothing but zeros. -/
def Span.Zero (span : Span) (segments : List UInt16) : Prop :=
  span.start + span.len ≤ segments.length ∧
    ∀ k, span.start ≤ k → k < span.start + span.len → segments[k]? = some 0

theorem Ipv6Addr.zeroSpan_zero {segments rest : List UInt16} {i : Nat}
    {longest current : Span} (hrest : segments.drop i = rest)
    (hlongest : longest.Zero segments) (hcurrent : current.Zero segments)
    (hend : current.len ≠ 0 → current.start + current.len = i) :
    (zeroSpan rest i longest current).Zero segments := by
  induction rest generalizing i longest current with
  | nil => exact hlongest
  | cons segment rest ih =>
      have hi : segments[i]? = some segment := by
        have := List.head?_drop (l := segments) (i := i)
        rw [hrest] at this
        exact this.symm
      have hlt : i < segments.length := (List.getElem?_eq_some_iff.mp hi).1
      have hdrop : segments.drop (i + 1) = rest := by
        rw [← List.tail_drop, hrest]
        rfl
      unfold zeroSpan
      split
      · next hzero =>
          dsimp only
          generalize hstart :
            (if current.len = 0 then i else current.start) = start
          have hnext : start + current.len = i := by
            split at hstart
            · omega
            · next hlen => rw [← hstart, hend hlen]
          have hgrown : Span.Zero ⟨start, current.len + 1⟩ segments := by
            refine ⟨by simp only; omega, fun k hk hk' => ?_⟩
            simp only at hk hk'
            by_cases hki : k = i
            · rw [hki, hi, hzero]
            · split at hstart
              · omega
              · exact hcurrent.2 k (by omega) (by omega)
          refine ih hdrop ?_ hgrown (fun _ => by simp only; omega)
          split
          · exact hgrown
          · exact hlongest
      · refine ih hdrop hlongest ⟨Nat.zero_le _, fun k _ hk => ?_⟩ ?_
        · simp only at hk
          omega
        · simp

theorem Ipv6Addr.zeroSpan_segments (segments : List UInt16) :
    (zeroSpan segments 0 ⟨0, 0⟩ ⟨0, 0⟩).Zero segments := by
  have hempty : Span.Zero ⟨0, 0⟩ segments := by
    refine ⟨Nat.zero_le _, fun k _ hk => ?_⟩
    simp at hk
  exact zeroSpan_zero rfl hempty hempty fun h => absurd rfl h

theorem segments_of_zero {segments : List UInt16} {span : Span}
    (h : span.Zero segments) :
    segments.take span.start ++ List.replicate span.len 0 ++
      segments.drop (span.start + span.len) = segments := by
  have hzeros : (segments.drop span.start).take span.len =
      List.replicate span.len 0 := by
    rw [List.eq_replicate_iff]
    refine ⟨by have := h.1; simp; omega, fun segment hsegment => ?_⟩
    obtain ⟨k, hk, rfl⟩ := List.mem_iff_getElem.mp hsegment
    simp only [List.length_take] at hk
    have hzero := h.2 (span.start + k) (by omega) (by omega)
    rw [List.getElem?_eq_some_iff] at hzero
    obtain ⟨_, hzero⟩ := hzero
    simpa using hzero
  rw [← hzeros, List.append_assoc, ← List.drop_drop, List.take_append_drop,
    List.take_append_drop]

theorem fromBeBytes_ofNat (segment : UInt16) :
    fromBeBytes (UInt8.ofNat (segment.toNat / 2 ^ 8))
      (UInt8.ofNat segment.toNat) = segment := by
  have hlt := segment.toNat_lt
  apply UInt16.toNat_inj.mp
  simp only [fromBeBytes, UInt16.toNat_ofNat', UInt8.toNat_ofNat']
  omega

theorem Ipv6Addr.toIpv4Mapped_eq_some {addr : Ipv6Addr} {ipv4 : Ipv4Addr}
    (h : addr.toIpv4Mapped = some ipv4) : addr = ipv4.toIpv6Mapped := by
  obtain ⟨segments, hlength⟩ := addr
  unfold toIpv4Mapped at h
  split at h
  · next ab cd hsegments =>
      cases h
      simp only [Ipv6Addr.mk.injEq, Ipv4Addr.toIpv6Mapped, fromBeBytes_ofNat]
      exact hsegments
  · cases h

/-- The embedded address is found again. -/
@[simp] theorem Ipv4Addr.toIpv4Mapped_toIpv6Mapped (addr : Ipv4Addr) :
    addr.toIpv6Mapped.toIpv4Mapped = some addr := by
  have hbytes : ∀ high low : UInt8,
      UInt8.ofNat ((fromBeBytes high low).toNat / 2 ^ 8) = high ∧
        UInt8.ofNat (fromBeBytes high low).toNat = low := by
    intro high low
    have hhigh := high.toNat_lt
    have hlow := low.toNat_lt
    constructor <;> apply UInt8.toNat_inj.mp
    · simp only [fromBeBytes, UInt8.toNat_ofNat', UInt16.toNat_ofNat']
      omega
    · simp only [fromBeBytes, UInt8.toNat_ofNat', UInt16.toNat_ofNat']
      omega
  simp only [toIpv6Mapped, Ipv6Addr.toIpv4Mapped, (hbytes _ _).1,
    (hbytes _ _).2]

@[simp] theorem Ipv6Addr.ofSegments_segments (addr : Ipv6Addr) :
    ofSegments addr.segments = some addr := dif_pos addr.length_segments

/-- The tail of an address that is printed as an IPv4 address. -/
theorem readGroups_mapped (ipv4 : Ipv4Addr) :
    readGroups 7 0 ('f' :: 'f' :: 'f' :: 'f' :: ':' :: ipv4.toText) =
      ([0xffff, fromBeBytes ipv4.octet₀ ipv4.octet₁,
        fromBeBytes ipv4.octet₂ ipv4.octet₃], true, []) := by
  have hipv4 : readIpv4Addr ipv4.toText = some (ipv4, []) := by
    have hstops : Stops 10 [] := by
      intro c hc
      cases hc
    have hread := readIpv4Addr_toText ipv4 hstops
    rwa [List.append_nil] at hread
  have hrest : readGroups 6 1 (':' :: ipv4.toText) =
      ([fromBeBytes ipv4.octet₀ ipv4.octet₁,
        fromBeBytes ipv4.octet₂ ipv4.octet₃], true, []) := by
    simp [readGroups, readSeparator, readGivenChar, hipv4]
  have hgroup := @readGroups_toDigits 6 0 0xffff (':' :: ipv4.toText)
    (.inr ⟨_, rfl⟩)
  rw [hrest] at hgroup
  exact hgroup

theorem readIpv6Addr_toText (addr : Ipv6Addr) :
    readIpv6Addr addr.toText = some (addr, []) := by
  have hnil : EndsGroups [] := .inl rfl
  unfold Ipv6Addr.toText
  cases hmapped : addr.toIpv4Mapped with
  | some ipv4 =>
      obtain rfl := Ipv6Addr.toIpv4Mapped_eq_some hmapped
      have hends : EndsGroups (':' :: ':' :: 'f' :: 'f' :: 'f' :: 'f' :: ':' ::
          ipv4.toText) := .inr ⟨_, rfl⟩
      have hhead := readGroups_of_ends 8 0 hends
      simp only [readIpv6Addr, hhead, readGivenChar]
      simp [readGroups_mapped]
      rfl
  | none =>
      have hzero := Ipv6Addr.zeroSpan_segments addr.segments
      generalize Ipv6Addr.zeroSpan addr.segments 0 ⟨0, 0⟩ ⟨0, 0⟩ = zeroes
        at hzero ⊢
      dsimp only
      split
      · next hlen =>
          have hlength := addr.length_segments
          have hbound := hzero.1
          have hends : EndsGroups (':' :: ':' :: Ipv6Addr.fmtSubslice
              (addr.segments.drop (zeroes.start + zeroes.len))) :=
            .inr ⟨_, rfl⟩
          have hhead := readGroups_fmtSubslice hends
            (addr.segments.take zeroes.start)
            (show _ ≤ 8 by rw [List.length_take]; omega)
          have htail := readGroups_fmtSubslice hnil
            (addr.segments.drop (zeroes.start + zeroes.len))
            (show _ ≤ 8 - (zeroes.start + 1) by
              rw [List.length_drop]
              omega)
          rw [List.append_nil] at htail
          have hstart : (addr.segments.take zeroes.start).length =
              zeroes.start := by
            rw [List.length_take]
            omega
          have hgap : 8 - (addr.segments.drop
              (zeroes.start + zeroes.len)).length - zeroes.start =
                zeroes.len := by
            rw [List.length_drop]
            omega
          have hfull : zeroes.start ≠ 8 := by omega
          simp only [readIpv6Addr, hhead, hstart, hfull, if_false,
            readGivenChar, if_true, Bool.false_eq_true, Option.bind_eq_bind,
            Option.bind_some, htail, hgap, segments_of_zero hzero,
            Ipv6Addr.ofSegments_segments, Option.map_some]
      · have hread := readGroups_fmtSubslice hnil addr.segments
          (Nat.le_of_eq addr.length_segments)
        rw [List.append_nil] at hread
        simp [readIpv6Addr, hread, addr.length_segments]

theorem readIpv4Addr_fmtSubslice {rest : List Char} (groups : List UInt16)
    (hrest : EndsGroups rest) :
    readIpv4Addr (Ipv6Addr.fmtSubslice groups ++ rest) = none := by
  cases groups with
  | nil =>
      have hends := @fmtTail_ends [] rest hrest
      exact @readIpv4Addr_of_group [] rest (by simp) hends
  | cons group groups =>
      rw [Ipv6Addr.fmtSubslice, List.append_assoc]
      exact readIpv4Addr_of_group
        (fun c hc => isDigit_of_mem_toDigits (by decide) (by decide) hc)
        (fmtTail_ends hrest)

/-- No IPv6 address is taken for an IPv4 address. -/
theorem readIpv4Addr_toText_v6 (addr : Ipv6Addr) :
    readIpv4Addr addr.toText = none := by
  unfold Ipv6Addr.toText
  split
  · exact readIpv4Addr_fmtSubslice [] (.inr ⟨_, rfl⟩)
  · dsimp only
    split
    · exact readIpv4Addr_fmtSubslice _ (.inr ⟨_, rfl⟩)
    · have hnone := readIpv4Addr_fmtSubslice addr.segments (.inl rfl)
      rwa [List.append_nil] at hnone

/-- What an address is printed as is read as that address. -/
theorem IpAddr.fromStr_toString (addr : IpAddr) :
    fromStr addr.toString = some addr := by
  rw [fromStr, IpAddr.toString, String.toList_ofList]
  unfold fromText readIpAddr
  cases addr with
  | v4 addr =>
      have hstops : Stops 10 [] := by
        intro c hc
        cases hc
      have hread := readIpv4Addr_toText addr hstops
      rw [List.append_nil] at hread
      simp [toText, hread]
  | v6 addr =>
      simp [toText, readIpv4Addr_toText_v6, readIpv6Addr_toText]

end Net
