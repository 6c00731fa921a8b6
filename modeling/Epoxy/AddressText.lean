/-
How addresses are read from texts that are not addresses alone.  An address is
read the same in either letter case and in front of what cannot go on with it,
and it never ends in a dot; an address with a port is an IPv4 address, or an
IPv6 address in brackets, and a colon with the port.
-/
import Epoxy.IpAddr
import Epoxy.TextReader

namespace Net

open NumberText TextReader

variable {T : List Char → List Char} {α : Type}

/-- The change keeps what an IPv4 address is made of. -/
structure ReadsIpv4 (T : List Char → List Char) : Prop where
  dot : ∀ text, readGivenChar '.' (T text) = (readGivenChar '.' text).map T
  decimal : ∀ maxDigits limit allowZeroPrefix,
    Natural T (readNumber 10 maxDigits limit allowZeroPrefix)

/-- And what an IPv6 address is made of. -/
structure ReadsIpv6 (T : List Char → List Char) : Prop extends
    ReadsIpv4 T where
  colon : ∀ text, readGivenChar ':' (T text) = (readGivenChar ':' text).map T
  hexadecimal : ∀ maxDigits limit allowZeroPrefix,
    Natural T (readNumber 16 maxDigits limit allowZeroPrefix)

theorem natural_readSeparator {sep : Char} {inner : Reader α}
    (hsep : ∀ text, readGivenChar sep (T text) =
      (readGivenChar sep text).map T)
    (hinner : Natural T inner) (index : Nat) :
    Natural T (readSeparator sep index inner) := by
  intro text
  unfold readSeparator
  split
  · rw [hsep text]
    cases readGivenChar sep text with
    | none => rfl
    | some rest => exact hinner rest
  · exact hinner text

theorem natural_readOctet (h : ReadsIpv4 T) (index : Nat) :
    Natural T (readOctet index) :=
  (natural_readSeparator h.dot (h.decimal 3 (2 ^ 8) false) index).map
    fun _ _ => rfl

theorem natural_readIpv4Addr (h : ReadsIpv4 T) : Natural T readIpv4Addr := by
  apply (natural_readOctet h 0).bind
  intro a
  apply (natural_readOctet h 1).bind
  intro b
  apply (natural_readOctet h 2).bind
  intro c
  apply (natural_readOctet h 3).bind
  intro d text
  rfl

theorem natural_readGroup (h : ReadsIpv6 T) (index : Nat) :
    Natural T (readGroup index) :=
  (natural_readSeparator h.colon (h.hexadecimal 4 (2 ^ 16) true) index).map
    fun _ _ => rfl

theorem natural_readGroups (h : ReadsIpv6 T) (left index : Nat)
    (text : List Char) :
    readGroups left index (T text) =
      ((readGroups left index text).1, (readGroups left index text).2.1,
        T (readGroups left index text).2.2) := by
  induction left generalizing index text with
  | zero => rfl
  | succ left ih =>
      have hipv4 := natural_readSeparator h.colon
        (natural_readIpv4Addr h.toReadsIpv4) index text
      have hgroup := natural_readGroup h index text
      have hrow : ∀ ipv4 : Option (Ipv4Addr × List Char),
          ipv4 = (if 0 < left then readSeparator ':' index readIpv4Addr text
            else none) →
          (if 0 < left then readSeparator ':' index readIpv4Addr (T text)
            else none) = ipv4.map fun found => (found.1, T found.2) := by
        rintro ipv4 rfl
        split
        · exact hipv4
        · rfl
      simp only [readGroups, hrow _ rfl]
      cases (if 0 < left then readSeparator ':' index readIpv4Addr text
        else none) with
      | some found => rfl
      | none =>
          simp only [Option.map_none, hgroup]
          cases readGroup index text with
          | none => rfl
          | some found => simp only [Option.map_some, ih]

theorem natural_readIpv6Addr (h : ReadsIpv6 T) : Natural T readIpv6Addr := by
  intro text
  simp only [readIpv6Addr, natural_readGroups h 8 0 text]
  generalize readGroups 8 0 text = row
  obtain ⟨head, headIpv4, rest⟩ := row
  dsimp only
  split
  · rw [Option.map_map]
    rfl
  · split
    · rfl
    · rw [h.colon rest]
      cases readGivenChar ':' rest with
      | none => rfl
      | some rest =>
          simp only [Option.map_some, Option.bind_eq_bind, Option.bind_some,
            h.colon rest]
          cases readGivenChar ':' rest with
          | none => rfl
          | some rest =>
              simp only [Option.map_some, Option.bind_some,
                natural_readGroups h _ 0 rest, Option.map_map]
              rfl

theorem natural_readIpAddr (h : ReadsIpv6 T) :
    Natural T IpAddr.readIpAddr :=
  ((natural_readIpv4Addr h.toReadsIpv4).map fun _ _ => rfl).orElse
    ((natural_readIpv6Addr h).map fun _ _ => rfl)

/-- What is left behind the parts of an address has the property. -/
structure KeepsAddr (I : List Char → Prop) : Prop where
  octet : ∀ index, Keeps I (readOctet index)
  group : ∀ index, Keeps I (readGroup index)
  colon : ∀ text rest, I text → readGivenChar ':' text = some rest → I rest

section Keeps

variable {I : List Char → Prop}

theorem keeps_readIpv4Addr (h : KeepsAddr I) : Keeps I readIpv4Addr := by
  apply (h.octet 0).bind
  intro a
  apply (h.octet 1).bind
  intro b
  apply (h.octet 2).bind
  intro c
  apply (h.octet 3).bind
  intro d text value rest htext hread
  cases hread
  exact htext

theorem keeps_readGroups (h : KeepsAddr I) (left index : Nat)
    {text : List Char} (htext : I text) :
    I (readGroups left index text).2.2 := by
  induction left generalizing index text with
  | zero => exact htext
  | succ left ih =>
      have hipv4 : ∀ found : Ipv4Addr × List Char,
          (if 0 < left then readSeparator ':' index readIpv4Addr text
            else none) = some found → I found.2 := by
        intro found hfound
        rw [Option.ite_none_right_eq_some] at hfound
        unfold readSeparator at hfound
        have hread := hfound.2
        split at hread
        · obtain ⟨rest, hrest, hlast⟩ := Option.bind_eq_some_iff.mp hread
          exact keeps_readIpv4Addr h rest found.1 found.2
            (h.colon text rest htext hrest) hlast
        · exact keeps_readIpv4Addr h text found.1 found.2 htext hread
      rw [readGroups]
      generalize (if 0 < left then readSeparator ':' index readIpv4Addr text
        else none) = ipv4 at hipv4 ⊢
      cases ipv4 with
      | some found => exact hipv4 found rfl
      | none =>
          cases hgroup : readGroup index text with
          | none => exact htext
          | some found =>
              exact ih (index + 1)
                (h.group index text found.1 found.2 htext hgroup)

theorem keeps_readIpv6Addr (h : KeepsAddr I) : Keeps I readIpv6Addr := by
  intro text value rest htext hread
  have hhead := keeps_readGroups h 8 0 htext
  unfold readIpv6Addr at hread
  generalize readGroups 8 0 text = row at hhead hread
  obtain ⟨head, headIpv4, left⟩ := row
  dsimp only at hhead hread
  split at hread
  · obtain ⟨addr, -, heq⟩ := Option.map_eq_some_iff.mp hread
    cases heq
    exact hhead
  · split at hread
    · cases hread
    · obtain ⟨first, hfirst, hread⟩ := Option.bind_eq_some_iff.mp hread
      obtain ⟨second, hsecond, hread⟩ := Option.bind_eq_some_iff.mp hread
      obtain ⟨addr, -, heq⟩ := Option.map_eq_some_iff.mp hread
      cases heq
      apply keeps_readGroups h
      exact h.colon first second (h.colon left first hhead hfirst) hsecond

theorem keeps_readIpAddr (h : KeepsAddr I) : Keeps I IpAddr.readIpAddr :=
  ((keeps_readIpv4Addr h).map fun _ _ => rfl).orElse
    ((keeps_readIpv6Addr h).map fun _ _ => rfl)

end Keeps

theorem readsIpv6_toLower : ReadsIpv6 (List.map Char.toLower) where
  dot := readGivenChar_map fun _ => toLower_eq_iff (by decide)
  colon := readGivenChar_map fun _ => toLower_eq_iff (by decide)
  decimal maxDigits limit allowZeroPrefix :=
    natural_readNumber_map maxDigits limit allowZeroPrefix
      (toDigit_toLower 10) fun _ => toLower_eq_iff (by decide)
  hexadecimal maxDigits limit allowZeroPrefix :=
    natural_readNumber_map maxDigits limit allowZeroPrefix
      (toDigit_toLower 16) fun _ => toLower_eq_iff (by decide)

theorem fromText_eq_some {text : List Char} {addr : IpAddr} :
    IpAddr.fromText text = some addr ↔
      IpAddr.readIpAddr text = some (addr, []) := by
  unfold IpAddr.fromText
  split
  · next found heq => simp [heq]
  · next hother =>
      simp only [reduceCtorEq, false_iff]
      intro heq
      exact hother addr heq

/-- Addresses are read the same in either letter case. -/
theorem fromText_map_toLower (text : List Char) :
    IpAddr.fromText (text.map Char.toLower) = IpAddr.fromText text := by
  have hread := natural_readIpAddr readsIpv6_toLower text
  apply Option.ext
  intro addr
  rw [fromText_eq_some, fromText_eq_some, hread]
  cases IpAddr.readIpAddr text with
  | none => simp
  | some found => simp [Prod.ext_iff]

theorem fromStr_eq_of_sameLetters {host other : String}
    (h : host.toList.map Char.toLower = other.toList.map Char.toLower) :
    IpAddr.fromStr host = IpAddr.fromStr other := by
  unfold IpAddr.fromStr
  rw [← fromText_map_toLower, h, fromText_map_toLower]

theorem keeps_readSeparator {last : List Char} {sep : Char}
    {inner : Reader α} (hinner : Keeps (last <:+ ·) inner)
    (hsep : last.head? ≠ some sep ∨ last = [sep] ∧ inner [] = none)
    (index : Nat) : Keeps (last <:+ ·) (readSeparator sep index inner) := by
  intro text value rest htext hread
  unfold readSeparator at hread
  split at hread
  · obtain ⟨left, hleft, hlast⟩ := Option.bind_eq_some_iff.mp hread
    apply hinner left value rest ?_ hlast
    rcases hsep with hhead | ⟨rfl, hempty⟩
    · exact suffix_of_readGivenChar hhead htext hleft
    · -- the last separator has nothing behind it
      rw [readGivenChar_eq_some.mp hleft, List.suffix_cons_iff] at htext
      rcases htext with heq | hrest
      · rw [← (List.cons.inj heq).2, hempty] at hlast
        cases hlast
      · exact hrest
  · exact hinner text value rest htext hread

theorem keepsAddr_dot : KeepsAddr (['.'] <:+ ·) where
  octet index := by
    have hstops : Stops 10 ['.'] := stops_cons rfl []
    have hnumber := keeps_readNumber_suffix 3 (2 ^ 8) false hstops
    exact (keeps_readSeparator hnumber
      (.inr ⟨rfl, readNumber_nil 3 (2 ^ 8) false⟩) index).map fun _ _ => rfl
  group index := by
    have hstops : Stops 16 ['.'] := stops_cons rfl []
    have hnumber := keeps_readNumber_suffix 4 (2 ^ 16) true hstops
    exact (keeps_readSeparator hnumber (.inl (by decide)) index).map
      fun _ _ => rfl
  colon _ _ htext hread := suffix_of_readGivenChar (by decide) htext hread

/-- No address ends in a dot. -/
theorem fromText_append_dot (text : List Char) :
    IpAddr.fromText (text ++ ['.']) = none := by
  rw [Option.eq_none_iff_forall_ne_some]
  intro addr hread
  have hleft := keeps_readIpAddr keepsAddr_dot _ _ _
    (List.suffix_append text ['.']) (fromText_eq_some.mp hread)
  simp at hleft

theorem fromStr_append_dot (host : String) :
    IpAddr.fromStr (host ++ ".") = none := by
  unfold IpAddr.fromStr
  rw [String.toList_append]
  exact fromText_append_dot host.toList

end Net
