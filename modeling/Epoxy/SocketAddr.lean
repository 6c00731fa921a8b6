/-
Addresses with ports as text.  In front of a colon and a zero, an address with
a port is read from exactly the texts that are IPv4 addresses, and from those
that are IPv6 addresses, with a scope or without one, in brackets.
-/
import Epoxy.AddressText
import Mathlib.Data.List.TakeWhile

namespace Net

open NumberText TextReader

/-- The scope is that of an IPv6 address. -/
structure SocketAddr where
  ip : IpAddr
  port : UInt16
  scopeId : UInt32
deriving Repr, DecidableEq

/-- A number of any length. -/
def readUnbounded (limit : Nat) : Reader Nat := fun text =>
  readNumber 10 text.length limit true text

def readPort (text : List Char) : Option (UInt16 × List Char) :=
  (readGivenChar ':' text).bind fun text =>
    (readUnbounded (2 ^ 16) text).map fun (port, rest) =>
      (UInt16.ofNat port, rest)

def readScopeId (text : List Char) : Option (UInt32 × List Char) :=
  (readGivenChar '%' text).bind fun text =>
    (readUnbounded (2 ^ 32) text).map fun (scopeId, rest) =>
      (UInt32.ofNat scopeId, rest)

def readSocketAddrV4 (text : List Char) : Option (SocketAddr × List Char) := do
  let (ip, text) ← readIpv4Addr text
  let (port, text) ← readPort text
  some (⟨.v4 ip, port, 0⟩, text)

def readSocketAddrV6 (text : List Char) : Option (SocketAddr × List Char) := do
  let text ← readGivenChar '[' text
  let (ip, text) ← readIpv6Addr text
  let (scopeId, text) := (readScopeId text).getD (0, text)
  let text ← readGivenChar ']' text
  let (port, text) ← readPort text
  some (⟨.v6 ip, port, scopeId⟩, text)

namespace SocketAddr

def fromText (text : List Char) : Option SocketAddr :=
  match readSocketAddrV4 text <|> readSocketAddrV6 text with
  | some (addr, []) => some addr
  | _ => none

def fromStr (text : String) : Option SocketAddr := fromText text.toList

end SocketAddr

theorem readNumber_of_length_le {radix maxDigits limit : Nat}
    {allowZeroPrefix : Bool} {text : List Char}
    (hlength : text.length ≤ maxDigits) :
    readNumber radix maxDigits limit allowZeroPrefix text =
      readNumber radix text.length limit allowZeroPrefix text := by
  have hle : (text.takeWhile (isDigit radix)).length ≤ text.length :=
    (List.takeWhile_sublist _).length_le
  simp only [readNumber, Nat.not_lt.mpr hle,
    Nat.not_lt.mpr (Nat.le_trans hle hlength), if_false]

theorem natural_readUnbounded {limit : Nat} {more : List Char}
    (hmore : Stops 10 more) : Natural (· ++ more) (readUnbounded limit) := by
  intro text
  have hnumber := natural_readNumber_append (text ++ more).length limit true
    hmore text
  have hlong : text.length ≤ (text ++ more).length := by simp
  rw [readNumber_of_length_le hlong] at hnumber
  exact hnumber

theorem natural_readScopeId {more : List Char} (hmore : Stops 10 more)
    (hhead : more.head? ≠ some '%') :
    Natural (· ++ more) readScopeId := by
  intro text
  dsimp only [readScopeId]
  rw [readGivenChar_append hhead]
  cases readGivenChar '%' text with
  | none => rfl
  | some rest => exact (natural_readUnbounded hmore).map (fun _ _ => rfl) rest

theorem suffix_readScopeId {text rest : List Char} {scopeId : UInt32}
    (h : readScopeId text = some (scopeId, rest)) : rest <:+ text := by
  obtain ⟨digits, hdigits, hread⟩ := Option.bind_eq_some_iff.mp h
  obtain ⟨⟨n, left⟩, hnumber, heq⟩ := Option.map_eq_some_iff.mp hread
  cases heq
  have hleft := keeps_readNumber_of_suffix _ _ true digits digits n rest
    (List.suffix_refl digits) hnumber
  exact hleft.trans (suffix_readGivenChar hdigits)

/-- What cannot go on with an address. -/
structure EndsAddr (more : List Char) : Prop where
  decimal : Stops 10 more
  hexadecimal : Stops 16 more
  dot : more.head? ≠ some '.'
  colon : more.head? ≠ some ':'

theorem readsIpv4_append {more : List Char} (hdecimal : Stops 10 more)
    (hdot : more.head? ≠ some '.') : ReadsIpv4 (· ++ more) where
  dot := readGivenChar_append hdot
  decimal maxDigits limit allowZeroPrefix :=
    natural_readNumber_append maxDigits limit allowZeroPrefix hdecimal

theorem EndsAddr.readsIpv6 {more : List Char} (h : EndsAddr more) :
    ReadsIpv6 (· ++ more) where
  toReadsIpv4 := readsIpv4_append h.decimal h.dot
  colon := readGivenChar_append h.colon
  hexadecimal maxDigits limit allowZeroPrefix :=
    natural_readNumber_append maxDigits limit allowZeroPrefix h.hexadecimal

/-- What an address leaves is an end of what it was read from. -/
theorem keepsAddr_suffix (whole : List Char) : KeepsAddr (· <:+ whole) := by
  have hcolon : ∀ sep text rest, text <:+ whole →
      readGivenChar sep text = some rest → rest <:+ whole :=
    fun sep text rest htext hread => (suffix_readGivenChar hread).trans htext
  have hseparator : ∀ (sep : Char) (inner : Reader Nat) index,
      Keeps (· <:+ whole) inner →
      Keeps (· <:+ whole) (readSeparator sep index inner) := by
    intro sep inner index hinner text value rest htext hread
    unfold readSeparator at hread
    split at hread
    · obtain ⟨left, hleft, hlast⟩ := Option.bind_eq_some_iff.mp hread
      exact hinner left value rest (hcolon sep text left htext hleft) hlast
    · exact hinner text value rest htext hread
  exact {
    octet := fun index => (hseparator _ _ index
      (keeps_readNumber_of_suffix 3 (2 ^ 8) false whole)).map fun _ _ => rfl
    group := fun index => (hseparator _ _ index
      (keeps_readNumber_of_suffix 4 (2 ^ 16) true whole)).map fun _ _ => rfl
    colon := hcolon ':' }

/-- If a natural reader leaves what was put behind its text, it reads all of
the text. -/
theorem read_of_append {α : Type} {more : List Char} {read : Reader α}
    (hnatural : Natural (· ++ more) read) {text : List Char} {value : α}
    (h : read (text ++ more) = some (value, more)) :
    read text = some (value, []) := by
  have hread := hnatural text
  dsimp only at hread
  rw [h] at hread
  obtain ⟨⟨found, rest⟩, hfound, heq⟩ := Option.map_eq_some_iff.mp hread.symm
  obtain ⟨hvalue, hrest⟩ := Prod.mk.inj heq
  dsimp only at hvalue hrest
  rw [hfound, hvalue, List.append_left_eq_self.mp hrest]

/-- `:0` -/
def portZero : List Char := [':', '0']

theorem readPort_portZero : readPort portZero = some (0, []) := by decide

/-- The port that is read up to the end is the one behind the text. -/
theorem eq_portZero_of_readPort {text whole : List Char} {port : UInt16}
    (hsuffix : text <:+ whole ++ portZero)
    (hread : readPort text = some (port, [])) :
    text = portZero ∧ port = 0 := by
  obtain ⟨digits, hdigits, hnumber⟩ := Option.bind_eq_some_iff.mp hread
  obtain ⟨⟨n, left⟩, hnumber, heq⟩ := Option.map_eq_some_iff.mp hnumber
  obtain rfl : left = [] := (Prod.mk.inj heq).2
  have htext := readGivenChar_eq_some.mp hdigits
  -- only digits stand behind the colon
  have hall : ∀ c ∈ digits, isDigit 10 c = true := by
    have hrest := rest_of_readNumber hnumber
    exact List.dropWhile_eq_nil_iff.mp hrest.symm
  have hsame : text = portZero := by
    rcases List.suffix_or_suffix_of_suffix hsuffix
      (List.suffix_append whole portZero) with hshort | hlong
    · subst htext
      rw [portZero, List.suffix_cons_iff] at hshort
      rcases hshort with heq | hrest
      · exact heq
      · have hcolon := hrest.subset List.mem_cons_self
        simp at hcolon
    · subst htext
      rw [List.suffix_cons_iff] at hlong
      rcases hlong with heq | hrest
      · exact heq.symm
      · have hcolon := hall ':' (hrest.subset List.mem_cons_self)
        cases hcolon
  refine ⟨hsame, ?_⟩
  rw [hsame, readPort_portZero] at hread
  exact (Prod.mk.inj (Option.some.inj hread)).1.symm

/-- The text is an IPv6 address in brackets, perhaps with a scope. -/
def Bracketed (text : List Char) (ip : Ipv6Addr) (scopeId : UInt32) : Prop :=
  ∃ inner scope, text = '[' :: (inner ++ scope ++ [']']) ∧
    readIpv6Addr inner = some (ip, []) ∧
    (scope = [] ∧ scopeId = 0 ∨ readScopeId scope = some (scopeId, []))

theorem fromText_eq_v4 {text : List Char} {ip : Ipv4Addr} :
    IpAddr.fromText text = some (.v4 ip) ↔
      readIpv4Addr text = some (ip, []) := by
  rw [fromText_eq_some, IpAddr.readIpAddr]
  cases readIpv4Addr text with
  | some found => simp [Prod.ext_iff]
  | none =>
      cases readIpv6Addr text with
      | none => simp
      | some found => simp

theorem readSocketAddrV4_append_portZero {text : List Char}
    {addr : SocketAddr} :
    readSocketAddrV4 (text ++ portZero) = some (addr, []) ↔
      ∃ ip, readIpv4Addr text = some (ip, []) ∧ addr = ⟨.v4 ip, 0, 0⟩ := by
  have hends : ReadsIpv4 (· ++ portZero) :=
    readsIpv4_append (stops_cons rfl ['0']) (by decide)
  have hnatural := natural_readIpv4Addr hends text
  simp only [readSocketAddrV4, hnatural]
  cases readIpv4Addr text with
  | none => simp
  | some found =>
      obtain ⟨ip, rest⟩ := found
      simp only [Option.map_some, Option.bind_eq_bind, Option.bind_some]
      constructor
      · intro hread
        obtain ⟨⟨port, left⟩, hport, heq⟩ := Option.bind_eq_some_iff.mp hread
        cases heq
        obtain ⟨hrest, rfl⟩ :=
          eq_portZero_of_readPort (List.suffix_refl _) hport
        rw [List.append_left_eq_self.mp hrest]
        exact ⟨ip, rfl, rfl⟩
      · rintro ⟨other, heq, rfl⟩
        cases heq
        rw [List.nil_append, readPort_portZero]
        rfl

/-- The scope that is read in front of a closing bracket, if there is one. -/
theorem exists_scope {afterAddr afterScope last : List Char}
    {scopeId : UInt32}
    (hread : (readScopeId afterAddr).getD (0, afterAddr) =
      (scopeId, afterScope)) (hbracket : afterScope = ']' :: last) :
    ∃ scope, afterAddr = scope ++ afterScope ∧
      (scope = [] ∧ scopeId = 0 ∨ readScopeId scope = some (scopeId, [])) := by
  cases hscope : readScopeId afterAddr with
  | none =>
      rw [hscope] at hread
      cases hread
      exact ⟨[], rfl, .inl ⟨rfl, rfl⟩⟩
  | some found =>
      rw [hscope] at hread
      cases hread
      obtain ⟨scope, hsuffix⟩ := suffix_readScopeId hscope
      rw [← hsuffix] at hscope
      have hnatural : Natural (· ++ afterScope) readScopeId := by
        rw [hbracket]
        exact natural_readScopeId (stops_cons rfl last) (by simp)
      exact ⟨scope, hsuffix.symm, .inr (read_of_append hnatural hscope)⟩

/-- A scope or a closing bracket ends an address. -/
theorem endsAddr_of_scope {scope last : List Char} {scopeId : UInt32}
    (h : scope = [] ∧ scopeId = 0 ∨ readScopeId scope = some (scopeId, [])) :
    EndsAddr (scope ++ ']' :: last) := by
  rcases h with ⟨rfl, -⟩ | hscope
  · exact ⟨stops_cons rfl last, stops_cons rfl last, by simp, by simp⟩
  · obtain ⟨digits, hdigits, -⟩ := Option.bind_eq_some_iff.mp hscope
    rw [readGivenChar_eq_some.mp hdigits]
    exact ⟨stops_cons rfl _, stops_cons rfl _, by simp, by simp⟩

theorem readSocketAddrV4_of_bracketed {text : List Char} {ip : Ipv6Addr}
    {scopeId : UInt32} (h : Bracketed text ip scopeId) :
    readSocketAddrV4 (text ++ portZero) = none := by
  obtain ⟨inner, scope, rfl, -, -⟩ := h
  rfl

theorem readSocketAddrV6_of_bracketed {text : List Char} {ip : Ipv6Addr}
    {scopeId : UInt32} (h : Bracketed text ip scopeId) :
    readSocketAddrV6 (text ++ portZero) = some (⟨.v6 ip, 0, scopeId⟩, []) := by
  obtain ⟨inner, scope, rfl, hip, hscope⟩ := h
  let last := ']' :: portZero
  have haddr : readIpv6Addr (inner ++ (scope ++ last)) =
      some (ip, scope ++ last) := by
    have hends : EndsAddr (scope ++ last) := endsAddr_of_scope hscope
    have hread := natural_readIpv6Addr hends.readsIpv6 inner
    rw [hip] at hread
    exact hread
  have hid : (readScopeId (scope ++ last)).getD (0, scope ++ last) =
      (scopeId, last) := by
    rcases hscope with ⟨rfl, rfl⟩ | hscope
    · rfl
    · have hlast : Stops 10 last := stops_cons rfl portZero
      have hread := natural_readScopeId hlast (by decide) scope
      rw [hscope] at hread
      rw [hread]
      rfl
  have htext : '[' :: (inner ++ scope ++ [']']) ++ portZero =
      '[' :: (inner ++ (scope ++ last)) := by simp [last]
  rw [htext]
  simp only [readSocketAddrV6, readGivenChar, if_true, Option.bind_eq_bind,
    Option.bind_some, haddr, hid]
  simp only [last, if_true, Option.bind_some, readPort_portZero]

theorem bracketed_of_readSocketAddrV6 {text : List Char} {addr : SocketAddr}
    (h : readSocketAddrV6 (text ++ portZero) = some (addr, [])) :
    ∃ ip, Bracketed text ip addr.scopeId ∧
      addr = ⟨.v6 ip, 0, addr.scopeId⟩ := by
  obtain ⟨behind, hbehind, h⟩ := Option.bind_eq_some_iff.mp h
  obtain ⟨⟨ip, afterAddr⟩, haddr, h⟩ := Option.bind_eq_some_iff.mp h
  dsimp only at h
  generalize hscope : (readScopeId afterAddr).getD (0, afterAddr) = found at h
  obtain ⟨scopeId, afterScope⟩ := found
  obtain ⟨last, hlast, h⟩ := Option.bind_eq_some_iff.mp h
  obtain ⟨⟨port, left⟩, hport, h⟩ := Option.bind_eq_some_iff.mp h
  cases h
  have hbracket : afterScope = ']' :: last := readGivenChar_eq_some.mp hlast
  obtain ⟨scope, hafter, hid⟩ := exists_scope hscope hbracket
  have hsuffix : afterAddr <:+ behind :=
    keeps_readIpv6Addr (keepsAddr_suffix behind) behind ip afterAddr
      (List.suffix_refl behind) haddr
  -- the bracket opens the text, and the port is all that is behind it
  obtain ⟨inside, rfl, rfl⟩ : ∃ inside, text = '[' :: inside ∧
      behind = inside ++ portZero := by
    have htext := readGivenChar_eq_some.mp hbehind
    cases text with
    | nil => cases htext
    | cons c inside =>
        obtain ⟨rfl, hinside⟩ := List.cons.inj htext
        exact ⟨inside, rfl, hinside.symm⟩
  have hend : last <:+ afterAddr := by
    rw [hafter, hbracket]
    exact ⟨scope ++ [']'], by simp⟩
  obtain ⟨rfl, rfl⟩ : last = portZero ∧ port = 0 :=
    eq_portZero_of_readPort (hend.trans hsuffix) hport
  obtain ⟨inner, hinner⟩ := hsuffix
  refine ⟨ip, ⟨inner, scope, ?_, ?_, hid⟩, rfl⟩
  · have hinside : inside ++ portZero =
        (inner ++ scope ++ [']']) ++ portZero := by
      rw [← hinner, hafter, hbracket]
      simp
    rw [List.append_cancel_right hinside]
  · rw [← hinner] at haddr
    have hends : EndsAddr afterAddr := by
      rw [hafter, hbracket]
      exact endsAddr_of_scope hid
    exact read_of_append (natural_readIpv6Addr hends.readsIpv6) haddr

namespace SocketAddr

theorem fromText_eq_some {text : List Char} {addr : SocketAddr} :
    fromText text = some addr ↔
      (readSocketAddrV4 text <|> readSocketAddrV6 text) =
        some (addr, []) := by
  unfold fromText
  split
  · next found heq => simp [heq]
  · next hother =>
      simp only [reduceCtorEq, false_iff]
      intro heq
      exact hother addr heq

/-- An address is read in front of `:0` from an IPv4 address, and from an IPv6
address in brackets. -/
theorem fromText_append_portZero (text : List Char) (addr : SocketAddr) :
    fromText (text ++ portZero) = some addr ↔
      (∃ ip, IpAddr.fromText text = some (.v4 ip) ∧ addr = ⟨.v4 ip, 0, 0⟩) ∨
        ∃ ip scopeId, Bracketed text ip scopeId ∧
          addr = ⟨.v6 ip, 0, scopeId⟩ := by
  rw [fromText_eq_some]
  simp only [fromText_eq_v4]
  constructor
  · intro hread
    cases hv4 : readSocketAddrV4 (text ++ portZero) with
    | some found =>
        rw [hv4] at hread
        left
        exact readSocketAddrV4_append_portZero.mp (hv4.trans hread)
    | none =>
        rw [hv4] at hread
        right
        obtain ⟨ip, hbracketed, haddr⟩ := bracketed_of_readSocketAddrV6 hread
        exact ⟨ip, addr.scopeId, hbracketed, haddr⟩
  · rintro (⟨ip, hip, rfl⟩ | ⟨ip, scopeId, hbracketed, rfl⟩)
    · rw [readSocketAddrV4_append_portZero.mpr ⟨ip, hip, rfl⟩]
      rfl
    · rw [readSocketAddrV4_of_bracketed hbracketed,
        readSocketAddrV6_of_bracketed hbracketed]
      rfl

end SocketAddr

end Net
