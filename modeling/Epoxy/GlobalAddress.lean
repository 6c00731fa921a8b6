/-
The addresses that count as global.  The server carries its own copy of the
predicate of the standard library; the blocks that the copy is documented to
leave out are listed here, and the predicate is compared with the list.
-/
import Epoxy.AddressBlock
import Epoxy.StreamResolve

namespace Epoxy.Server

open Net AddressBlock

/-- A block that is not global, and the parts of it that are. -/
structure Reserved where
  block : Block
  assigned : List Block
deriving Repr

def Reserved.contains (w : Nat) (reserved : Reserved) (addr : List Nat) :
    Bool :=
  reserved.block.contains w addr && !reserved.assigned.any (·.contains w addr)

def octetParts (addr : Ipv4Addr) : List Nat := addr.octets.map UInt8.toNat

def segmentParts (addr : Ipv6Addr) : List Nat := addr.segments.map UInt16.toNat

def ipv4NonGlobal : List Reserved :=
  [⟨⟨[0], 8⟩, []⟩,
    ⟨⟨[10], 8⟩, []⟩,
    ⟨⟨[172, 16], 12⟩, []⟩,
    ⟨⟨[192, 168], 16⟩, []⟩,
    ⟨⟨[100, 64], 10⟩, []⟩,
    ⟨⟨[127], 8⟩, []⟩,
    ⟨⟨[169, 254], 16⟩, []⟩,
    ⟨⟨[192, 0, 0], 24⟩, [⟨[192, 0, 0, 9], 32⟩, ⟨[192, 0, 0, 10], 32⟩]⟩,
    ⟨⟨[192, 0, 2], 24⟩, []⟩,
    ⟨⟨[198, 51, 100], 24⟩, []⟩,
    ⟨⟨[203, 0, 113], 24⟩, []⟩,
    ⟨⟨[198, 18], 15⟩, []⟩,
    ⟨⟨[240], 4⟩, []⟩]

/-- `fe80::/10` -/
def linkLocal : Block := ⟨[0xfe80], 10⟩

def ipv6NonGlobal : List Reserved :=
  [⟨⟨[0, 0, 0, 0, 0, 0, 0, 0], 128⟩, []⟩,
    ⟨⟨[0, 0, 0, 0, 0, 0, 0, 1], 128⟩, []⟩,
    ⟨⟨[0, 0, 0, 0, 0, 0xffff], 96⟩, []⟩,
    ⟨⟨[0x64, 0xff9b, 1], 48⟩, []⟩,
    ⟨⟨[0x100, 0, 0, 0], 64⟩, []⟩,
    ⟨⟨[0x2001, 0], 23⟩,
      [⟨[0x2001, 1, 0, 0, 0, 0, 0, 1], 128⟩,
        ⟨[0x2001, 1, 0, 0, 0, 0, 0, 2], 128⟩,
        ⟨[0x2001, 3], 32⟩,
        ⟨[0x2001, 4, 0x112], 48⟩,
        ⟨[0x2001, 0x20], 28⟩,
        ⟨[0x2001, 0x30], 28⟩]⟩,
    ⟨⟨[0x2002], 16⟩, []⟩,
    ⟨⟨[0x2001, 0xdb8], 32⟩, []⟩,
    ⟨⟨[0xfc00], 7⟩, []⟩,
    ⟨linkLocal, []⟩]

/-- The address is in one of the listed blocks. -/
def isNonGlobal : IpAddr → Bool
  | .v4 addr => ipv4NonGlobal.any (·.contains 8 (octetParts addr))
  | .v6 addr => ipv6NonGlobal.any (·.contains 16 (segmentParts addr))

def isUnicastLinkLocal : IpAddr → Bool
  | .v4 _ => false
  | .v6 addr => linkLocal.contains 16 (segmentParts addr)

theorem octetParts_lt (addr : Ipv4Addr) :
    ∀ part ∈ octetParts addr, part < 2 ^ 8 := by
  intro part hpart
  obtain ⟨octet, -, rfl⟩ := List.mem_map.mp hpart
  exact octet.toNat_lt

theorem segmentParts_lt (addr : Ipv6Addr) :
    ∀ part ∈ segmentParts addr, part < 2 ^ 16 := by
  intro part hpart
  obtain ⟨segment, -, rfl⟩ := List.mem_map.mp hpart
  exact segment.toNat_lt

theorem length_segmentParts (addr : Ipv6Addr) :
    (segmentParts addr).length = 8 := by
  rw [segmentParts, List.length_map, addr.length_segments]

section Ipv4

variable (addr : Ipv4Addr)

/-- A block of whole octets is a pattern of the octets. -/
theorem octets_take_iff (octets : List UInt8) (hshort : octets.length ≤ 4) :
    addr.octets.take octets.length = octets ↔
      Block.contains 8 ⟨octets.map UInt8.toNat, 8 * octets.length⟩
        (octetParts addr) = true := by
  have hnetwork : ∀ part ∈ octets.map UInt8.toNat, part < 2 ^ 8 := by
    intro part hpart
    obtain ⟨octet, -, rfl⟩ := List.mem_map.mp hpart
    exact octet.toNat_lt
  have hwhole := contains_whole (by decide) (octetParts_lt addr) hnetwork
    (by rwa [List.length_map])
  rw [List.length_map] at hwhole
  rw [hwhole, octetParts, ← List.map_take]
  exact (List.map_inj_right fun _ _ => UInt8.toNat_inj.mp).symm

/-- The masks of the predicate keep the upper bits of an octet. -/
theorem octet_land_iff {octet mask value : UInt8} (k : Nat) (hk : k ≤ 8)
    (hmask : mask.toNat = 2 ^ 8 - 2 ^ k) (hvalue : value.toNat % 2 ^ k = 0) :
    octet &&& mask = value ↔ octet.toNat / 2 ^ k = value.toNat / 2 ^ k := by
  rw [← UInt8.toNat_inj, UInt8.toNat_and, hmask]
  exact land_mask_eq_iff octet.toNat_lt hk hvalue

/-- A block that ends within its second octet. -/
theorem octet₁_div_iff (a b : UInt8) (bits : Nat) (hbits : bits ≤ 8) :
    addr.octet₀ = a ∧
        addr.octet₁.toNat / 2 ^ (8 - bits) = b.toNat / 2 ^ (8 - bits) ↔
      Block.contains 8 ⟨[a.toNat, b.toNat], 8 + bits⟩ (octetParts addr) =
        true := by
  have hb : ∀ part ∈ [b.toNat], part < 2 ^ 8 := by
    simpa using b.toNat_lt
  have htail : ∀ part ∈ [addr.octet₁.toNat, addr.octet₂.toNat,
      addr.octet₃.toNat], part < 2 ^ 8 := by
    intro part hpart
    exact octetParts_lt addr part (List.mem_cons_of_mem _ hpart)
  have hlow : ∀ part ∈ [addr.octet₂.toNat, addr.octet₃.toNat],
      part < 2 ^ 8 := by
    intro part hpart
    exact htail part (List.mem_cons_of_mem _ hpart)
  change _ ↔ Block.contains 8 _ [addr.octet₀.toNat, addr.octet₁.toNat,
    addr.octet₂.toNat, addr.octet₃.toNat] = true
  rw [contains_cons (Nat.le_add_right 8 bits) (by simp; omega) (by simp) htail
    hb, Nat.add_sub_cancel_left,
    contains_first hbits (Nat.zero_le _) hlow (by simp), UInt8.toNat_inj]

theorem isPrivate_iff :
    addr.isPrivate = true ↔
      Block.contains 8 ⟨[10], 8⟩ (octetParts addr) = true ∨
      Block.contains 8 ⟨[172, 16], 12⟩ (octetParts addr) = true ∨
      Block.contains 8 ⟨[192, 168], 16⟩ (octetParts addr) = true := by
  have hmatch : addr.isPrivate = true ↔
      addr.octets.take 1 = [10] ∨
      (addr.octet₀ = 172 ∧ addr.octet₁.toNat / 2 ^ 4 = 1) ∨
      addr.octets.take 2 = [192, 168] := by
    have hrange : 16 ≤ addr.octet₁ ∧ addr.octet₁ ≤ 31 ↔
        addr.octet₁.toNat / 2 ^ 4 = 1 := by
      simp only [UInt8.le_iff_toNat_le, UInt8.reduceToNat]
      omega
    rw [← hrange]
    unfold Ipv4Addr.isPrivate Ipv4Addr.octets
    grind
  rw [hmatch]
  exact or_congr (octets_take_iff addr [10] (by decide))
    (or_congr (octet₁_div_iff addr 172 16 4 (by decide))
      (octets_take_iff addr [192, 168] (by decide)))

theorem isDocumentation_iff :
    addr.isDocumentation = true ↔
      Block.contains 8 ⟨[192, 0, 2], 24⟩ (octetParts addr) = true ∨
      Block.contains 8 ⟨[198, 51, 100], 24⟩ (octetParts addr) = true ∨
      Block.contains 8 ⟨[203, 0, 113], 24⟩ (octetParts addr) = true := by
  have hmatch : addr.isDocumentation = true ↔
      addr.octets.take 3 = [192, 0, 2] ∨ addr.octets.take 3 = [198, 51, 100] ∨
      addr.octets.take 3 = [203, 0, 113] := by
    unfold Ipv4Addr.isDocumentation Ipv4Addr.octets
    grind
  rw [hmatch]
  exact or_congr (octets_take_iff addr [192, 0, 2] (by decide))
    (or_congr (octets_take_iff addr [198, 51, 100] (by decide))
      (octets_take_iff addr [203, 0, 113] (by decide)))

theorem isShared_iff :
    (addr.octet₀ = 100 ∧ addr.octet₁ &&& 0b11000000 = 0b01000000) ↔
      Block.contains 8 ⟨[100, 64], 10⟩ (octetParts addr) = true := by
  rw [octet_land_iff 6 (by decide) (by decide) (by decide)]
  exact octet₁_div_iff addr 100 64 2 (by decide)

theorem isBenchmarking_iff :
    (addr.octet₀ = 198 ∧ addr.octet₁ &&& 0xfe = 18) ↔
      Block.contains 8 ⟨[198, 18], 15⟩ (octetParts addr) = true := by
  rw [octet_land_iff 1 (by decide) (by decide) (by decide)]
  exact octet₁_div_iff addr 198 18 7 (by decide)

theorem isReserved_iff :
    addr.octet₀ &&& 240 = 240 ↔
      Block.contains 8 ⟨[240], 4⟩ (octetParts addr) = true := by
  have htail : ∀ part ∈ (octetParts addr).tail, part < 2 ^ 8 := by
    intro part hpart
    exact octetParts_lt addr part (List.mem_of_mem_tail hpart)
  rw [octet_land_iff 4 (by decide) (by decide) (by decide)]
  exact (@contains_first 8 addr.octet₀.toNat 240 4 (octetParts addr).tail []
    (by decide) (Nat.zero_le _) htail (by simp)).symm

/-- The last address of all is one of the reserved ones. -/
theorem isReserved_or_isBroadcast :
    (addr.octet₀ &&& 240 = 240 ∨ addr.isBroadcast = true) ↔
      Block.contains 8 ⟨[240], 4⟩ (octetParts addr) = true := by
  rw [← isReserved_iff]
  apply or_iff_left_of_imp
  intro hbroadcast
  have hoctets : addr.octets = [255, 255, 255, 255] := by
    simpa [Ipv4Addr.isBroadcast] using hbroadcast
  have hfirst : addr.octet₀ = 255 := congrArg (fun l => l.getD 0 0) hoctets
  rw [hfirst]
  rfl

/-- Two addresses of `192.0.0.0/24` are reachable. -/
theorem isProtocol_iff :
    ((((addr.octet₀ = 192 ∧ addr.octet₁ = 0) ∧ addr.octet₂ = 0) ∧
        addr.octet₃ ≠ 9) ∧ addr.octet₃ ≠ 10) ↔
      Block.contains 8 ⟨[192, 0, 0], 24⟩ (octetParts addr) = true ∧
        ¬ (Block.contains 8 ⟨[192, 0, 0, 9], 32⟩ (octetParts addr) = true ∨
          Block.contains 8 ⟨[192, 0, 0, 10], 32⟩ (octetParts addr) = true) := by
  have hblock := octets_take_iff addr [192, 0, 0] (by decide)
  have hnine := octets_take_iff addr [192, 0, 0, 9] (by decide)
  have hten := octets_take_iff addr [192, 0, 0, 10] (by decide)
  refine Iff.trans ?_ (and_congr hblock (not_congr (or_congr hnine hten)))
  simp [Ipv4Addr.octets]
  grind

theorem ipv4IsGlobal_eq_false :
    ipv4IsGlobal addr = false ↔ isNonGlobal (.v4 addr) = true := by
  have hzero := octets_take_iff addr [0] (by decide)
  have hloopback := octets_take_iff addr [127] (by decide)
  have hlinkLocal := octets_take_iff addr [169, 254] (by decide)
  simp [Ipv4Addr.octets] at hzero hloopback hlinkLocal
  simp only [ipv4IsGlobal, Ipv4Addr.isLoopback, Ipv4Addr.isLinkLocal,
    Bool.not_eq_false', Bool.or_eq_true, Bool.and_eq_true, decide_eq_true_eq]
  simp only [isNonGlobal, ipv4NonGlobal, Reserved.contains, List.any_cons,
    List.any_nil, Bool.or_eq_true, Bool.and_eq_true, Bool.not_eq_true',
    ← Bool.not_eq_true, Bool.or_false, and_true]
  rw [hzero, isPrivate_iff, isShared_iff, hloopback, hlinkLocal, isProtocol_iff,
    isDocumentation_iff, isBenchmarking_iff]
  simp only [or_assoc, isReserved_or_isBroadcast]

end Ipv4

section Ipv6

variable (addr : Ipv6Addr)

theorem exists_segments :
    ∃ a b c d e f g h, addr.segments = [a, b, c, d, e, f, g, h] := by
  obtain ⟨segments, hlength⟩ := addr
  simp only [List.length_eq_succ_iff, List.length_eq_zero_iff] at hlength
  grind

/-- A block of whole segments is a pattern of the segments. -/
theorem segments_take_iff (segments : List UInt16)
    (hshort : segments.length ≤ 8) :
    addr.segments.take segments.length = segments ↔
      Block.contains 16 ⟨segments.map UInt16.toNat, 16 * segments.length⟩
        (segmentParts addr) = true := by
  have hnetwork : ∀ part ∈ segments.map UInt16.toNat, part < 2 ^ 16 := by
    intro part hpart
    obtain ⟨segment, -, rfl⟩ := List.mem_map.mp hpart
    exact segment.toNat_lt
  have hwhole := contains_whole (by decide) (segmentParts_lt addr) hnetwork
    (by rwa [List.length_map, length_segmentParts])
  rw [List.length_map] at hwhole
  rw [hwhole, segmentParts, ← List.map_take]
  exact (List.map_inj_right fun _ _ => UInt16.toNat_inj.mp).symm

theorem segments_eq_iff (segments : List UInt16)
    (hlength : segments.length = 8) :
    addr.segments = segments ↔
      Block.contains 16 ⟨segments.map UInt16.toNat, 128⟩ (segmentParts addr) =
        true := by
  have hwhole := segments_take_iff addr segments (Nat.le_of_eq hlength)
  rwa [hlength, ← addr.length_segments, List.take_length,
    addr.length_segments] at hwhole

/-- A block that ends within its second segment. -/
theorem segment₁_div_iff (a b : UInt16) (bits : Nat) (hbits : bits ≤ 16) :
    addr.segment 0 = a ∧
        (addr.segment 1).toNat / 2 ^ (16 - bits) = b.toNat / 2 ^ (16 - bits) ↔
      Block.contains 16 ⟨[a.toNat, b.toNat], 16 + bits⟩ (segmentParts addr) =
        true := by
  have hb : ∀ part ∈ [b.toNat], part < 2 ^ 16 := by
    simpa using b.toNat_lt
  obtain ⟨s₀, s₁, s₂, s₃, s₄, s₅, s₆, s₇, hsegments⟩ := exists_segments addr
  have hparts := segmentParts_lt addr
  simp only [segmentParts, hsegments, List.map_cons, List.map_nil] at hparts
  have htail := fun part hpart => hparts part (List.mem_cons_of_mem _ hpart)
  have hlow := fun part hpart => htail part (List.mem_cons_of_mem _ hpart)
  simp only [segmentParts, hsegments, List.map_cons, List.map_nil,
    Ipv6Addr.segment, List.getD_cons_zero, List.getD_cons_succ]
  rw [contains_cons (Nat.le_add_right 16 bits) (by simp; omega) (by simp) htail
    hb, Nat.add_sub_cancel_left,
    contains_first hbits (Nat.zero_le _) hlow (by simp), UInt16.toNat_inj]

/-- A block that ends within its first segment. -/
theorem segment₀_land_iff (mask value : UInt16) (bits : Nat)
    (hbits : bits ≤ 16) (hmask : mask.toNat = 2 ^ 16 - 2 ^ (16 - bits))
    (hvalue : value.toNat % 2 ^ (16 - bits) = 0) :
    addr.segment 0 &&& mask = value ↔
      Block.contains 16 ⟨[value.toNat], bits⟩ (segmentParts addr) = true := by
  obtain ⟨s₀, s₁, s₂, s₃, s₄, s₅, s₆, s₇, hsegments⟩ := exists_segments addr
  have hparts := segmentParts_lt addr
  simp only [segmentParts, hsegments, List.map_cons, List.map_nil] at hparts
  have htail := fun part hpart => hparts part (List.mem_cons_of_mem _ hpart)
  simp only [segmentParts, hsegments, List.map_cons, List.map_nil,
    Ipv6Addr.segment, List.getD_cons_zero]
  rw [contains_first hbits (Nat.zero_le _) htail (by simp),
    ← UInt16.toNat_inj, UInt16.toNat_and, hmask]
  exact land_mask_eq_iff s₀.toNat_lt (Nat.sub_le 16 bits) hvalue

/-- One address as a number. -/
theorem toU128_eq_iff (network : List Nat) (hlength : network.length = 8) :
    addr.toU128 = number 16 network ↔
      Block.contains 16 ⟨network, 128⟩ (segmentParts addr) = true := by
  have hnumber : addr.toU128 = number 16 (segmentParts addr) := by
    simp only [Ipv6Addr.toU128, number, segmentParts, List.foldl_map]
  simp only [Block.contains, length_segmentParts, hlength, hnumber,
    Nat.sub_self, List.replicate_zero, List.append_nil, Nat.reduceMul,
    Nat.pow_zero, Nat.div_one, decide_eq_true_eq]

theorem isAssigned_iff :
    ipv6IsAssigned addr = true ↔
      Block.contains 16 ⟨[0x2001, 1, 0, 0, 0, 0, 0, 1], 128⟩
        (segmentParts addr) = true ∨
      Block.contains 16 ⟨[0x2001, 1, 0, 0, 0, 0, 0, 2], 128⟩
        (segmentParts addr) = true ∨
      Block.contains 16 ⟨[0x2001, 3], 32⟩ (segmentParts addr) = true ∨
      Block.contains 16 ⟨[0x2001, 4, 0x112], 48⟩ (segmentParts addr) = true ∨
      Block.contains 16 ⟨[0x2001, 0x20], 28⟩ (segmentParts addr) = true ∨
      Block.contains 16 ⟨[0x2001, 0x30], 28⟩ (segmentParts addr) = true := by
  have hanycast := toU128_eq_iff addr [0x2001, 1, 0, 0, 0, 0, 0, 1] rfl
  have hrelay := toU128_eq_iff addr [0x2001, 1, 0, 0, 0, 0, 0, 2] rfl
  have hamt := segment₁_div_iff addr 0x2001 3 16 (by decide)
  have has112 := segments_take_iff addr [0x2001, 4, 0x112] (by decide)
  have horchid := segment₁_div_iff addr 0x2001 0x20 12 (by decide)
  have hdrone := segment₁_div_iff addr 0x2001 0x30 12 (by decide)
  have htake : addr.segments.take 3 = [0x2001, 4, 0x112] ↔
      (addr.segment 0 = 0x2001 ∧ addr.segment 1 = 4) ∧
        addr.segment 2 = 0x112 := by
    obtain ⟨s₀, s₁, s₂, s₃, s₄, s₅, s₆, s₇, hsegments⟩ := exists_segments addr
    simp [Ipv6Addr.segment, hsegments, and_assoc]
  have hthree : (addr.segment 1).toNat / 2 ^ (16 - 16) =
      UInt16.toNat 3 / 2 ^ (16 - 16) ↔ addr.segment 1 = 3 := by
    simp [← UInt16.toNat_inj]
  have hrange : 0x20 ≤ addr.segment 1 ∧ addr.segment 1 ≤ 0x3f ↔
      (addr.segment 1).toNat / 2 ^ (16 - 12) =
          UInt16.toNat 0x20 / 2 ^ (16 - 12) ∨
        (addr.segment 1).toNat / 2 ^ (16 - 12) =
          UInt16.toNat 0x30 / 2 ^ (16 - 12) := by
    simp [UInt16.le_iff_toNat_le]
    omega
  refine Iff.trans ?_ (or_congr hanycast (or_congr hrelay (or_congr hamt
    (or_congr has112 (or_congr horchid hdrone)))))
  change _ ↔ _ ∨ _ ∨ _ ∨ addr.segments.take 3 = _ ∨ _
  rw [htake, hthree, ← and_or_left, ← hrange]
  simp only [ipv6IsAssigned, Bool.or_eq_true, Bool.and_eq_true,
    decide_eq_true_eq, or_assoc, and_assoc]
  rfl

theorem isProtocolAssignment_iff :
    (addr.segment 0 = 0x2001 ∧ addr.segment 1 < 0x200) ↔
      Block.contains 16 ⟨[0x2001, 0], 23⟩ (segmentParts addr) = true := by
  have hbits := segment₁_div_iff addr 0x2001 0 7 (by decide)
  have hrange : addr.segment 1 < 0x200 ↔
      (addr.segment 1).toNat / 2 ^ (16 - 7) =
        UInt16.toNat 0 / 2 ^ (16 - 7) := by
    simp [UInt16.lt_iff_toNat_lt]
  rw [hrange]
  exact hbits

theorem isDocumentation_v6_iff :
    (addr.segment 0 = 0x2001 ∧ addr.segment 1 = 0xdb8) ↔
      Block.contains 16 ⟨[0x2001, 0xdb8], 32⟩ (segmentParts addr) = true := by
  have hbits := segment₁_div_iff addr 0x2001 0xdb8 16 (by decide)
  simpa [← UInt16.toNat_inj] using hbits

theorem is6to4_iff :
    addr.segment 0 = 0x2002 ↔
      Block.contains 16 ⟨[0x2002], 16⟩ (segmentParts addr) = true := by
  have hwhole := segments_take_iff addr [0x2002] (by decide)
  refine Iff.trans ?_ hwhole
  obtain ⟨s₀, s₁, s₂, s₃, s₄, s₅, s₆, s₇, hsegments⟩ := exists_segments addr
  simp [Ipv6Addr.segment, hsegments]

/-- The copy of the predicate leaves out every block but the last one. -/
theorem ipv6IsGlobal_eq_false :
    ipv6IsGlobal addr = false ∨ isUnicastLinkLocal (.v6 addr) = true ↔
      isNonGlobal (.v6 addr) = true := by
  have hunspecified := segments_eq_iff addr [0, 0, 0, 0, 0, 0, 0, 0] rfl
  have hloopback := segments_eq_iff addr [0, 0, 0, 0, 0, 0, 0, 1] rfl
  have hmapped := segments_take_iff addr [0, 0, 0, 0, 0, 0xffff] (by decide)
  have htranslation := segments_take_iff addr [0x64, 0xff9b, 1] (by decide)
  have hdiscard := segments_take_iff addr [0x100, 0, 0, 0] (by decide)
  have hunique := segment₀_land_iff addr 0xfe00 0xfc00 7 (by decide)
    (by decide) (by decide)
  simp at hunspecified hloopback hmapped htranslation hdiscard hunique
  simp only [ipv6IsGlobal, Ipv6Addr.isUnspecified, Ipv6Addr.isLoopback,
    Bool.or_eq_true, Bool.and_eq_true, decide_eq_true_eq, isUnicastLinkLocal,
    Bool.not_eq_true', ← Bool.not_eq_true]
  simp only [isNonGlobal, ipv6NonGlobal, Reserved.contains, List.any_cons,
    List.any_nil, Bool.or_eq_true, Bool.and_eq_true, Bool.not_eq_true',
    ← Bool.not_eq_true, Bool.or_false, and_true]
  rw [hunspecified, hloopback, hmapped, htranslation, hdiscard,
    isProtocolAssignment_iff, isAssigned_iff, is6to4_iff,
    isDocumentation_v6_iff, hunique]
  simp only [not_not, or_assoc, or_self_left]

/-- Nothing else is looked for among the link-local addresses. -/
theorem ipv6IsGlobal_of_linkLocal
    (h : linkLocal.contains 16 (segmentParts addr) = true) :
    ipv6IsGlobal addr = true := by
  replace h := (segment₀_land_iff addr 0xffc0 0xfe80 10 (by decide) (by decide)
    (by decide)).mpr h
  obtain ⟨s₀, s₁, s₂, s₃, s₄, s₅, s₆, s₇, hsegments⟩ := exists_segments addr
  simp only [Ipv6Addr.segment, hsegments, List.getD_cons_zero] at h
  have hfirst : s₀ ∉ ([0, 0x64, 0x100, 0x2001, 0x2002] : List UInt16) := by
    intro hmem
    simp only [List.mem_cons, List.not_mem_nil, or_false] at hmem
    rcases hmem with rfl | rfl | rfl | rfl | rfl <;> exact absurd h (by decide)
  simp only [List.mem_cons, List.not_mem_nil, or_false, not_or] at hfirst
  have hunique : s₀ &&& 0xfe00 ≠ 0xfc00 := by
    have hmask : (0xfe00 : UInt16) = 0xffc0 &&& 0xfe00 := rfl
    rw [hmask, ← UInt16.and_assoc, h]
    decide
  simp [ipv6IsGlobal, Ipv6Addr.isUnspecified, Ipv6Addr.isLoopback,
    Ipv6Addr.segment, hsegments, hfirst, hunique]

end Ipv6

/-- The predicate is the list of blocks on every address but the link-local
ones: the last mask of the source is a second copy of the one before. -/
theorem isGlobal_eq_reference_iff (addr : IpAddr) :
    (isGlobal addr = false ↔ isNonGlobal addr = true) ↔
      isUnicastLinkLocal addr = false := by
  cases addr with
  | v4 addr => exact iff_of_true (ipv4IsGlobal_eq_false addr) rfl
  | v6 addr =>
      rw [← ipv6IsGlobal_eq_false addr]
      cases hlinkLocal : isUnicastLinkLocal (.v6 addr) with
      | false => simp [isGlobal]
      | true =>
          have hglobal := ipv6IsGlobal_of_linkLocal addr hlinkLocal
          simp [isGlobal, hglobal]

/-- `fe80::1` -/
theorem not_isGlobal_eq_reference_of_linkLocal :
    ¬ (isGlobal (.v6 ⟨[0xfe80, 0, 0, 0, 0, 0, 0, 1], rfl⟩) = false ↔
      isNonGlobal (.v6 ⟨[0xfe80, 0, 0, 0, 0, 0, 0, 1], rfl⟩) = true) := by
  decide

end Epoxy.Server
