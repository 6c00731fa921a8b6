/-
Blocks of addresses.  An address is a row of parts of the same width, and a
block is made of the addresses that share its first bits; membership of a
block is a question about whole parts and the upper bits of one more.
-/
import Mathlib.Algebra.Group.Nat.Defs
import Mathlib.Data.List.Basic
import Mathlib.Data.List.Induction

namespace AddressBlock

/-- The parts of `w` bits as one number, the most significant part first. -/
def number (w : Nat) (parts : List Nat) : Nat :=
  parts.foldl (fun bits part => bits * 2 ^ w + part) 0

/-- `network/length`; the parts that are left out are zero. -/
structure Block where
  network : List Nat
  length : Nat
deriving Repr, DecidableEq

namespace Block

/-- The first bits of the address are those of the network. -/
def contains (w : Nat) (block : Block) (addr : List Nat) : Bool :=
  let zeros := List.replicate (addr.length - block.network.length) 0
  number w addr / 2 ^ (w * addr.length - block.length) =
    number w (block.network ++ zeros) / 2 ^ (w * addr.length - block.length)

end Block

variable {w : Nat}

theorem number_append (xs ys : List Nat) :
    number w (xs ++ ys) = number w xs * 2 ^ (w * ys.length) + number w ys := by
  induction ys using List.reverseRecOn with
  | nil => simp [number]
  | append_singleton ys y ih =>
      have hsnoc : ∀ zs : List Nat,
          number w (zs ++ [y]) = number w zs * 2 ^ w + y := by
        intro zs
        simp [number]
      rw [← List.append_assoc, hsnoc, hsnoc, ih, List.length_append,
        List.length_singleton, Nat.mul_add, Nat.mul_one, Nat.pow_add]
      rw [Nat.add_mul, Nat.mul_assoc, Nat.add_assoc]

theorem number_cons (x : Nat) (xs : List Nat) :
    number w (x :: xs) = x * 2 ^ (w * xs.length) + number w xs := by
  have hsingle : number w [x] = x := by simp [number]
  rw [← List.singleton_append, number_append, hsingle]

theorem number_lt {parts : List Nat} (hparts : ∀ part ∈ parts, part < 2 ^ w) :
    number w parts < 2 ^ (w * parts.length) := by
  induction parts with
  | nil => simp [number]
  | cons part parts ih =>
      have hrest := ih fun other hother =>
        hparts other (List.mem_cons_of_mem part hother)
      have hpart := hparts part List.mem_cons_self
      rw [number_cons, List.length_cons, Nat.mul_add, Nat.mul_one,
        Nat.add_comm (w * parts.length), Nat.pow_add]
      calc part * 2 ^ (w * parts.length) + number w parts
          < part * 2 ^ (w * parts.length) + 2 ^ (w * parts.length) := by omega
        _ = (part + 1) * 2 ^ (w * parts.length) := by
          rw [Nat.add_mul, Nat.one_mul]
        _ ≤ 2 ^ w * 2 ^ (w * parts.length) := Nat.mul_le_mul_right _ hpart

/-- Only the upper bits of a sum of two shifted parts can differ, or the
lower ones. -/
theorem shifted_inj {x p low low' d : Nat} (hlow : low < d) (hlow' : low' < d) :
    x * d + low = p * d + low' ↔ x = p ∧ low = low' := by
  constructor
  · intro heq
    have hdiv := congrArg (· / d) heq
    have hpos := Nat.zero_lt_of_lt hlow
    have hcut : ∀ {q r : Nat}, r < d → (q * d + r) / d = q := by
      intro q r hr
      rw [Nat.mul_comm, Nat.mul_add_div hpos, Nat.div_eq_of_lt hr,
        Nat.add_zero]
    rw [hcut hlow, hcut hlow'] at hdiv
    subst hdiv
    exact ⟨rfl, Nat.add_left_cancel heq⟩
  · rintro ⟨rfl, rfl⟩
    rfl

/-- A network is filled up with zeros to the length of an address. -/
theorem length_padded {network addr : List Nat}
    (hshort : network.length ≤ addr.length) :
    (network ++ List.replicate (addr.length - network.length) 0).length =
      addr.length := by
  rw [List.length_append, List.length_replicate, Nat.add_sub_cancel' hshort]

theorem padded_lt {network : List Nat} {n : Nat}
    (hnetwork : ∀ part ∈ network, part < 2 ^ w) :
    ∀ part ∈ network ++ List.replicate n 0, part < 2 ^ w := by
  intro part hpart
  rcases List.mem_append.mp hpart with hpart | hpart
  · exact hnetwork part hpart
  · rw [List.eq_of_mem_replicate hpart]
    exact Nat.two_pow_pos _

/-- The block goes on after its first part. -/
theorem contains_cons {x p length : Nat} {addr network : List Nat}
    (hle : w ≤ length) (hlength : length ≤ w * (addr.length + 1))
    (hshort : network.length ≤ addr.length)
    (haddr : ∀ part ∈ addr, part < 2 ^ w)
    (hnetwork : ∀ part ∈ network, part < 2 ^ w) :
    Block.contains w ⟨p :: network, length⟩ (x :: addr) = true ↔
      x = p ∧ Block.contains w ⟨network, length - w⟩ addr = true := by
  obtain ⟨rest, rfl⟩ := Nat.exists_eq_add_of_le hle
  have hrest : rest ≤ w * addr.length := by
    rw [Nat.mul_add, Nat.mul_one] at hlength
    omega
  obtain ⟨shift, hshift⟩ := Nat.exists_eq_add_of_le hrest
  have hupper : ∀ (q : Nat) (tail : List Nat), tail.length = addr.length →
      number w (q :: tail) / 2 ^ shift =
        q * 2 ^ rest + number w tail / 2 ^ shift := by
    intro q tail htail
    rw [number_cons, htail, hshift, Nat.pow_add, ← Nat.mul_assoc,
      Nat.mul_comm _ (2 ^ shift), Nat.mul_add_div (Nat.two_pow_pos _)]
  have hsmall : ∀ tail : List Nat, tail.length = addr.length →
      (∀ part ∈ tail, part < 2 ^ w) → number w tail / 2 ^ shift < 2 ^ rest := by
    intro tail htail hparts
    have hlt := number_lt hparts
    rw [htail, hshift] at hlt
    apply Nat.div_lt_of_lt_mul
    rwa [Nat.mul_comm, ← Nat.pow_add]
  have htotal : w * (addr.length + 1) - (w + rest) = shift := by
    rw [Nat.mul_add, Nat.mul_one]
    omega
  have hremaining : w * addr.length - (w + rest - w) = shift := by omega
  simp only [Block.contains, List.length_cons, Nat.reduceSubDiff,
    decide_eq_true_eq, htotal, hremaining, List.cons_append]
  rw [hupper x addr rfl, hupper p _ (length_padded hshort), shifted_inj
    (hsmall addr rfl haddr)
    (hsmall _ (length_padded hshort) (padded_lt hnetwork))]

/-- A block that fixes nothing. -/
theorem contains_nil {addr : List Nat} (haddr : ∀ part ∈ addr, part < 2 ^ w) :
    Block.contains w ⟨[], 0⟩ addr = true := by
  have hzeros : ∀ part ∈ List.replicate addr.length 0, part < 2 ^ w := by
    intro part hpart
    rw [List.eq_of_mem_replicate hpart]
    exact Nat.two_pow_pos _
  have hnumber := number_lt haddr
  have hnetwork := number_lt hzeros
  rw [List.length_replicate] at hnetwork
  simp only [Block.contains, List.length_nil, Nat.sub_zero, List.nil_append,
    decide_eq_true_eq]
  rw [Nat.div_eq_of_lt hnumber, Nat.div_eq_of_lt hnetwork]

/-- The block ends within its first part. -/
theorem contains_first {x p length : Nat} {addr network : List Nat}
    (hle : length ≤ w) (hshort : network.length ≤ addr.length)
    (haddr : ∀ part ∈ addr, part < 2 ^ w)
    (hnetwork : ∀ part ∈ network, part < 2 ^ w) :
    Block.contains w ⟨p :: network, length⟩ (x :: addr) = true ↔
      x / 2 ^ (w - length) = p / 2 ^ (w - length) := by
  have hshift : w * (addr.length + 1) - length =
      w * addr.length + (w - length) := by
    rw [Nat.mul_add, Nat.mul_one]
    omega
  have hupper : ∀ (q : Nat) (tail : List Nat), tail.length = addr.length →
      (∀ part ∈ tail, part < 2 ^ w) →
      number w (q :: tail) / 2 ^ (w * addr.length + (w - length)) =
        q / 2 ^ (w - length) := by
    intro q tail htail hparts
    have hlow := number_lt hparts
    rw [htail] at hlow
    rw [number_cons, htail, Nat.pow_add, ← Nat.div_div_eq_div_mul,
      Nat.mul_comm q, Nat.mul_add_div (Nat.two_pow_pos _),
      Nat.div_eq_of_lt hlow, Nat.add_zero]
  simp only [Block.contains, List.length_cons, hshift, decide_eq_true_eq,
    List.cons_append, Nat.reduceSubDiff]
  rw [hupper x addr rfl haddr, hupper p _ (length_padded hshort)
    (padded_lt hnetwork)]

theorem getD_lt {parts : List Nat} (hparts : ∀ part ∈ parts, part < 2 ^ w)
    (i : Nat) : parts.getD i 0 < 2 ^ w := by
  rw [List.getD_eq_getElem?_getD]
  cases hpart : parts[i]? with
  | none => exact Nat.two_pow_pos w
  | some part => exact hparts part (List.mem_of_getElem? hpart)

/-- An address is in a block when the parts that the block fixes are the same,
and so are the upper bits of the next one. -/
theorem contains_iff {length : Nat} {addr network : List Nat} (hw : 0 < w)
    (haddr : ∀ part ∈ addr, part < 2 ^ w)
    (hnetwork : ∀ part ∈ network, part < 2 ^ w)
    (hshort : network.length ≤ addr.length)
    (hlength : length ≤ w * network.length) :
    Block.contains w ⟨network, length⟩ addr = true ↔
      addr.take (length / w) = network.take (length / w) ∧
        addr.getD (length / w) 0 / 2 ^ (w - length % w) =
          network.getD (length / w) 0 / 2 ^ (w - length % w) := by
  induction network generalizing addr length with
  | nil =>
      obtain rfl : length = 0 := by simpa using hlength
      refine iff_of_true (contains_nil haddr) ?_
      simp only [Nat.zero_div, Nat.zero_mod, Nat.sub_zero, List.take_zero,
        true_and]
      rw [Nat.div_eq_of_lt (getD_lt haddr 0)]
      exact (Nat.zero_div _).symm
  | cons p network ih =>
      cases addr with
      | nil => simp at hshort
      | cons x addr =>
          have haddr' := fun part hpart =>
            haddr part (List.mem_cons_of_mem x hpart)
          have hnetwork' := fun part hpart =>
            hnetwork part (List.mem_cons_of_mem p hpart)
          have hshort' : network.length ≤ addr.length := by simpa using hshort
          rw [List.length_cons, Nat.mul_add, Nat.mul_one] at hlength
          rcases Nat.lt_or_ge length w with hlt | hge
          · rw [contains_first (Nat.le_of_lt hlt) hshort' haddr' hnetwork',
              Nat.div_eq_of_lt hlt, Nat.mod_eq_of_lt hlt]
            simp
          · have hle : length ≤ w * (addr.length + 1) := by
              rw [Nat.mul_add, Nat.mul_one]
              have := Nat.mul_le_mul_left w hshort'
              omega
            rw [contains_cons hge hle hshort' haddr' hnetwork',
              ih haddr' hnetwork' hshort' (by omega),
              Nat.div_eq_sub_div hw hge, Nat.mod_eq_sub_mod hge]
            simp [and_assoc]

/-- A block that ends between two parts. -/
theorem contains_whole {addr network : List Nat} (hw : 0 < w)
    (haddr : ∀ part ∈ addr, part < 2 ^ w)
    (hnetwork : ∀ part ∈ network, part < 2 ^ w)
    (hshort : network.length ≤ addr.length) :
    Block.contains w ⟨network, w * network.length⟩ addr = true ↔
      addr.take network.length = network := by
  have hparts : w * network.length / w = network.length :=
    Nat.mul_div_cancel_left _ hw
  rw [contains_iff hw haddr hnetwork hshort (Nat.le_refl _), hparts,
    Nat.mul_mod_right, Nat.sub_zero, Nat.div_eq_of_lt (getD_lt haddr _),
    Nat.div_eq_of_lt (getD_lt hnetwork _), List.take_length]
  exact and_iff_left rfl

/-- A mask of ones and then zeros keeps the upper bits. -/
theorem land_mask {x k : Nat} (hx : x < 2 ^ w) (hk : k ≤ w) :
    x &&& (2 ^ w - 2 ^ k) = x / 2 ^ k * 2 ^ k := by
  have hmask : 2 ^ w - 2 ^ k = (2 ^ (w - k) - 1) * 2 ^ k := by
    rw [Nat.sub_mul, Nat.one_mul, ← Nat.pow_add, Nat.sub_add_cancel hk]
  apply Nat.eq_of_testBit_eq
  intro i
  rw [hmask, Nat.testBit_and, Nat.testBit_mul_two_pow, Nat.testBit_mul_two_pow,
    Nat.testBit_two_pow_sub_one, Nat.testBit_div_two_pow]
  by_cases hi : k ≤ i
  · by_cases hw : i < w
    · simp [hi, show i - k < w - k by omega, Nat.sub_add_cancel hi]
    · have hzero : x.testBit i = false := Nat.testBit_lt_two_pow
        (Nat.lt_of_lt_of_le hx (Nat.pow_le_pow_right (by decide)
          (Nat.le_of_not_lt hw)))
      simp [hzero, Nat.sub_add_cancel hi]
  · simp [hi]

/-- What a masked part is compared with. -/
theorem land_mask_eq_iff {x value k : Nat} (hx : x < 2 ^ w) (hk : k ≤ w)
    (hvalue : value % 2 ^ k = 0) :
    x &&& (2 ^ w - 2 ^ k) = value ↔ x / 2 ^ k = value / 2 ^ k := by
  have hupper := Nat.div_mul_cancel (Nat.dvd_of_mod_eq_zero hvalue)
  rw [land_mask hx hk]
  constructor
  · intro heq
    rw [← heq, Nat.mul_div_cancel _ (Nat.two_pow_pos k)]
  · intro heq
    rw [heq, hupper]

end AddressBlock
