/-
Byte strings read from the front.  A read past the end panics, as the reads
of a byte cursor do, and a parser's own refusals are errors; the two are kept
apart so that "never panics" can be stated and proved.
-/
import Mathlib.Algebra.Group.Nat.Defs
import Mathlib.Data.List.Basic

namespace ByteCursor

universe u v w

variable {ε : Type u} {α : Type v} {β : Type w}

abbrev Bytes := List UInt8

/-- A computation ends with a value, with an error of its own, or with a
panic. -/
inductive Outcome (ε : Type u) (α : Type v) where
  | ok (value : α)
  | err (error : ε)
  | panic
deriving Repr, DecidableEq

namespace Outcome

/-- Run the rest on the value; errors and panics end the computation. -/
protected def bind : Outcome ε α → (α → Outcome ε β) → Outcome ε β
  | .ok value, next => next value
  | .err error, _ => .err error
  | .panic, _ => .panic

instance : Monad (Outcome ε) where
  pure := .ok
  bind := Outcome.bind

protected def map (f : α → β) : Outcome ε α → Outcome ε β
  | .ok value => .ok (f value)
  | .err error => .err error
  | .panic => .panic

/-- Move an absent value out of the computation. -/
def transpose : Outcome ε (Option α) → Option (Outcome ε α)
  | .ok none => none
  | .ok (some value) => some (.ok value)
  | .err error => some (.err error)
  | .panic => some .panic

def isOk : Outcome ε α → Bool
  | .ok _ => true
  | _ => false

/-- The same computation, its value paired with where it came from; a loop
that reads on after a read needs this to terminate. -/
def attach : (x : Outcome ε α) → Outcome ε {value : α // x = .ok value}
  | .ok value => .ok ⟨value, rfl⟩
  | .err error => .err error
  | .panic => .panic

@[simp] theorem map_eq_panic {f : α → β} {x : Outcome ε α} :
    x.map f = .panic ↔ x = .panic := by
  cases x <;> simp [Outcome.map]

variable {α β : Type v}

@[simp] theorem bind_ok (value : α) (next : α → Outcome ε β) :
    (Outcome.ok value >>= next) = next value := rfl

@[simp] theorem bind_err (error : ε) (next : α → Outcome ε β) :
    (Outcome.err error >>= next) = .err error := rfl

@[simp] theorem bind_panic (next : α → Outcome ε β) :
    ((Outcome.panic : Outcome ε α) >>= next) = .panic := rfl

@[simp] theorem pure_eq_ok (value : α) :
    (pure value : Outcome ε α) = .ok value := rfl

@[simp] theorem attach_ok (value : α) :
    (Outcome.ok value : Outcome ε α).attach = .ok ⟨value, rfl⟩ := rfl

theorem attach_of_eq_ok {x : Outcome ε α} {value : α} (h : x = .ok value) :
    x.attach = .ok ⟨value, h⟩ := by
  subst h
  rfl

theorem map_eq_bind (f : α → β) (x : Outcome ε α) :
    x.map f = x >>= fun value => .ok (f value) := by
  cases x <;> rfl

theorem bind_eq_ok {x : Outcome ε α} {next : α → Outcome ε β} {value : β} :
    (x >>= next) = .ok value ↔ ∃ a, x = .ok a ∧ next a = .ok value := by
  cases x <;> simp

theorem bind_eq_panic {x : Outcome ε α} {next : α → Outcome ε β} :
    (x >>= next) = .panic ↔
      x = .panic ∨ ∃ a, x = .ok a ∧ next a = .panic := by
  cases x <;> simp

protected theorem bind_assoc {α β γ : Type v} (x : Outcome ε α)
    (f : α → Outcome ε β) (g : β → Outcome ε γ) :
    x >>= f >>= g = x >>= fun value => f value >>= g := by
  cases x <;> rfl

instance : LawfulMonad (Outcome ε) :=
  LawfulMonad.mk' _ (fun x => by cases x <;> rfl) (fun _ _ => rfl)
    Outcome.bind_assoc

/-- A walk over a list panics where one of its elements does. -/
theorem mapM_ne_panic {f : α → Outcome ε β} {xs : List α}
    (h : ∀ x ∈ xs, f x ≠ .panic) : xs.mapM f ≠ .panic := by
  induction xs with
  | nil => simp
  | cons x rest ih =>
      have hrest := ih fun y hy => h y (List.mem_cons_of_mem x hy)
      rw [List.mapM_cons, ne_eq, bind_eq_panic, not_or]
      refine ⟨h x List.mem_cons_self, ?_⟩
      rintro ⟨value, -, hvalue⟩
      rw [bind_eq_panic] at hvalue
      rcases hvalue with hvalue | ⟨values, -, hvalues⟩
      · exact hrest hvalue
      · cases hvalues

/-- A walk that ends well has the values of the list's elements. -/
theorem mem_of_mapM_eq_ok {f : α → Outcome ε β} {xs : List α} {ys : List β}
    (h : xs.mapM f = .ok ys) (y : β) :
    y ∈ ys ↔ ∃ x ∈ xs, f x = .ok y := by
  induction xs generalizing ys with
  | nil =>
      cases h
      simp
  | cons x rest ih =>
      rw [List.mapM_cons, bind_eq_ok] at h
      obtain ⟨value, hvalue, hrest⟩ := h
      rw [bind_eq_ok] at hrest
      obtain ⟨values, hvalues, hys⟩ := hrest
      cases hys
      rw [List.mem_cons, ih hvalues]
      simp [hvalue, eq_comm]

end Outcome

def getU8 : Bytes → Outcome ε (UInt8 × Bytes)
  | b :: rest => .ok (b, rest)
  | [] => .panic

def getU16Le : Bytes → Outcome ε (UInt16 × Bytes)
  | b₀ :: b₁ :: rest =>
      .ok (UInt16.ofNat (b₀.toNat + b₁.toNat * 2 ^ 8), rest)
  | _ => .panic

/-- Four bytes, the least significant one first. -/
def u32Le (b₀ b₁ b₂ b₃ : UInt8) : UInt32 :=
  UInt32.ofNat (b₀.toNat + b₁.toNat * 2 ^ 8 + b₂.toNat * 2 ^ 16 +
    b₃.toNat * 2 ^ 24)

def getU32Le : Bytes → Outcome ε (UInt32 × Bytes)
  | b₀ :: b₁ :: b₂ :: b₃ :: rest => .ok (u32Le b₀ b₁ b₂ b₃, rest)
  | _ => .panic

/-- Cut off the first `n` bytes. -/
def splitTo (n : Nat) (bytes : Bytes) : Outcome ε (Bytes × Bytes) :=
  if n ≤ bytes.length then .ok (bytes.take n, bytes.drop n) else .panic

def advance (n : Nat) (bytes : Bytes) : Outcome ε Bytes :=
  if n ≤ bytes.length then .ok (bytes.drop n) else .panic

def putU16Le (value : UInt16) : Bytes :=
  [UInt8.ofNat value.toNat, UInt8.ofNat (value.toNat / 2 ^ 8)]

def putU32Le (value : UInt32) : Bytes :=
  [UInt8.ofNat value.toNat, UInt8.ofNat (value.toNat / 2 ^ 8),
    UInt8.ofNat (value.toNat / 2 ^ 16), UInt8.ofNat (value.toNat / 2 ^ 24)]

@[simp] theorem length_putU16Le (value : UInt16) :
    (putU16Le value).length = 2 := rfl

@[simp] theorem length_putU32Le (value : UInt32) :
    (putU32Le value).length = 4 := rfl

theorem getU16Le_putU16Le (value : UInt16) (rest : Bytes) :
    (getU16Le (putU16Le value ++ rest) : Outcome ε (UInt16 × Bytes)) =
      .ok (value, rest) := by
  have hlt := value.toNat_lt
  have hvalue : UInt16.ofNat ((UInt8.ofNat value.toNat).toNat +
      (UInt8.ofNat (value.toNat / 2 ^ 8)).toNat * 2 ^ 8) = value := by
    apply UInt16.toNat_inj.mp
    simp only [UInt16.toNat_ofNat', UInt8.toNat_ofNat']
    omega
  simp only [putU16Le, List.cons_append, List.nil_append, getU16Le]
  rw [hvalue]

theorem u32Le_bytes (value : UInt32) :
    u32Le (UInt8.ofNat value.toNat) (UInt8.ofNat (value.toNat / 2 ^ 8))
      (UInt8.ofNat (value.toNat / 2 ^ 16))
      (UInt8.ofNat (value.toNat / 2 ^ 24)) = value := by
  have hlt := value.toNat_lt
  apply UInt32.toNat_inj.mp
  simp only [u32Le, UInt32.toNat_ofNat', UInt8.toNat_ofNat']
  omega

theorem getU32Le_putU32Le (value : UInt32) (rest : Bytes) :
    (getU32Le (putU32Le value ++ rest) : Outcome ε (UInt32 × Bytes)) =
      .ok (value, rest) := by
  simp only [putU32Le, List.cons_append, List.nil_append, getU32Le,
    u32Le_bytes]

/-- What was read is what would be written. -/
theorem getU8_sound {bytes rest : Bytes} {b : UInt8}
    (h : (getU8 bytes : Outcome ε (UInt8 × Bytes)) = .ok (b, rest)) :
    bytes = b :: rest := by
  cases bytes with
  | nil => cases h
  | cons head tail =>
      cases h
      rfl

theorem getU16Le_sound {bytes rest : Bytes} {value : UInt16}
    (h : (getU16Le bytes : Outcome ε (UInt16 × Bytes)) = .ok (value, rest)) :
    bytes = putU16Le value ++ rest := by
  unfold getU16Le at h
  split at h
  · next b₀ b₁ rest' =>
      cases h
      have h₀ := b₀.toNat_lt
      have h₁ := b₁.toNat_lt
      have hlow : UInt8.ofNat (UInt16.ofNat
          (b₀.toNat + b₁.toNat * 2 ^ 8)).toNat = b₀ := by
        apply UInt8.toNat_inj.mp
        simp only [UInt8.toNat_ofNat', UInt16.toNat_ofNat']
        omega
      have hhigh : UInt8.ofNat ((UInt16.ofNat
          (b₀.toNat + b₁.toNat * 2 ^ 8)).toNat / 2 ^ 8) = b₁ := by
        apply UInt8.toNat_inj.mp
        simp only [UInt8.toNat_ofNat', UInt16.toNat_ofNat']
        omega
      simp only [putU16Le, hlow, hhigh, List.cons_append, List.nil_append]
  · cases h

theorem getU32Le_sound {bytes rest : Bytes} {value : UInt32}
    (h : (getU32Le bytes : Outcome ε (UInt32 × Bytes)) = .ok (value, rest)) :
    bytes = putU32Le value ++ rest := by
  unfold getU32Le at h
  split at h
  · next b₀ b₁ b₂ b₃ rest' =>
      cases h
      have h₀ := b₀.toNat_lt
      have h₁ := b₁.toNat_lt
      have h₂ := b₂.toNat_lt
      have h₃ := b₃.toNat_lt
      have hvalue : (u32Le b₀ b₁ b₂ b₃).toNat = b₀.toNat + b₁.toNat * 2 ^ 8 +
          b₂.toNat * 2 ^ 16 + b₃.toNat * 2 ^ 24 := by
        simp only [u32Le, UInt32.toNat_ofNat']
        omega
      have hbyte : ∀ (n : Nat) (b : UInt8), n % 2 ^ 8 = b.toNat →
          UInt8.ofNat n = b := by
        intro n b hn
        apply UInt8.toNat_inj.mp
        rw [UInt8.toNat_ofNat', hn]
      rw [putU32Le, hvalue, hbyte _ b₀ (by omega), hbyte _ b₁ (by omega),
        hbyte _ b₂ (by omega), hbyte _ b₃ (by omega)]
      rfl
  · cases h

theorem length_of_getU8 {bytes rest : Bytes} {b : UInt8}
    (h : (getU8 bytes : Outcome ε (UInt8 × Bytes)) = .ok (b, rest)) :
    bytes.length = rest.length + 1 := by
  cases bytes with
  | nil => cases h
  | cons head tail =>
      cases h
      rfl

theorem length_of_getU32Le {bytes rest : Bytes} {value : UInt32}
    (h : (getU32Le bytes : Outcome ε (UInt32 × Bytes)) = .ok (value, rest)) :
    bytes.length = rest.length + 4 := by
  unfold getU32Le at h
  split at h
  · cases h
    rfl
  · cases h

theorem length_of_splitTo {bytes front rest : Bytes} {n : Nat}
    (h : (splitTo n bytes : Outcome ε (Bytes × Bytes)) = .ok (front, rest)) :
    bytes.length = rest.length + n := by
  unfold splitTo at h
  split at h
  · next hle =>
      cases h
      simp [hle]
  · cases h

theorem length_of_advance {bytes rest : Bytes} {n : Nat}
    (h : (advance n bytes : Outcome ε Bytes) = .ok rest) :
    bytes.length = rest.length + n := by
  unfold advance at h
  split at h
  · next hle =>
      cases h
      simp [hle]
  · cases h

theorem getU32Le_of_length {bytes : Bytes} (hlength : 4 ≤ bytes.length) :
    ∃ value, (getU32Le bytes : Outcome ε (UInt32 × Bytes)) =
      .ok (value, bytes.drop 4) := by
  match bytes with
  | [] => simp at hlength
  | [_] => simp at hlength
  | [_, _] => simp at hlength
  | [_, _, _] => simp at hlength
  | b₀ :: b₁ :: b₂ :: b₃ :: rest => exact ⟨_, rfl⟩

theorem splitTo_of_le {n : Nat} {bytes : Bytes} (hle : n ≤ bytes.length) :
    (splitTo n bytes : Outcome ε (Bytes × Bytes)) =
      .ok (bytes.take n, bytes.drop n) := if_pos hle

theorem splitTo_append {n : Nat} {front : Bytes} (hlength : front.length = n)
    (rest : Bytes) :
    (splitTo n (front ++ rest) : Outcome ε (Bytes × Bytes)) =
      .ok (front, rest) := by
  rw [splitTo_of_le (by simp [← hlength]), List.take_left' hlength,
    List.drop_left' hlength]

theorem splitTo_eq_panic {n : Nat} {bytes : Bytes} :
    (splitTo n bytes : Outcome ε (Bytes × Bytes)) = .panic ↔
      bytes.length < n := by
  unfold splitTo
  split
  · next hle => simpa using hle
  · next hle => simpa using hle

theorem advance_of_le {n : Nat} {bytes : Bytes} (hle : n ≤ bytes.length) :
    (advance n bytes : Outcome ε Bytes) = .ok (bytes.drop n) := if_pos hle

end ByteCursor
