import TradingAggregators.Rust.Result

/-!
# Arithmetic without a loss

Plain operations may wrap and `as` truncates.  Here every step of a computation on `u64` and
`u128` returns only when its exact result fits its type and stops like a checked build
otherwise, casts included.  A computation written with these steps that equals the one of the
code has therefore neither overflowed nor underflowed, and no cast of it has lost a bit.

* `exactly`: one step.
* `widen`, `narrow`: `u128::from` and `as u64`.
* `add128`, `mul128`, `div128`, `divCeil128`: the operations on `u128`.
* `addWord`, `subWord`, `mulWord`, `divWord`, `modWord`: the operations on words of any width.
* `add64_eq_ok` … `divCeil128_eq_ok`: a step that fits returns its exact value.
* `toNat_add_of_fit`: a plain sum that fits.
* `toNat_max`, `toNat_min`: `max` and `min` on `u32`.
-/

namespace Rust
namespace Exact

open Interaction

variable {ε α : Type}

/-! ## Plain operations -/

theorem toNat_add_of_fit {a b : UInt64} (h : a.toNat + b.toNat < 2 ^ 64) :
    (a + b).toNat = a.toNat + b.toNat := by
  rw [UInt64.toNat_add, Nat.mod_eq_of_lt h]

theorem toNat_max (a b : UInt32) : (max a b).toNat = max a.toNat b.toNat := by
  show (if a ≤ b then b else a).toNat = _
  split_ifs with h <;> rw [UInt32.le_iff_toNat_le] at h <;> omega

theorem toNat_min (a b : UInt32) : (min a b).toNat = min a.toNat b.toNat := by
  show (if a ≤ b then a else b).toNat = _
  split_ifs with h <;> rw [UInt32.le_iff_toNat_le] at h <;> omega

/-! ## Steps -/

/-- A 128-bit word. -/
abbrev Word128 := BitVec 128

/-- One step: `a` if it is exact. -/
def exactly (exact : Prop) [Decidable exact] (a : α) : Result ε α :=
  if exact then .ok a else .error .panicked

theorem exactly_of {exact : Prop} [Decidable exact] (h : exact) (a : α) :
    (exactly exact a : Result ε α) = .ok a :=
  if_pos h

/-- `u128::from`, which cannot lose anything. -/
def widen (a : UInt64) : Word128 :=
  BitVec.ofNat 128 a.toNat

/-- `as u64`. -/
def narrow (a : Word128) : Result ε UInt64 :=
  exactly (a.toNat < 2 ^ 64) (UInt64.ofNat a.toNat)

def add128 (a b : Word128) : Result ε Word128 :=
  exactly (a.toNat + b.toNat < 2 ^ 128) (a + b)

def mul128 (a b : Word128) : Result ε Word128 :=
  exactly (a.toNat * b.toNat < 2 ^ 128) (a * b)

def div128 (a b : Word128) : Result ε Word128 :=
  exactly (b ≠ 0) (a / b)

/-- `u128::div_ceil`: the quotient, and one more for a remainder. -/
def divCeil128 (a b : Word128) : Result ε Word128 := do
  let d ← div128 a b
  if a % b ≠ 0 then add128 d 1 else pure d

def add64 (a b : UInt64) : Result ε UInt64 :=
  exactly (a.toNat + b.toNat < 2 ^ 64) (a + b)

def sub64 (a b : UInt64) : Result ε UInt64 :=
  exactly (b ≤ a) (a - b)

/-! ## Words of any width -/

section Words

variable {w : ℕ}

def addWord (a b : BitVec w) : Result ε (BitVec w) :=
  exactly (a.toNat + b.toNat < 2 ^ w) (a + b)

def subWord (a b : BitVec w) : Result ε (BitVec w) :=
  exactly (b ≤ a) (a - b)

def mulWord (a b : BitVec w) : Result ε (BitVec w) :=
  exactly (a.toNat * b.toNat < 2 ^ w) (a * b)

def divWord (a b : BitVec w) : Result ε (BitVec w) :=
  exactly (b ≠ 0) (a / b)

def modWord (a b : BitVec w) : Result ε (BitVec w) :=
  exactly (b ≠ 0) (a % b)

end Words

/-! ## The values of steps that fit -/

@[simp] theorem toNat_widen (a : UInt64) : (widen a).toNat = a.toNat := by
  have hlt := a.toNat_lt
  rw [widen, BitVec.toNat_ofNat, Nat.mod_eq_of_lt (by omega)]

theorem toNat_eq {a : Word128} {n : ℕ} (h : a.toNat = n) : a = BitVec.ofNat 128 n := by
  rw [← h, BitVec.ofNat_toNat, BitVec.setWidth_eq]

/-- A word of a number below `2 ^ 128` holds it. -/
theorem toNat_word {n : ℕ} (h : n < 2 ^ 128) : (BitVec.ofNat 128 n).toNat = n := by
  rw [BitVec.toNat_ofNat, Nat.mod_eq_of_lt h]

theorem narrow_eq_ok {a : Word128} {n : ℕ} (ha : a.toNat = n) (h : n < 2 ^ 64) :
    (narrow a : Result ε UInt64) = .ok (UInt64.ofNat n) := by
  rw [narrow, ha]
  exact exactly_of h _

theorem add128_eq_ok {a b : Word128} {m n : ℕ} (ha : a.toNat = m) (hb : b.toNat = n)
    (h : m + n < 2 ^ 128) :
    (add128 a b : Result ε Word128) = .ok (BitVec.ofNat 128 (m + n)) := by
  rw [add128, exactly_of (by omega)]
  refine congrArg Except.ok (toNat_eq ?_)
  rw [BitVec.toNat_add, ha, hb, Nat.mod_eq_of_lt h]

theorem mul128_eq_ok {a b : Word128} {m n : ℕ} (ha : a.toNat = m) (hb : b.toNat = n)
    (h : m * n < 2 ^ 128) :
    (mul128 a b : Result ε Word128) = .ok (BitVec.ofNat 128 (m * n)) := by
  rw [mul128, ha, hb, exactly_of h]
  refine congrArg Except.ok (toNat_eq ?_)
  rw [BitVec.toNat_mul, ha, hb, Nat.mod_eq_of_lt h]

/-- Two widened words can always be multiplied. -/
theorem mul128_widen (a b : UInt64) :
    (mul128 (widen a) (widen b) : Result ε Word128) =
      .ok (BitVec.ofNat 128 (a.toNat * b.toNat)) := by
  have hlt : a.toNat * b.toNat < 2 ^ 64 * 2 ^ 64 := Nat.mul_lt_mul'' a.toNat_lt b.toNat_lt
  exact mul128_eq_ok (toNat_widen a) (toNat_widen b) (by omega)

theorem div128_eq_ok {a b : Word128} {m n : ℕ} (ha : a.toNat = m) (hb : b.toNat = n)
    (h : 0 < n) : (div128 a b : Result ε Word128) = .ok (BitVec.ofNat 128 (m / n)) := by
  have hne : b ≠ 0 := by
    rintro rfl
    rw [← hb] at h
    exact absurd h (by decide)
  rw [div128, exactly_of hne]
  refine congrArg Except.ok (toNat_eq ?_)
  rw [BitVec.toNat_udiv, ha, hb]

/-- The round-up quotient, in the form with a numerator raised by one less than the divisor. -/
theorem divCeil128_eq_ok {a b : Word128} {m n : ℕ} (ha : a.toNat = m) (hb : b.toNat = n)
    (h : 0 < n) (hfit : (m + (n - 1)) / n < 2 ^ 128) :
    (divCeil128 a b : Result ε Word128) = .ok (BitVec.ofNat 128 ((m + (n - 1)) / n)) := by
  have hquot : m / n < 2 ^ 128 := lt_of_le_of_lt (Nat.div_le_self m n) (ha ▸ a.isLt)
  have hsplit := Nat.div_add_mod' m n
  have hrem := Nat.mod_lt m h
  rw [divCeil128, div128_eq_ok ha hb h]
  by_cases hzero : m % n = 0
  · have hmod : a % b = 0 := by
      refine BitVec.eq_of_toNat_eq ?_
      rw [BitVec.toNat_umod, ha, hb, hzero]
      rfl
    have hval : (m + (n - 1)) / n = m / n := by
      rw [Nat.div_eq_iff h]
      omega
    rw [ok_bind, if_neg (not_not_intro hmod), hval]
    rfl
  · have hmod : a % b ≠ 0 := by
      intro h0
      have h1 : (a % b).toNat = 0 := by rw [h0]; rfl
      rw [BitVec.toNat_umod, ha, hb] at h1
      exact hzero h1
    have hval : (m + (n - 1)) / n = m / n + 1 := by
      rw [Nat.div_eq_iff h, Nat.add_mul]
      omega
    rw [hval] at hfit
    rw [ok_bind, if_pos hmod, hval]
    exact add128_eq_ok (toNat_word hquot) rfl hfit

theorem add64_eq_ok {a b : UInt64} (h : a.toNat + b.toNat < 2 ^ 64) :
    (add64 a b : Result ε UInt64) = .ok (a + b) :=
  exactly_of h _

theorem sub64_eq_ok {a b : UInt64} (h : b ≤ a) : (sub64 a b : Result ε UInt64) = .ok (a - b) :=
  exactly_of h _

end Exact
end Rust
