import Mathlib.Algebra.Order.Group.Nat
import Mathlib.Data.List.Basic
import Mathlib.Data.UInt
import Mathlib.Tactic.Ring

/-!
# Byte strings

* `FixedBytes n`: the byte strings of length `n`, the length being part of the type;
* `leBytes`, `ofLeBytes`: fixed-width little-endian integers, inverse to each other below
  `256 ^ w` (`ofLeBytes_leBytes`, `leBytes_ofLeBytes`), and the big-endian `beBytes`,
  `ofBeBytes` obtained by reversal;
* `patch`: overwriting a slice in place.  `take_patch` and `drop_patch` say that nothing before
  or behind the slice changes.
-/

namespace Wire

/-- A byte string of any length. -/
abbrev Bytes := List UInt8

/-! ## Fixed length -/

/-- A byte string of length `n`. -/
structure FixedBytes (n : ℕ) where
  bytes : Bytes
  size : bytes.length = n
  deriving DecidableEq

namespace FixedBytes

variable {n : ℕ}

@[ext] theorem ext {a b : FixedBytes n} (h : a.bytes = b.bytes) : a = b := by
  cases a
  cases b
  simpa using h

/-- The first `n` bytes, with zeros where there are none. -/
def ofBytes (n : ℕ) (bs : Bytes) : FixedBytes n where
  bytes := (bs ++ List.replicate n 0).take n
  size := by simp

theorem ofBytes_bytes {bs : Bytes} (h : bs.length = n) : (ofBytes n bs).bytes = bs := by
  simp only [ofBytes]
  rw [List.take_append_of_le_length h.ge, ← h, List.take_length]

/-- All bytes zero. -/
def zero (n : ℕ) : FixedBytes n where
  bytes := List.replicate n 0
  size := List.length_replicate

instance : Inhabited (FixedBytes n) := ⟨zero n⟩

/-- The order of the bytes read as one big-endian number. -/
instance : LT (FixedBytes n) := ⟨fun a b => a.bytes < b.bytes⟩

instance (a b : FixedBytes n) : Decidable (a < b) :=
  inferInstanceAs (Decidable (a.bytes < b.bytes))

end FixedBytes

/-! ## Integers -/

/-- The `w` little-endian bytes of `n`; what does not fit is dropped. -/
def leBytes : ℕ → ℕ → Bytes
  | 0, _ => []
  | w + 1, n => UInt8.ofNat n :: leBytes w (n / 256)

/-- The number a byte string spells, least significant byte first. -/
def ofLeBytes : Bytes → ℕ
  | [] => 0
  | b :: bs => b.toNat + 256 * ofLeBytes bs

@[simp] theorem length_leBytes (w n : ℕ) : (leBytes w n).length = w := by
  induction w generalizing n with
  | zero => rfl
  | succ w ih => rw [leBytes, List.length_cons, ih]

theorem ofLeBytes_lt (bs : Bytes) : ofLeBytes bs < 256 ^ bs.length := by
  induction bs with
  | nil => exact Nat.one_pos
  | cons b bs ih =>
    have hb : b.toNat < 256 := b.toNat_lt
    rw [ofLeBytes, List.length_cons, pow_succ]
    omega

theorem ofLeBytes_leBytes {w n : ℕ} (h : n < 256 ^ w) : ofLeBytes (leBytes w n) = n := by
  induction w generalizing n with
  | zero => exact (Nat.lt_one_iff.mp h).symm
  | succ w ih =>
    have hdiv : n / 256 < 256 ^ w := by
      rw [pow_succ] at h
      omega
    have hlow : (UInt8.ofNat n).toNat = n % 256 := UInt8.toNat_ofNat'
    rw [leBytes, ofLeBytes, ih hdiv, hlow]
    omega

theorem leBytes_ofLeBytes (bs : Bytes) : leBytes bs.length (ofLeBytes bs) = bs := by
  induction bs with
  | nil => rfl
  | cons b bs ih =>
    have hb : b.toNat < 256 := b.toNat_lt
    have hlow : UInt8.ofNat (b.toNat + 256 * ofLeBytes bs) = b := by
      apply UInt8.toNat_inj.mp
      rw [UInt8.toNat_ofNat']
      omega
    have hhigh : (b.toNat + 256 * ofLeBytes bs) / 256 = ofLeBytes bs := by omega
    rw [List.length_cons, ofLeBytes, leBytes, hlow, hhigh, ih]

/-- The `w` big-endian bytes of `n`. -/
def beBytes (w n : ℕ) : Bytes :=
  (leBytes w n).reverse

/-- The number a byte string spells, most significant byte first. -/
def ofBeBytes (bs : Bytes) : ℕ :=
  ofLeBytes bs.reverse

@[simp] theorem length_beBytes (w n : ℕ) : (beBytes w n).length = w := by
  rw [beBytes, List.length_reverse, length_leBytes]

theorem ofBeBytes_beBytes {w n : ℕ} (h : n < 256 ^ w) : ofBeBytes (beBytes w n) = n := by
  rw [ofBeBytes, beBytes, List.reverse_reverse, ofLeBytes_leBytes h]

theorem beBytes_ofBeBytes (bs : Bytes) : beBytes bs.length (ofBeBytes bs) = bs := by
  rw [beBytes, ofBeBytes, ← List.length_reverse, leBytes_ofLeBytes, List.reverse_reverse]

theorem ofBeBytes_lt (bs : Bytes) : ofBeBytes bs < 256 ^ bs.length := by
  rw [ofBeBytes, ← List.length_reverse]
  exact ofLeBytes_lt bs.reverse

/-- The eight little-endian bytes of a 64-bit word. -/
def le64 (x : UInt64) : Bytes :=
  leBytes 8 x.toNat

@[simp] theorem length_le64 (x : UInt64) : (le64 x).length = 8 :=
  length_leBytes 8 _

theorem toNat_lt_pow8 (x : UInt64) : x.toNat < 256 ^ 8 :=
  x.toNat_lt

theorem ofLeBytes_le64 (x : UInt64) : ofLeBytes (le64 x) = x.toNat :=
  ofLeBytes_leBytes (toNat_lt_pow8 x)

/-- The four little-endian bytes of a 32-bit word. -/
def le32 (x : UInt32) : Bytes :=
  leBytes 4 x.toNat

@[simp] theorem length_le32 (x : UInt32) : (le32 x).length = 4 :=
  length_leBytes 4 _

/-! ## Slices -/

/-- Cut `k` bytes off the part behind position `i`. -/
theorem drop_split (i k : ℕ) (bs : Bytes) : bs.drop i = (bs.drop i).take k ++ bs.drop (i + k) := by
  rw [← List.drop_drop, List.take_append_drop]

/-! ## Overwriting a slice -/

/-- Overwrite the bytes of `data` from position `start` on with `new`. -/
def patch (start : ℕ) (new data : Bytes) : Bytes :=
  data.take start ++ (new ++ data.drop (start + new.length))

section Patch

variable {start : ℕ} {new data : Bytes}

/-- Nothing before the slice changes. -/
theorem take_patch (h : start + new.length ≤ data.length) :
    (patch start new data).take start = data.take start := by
  have hs : start ≤ data.length := by omega
  rw [patch, List.take_append_of_le_length (by simp [hs])]
  simp

/-- Nothing behind the slice changes. -/
theorem drop_patch (h : start + new.length ≤ data.length) :
    (patch start new data).drop (start + new.length) = data.drop (start + new.length) := by
  have hs : (data.take start).length = start := by
    rw [List.length_take]
    omega
  have hlen : (data.take start ++ new).length = start + new.length := by
    rw [List.length_append, hs]
  rw [patch, ← List.append_assoc, ← hlen, List.drop_left]

theorem length_patch (h : start + new.length ≤ data.length) :
    (patch start new data).length = data.length := by
  simp only [patch, List.length_append, List.length_take, List.length_drop]
  omega

end Patch

end Wire
