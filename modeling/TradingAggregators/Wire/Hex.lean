import TradingAggregators.Rust.Result
import TradingAggregators.Wire.Bytes

/-!
# Hexadecimal text

* `hexText`: the lower-case hexadecimal text of a byte string, behind `0x`; without it
  `lowerHex` and `upperHex`.
* `ofHex`: the bytes that a hexadecimal text spells, with or without `0x`.
* `hexPairs_eq_some_iff`: the bytes that digits spell are those whose digits they are, up to
  their case; `exists_hexPairs_iff`: which characters spell bytes.
-/

namespace Wire

open Rust

/-- The two lower-case digits of a byte. -/
def hexByte (b : UInt8) : List Char :=
  [Nat.digitChar (b.toNat / 16), Nat.digitChar (b.toNat % 16)]

/-- `0x` and the hexadecimal digits of a byte string. -/
def hexText (bs : Bytes) : String :=
  "0x" ++ String.ofList (bs.flatMap hexByte)

/-- Read pairs of hexadecimal digits. -/
def hexPairs : List Char → Option Bytes
  | [] => some []
  | [_] => none
  | a :: b :: cs => do
      let high ← toDigit 16 a
      let low ← toDigit 16 b
      let bs ← hexPairs cs
      pure (UInt8.ofNat (high * 16 + low) :: bs)

/-- The bytes of a hexadecimal text; a leading `0x` is skipped. -/
def ofHex (s : String) : Option Bytes :=
  match s.toList with
  | '0' :: 'x' :: cs => hexPairs cs
  | cs => hexPairs cs

/-- A constant byte string, as `address!` and `hex!` write it. -/
def FixedBytes.hex (n : ℕ) (s : String) : FixedBytes n :=
  .ofBytes n ((ofHex s).getD [])

example : hexText (FixedBytes.hex 4 "0x095Ea7b3").bytes = "0x095ea7b3" := by decide

/-- The digits of a byte string, in lower case. -/
def lowerHex (bs : Bytes) : String :=
  String.ofList (bs.flatMap hexByte)

/-- The digits of a byte string, in upper case. -/
def upperHex (bs : Bytes) : String :=
  String.ofList ((bs.flatMap hexByte).map Char.toUpper)

theorem toList_toLower (s : String) : s.toLower.toList = s.toList.map Char.toLower :=
  String.toList_map

/-! ## Digits -/

/-- A digit is a character of ASCII. -/
theorem toNat_lt_of_toDigit {c : Char} {d : ℕ} (h : toDigit 16 c = some d) : c.toNat < 128 := by
  by_contra hlarge
  have hle : ∀ a : Char, a.toNat < 128 → ¬ c ≤ a := by
    intro a ha hca
    have hval : c.toNat ≤ a.toNat := UInt32.le_iff_toNat_le.mp hca
    omega
  simp [toDigit, hle '9' (by decide), hle 'f' (by decide), hle 'F' (by decide)] at h

/-- What holds of the first 128 characters holds of every digit. -/
theorem of_toDigit {P : Char → Prop} (hP : ∀ n < 128, P (Char.ofNat n)) {c : Char} {d : ℕ}
    (h : toDigit 16 c = some d) : P c := by
  have hc := hP c.toNat (toNat_lt_of_toDigit h)
  rwa [Char.ofNat_toNat] at hc

/-- A digit is, up to its case, the one of its value. -/
theorem digitChar_of_toDigit {c : Char} {d : ℕ} (h : toDigit 16 c = some d) :
    d < 16 ∧ Nat.digitChar d = c.toLower := by
  have hall : ∀ n < 128, ∀ d ∈ toDigit 16 (Char.ofNat n),
      d < 16 ∧ Nat.digitChar d = (Char.ofNat n).toLower := by
    decide
  exact of_toDigit (P := fun c => ∀ d ∈ toDigit 16 c, d < 16 ∧ Nat.digitChar d = c.toLower) hall h
    d h

theorem toDigit_digitChar : ∀ d < 16, toDigit 16 (Nat.digitChar d) = some d := by
  decide

theorem toDigit_toUpper_digitChar : ∀ d < 16, toDigit 16 (Nat.digitChar d).toUpper = some d := by
  decide

theorem isSome_toDigit (c : Char) : (toDigit 16 c).isSome = c.isHexDigit := by
  by_cases hascii : c.toNat < 128
  · have hall : ∀ n < 128, (toDigit 16 (Char.ofNat n)).isSome = (Char.ofNat n).isHexDigit := by
      decide
    have hc := hall c.toNat hascii
    rwa [Char.ofNat_toNat] at hc
  · have hnone : toDigit 16 c = none :=
      Option.eq_none_iff_forall_not_mem.mpr fun d hd => hascii (toNat_lt_of_toDigit hd)
    have hle : ∀ n : UInt32, n.toNat < 128 → ¬ c.val ≤ n := by
      intro n hn hcn
      exact hascii (lt_of_le_of_lt (UInt32.le_iff_toNat_le.mp hcn) hn)
    simp [hnone, Char.isHexDigit, Char.isDigit, hle]

theorem isHexDigit_iff {c : Char} : c.isHexDigit = true ↔ ∃ d, toDigit 16 c = some d := by
  rw [← isSome_toDigit, Option.isSome_iff_exists]

/-! ## Pairs of digits -/

/-- Two digits read as a byte. -/
theorem fromStrRadix_pair {a b : Char} {high low : ℕ} (ha : toDigit 16 a = some high)
    (hb : toDigit 16 b = some low) : fromStrRadix 16 256 [a, b] = .ok (high * 16 + low) := by
  have hplus : a ≠ '+' := by
    rintro rfl
    exact nomatch ha
  have hhigh := (digitChar_of_toDigit ha).1
  have hlow := (digitChar_of_toDigit hb).1
  have hfirst : pushDigit 16 256 0 a = .ok high := by
    rw [pushDigit, ha]
    simp only [Nat.zero_mul, Nat.zero_add, if_pos (show high < 256 by omega)]
  have hsecond : pushDigit 16 256 high b = .ok (high * 16 + low) := by
    rw [pushDigit, hb]
    simp only [if_pos (show high * 16 + low < 256 by omega)]
  have hfold : fromStrRadix 16 256 [a, b] = [a, b].foldlM (pushDigit 16 256) 0 := by
    unfold fromStrRadix
    split
    · next h => exact nomatch h
    · next h => exact nomatch h
    · next h => exact nomatch h
    · next h => exact absurd (List.cons.inj h).1 hplus
    · rfl
  rw [hfold, List.foldlM_cons, hfirst]
  show [b].foldlM (pushDigit 16 256) high = _
  rw [List.foldlM_cons, hsecond]
  rfl

/-- Digits spell bytes again in any case that leaves their values as they are. -/
theorem hexPairs_map_flatMap {f : Char → Char}
    (hf : ∀ d < 16, toDigit 16 (f (Nat.digitChar d)) = some d) (bs : Bytes) :
    hexPairs ((bs.flatMap hexByte).map f) = some bs := by
  induction bs with
  | nil => rfl
  | cons b bs ih =>
    have hb : b.toNat < 256 := b.toNat_lt
    have hbyte : UInt8.ofNat (b.toNat / 16 * 16 + b.toNat % 16) = b := by
      rw [Nat.div_add_mod', UInt8.ofNat_toNat]
    have hcons : ((b :: bs).flatMap hexByte).map f = f (Nat.digitChar (b.toNat / 16)) ::
        f (Nat.digitChar (b.toNat % 16)) :: (bs.flatMap hexByte).map f := rfl
    rw [hcons, hexPairs, hf (b.toNat / 16) (by omega), hf (b.toNat % 16) (by omega), ih]
    exact congrArg (fun b => some (b :: bs)) hbyte

theorem hexPairs_lower (bs : Bytes) : hexPairs (lowerHex bs).toList = some bs := by
  have hpairs := hexPairs_map_flatMap (f := id) toDigit_digitChar bs
  rwa [List.map_id, ← String.toList_ofList (l := bs.flatMap hexByte)] at hpairs

theorem hexPairs_upper (bs : Bytes) : hexPairs (upperHex bs).toList = some bs := by
  rw [upperHex, String.toList_ofList]
  exact hexPairs_map_flatMap toDigit_toUpper_digitChar bs

/-- What is spelled has the given digits, up to their case. -/
theorem flatMap_hexByte_of_hexPairs :
    ∀ {cs : List Char} {bs : Bytes}, hexPairs cs = some bs →
      bs.flatMap hexByte = cs.map Char.toLower
  | [], bs, h => by
    obtain rfl := Option.some.inj h
    rfl
  | [_], _, h => nomatch h
  | a :: b :: cs, bs, h => by
    rw [hexPairs] at h
    obtain ⟨high, hhigh, h₁⟩ := Option.bind_eq_some_iff.mp h
    obtain ⟨low, hlow, h₂⟩ := Option.bind_eq_some_iff.mp h₁
    obtain ⟨rest, hrest, h₃⟩ := Option.bind_eq_some_iff.mp h₂
    obtain rfl := Option.some.inj h₃
    obtain ⟨hhigh16, ha⟩ := digitChar_of_toDigit hhigh
    obtain ⟨hlow16, hb⟩ := digitChar_of_toDigit hlow
    have hbyte : hexByte (UInt8.ofNat (high * 16 + low)) = [a.toLower, b.toLower] := by
      rw [hexByte, UInt8.toNat_ofNat', Nat.mod_eq_of_lt (by omega), ← ha, ← hb,
        show (high * 16 + low) / 16 = high by omega, show (high * 16 + low) % 16 = low by omega]
    rw [List.flatMap_cons, hbyte, flatMap_hexByte_of_hexPairs hrest]
    rfl

/-- An even number of digits, and nothing else, spells bytes. -/
theorem exists_hexPairs_iff :
    ∀ {cs : List Char}, (∃ bs, hexPairs cs = some bs) ↔
      cs.length % 2 = 0 ∧ ∀ c ∈ cs, c.isHexDigit = true
  | [] => by simp [hexPairs]
  | [c] => by simp [hexPairs]
  | a :: b :: cs => by
    have hlength : (a :: b :: cs).length % 2 = cs.length % 2 := Nat.add_mod_right _ 2
    rw [hlength, List.forall_mem_cons, List.forall_mem_cons, isHexDigit_iff, isHexDigit_iff]
    constructor
    · rintro ⟨bs, h⟩
      rw [hexPairs] at h
      obtain ⟨high, hhigh, h₁⟩ := Option.bind_eq_some_iff.mp h
      obtain ⟨low, hlow, h₂⟩ := Option.bind_eq_some_iff.mp h₁
      obtain ⟨rest, hrest, -⟩ := Option.bind_eq_some_iff.mp h₂
      obtain ⟨heven, hdigits⟩ := exists_hexPairs_iff.mp ⟨rest, hrest⟩
      exact ⟨heven, ⟨high, hhigh⟩, ⟨low, hlow⟩, hdigits⟩
    · rintro ⟨heven, ⟨high, hhigh⟩, ⟨low, hlow⟩, hdigits⟩
      obtain ⟨rest, hrest⟩ := exists_hexPairs_iff.mpr ⟨heven, hdigits⟩
      refine ⟨UInt8.ofNat (high * 16 + low) :: rest, ?_⟩
      rw [hexPairs, hhigh, hlow, hrest]
      rfl

/-- **The bytes that digits spell** are those with these digits, up to their case. -/
theorem hexPairs_eq_some_iff {cs : List Char} {bs : Bytes} (h : hexPairs cs = some bs)
    (bs' : Bytes) : bs'.flatMap hexByte = cs.map Char.toLower ↔ bs' = bs := by
  constructor
  · intro hdigits
    have hpairs := hexPairs_map_flatMap (f := id) toDigit_digitChar
    rw [← flatMap_hexByte_of_hexPairs h] at hdigits
    have hsome : some bs' = some bs := by
      rw [← hpairs bs', ← hpairs bs, hdigits]
    exact Option.some.inj hsome
  · rintro rfl
    exact flatMap_hexByte_of_hexPairs h

end Wire
