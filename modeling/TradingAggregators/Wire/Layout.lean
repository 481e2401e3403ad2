import TradingAggregators.Wire.Borsh

/-!
# Layouts of fixed width

A codec that writes every value with the same number of bytes lays a record out field by field,
so that an encoding can be cut off between two fields.

* `HasWidth`: the codec writes `n` bytes and reads no fewer, with one rule a combinator;
  `HasWidth.decode_short`: fewer bytes are an error.
* `IsZero`: the value that zeros encode.
* `Fills`: what an encoding reads as after it was cut off and filled up with zeros.
  `Fills.skip` steps over a field that is kept; `Fills.cut` ends behind it.
-/

namespace Wire
namespace Codec

open Interaction

variable {α β : Type}

/-! ## Widths -/

/-- Every value takes `n` bytes, and reading one takes as many off the front. -/
structure HasWidth (c : Codec α) (n : ℕ) : Prop where
  length_encode : ∀ a, (c.encode a).length = n
  consumes : ∀ {bs a rest}, c.decode bs = .ok (a, rest) → bs.length = n + rest.length

namespace HasWidth

variable {c : Codec α} {d : Codec β} {m n : ℕ}

/-- Too few bytes are an error. -/
theorem decode_short (h : c.HasWidth n) {bs : Bytes} (hshort : bs.length < n) :
    ∃ msg, c.decode bs = .error msg := by
  cases hdecode : c.decode bs with
  | error msg => exact ⟨msg, rfl⟩
  | ok p =>
    have hlength := h.consumes hdecode
    omega

theorem length_of_takeBytes {n : ℕ} {bs rest : Bytes} {key : FixedBytes n}
    (h : takeBytes n bs = .ok (key, rest)) : bs.length = n + rest.length := by
  unfold takeBytes at h
  split_ifs at h with hlength
  obtain ⟨-, rfl⟩ := Prod.mk.inj (Except.ok.inj h)
  rw [List.length_take] at hlength
  rw [List.length_drop]
  omega

theorem fixed (n : ℕ) : (fixed n).HasWidth n where
  length_encode key := key.size
  consumes := length_of_takeBytes

theorem uint (w : ℕ) : (uint w).HasWidth w where
  length_encode k := length_leBytes w k
  consumes h := by
    obtain ⟨⟨key, rest⟩, htake, hpure⟩ := bind_eq_ok.mp h
    obtain ⟨-, rfl⟩ := Prod.mk.inj (pure_eq_ok.mp hpure)
    exact length_of_takeBytes htake

theorem iso (h : c.HasWidth n) {f : α → β} {inv : β → α} (f_inv : ∀ b, f (inv b) = b) :
    (c.iso f inv f_inv).HasWidth n where
  length_encode b := h.length_encode (inv b)
  consumes hdecode := by
    obtain ⟨⟨a, rest⟩, ha, hpure⟩ := bind_eq_ok.mp hdecode
    obtain ⟨-, rfl⟩ := Prod.mk.inj (pure_eq_ok.mp hpure)
    exact h.consumes ha

theorem u8 : Codec.u8.HasWidth 1 :=
  (uint 1).iso _

theorem u16 : Codec.u16.HasWidth 2 :=
  (uint 2).iso _

theorem u64 : Codec.u64.HasWidth 8 :=
  (uint 8).iso _

theorem i128 : Codec.i128.HasWidth 16 :=
  (uint 16).iso _

theorem bool : Codec.bool.HasWidth 1 where
  length_encode _ := rfl
  consumes h := by
    obtain ⟨⟨b, rest⟩, hb, hvalue⟩ := bind_eq_ok.mp h
    dsimp only at hvalue
    split_ifs at hvalue with hzero hone
    · obtain ⟨-, rfl⟩ := Prod.mk.inj (pure_eq_ok.mp hvalue)
      exact u8.consumes hb
    · obtain ⟨-, rfl⟩ := Prod.mk.inj (pure_eq_ok.mp hvalue)
      exact u8.consumes hb

theorem seq (hc : c.HasWidth m) (hd : d.HasWidth n) : (c.seq d).HasWidth (m + n) where
  length_encode p := by
    show (c.encode p.1 ++ d.encode p.2).length = m + n
    rw [List.length_append, hc.length_encode, hd.length_encode]
  consumes h := by
    obtain ⟨⟨a, back⟩, ha, h₁⟩ := bind_eq_ok.mp h
    obtain ⟨⟨b, rest⟩, hb, hpure⟩ := bind_eq_ok.mp h₁
    obtain ⟨-, rfl⟩ := Prod.mk.inj (pure_eq_ok.mp hpure)
    have hfirst := hc.consumes ha
    have hsecond := hd.consumes hb
    omega

end HasWidth

/-! ## Zeros -/

/-- `n` zero bytes encode `z`. -/
def IsZero (c : Codec α) (n : ℕ) (z : α) : Prop :=
  c.encode z = List.replicate n 0

namespace IsZero

theorem fixed (n : ℕ) : (fixed n).IsZero n (.zero n) := rfl

theorem bool : Codec.bool.IsZero 1 false := rfl

theorem seq {c : Codec α} {d : Codec β} {m n : ℕ} {y : α} {z : β} (hc : c.IsZero m y)
    (hd : d.IsZero n z) : (c.seq d).IsZero (m + n) (y, z) := by
  show c.encode y ++ d.encode z = _
  rw [hc, hd, List.replicate_append_replicate]

end IsZero

/-! ## Cut off and filled up -/

/-- Cut off behind `s` of its `n` bytes and filled up with zeros, the encoding of `a` is that of
`a'`. -/
structure Fills (c : Codec α) (n s : ℕ) (a a' : α) : Prop where
  le : s ≤ n
  encode : (c.encode a).take s ++ List.replicate (n - s) 0 = c.encode a'

namespace Fills

variable {c : Codec α} {d : Codec β} {m n s : ℕ} {a a' : α} {b b' : β}

/-- Nothing is cut off. -/
theorem full (h : c.HasWidth n) (a : α) : c.Fills n n a a where
  le := le_rfl
  encode := by
    rw [← h.length_encode a, List.take_length, Nat.sub_self, List.replicate_zero,
      List.append_nil]

/-- Everything is cut off. -/
theorem empty {z : α} (h : c.IsZero n z) (a : α) : c.Fills n 0 a z where
  le := Nat.zero_le n
  encode := by
    rw [List.take_zero, List.nil_append, Nat.sub_zero]
    exact h.symm

/-- The cut is behind the first field. -/
theorem skip (hc : c.HasWidth m) (h : d.Fills n s b b') (a : α) :
    (c.seq d).Fills (m + n) (m + s) (a, b) (a, b') where
  le := Nat.add_le_add_left h.le m
  encode := by
    show (c.encode a ++ d.encode b).take (m + s) ++ _ = c.encode a ++ d.encode b'
    rw [← hc.length_encode a, List.take_length_add_append, Nat.add_sub_add_left,
      List.append_assoc, h.encode]

/-- Everything behind the first field is cut off. -/
theorem cut (hc : c.HasWidth m) {z : β} (hd : d.IsZero n z) (a : α) (b : β) :
    (c.seq d).Fills (m + n) m (a, b) (a, z) :=
  skip hc (empty hd b) a

theorem iso (h : c.Fills n s a a') {f : α → β} {inv : β → α} (f_inv : ∀ b, f (inv b) = b)
    {b b' : β} (hb : inv b = a) (hb' : inv b' = a') : (c.iso f inv f_inv).Fills n s b b' where
  le := h.le
  encode := by
    subst hb hb'
    exact h.encode

/-- What is left of the encoding, filled up by its length. -/
theorem decode_take (h : c.Fills n s a a') (hc : c.HasWidth n) :
    c.decode ((c.encode a).take s ++ List.replicate (n - ((c.encode a).take s).length) 0) =
      .ok (a', []) := by
  have hlength : ((c.encode a).take s).length = s := by
    rw [List.length_take, hc.length_encode, Nat.min_eq_left h.le]
  rw [hlength, h.encode, ← List.append_nil (c.encode a'), c.decode_encode]

end Fills

end Codec
end Wire
