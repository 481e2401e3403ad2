import TradingAggregators.Solana.Dexes.PumpFun
import TradingAggregators.Solana.Dexes.PumpSwap
import TradingAggregators.Wire.Layout

/-!
# Old and new account layouts

Both venues have appended fields to their accounts.  A bonding curve that ends early is filled up
with zeros, and a pool may or may not carry its virtual quote reserves.

## 1.  Pump.fun

`fills_upTo`: an encoded curve that is cut off behind `complete` or a later field encodes, filled
up, the curve with the rest unset; `old_curves_decode`.

## 2.  PumpSwap

`decodePool_encode_append`: what a pool and some bytes behind it read as.
`effectiveQuoteReserves_eq_ok_iff`: the reserves are a sum that fits; `pools_decode`.
-/

namespace TradingAggregators
namespace Solana

open Interaction Rust Wire
open Wire.Codec (HasWidth Fills IsZero)

/-! ## 1.  Pump.fun -/

namespace PumpFun
namespace BondingCurveAccount

/-- The fields behind `complete`: the creator, two flags and the quote mint. -/
def lateFields : Codec (Pubkey × Bool × Bool × Pubkey) :=
  (Codec.fixed 32).seq <| Codec.bool.seq <| Codec.bool.seq <| Codec.fixed 32

theorem hasWidth_lateFields : lateFields.HasWidth 66 :=
  (HasWidth.fixed 32).seq (HasWidth.bool.seq (HasWidth.bool.seq (.fixed 32)))

theorem hasWidth_codec : codec.HasWidth 115 :=
  (HasWidth.u64.seq (HasWidth.u64.seq (HasWidth.u64.seq (HasWidth.u64.seq (HasWidth.u64.seq
    (HasWidth.u64.seq (HasWidth.bool.seq hasWidth_lateFields))))))).iso _

/-- The curve with the late fields set to the given ones. -/
def withLate (c : BondingCurveAccount) (late : Pubkey × Bool × Bool × Pubkey) :
    BondingCurveAccount :=
  { c with
    creator := late.1
    isMayhemMode := late.2.1
    isCashbackCoin := late.2.2.1
    quoteMint := late.2.2.2 }

/-- A cut among the late fields changes nothing before them. -/
theorem fills_withLate {c : BondingCurveAccount} {s : ℕ} {late : Pubkey × Bool × Bool × Pubkey}
    (h : lateFields.Fills 66 s (c.creator, c.isMayhemMode, c.isCashbackCoin, c.quoteMint) late) :
    codec.Fills 115 (8 + (8 + (8 + (8 + (8 + (8 + (1 + s))))))) c (c.withLate late) :=
  .iso (.skip .u64 (.skip .u64 (.skip .u64 (.skip .u64 (.skip .u64 (.skip .u64 (.skip .bool h _) _)
    _) _) _) _) _) _ rfl rfl

/-- The curve with the fields of its first `size` bytes, and the others unset. -/
def upTo (size : ℕ) (c : BondingCurveAccount) : BondingCurveAccount :=
  { c with
    creator := if 81 ≤ size then c.creator else .zero 32
    isMayhemMode := if 82 ≤ size then c.isMayhemMode else false
    isCashbackCoin := if 83 ≤ size then c.isCashbackCoin else false
    quoteMint := if 115 ≤ size then c.quoteMint else .zero 32 }

/-- The ends of `complete` and of the fields behind it. -/
def lateEnds : List ℕ := [49, 81, 82, 83, 115]

theorem fills_upTo (c : BondingCurveAccount) {size : ℕ} (h : size ∈ lateEnds) :
    codec.Fills 115 size c (c.upTo size) := by
  have hkey : (Codec.fixed 32).HasWidth 32 := .fixed 32
  have hflags : (Codec.bool.seq (Codec.fixed 32)).IsZero 33 (false, .zero 32) :=
    IsZero.bool.seq (.fixed 32)
  simp only [lateEnds, List.mem_cons, List.not_mem_nil, or_false] at h
  rcases h with rfl | rfl | rfl | rfl | rfl
  · exact fills_withLate (.empty ((IsZero.fixed 32).seq (IsZero.bool.seq hflags)) _)
  · exact fills_withLate (.cut hkey (IsZero.bool.seq hflags) _ _)
  · exact fills_withLate (.skip hkey (.cut .bool hflags _ _) _)
  · exact fills_withLate (.skip hkey (.skip .bool (.cut .bool (.fixed 32) _ _) _) _)
  · exact .full hasWidth_codec c

/-- Without its quote mint a curve is quoted in SOL. -/
theorem isSolQuoted_upTo (c : BondingCurveAccount) {size : ℕ} (h : size < 115) :
    (c.upTo size).isSolQuoted = true := by
  simp [isSolQuoted, upTo, Nat.not_le.mpr h]

end BondingCurveAccount

/-- What follows an encoded curve is ignored. -/
theorem decodeCurve_encode_append (c : BondingCurveAccount) (suffix : Bytes) :
    decodeCurve (BondingCurveAccount.codec.encode c ++ suffix) = .ok c := by
  rw [decodeCurve, decodeAccount, List.append_assoc, BondingCurveAccount.codec.decode_encode]

/-- An encoded curve reads as itself. -/
theorem decodeCurve_encode (c : BondingCurveAccount) :
    decodeCurve (BondingCurveAccount.codec.encode c) = .ok c := by
  have hdecode := decodeCurve_encode_append c []
  rwa [List.append_nil] at hdecode

/-- **Old curve layouts decode to the same curve**: with the fields behind their end unset. -/
theorem old_curves_decode (c : BondingCurveAccount) :
    (BondingCurveAccount.codec.encode c).length = 115 ∧
    (∀ size ∈ BondingCurveAccount.lateEnds,
      decodeCurve ((BondingCurveAccount.codec.encode c).take size) = .ok (c.upTo size) ∧
      (size < 115 → (c.upTo size).isSolQuoted = true)) ∧
    ∀ suffix : Bytes, decodeCurve (BondingCurveAccount.codec.encode c ++ suffix) = .ok c := by
  have hwidth := BondingCurveAccount.hasWidth_codec
  refine ⟨hwidth.length_encode c, fun size hsize => ⟨?_, c.isSolQuoted_upTo⟩,
    decodeCurve_encode_append c⟩
  have hdecode := (c.fills_upTo hsize).decode_take hwidth
  rw [decodeCurve, decodeAccount, show bondingCurveLen = 115 from rfl, hdecode]

/-- A curve of the oldest layout has no creator, neither flag and a quote in SOL. -/
theorem old_curves_decode_sample :
    let curve : BondingCurveAccount := ⟨1, 2, 3, 4, 5, 6, true, usdcMint, true, true, usdcMint⟩
    decodeCurve ((BondingCurveAccount.codec.encode curve).take 49) =
      .ok ⟨1, 2, 3, 4, 5, 6, true, .zero 32, false, false, .zero 32⟩ :=
  ((old_curves_decode _).2.1 49 (by decide)).1

end PumpFun

/-! ## 2.  PumpSwap -/

namespace PumpSwap

theorem PoolAccount.hasWidth_codec : PoolAccount.codec.HasWidth 245 := by
  have key : (Codec.fixed 32).HasWidth 32 := .fixed 32
  unfold PoolAccount.codec
  exact (HasWidth.u64.seq (HasWidth.u8.seq (HasWidth.u16.seq (key.seq (key.seq (key.seq (key.seq
    (key.seq (key.seq (HasWidth.u64.seq (key.seq (HasWidth.bool.seq .bool)))))))))))).iso _

/-- An encoded pool is followed by nothing or by its virtual quote reserves. -/
theorem decodePool_encode_append (pool : PoolAccount) (bs : Bytes) :
    decodePool (PoolAccount.codec.encode pool ++ bs) =
      if bs = [] then .ok (pool, 0)
      else (anyText (Codec.i128.decode bs)).map fun p => (pool, p.1.toInt) := by
  rw [decodePool, PoolAccount.codec.decode_encode]
  show (if bs = [] then _ else _) = _
  split_ifs with hnil
  · rfl
  · cases Codec.i128.decode bs <;> rfl

theorem decodePool_short {data : Bytes} (h : data.length < 245) :
    ∃ e, decodePool data = fail e := by
  obtain ⟨msg, hdecode⟩ := PoolAccount.hasWidth_codec.decode_short h
  refine ⟨.other msg, ?_⟩
  rw [decodePool, hdecode]
  rfl

section Reserves

variable {balance reserves : UInt64} {virtualReserves : Int}

/-- The reserves are the sum of the vault's balance and the virtual ones. -/
theorem effectiveQuoteReserves_eq_ok_iff :
    effectiveQuoteReserves balance virtualReserves = .ok reserves ↔
      (reserves.toNat : Int) = (balance.toNat : Int) + virtualReserves := by
  unfold effectiveQuoteReserves
  constructor
  · intro h
    obtain ⟨-, -, h₁⟩ := bind_eq_ok.mp h
    obtain ⟨_, hrange, h₂⟩ := bind_eq_ok.mp h₁
    rw [failIf_eq_ok, not_not] at hrange
    rw [← pure_eq_ok.mp h₂, UInt64.toNat_ofNat', Nat.mod_eq_of_lt (by omega)]
    omega
  · intro h
    have hlt := reserves.toNat_lt
    have hsmall : ¬ (balance.toNat : Int) + virtualReserves ≥ 2 ^ 127 := by omega
    have hrange : 0 ≤ (balance.toNat : Int) + virtualReserves ∧
        (balance.toNat : Int) + virtualReserves < 2 ^ 64 := by omega
    refine bind_eq_ok.mpr ⟨(), failIf_neg hsmall _,
      bind_eq_ok.mpr ⟨(), failIf_neg (not_not.mpr hrange) _, ?_⟩⟩
    rw [pure_eq_ok, ← h, Int.toNat_natCast, UInt64.ofNat_toNat]

/-- A sum that fits is returned. -/
theorem exists_effectiveQuoteReserves
    (h : 0 ≤ (balance.toNat : Int) + virtualReserves ∧
      (balance.toNat : Int) + virtualReserves < 2 ^ 64) :
    ∃ reserves, effectiveQuoteReserves balance virtualReserves = .ok reserves := by
  refine ⟨UInt64.ofNat ((balance.toNat : Int) + virtualReserves).toNat,
    effectiveQuoteReserves_eq_ok_iff.mpr ?_⟩
  rw [UInt64.toNat_ofNat', Nat.mod_eq_of_lt (by omega)]
  omega

/-- Any other sum is an error. -/
theorem effectiveQuoteReserves_eq_fail
    (h : ¬ (0 ≤ (balance.toNat : Int) + virtualReserves ∧
      (balance.toNat : Int) + virtualReserves < 2 ^ 64)) :
    ∃ e, effectiveQuoteReserves balance virtualReserves = fail e := by
  by_cases hlarge : (balance.toNat : Int) + virtualReserves ≥ 2 ^ 127
  · exact ⟨_, bind_eq_error.mpr (Or.inl (failIf_pos hlarge _))⟩
  · exact ⟨_, bind_eq_error.mpr (Or.inr ⟨(), failIf_neg hlarge _,
      bind_eq_error.mpr (Or.inl (failIf_pos h _))⟩)⟩

end Reserves

/-- **Pools of both generations decode, and their reserves never wrap.** -/
theorem pools_decode :
    (∀ pool : PoolAccount, (PoolAccount.codec.encode pool).length = 245 ∧
      decodePool (PoolAccount.codec.encode pool) = .ok (pool, 0) ∧
      (∀ (w : BitVec 128) (suffix : Bytes),
        decodePool (PoolAccount.codec.encode pool ++ leBytes 16 w.toNat ++ suffix) =
          .ok (pool, w.toInt)) ∧
      ∀ bs : Bytes, 1 ≤ bs.length → bs.length ≤ 15 →
        ∃ e, decodePool (PoolAccount.codec.encode pool ++ bs) = fail e) ∧
    (∀ data : Bytes, data.length < 245 → ∃ e, decodePool data = fail e) ∧
    ∀ (vault : UInt64) (w : BitVec 128),
      (∀ reserves, effectiveQuoteReserves vault w.toInt = .ok reserves ↔
        (reserves.toNat : Int) = (vault.toNat : Int) + w.toInt) ∧
      ((0 ≤ (vault.toNat : Int) + w.toInt ∧ (vault.toNat : Int) + w.toInt < 2 ^ 64) →
        ∃ reserves, effectiveQuoteReserves vault w.toInt = .ok reserves) ∧
      (¬ (0 ≤ (vault.toNat : Int) + w.toInt ∧ (vault.toNat : Int) + w.toInt < 2 ^ 64) →
        ∃ e, effectiveQuoteReserves vault w.toInt = fail e) := by
  refine ⟨fun pool => ⟨PoolAccount.hasWidth_codec.length_encode pool, ?_, fun w suffix => ?_,
    fun bs hpos hle => ?_⟩, fun data => decodePool_short, fun vault w =>
      ⟨fun reserves => effectiveQuoteReserves_eq_ok_iff, exists_effectiveQuoteReserves,
        effectiveQuoteReserves_eq_fail⟩⟩
  · have hdecode := decodePool_encode_append pool []
    rwa [List.append_nil, if_pos rfl] at hdecode
  · have hne : leBytes 16 w.toNat ++ suffix ≠ [] := by
      simp [leBytes]
    have hreserves : Codec.i128.decode (leBytes 16 w.toNat ++ suffix) = .ok (w, suffix) :=
      Codec.i128.decode_encode w suffix
    rw [List.append_assoc, decodePool_encode_append, if_neg hne, hreserves]
    rfl
  · have hne : bs ≠ [] := List.ne_nil_of_length_pos hpos
    obtain ⟨msg, hmsg⟩ := HasWidth.i128.decode_short (show bs.length < 16 by omega)
    refine ⟨.other msg, ?_⟩
    rw [decodePool_encode_append, if_neg hne, hmsg]
    rfl

theorem pools_decode_sample :
    (∃ e, decodePool [7] = fail e) ∧
      effectiveQuoteReserves 10 (BitVec.ofInt 128 (-3)).toInt = .ok 7 ∧
      ∃ e, effectiveQuoteReserves 10 (BitVec.ofInt 128 (-11)).toInt = fail e :=
  ⟨pools_decode.2.1 [7] (by decide),
    ((pools_decode.2.2 10 (BitVec.ofInt 128 (-3))).1 7).mpr (by decide),
    (pools_decode.2.2 10 (BitVec.ofInt 128 (-11))).2.2 (by decide)⟩

end PumpSwap
end Solana
end TradingAggregators
