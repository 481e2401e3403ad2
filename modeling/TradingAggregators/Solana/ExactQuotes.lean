import TradingAggregators.Market.ConstantProduct
import TradingAggregators.Market.Rounding
import TradingAggregators.Rust.Exact
import TradingAggregators.Solana.Dexes.PumpFun
import TradingAggregators.Solana.Dexes.PumpSwap

/-!
# The quote formulas on machine words

The formulas of `dexes/common.rs` and the two `compute_quote`s once more, step by step on `u64`
and `u128`, where every step has to be exact.

* `curveOutExact_eq`, `feeFloorExact_eq`, `feeCeilExact_eq`, `slippageDownExact_eq`: within the
  bounds of their callers the formulas lose nothing, and their values are the ones on naturals.
* `PumpFun.computeQuoteExact`, `PumpSwap.computeQuoteExact`: the two quotes.
-/

namespace TradingAggregators
namespace Solana

open ConstantProduct Interaction Rounding Rust Rust.Exact

variable {ε : Type}

/-! ## Formulas -/

/-- `reserve_out * n / (reserve_in + n)` as `u128`, cast back. -/
def curveOutExact (reserveIn reserveOut n : UInt64) : Result ε UInt64 := do
  let product ← mul128 (widen reserveOut) (widen n)
  let total ← add128 (widen reserveIn) (widen n)
  let quotient ← div128 product total
  narrow quotient

def baseOutForQuoteInExact (quoteReserve baseReserve quoteIn : UInt64) : Result ε UInt64 :=
  if quoteIn = 0 ∨ quoteReserve = 0 ∨ baseReserve = 0 then pure 0
  else curveOutExact quoteReserve baseReserve quoteIn

def quoteOutForBaseInExact (quoteReserve baseReserve baseIn : UInt64) : Result ε UInt64 :=
  if baseIn = 0 ∨ quoteReserve = 0 ∨ baseReserve = 0 then pure 0
  else curveOutExact baseReserve quoteReserve baseIn

def feeFloorExact (amount bps : UInt64) : Result ε UInt64 := do
  let product ← mul128 (widen amount) (widen bps)
  let quotient ← div128 product 10000
  narrow quotient

def feeCeilExact (amount bps : UInt64) : Result ε UInt64 := do
  let product ← mul128 (widen amount) (widen bps)
  let quotient ← divCeil128 product 10000
  narrow quotient

def slippageDownExact (x bps : UInt64) : Result ε UInt64 := do
  let product ← mul128 (widen x) (widen bps)
  let quotient ← div128 product 10000
  let loss ← narrow quotient
  Exact.sub64 x loss

theorem curveOutExact_eq {reserveIn : UInt64} (h : reserveIn ≠ 0) (reserveOut n : UInt64) :
    (curveOutExact reserveIn reserveOut n : Result ε UInt64) =
      .ok (UInt64.ofNat (reserveOut.toNat * n.toNat / (reserveIn.toNat + n.toNat))) := by
  have hin : 0 < reserveIn.toNat := UInt64.pos_iff_ne_zero.mpr h
  have hin' := reserveIn.toNat_lt
  have hn := n.toNat_lt
  have hout := reserveOut.toNat_lt
  have hprod : reserveOut.toNat * n.toNat < 2 ^ 64 * 2 ^ 64 := Nat.mul_lt_mul'' hout hn
  have hle : reserveOut.toNat * n.toNat / (reserveIn.toNat + n.toNat) ≤ reserveOut.toNat := by
    rw [Nat.mul_comm]
    exact output_le _ _ _
  rw [curveOutExact, mul128_widen, ok_bind,
    add128_eq_ok (toNat_widen reserveIn) (toNat_widen n) (by omega), ok_bind,
    div128_eq_ok (toNat_word (by omega)) (toNat_word (by omega)) (by omega), ok_bind,
    narrow_eq_ok (toNat_word (by omega)) (by omega)]

theorem baseOutForQuoteInExact_eq (quoteReserve baseReserve quoteIn : UInt64) :
    (baseOutForQuoteInExact quoteReserve baseReserve quoteIn : Result ε UInt64) =
      .ok (baseOutForQuoteIn quoteReserve baseReserve quoteIn) := by
  unfold baseOutForQuoteInExact baseOutForQuoteIn
  split_ifs with h
  · rfl
  · rw [not_or, not_or] at h
    exact curveOutExact_eq h.2.1 _ _

theorem quoteOutForBaseInExact_eq (quoteReserve baseReserve baseIn : UInt64) :
    (quoteOutForBaseInExact quoteReserve baseReserve baseIn : Result ε UInt64) =
      .ok (quoteOutForBaseIn quoteReserve baseReserve baseIn) := by
  unfold quoteOutForBaseInExact quoteOutForBaseIn
  split_ifs with h
  · rfl
  · rw [not_or, not_or] at h
    exact curveOutExact_eq h.2.2 _ _

/-- A share of at most the whole, cast back. -/
theorem shareExact_eq {amount bps : UInt64} (h : bps.toNat ≤ 10000) :
    (do
      let quotient ← div128 (BitVec.ofNat 128 (amount.toNat * bps.toNat)) 10000
      narrow quotient : Result ε UInt64) = .ok (feeFloor amount bps) := by
  have hamount := amount.toNat_lt
  have hprod : amount.toNat * bps.toNat ≤ amount.toNat * 10000 := Nat.mul_le_mul_left _ h
  have hle : amount.toNat * bps.toNat / 10000 ≤ amount.toNat := shareDown_le h
  rw [div128_eq_ok (toNat_word (by omega)) (show (10000 : Word128).toNat = 10000 from rfl)
    (by omega), ok_bind, narrow_eq_ok (toNat_word (by omega)) (by omega), feeFloor]

theorem feeFloorExact_eq {amount bps : UInt64} (h : bps.toNat ≤ 10000) :
    (feeFloorExact amount bps : Result ε UInt64) = .ok (feeFloor amount bps) := by
  rw [feeFloorExact, mul128_widen, ok_bind, shareExact_eq h]

theorem feeCeilExact_eq {amount bps : UInt64} (h : bps.toNat ≤ 10000) :
    (feeCeilExact amount bps : Result ε UInt64) = .ok (feeCeil amount bps) := by
  have hamount := amount.toNat_lt
  have hprod : amount.toNat * bps.toNat ≤ amount.toNat * 10000 := Nat.mul_le_mul_left _ h
  have hle : (amount.toNat * bps.toNat + (10000 - 1)) / 10000 ≤ amount.toNat := shareUp_le h
  rw [feeCeilExact, mul128_widen, ok_bind, divCeil128_eq_ok (toNat_word (by omega))
    (show (10000 : Word128).toNat = 10000 from rfl) (by omega) (by omega), ok_bind,
    narrow_eq_ok (toNat_word (by omega)) (by omega), feeCeil]

theorem toNat_feeFloor {amount bps : UInt64} (h : bps.toNat ≤ 10000) :
    (feeFloor amount bps).toNat = shareDown 10000 amount.toNat bps.toNat := by
  have hamount := amount.toNat_lt
  have hle : shareDown 10000 amount.toNat bps.toNat ≤ amount.toNat := shareDown_le h
  rw [feeFloor, UInt64.toNat_ofNat']
  exact Nat.mod_eq_of_lt (lt_of_le_of_lt hle hamount)

theorem toNat_feeCeil {amount bps : UInt64} (h : bps.toNat ≤ 10000) :
    (feeCeil amount bps).toNat = shareUp 10000 amount.toNat bps.toNat := by
  have hamount := amount.toNat_lt
  have hle : shareUp 10000 amount.toNat bps.toNat ≤ amount.toNat := shareUp_le h
  rw [feeCeil, UInt64.toNat_ofNat']
  exact Nat.mod_eq_of_lt (lt_of_le_of_lt hle hamount)

theorem feeFloor_le {amount bps : UInt64} (h : bps.toNat ≤ 10000) :
    feeFloor amount bps ≤ amount := by
  rw [UInt64.le_iff_toNat_le, toNat_feeFloor h]
  exact shareDown_le h

theorem slippageDownExact_eq {x bps : UInt64} (h : bps.toNat ≤ 10000) :
    (slippageDownExact x bps : Result ε UInt64) = .ok (x - feeFloor x bps) := by
  rw [slippageDownExact, mul128_widen, ok_bind, ← bind_assoc, shareExact_eq h, ok_bind,
    Exact.sub64_eq_ok (feeFloor_le h)]

/-- The slippage formula of the code, in every build. -/
theorem slippageDown_eq [Profile] {x bps : UInt64} (h : bps.toNat ≤ 10000) :
    (slippageDown x bps : Result ε UInt64) = .ok (x - feeFloor x bps) :=
  plain_of_exact (feeFloor_le h) _

/-! ## The two quotes -/

namespace PumpFun

def solIntoCurveExact (amount totalBps : UInt64) : Result ε UInt64 := do
  let product ← mul128 (widen (saturatingSub64 amount 1)) 10000
  let divisor ← add128 (widen totalBps) 10000
  let quotient ← div128 product divisor
  narrow quotient

/-- The creator's fee on a sell, if a creator is set. -/
def creatorFeeExact (curve : Curve) (fees : FeeSettings) (grossSolOut : UInt64) :
    Result ε UInt64 :=
  if curve.creator ≠ .zero 32 then feeCeilExact grossSolOut fees.creatorBps else pure 0

def computeQuoteExact (curve : Curve) (fees : FeeSettings) (side : Side)
    (amount slippageBps : UInt64) : Result AnyError Quote :=
  match side with
  | .buy => do
      let totalBps ← Exact.add64 fees.protocolBps
        (if curve.creator ≠ .zero 32 then fees.creatorBps else 0)
      let solIntoCurve ← solIntoCurveExact amount totalBps
      let curveOutput ← baseOutForQuoteInExact curve.quoteReserves curve.baseReserves
        solIntoCurve
      let expectedOut := min curveOutput curve.realTokenReserves
      let minOut ← slippageDownExact expectedOut slippageBps
      pure {
        inAmount := amount
        usdValue := none
        applicationFee := 0
        sponsorshipFee := 0
        expectedOut := expectedOut
        minOut := minOut
        fee := saturatingSub64 amount solIntoCurve }
  | .sell => do
      let grossSolOut ← quoteOutForBaseInExact curve.quoteReserves curve.baseReserves amount
      let protocolFee ← feeCeilExact grossSolOut fees.protocolBps
      let creatorFee ← creatorFeeExact curve fees grossSolOut
      let fee ← Exact.add64 protocolFee creatorFee
      let expectedOut := saturatingSub64 grossSolOut fee
      let minOut ← slippageDownExact expectedOut slippageBps
      pure {
        inAmount := amount
        usdValue := none
        applicationFee := 0
        sponsorshipFee := 0
        expectedOut := expectedOut
        minOut := minOut
        fee := fee }

end PumpFun

namespace PumpSwap

def poolFeeExact (fees : FeeSettings) (creatorBps amount : UInt64) : Result ε UInt64 := do
  let lpFee ← feeFloorExact amount fees.lpBps
  let protocolFee ← feeFloorExact amount fees.protocolBps
  let fee ← Exact.add64 lpFee protocolFee
  let creatorFee ← feeFloorExact amount creatorBps
  Exact.add64 fee creatorFee

def quoteIntoPoolExact (fees : FeeSettings) (creatorBps amount : UInt64) :
    Result ε UInt64 := do
  let lpAndProtocol ← Exact.add64 fees.lpBps fees.protocolBps
  let totalBps ← Exact.add64 lpAndProtocol creatorBps
  let product ← mul128 (widen amount) 10000
  let divisor ← add128 10000 (widen totalBps)
  let quotient ← div128 product divisor
  let quoteIntoPool ← narrow quotient
  let fee ← poolFeeExact fees creatorBps quoteIntoPool
  let cost ← Exact.add64 quoteIntoPool fee
  if cost > amount then do
    let cost ← Exact.add64 quoteIntoPool fee
    let excess ← Exact.sub64 cost amount
    pure (saturatingSub64 quoteIntoPool excess)
  else pure quoteIntoPool

def computeQuoteExact (pool : PoolState) (fees : FeeSettings) (side : Side)
    (amount slippageBps : UInt64) : Result AnyError Quote :=
  let creatorBps := if pool.coinCreator ≠ .zero 32 then fees.creatorBps else 0
  match side with
  | .buy => do
      let quoteIntoPool ← quoteIntoPoolExact fees creatorBps amount
      let expectedOut ← baseOutForQuoteInExact pool.quoteReserves pool.baseReserves
        (saturatingSub64 quoteIntoPool 1)
      let minOut ← slippageDownExact expectedOut slippageBps
      pure {
        inAmount := amount
        usdValue := none
        applicationFee := 0
        sponsorshipFee := 0
        expectedOut := expectedOut
        minOut := minOut
        fee := saturatingSub64 amount quoteIntoPool }
  | .sell => do
      let grossQuoteOut ← quoteOutForBaseInExact pool.quoteReserves pool.baseReserves amount
      let fee ← poolFeeExact fees creatorBps grossQuoteOut
      let expectedOut := saturatingSub64 grossQuoteOut fee
      let minOut ← slippageDownExact expectedOut slippageBps
      pure {
        inAmount := amount
        usdValue := none
        applicationFee := 0
        sponsorshipFee := 0
        expectedOut := expectedOut
        minOut := minOut
        fee := fee }

end PumpSwap
end Solana
end TradingAggregators
