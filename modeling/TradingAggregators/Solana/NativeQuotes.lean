import TradingAggregators.Solana.CurveQuote
import TradingAggregators.Solana.ExactQuotes
import TradingAggregators.Solana.Sources.Common

/-!
# Native quotes are arithmetically sound

For fees that total at most 10000 bps and a slippage below that, both venues' quotes are
computed without a loss in every build, and their amounts add up.

## 1.  Slippage, buys and sells

`SlippageSound`, `BuySound`, `SellSound`: what is claimed of a quote, and why the shared
formulas give it.

## 2.  Pump.fun

`PumpFun.buy_sound`, `PumpFun.sell_sound`: fees are rounded up, so a buy puts one lamport
aside.

## 3.  PumpSwap

`PumpSwap.buy_sound`, `PumpSwap.sell_sound`: fees are rounded down, and the correction of a
buy never fires.
-/

namespace TradingAggregators
namespace Solana

open ConstantProduct Interaction Rounding Rust Rust.Exact

/-! ## 1.  Slippage, buys and sells -/

/-- `minOut` is the expected output less the slippage, rounded up by at most one, and the quote
passes the check that aggregator quotes have to pass. -/
structure SlippageSound (slippageBps : UInt64) (q : Quote) : Prop where
  floor_le : q.expectedOut.toNat * (10000 - slippageBps.toNat) / 10000 ≤ q.minOut.toNat
  le_floor : q.minOut.toNat ≤ q.expectedOut.toNat * (10000 - slippageBps.toNat) / 10000 + 1
  le_expected : q.minOut ≤ q.expectedOut
  zero_iff : q.minOut = 0 ↔ q.expectedOut = 0
  validated : ∀ venue trade, trade.Valid → trade.amount = q.inAmount →
    trade.slippageBps = slippageBps → 0 < q.expectedOut →
    validatedQuote venue trade q.inAmount q.expectedOut q.minOut = .ok { q with fee := 0 }

/-- What a buy spends: the pool's input and the venue's fees on it stay within the amount, the
reported fee is the rest, and the pool keeps some of its tokens. -/
structure BuySound (amount poolInput : UInt64) (venueFees : ℕ) (baseReserves : UInt64)
    (q : Quote) : Prop where
  covered : poolInput.toNat + venueFees ≤ amount.toNat
  rest : poolInput.toNat + q.fee.toNat = amount.toNat
  output : q.expectedOut = 0 ∨ q.expectedOut < baseReserves

/-- What a sell pays: the output and the reported fee are the gross output of the pool, which
keeps some of its quote tokens. -/
structure SellSound (gross quoteReserves : UInt64) (q : Quote) : Prop where
  gross_eq : 0 < q.minOut → q.expectedOut.toNat + q.fee.toNat = gross.toNat
  reserve : 0 < q.minOut → gross < quoteReserves

/-- The quote of either venue, from its expected output and its fee. -/
def nativeQuote (amount slippageBps expectedOut fee : UInt64) : Quote where
  inAmount := amount
  usdValue := none
  applicationFee := 0
  sponsorshipFee := 0
  expectedOut := expectedOut
  minOut := expectedOut - feeFloor expectedOut slippageBps
  fee := fee

theorem slippageSound {slippageBps : UInt64} (hslip : slippageBps < basisPoints)
    (amount expectedOut fee : UInt64) :
    SlippageSound slippageBps (nativeQuote amount slippageBps expectedOut fee) := by
  have hbps : slippageBps.toNat < 10000 := UInt64.lt_iff_toNat_lt.mp hslip
  have hle : feeFloor expectedOut slippageBps ≤ expectedOut := feeFloor_le hbps.le
  have hnat : (expectedOut - feeFloor expectedOut slippageBps).toNat =
      expectedOut.toNat - shareDown 10000 expectedOut.toNat slippageBps.toNat := by
    rw [UInt64.toNat_sub_of_le _ _ hle, toNat_feeFloor hbps.le]
  have hbounds : shareDown 10000 expectedOut.toNat (10000 - slippageBps.toNat) ≤
        (expectedOut - feeFloor expectedOut slippageBps).toNat ∧
      (expectedOut - feeFloor expectedOut slippageBps).toNat ≤
        shareDown 10000 expectedOut.toNat (10000 - slippageBps.toNat) + 1 := by
    rw [hnat]
    exact sub_shareDown_bounds (by omega) hbps.le
  have hzero : expectedOut - feeFloor expectedOut slippageBps = 0 ↔ expectedOut = 0 := by
    rw [← UInt64.toNat_inj, ← UInt64.toNat_inj, hnat]
    exact sub_shareDown_eq_zero_iff hbps
  have hexpected : expectedOut - feeFloor expectedOut slippageBps ≤ expectedOut := by
    rw [UInt64.le_iff_toNat_le, hnat]
    exact Nat.sub_le _ _
  refine ⟨hbounds.1, hbounds.2, hexpected, hzero, ?_⟩
  intro venue trade hvalid hamount hs hpos
  have hrest : (basisPoints - trade.slippageBps).toNat = 10000 - slippageBps.toNat := by
    rw [hs, UInt64.toNat_sub_of_le _ _ (UInt64.le_of_lt hslip)]
    rfl
  have hpasses : ¬ (amount ≠ trade.amount ∨
      expectedOut - feeFloor expectedOut slippageBps = 0 ∨
      expectedOut - feeFloor expectedOut slippageBps > expectedOut ∨
      (expectedOut - feeFloor expectedOut slippageBps).toNat <
        expectedOut.toNat * (basisPoints - trade.slippageBps).toNat / basisPoints.toNat) := by
    rintro (h | h | h | h)
    · exact h hamount.symm
    · exact UInt64.pos_iff_ne_zero.mp hpos (hzero.mp h)
    · exact absurd hexpected (UInt64.not_le.mpr h)
    · rw [hrest] at h
      exact absurd hbounds.1 (not_le.mpr h)
  exact bind_eq_ok.mpr ⟨(), Trade.validate_eq_ok.mpr hvalid,
    bind_eq_ok.mpr ⟨(), failIf_neg hpasses _, rfl⟩⟩

theorem baseOut_eq_zero_or_lt (quoteReserve baseReserve quoteIn : UInt64) :
    baseOutForQuoteIn quoteReserve baseReserve quoteIn = 0 ∨
      baseOutForQuoteIn quoteReserve baseReserve quoteIn < baseReserve := by
  by_cases hquote : quoteReserve = 0
  · left
    exact if_pos (Or.inr (Or.inl hquote))
  by_cases hbase : baseReserve = 0
  · left
    exact if_pos (Or.inr (Or.inr hbase))
  right
  rw [UInt64.lt_iff_toNat_lt, PumpFun.toNat_baseOutForQuoteIn, if_neg hquote]
  exact output_lt (UInt64.pos_iff_ne_zero.mpr hquote) (UInt64.pos_iff_ne_zero.mpr hbase) _

theorem quoteOutForBaseIn_eq (quoteReserve baseReserve baseIn : UInt64) :
    quoteOutForBaseIn quoteReserve baseReserve baseIn =
      baseOutForQuoteIn baseReserve quoteReserve baseIn := by
  unfold quoteOutForBaseIn baseOutForQuoteIn
  exact if_congr (or_congr_right or_comm) rfl rfl

/-- The gross output of a sell is zero or leaves something in the reserve. -/
theorem quoteOut_eq_zero_or_lt (quoteReserve baseReserve baseIn : UInt64) :
    quoteOutForBaseIn quoteReserve baseReserve baseIn = 0 ∨
      quoteOutForBaseIn quoteReserve baseReserve baseIn < quoteReserve := by
  rw [quoteOutForBaseIn_eq]
  exact baseOut_eq_zero_or_lt _ _ _

theorem toNat_saturatingSub64 (a b : UInt64) :
    (saturatingSub64 a b).toNat = a.toNat - b.toNat := by
  have hlt := a.toNat_lt
  rw [saturatingSub64, UInt64.toNat_ofNat', Nat.mod_eq_of_lt (by omega)]

/-- A positive output of a sell is the gross output less the fee, nothing being cut off. -/
theorem sellSound {gross quoteReserves slippageBps : UInt64} {q : Quote}
    (hslip : SlippageSound slippageBps q) (hout : q.expectedOut = saturatingSub64 gross q.fee)
    (hgross : gross = 0 ∨ gross < quoteReserves) : SellSound gross quoteReserves q := by
  have hpositive : 0 < q.minOut → q.fee.toNat < gross.toNat := by
    intro hpos
    have hmin := UInt64.lt_iff_toNat_lt.mp hpos
    have hle := UInt64.le_iff_toNat_le.mp hslip.le_expected
    rw [hout, toNat_saturatingSub64] at hle
    have h0 : (0 : UInt64).toNat = 0 := rfl
    omega
  constructor
  · intro hpos
    have hlt := hpositive hpos
    rw [hout, toNat_saturatingSub64]
    omega
  · intro hpos
    have hlt := hpositive hpos
    rcases hgross with rfl | h
    · exact absurd hlt (Nat.not_lt_zero _)
    · exact h

/-- The creator's fee, which only a creator that is set gets. -/
def appliedCreatorBps (creator : Pubkey) (creatorBps : UInt64) : UInt64 :=
  if creator ≠ .zero 32 then creatorBps else 0

/-! ## 2.  Pump.fun -/

theorem feeCeil_zero (amount : UInt64) : feeCeil amount 0 = 0 := by
  show UInt64.ofNat ((amount.toNat * 0 + 9999) / 10000) = 0
  rw [Nat.mul_zero]
  rfl

namespace PumpFun

/-- A quote that every build computes, and that loses nothing. -/
def Computes (curve : Curve) (fees : FeeSettings) (side : Side) (amount slippageBps : UInt64)
    (q : Quote) : Prop :=
  computeQuoteExact curve fees side amount slippageBps = .ok q ∧
    ∀ _ : Profile, computeQuote curve fees side amount slippageBps = .ok q

/-- The bps of the two fees of a curve. -/
def appliedBps (curve : Curve) (fees : FeeSettings) : ℕ :=
  fees.protocolBps.toNat + (appliedCreatorBps curve.creator fees.creatorBps).toNat

/-- The venue's fees on an amount, each rounded up. -/
def venueFees (curve : Curve) (fees : FeeSettings) (amount : UInt64) : ℕ :=
  (feeCeil amount fees.protocolBps).toNat +
    (feeCeil amount (appliedCreatorBps curve.creator fees.creatorBps)).toNat

/-- What is claimed of the two quotes of a curve. -/
structure QuotesSound (curve : Curve) (fees : FeeSettings) (amount slippageBps : UInt64) :
    Prop where
  buy : ∃ q, Computes curve fees .buy amount slippageBps q ∧ SlippageSound slippageBps q ∧
    q.expectedOut ≤ curve.realTokenReserves ∧
    ∃ total, (∀ _ : Profile, totalBps curve fees = .ok total) ∧
      BuySound amount (solIntoCurve amount total)
        (venueFees curve fees (solIntoCurve amount total)) curve.baseReserves q
  sell : ∃ q, Computes curve fees .sell amount slippageBps q ∧ SlippageSound slippageBps q ∧
    SellSound (quoteOutForBaseIn curve.quoteReserves curve.baseReserves amount)
      curve.quoteReserves q

theorem solIntoCurveExact_eq (amount totalBps : UInt64) :
    (solIntoCurveExact amount totalBps : Result AnyError UInt64) =
      .ok (solIntoCurve amount totalBps) := by
  have hamount := amount.toNat_lt
  have htotal := totalBps.toNat_lt
  have hpred : (widen (saturatingSub64 amount 1)).toNat = amount.toNat - 1 := by
    rw [toNat_widen, toNat_saturatingSub64]
    rfl
  have hten : (10000 : Word128).toNat = 10000 := rfl
  have hle : (amount.toNat - 1) * 10000 / (totalBps.toNat + 10000) ≤ amount.toNat - 1 := by
    rw [Nat.add_comm]
    exact net_le 10000 _ _
  rw [solIntoCurveExact, mul128_eq_ok hpred hten (by omega), ok_bind,
    add128_eq_ok (toNat_widen totalBps) hten (by omega), ok_bind,
    div128_eq_ok (toNat_word (by omega)) (toNat_word (by omega)) (by omega), ok_bind,
    narrow_eq_ok (toNat_word (by omega)) (by omega), solIntoCurve]

/-- **Pump.fun buys are sound.** -/
theorem buy_sound (curve : Curve) (fees : FeeSettings) {amount slippageBps : UInt64}
    (hamount : 0 < amount) (hslip : slippageBps < basisPoints)
    (hbps : appliedBps curve fees ≤ 10000) :
    ∃ q, Computes curve fees .buy amount slippageBps q ∧ SlippageSound slippageBps q ∧
      q.expectedOut ≤ curve.realTokenReserves ∧
      ∃ total, (∀ _ : Profile, totalBps curve fees = .ok total) ∧
        BuySound amount (solIntoCurve amount total)
          (venueFees curve fees (solIntoCurve amount total)) curve.baseReserves q := by
  have hslipNat : slippageBps.toNat ≤ 10000 := UInt64.le_iff_toNat_le.mp (UInt64.le_of_lt hslip)
  have hpos : 0 < amount.toNat := UInt64.lt_iff_toNat_lt.mp hamount
  let creatorBps := appliedCreatorBps curve.creator fees.creatorBps
  have htotal : fees.protocolBps.toNat + creatorBps.toNat ≤ 10000 := hbps
  have hfit : fees.protocolBps.toNat + creatorBps.toNat < 2 ^ 64 := by omega
  have hadd : (fees.protocolBps + creatorBps).toNat =
      fees.protocolBps.toNat + creatorBps.toNat := toNat_add_of_fit hfit
  let poolInput := solIntoCurve amount (fees.protocolBps + creatorBps)
  have hinto : poolInput.toNat =
      net 10000 (amount.toNat - 1) (fees.protocolBps.toNat + creatorBps.toNat) := by
    rw [toNat_solIntoCurve, hadd, Nat.add_comm _ 10000, net]
  have hle : poolInput.toNat ≤ amount.toNat - 1 := hinto ▸ net_le _ _ _
  let curveOutput := baseOutForQuoteIn curve.quoteReserves curve.baseReserves poolInput
  have hcapped : (min curveOutput curve.realTokenReserves).toNat ≤ curveOutput.toNat :=
    toNat_min_le.mpr (Or.inl le_rfl)
  refine ⟨nativeQuote amount slippageBps (min curveOutput curve.realTokenReserves)
    (saturatingSub64 amount poolInput), ⟨?_, ?_⟩, slippageSound hslip _ _ _, ?_,
    fees.protocolBps + creatorBps, fun _ => plain_of_exact hfit _, ⟨?_, ?_, ?_⟩⟩
  · exact bind_eq_ok.mpr ⟨_, Exact.add64_eq_ok hfit, bind_eq_ok.mpr ⟨_, solIntoCurveExact_eq _ _,
      bind_eq_ok.mpr ⟨_, baseOutForQuoteInExact_eq _ _ _,
        bind_eq_ok.mpr ⟨_, slippageDownExact_eq hslipNat, rfl⟩⟩⟩⟩
  · intro _
    exact bind_eq_ok.mpr ⟨_, plain_of_exact hfit _,
      bind_eq_ok.mpr ⟨_, slippageDown_eq hslipNat, rfl⟩⟩
  · exact UInt64.le_iff_toNat_le.mpr (toNat_min_le.mpr (Or.inr le_rfl))
  · show poolInput.toNat + ((feeCeil poolInput fees.protocolBps).toNat +
      (feeCeil poolInput creatorBps).toNat) ≤ amount.toNat
    rw [toNat_feeCeil (by omega), toNat_feeCeil (by omega), hinto]
    exact net_add_shareUps_le (by omega) hpos
  · show poolInput.toNat + (saturatingSub64 amount poolInput).toNat = amount.toNat
    rw [toNat_saturatingSub64]
    omega
  · rcases baseOut_eq_zero_or_lt curve.quoteReserves curve.baseReserves poolInput with h | h
    · left
      refine UInt64.toNat_inj.mp (Nat.le_zero.mp (hcapped.trans_eq ?_))
      exact congrArg UInt64.toNat h
    · right
      exact UInt64.lt_iff_toNat_lt.mpr (lt_of_le_of_lt hcapped (UInt64.lt_iff_toNat_lt.mp h))

/-- **Pump.fun sells are sound.** -/
theorem sell_sound (curve : Curve) (fees : FeeSettings) {slippageBps : UInt64} (amount : UInt64)
    (hslip : slippageBps < basisPoints) (hbps : appliedBps curve fees ≤ 10000) :
    ∃ q, Computes curve fees .sell amount slippageBps q ∧ SlippageSound slippageBps q ∧
      SellSound (quoteOutForBaseIn curve.quoteReserves curve.baseReserves amount)
        curve.quoteReserves q := by
  have hslipNat : slippageBps.toNat ≤ 10000 := UInt64.le_iff_toNat_le.mp (UInt64.le_of_lt hslip)
  let creatorBps := appliedCreatorBps curve.creator fees.creatorBps
  have htotal : fees.protocolBps.toNat + creatorBps.toNat ≤ 10000 := hbps
  let gross := quoteOutForBaseIn curve.quoteReserves curve.baseReserves amount
  have hgross : gross = 0 ∨ gross < curve.quoteReserves := quoteOut_eq_zero_or_lt _ _ _
  -- The two fees exceed the gross output by one unit at most, which the reserve leaves room for.
  have hfit : (feeCeil gross fees.protocolBps).toNat + (feeCeil gross creatorBps).toNat <
      2 ^ 64 := by
    have hups := shareUps_le (d := 10000) (by omega) (Nat.mul_le_mul_left gross.toNat htotal)
    have hreserve := curve.quoteReserves.toNat_lt
    have hsmall : gross.toNat + 1 < 2 ^ 64 := by
      rcases hgross with h | h
      · rw [h]
        decide
      · have hlt := UInt64.lt_iff_toNat_lt.mp h
        omega
    rw [toNat_feeCeil (by omega), toNat_feeCeil (by omega)]
    omega
  have hcreator : (if curve.creator ≠ .zero 32 then feeCeil gross fees.creatorBps else 0) =
      feeCeil gross creatorBps := by
    show _ = feeCeil gross (if curve.creator ≠ .zero 32 then fees.creatorBps else 0)
    split_ifs
    · rfl
    · exact (feeCeil_zero gross).symm
  have hcreatorExact : (creatorFeeExact curve fees gross : Result AnyError UInt64) =
      .ok (feeCeil gross creatorBps) := by
    rw [← feeCeilExact_eq (show creatorBps.toNat ≤ 10000 by omega), creatorFeeExact]
    show _ = feeCeilExact gross (if curve.creator ≠ .zero 32 then fees.creatorBps else 0)
    split_ifs
    · rfl
    · rw [feeCeilExact_eq (by decide), feeCeil_zero]
      rfl
  have hq := slippageSound hslip amount (saturatingSub64 gross
    (feeCeil gross fees.protocolBps + feeCeil gross creatorBps))
    (feeCeil gross fees.protocolBps + feeCeil gross creatorBps)
  refine ⟨_, ⟨?_, ?_⟩, hq, sellSound hq rfl hgross⟩
  · exact bind_eq_ok.mpr ⟨_, quoteOutForBaseInExact_eq _ _ _,
      bind_eq_ok.mpr ⟨_, feeCeilExact_eq (by omega), bind_eq_ok.mpr ⟨_, hcreatorExact,
        bind_eq_ok.mpr ⟨_, Exact.add64_eq_ok hfit,
          bind_eq_ok.mpr ⟨_, slippageDownExact_eq hslipNat, rfl⟩⟩⟩⟩⟩
  · intro _
    refine bind_eq_ok.mpr ⟨_, ?_, bind_eq_ok.mpr ⟨_, slippageDown_eq hslipNat, rfl⟩⟩
    show Rust.add64 _ (if curve.creator ≠ .zero 32 then feeCeil gross fees.creatorBps else 0) = _
    rw [hcreator]
    exact plain_of_exact hfit _

end PumpFun

/-! ## 3.  PumpSwap -/

namespace PumpSwap

/-- A quote that every build computes, and that loses nothing. -/
def Computes (pool : PoolState) (fees : FeeSettings) (side : Side) (amount slippageBps : UInt64)
    (q : Quote) : Prop :=
  computeQuoteExact pool fees side amount slippageBps = .ok q ∧
    ∀ _ : Profile, computeQuote pool fees side amount slippageBps = .ok q

/-- The bps of the three fees of a pool. -/
def appliedBps (pool : PoolState) (fees : FeeSettings) : ℕ :=
  fees.lpBps.toNat + fees.protocolBps.toNat +
    (appliedCreatorBps pool.coinCreator fees.creatorBps).toNat

/-- The venue's fees on an amount, each rounded down. -/
def venueFees (pool : PoolState) (fees : FeeSettings) (amount : UInt64) : ℕ :=
  (feeFloor amount fees.lpBps).toNat + (feeFloor amount fees.protocolBps).toNat +
    (feeFloor amount (appliedCreatorBps pool.coinCreator fees.creatorBps)).toNat

/-- What is claimed of the two quotes of a pool; the input of a buy is the uncorrected one. -/
structure QuotesSound (pool : PoolState) (fees : FeeSettings) (amount slippageBps : UInt64) :
    Prop where
  buy : ∃ q, Computes pool fees .buy amount slippageBps q ∧ SlippageSound slippageBps q ∧
    ∃ poolInput, (∀ _ : Profile, quoteIntoPool fees
        (appliedCreatorBps pool.coinCreator fees.creatorBps) amount = .ok poolInput) ∧
      poolInput.toNat = amount.toNat * 10000 / (10000 + appliedBps pool fees) ∧
      BuySound amount poolInput (venueFees pool fees poolInput) pool.baseReserves q
  sell : ∃ q, Computes pool fees .sell amount slippageBps q ∧ SlippageSound slippageBps q ∧
    SellSound (quoteOutForBaseIn pool.quoteReserves pool.baseReserves amount)
      pool.quoteReserves q

variable {pool : PoolState} {fees : FeeSettings}

theorem venueFees_le (hbps : appliedBps pool fees ≤ 10000) (amount : UInt64) :
    venueFees pool fees amount ≤ shareDown 10000 amount.toNat (appliedBps pool fees) := by
  unfold appliedBps at hbps
  rw [venueFees, toNat_feeFloor (by omega), toNat_feeFloor (by omega),
    toNat_feeFloor (by omega)]
  have hadd := shareDown_add_le 10000 amount.toNat fees.lpBps.toNat fees.protocolBps.toNat
  have hadd' := shareDown_add_le 10000 amount.toNat (fees.lpBps.toNat + fees.protocolBps.toNat)
    (appliedCreatorBps pool.coinCreator fees.creatorBps).toNat
  rw [appliedBps]
  omega

/-- Three words that are added from left to right. -/
theorem sum_fits {a b c : UInt64} (h : a.toNat + b.toNat + c.toNat < 2 ^ 64) :
    a.toNat + b.toNat < 2 ^ 64 ∧ (a + b).toNat + c.toNat < 2 ^ 64 ∧
      (a + b + c).toNat = a.toNat + b.toNat + c.toNat := by
  have hfit : a.toNat + b.toNat < 2 ^ 64 := by omega
  have hsum : (a + b).toNat = a.toNat + b.toNat := toNat_add_of_fit hfit
  have hfit' : (a + b).toNat + c.toNat < 2 ^ 64 := by
    rw [hsum]
    exact h
  refine ⟨hfit, hfit', ?_⟩
  rw [toNat_add_of_fit hfit', hsum]

/-- The three fees on an amount are added without a loss, and in every build. -/
theorem poolFee_eq (hbps : appliedBps pool fees ≤ 10000) (amount : UInt64) :
    ∃ fee : UInt64, fee.toNat = venueFees pool fees amount ∧
      (poolFeeExact fees (appliedCreatorBps pool.coinCreator fees.creatorBps) amount :
        Result AnyError UInt64) = .ok fee ∧
      ∀ _ : Profile, poolFee fees (appliedCreatorBps pool.coinCreator fees.creatorBps) amount =
        .ok fee := by
  let creatorBps := appliedCreatorBps pool.coinCreator fees.creatorBps
  have htotal : fees.lpBps.toNat + fees.protocolBps.toNat + creatorBps.toNat ≤ 10000 := hbps
  have hfees : (feeFloor amount fees.lpBps).toNat + (feeFloor amount fees.protocolBps).toNat +
      (feeFloor amount creatorBps).toNat ≤ amount.toNat :=
    le_trans (venueFees_le hbps amount) (shareDown_le hbps)
  obtain ⟨hfit, hfit', hsum⟩ := sum_fits (lt_of_le_of_lt hfees amount.toNat_lt)
  refine ⟨feeFloor amount fees.lpBps + feeFloor amount fees.protocolBps +
    feeFloor amount creatorBps, hsum, ?_, ?_⟩
  · exact bind_eq_ok.mpr ⟨_, feeFloorExact_eq (by omega), bind_eq_ok.mpr ⟨_,
      feeFloorExact_eq (by omega), bind_eq_ok.mpr ⟨_, Exact.add64_eq_ok hfit,
        bind_eq_ok.mpr ⟨_, feeFloorExact_eq (show creatorBps.toNat ≤ 10000 by omega),
          Exact.add64_eq_ok hfit'⟩⟩⟩⟩
  · intro _
    exact bind_eq_ok.mpr ⟨_, plain_of_exact hfit _, plain_of_exact hfit' _⟩

/-- The net amount leaves room for the fees on it. -/
theorem net_covers_fees (hbps : appliedBps pool fees ≤ 10000) {amount poolInput : UInt64}
    (hinput : poolInput.toNat = net 10000 amount.toNat (appliedBps pool fees)) :
    poolInput.toNat + venueFees pool fees poolInput ≤ amount.toNat := by
  have hfees := venueFees_le hbps poolInput
  have hroom := net_add_shareDown_le (d := 10000) (n := amount.toNat)
    (t := appliedBps pool fees) (by omega)
  rw [← hinput] at hroom
  omega

/-- **The correction of a buy never fires**: the pool's input is the net amount. -/
theorem quoteIntoPool_eq (hbps : appliedBps pool fees ≤ 10000) (amount : UInt64) :
    ∃ poolInput : UInt64,
      poolInput.toNat = net 10000 amount.toNat (appliedBps pool fees) ∧
      poolInput.toNat + venueFees pool fees poolInput ≤ amount.toNat ∧
      (quoteIntoPoolExact fees (appliedCreatorBps pool.coinCreator fees.creatorBps) amount :
        Result AnyError UInt64) = .ok poolInput ∧
      ∀ _ : Profile, quoteIntoPool fees (appliedCreatorBps pool.coinCreator fees.creatorBps)
        amount = .ok poolInput := by
  let creatorBps := appliedCreatorBps pool.coinCreator fees.creatorBps
  have htotal : fees.lpBps.toNat + fees.protocolBps.toNat + creatorBps.toNat ≤ 10000 := hbps
  have hamount := amount.toNat_lt
  obtain ⟨hfit, hfit', htotalBps⟩ : fees.lpBps.toNat + fees.protocolBps.toNat < 2 ^ 64 ∧
      (fees.lpBps + fees.protocolBps).toNat + creatorBps.toNat < 2 ^ 64 ∧
      (fees.lpBps + fees.protocolBps + appliedCreatorBps pool.coinCreator fees.creatorBps).toNat =
        appliedBps pool fees :=
    sum_fits (show _ + _ + creatorBps.toNat < 2 ^ 64 by omega)
  have hnet : amount.toNat * 10000 / (10000 + appliedBps pool fees) ≤ amount.toNat :=
    net_le 10000 amount.toNat _
  let poolInput := UInt64.ofNat (amount.toNat * 10000 / (10000 + appliedBps pool fees))
  have hinput : poolInput.toNat = net 10000 amount.toNat (appliedBps pool fees) := by
    show (UInt64.ofNat _).toNat = _
    rw [UInt64.toNat_ofNat', Nat.mod_eq_of_lt (by omega), net]
  obtain ⟨fee, hfee, hexact, hplain⟩ := poolFee_eq hbps poolInput
  have hcover : poolInput.toNat + fee.toNat ≤ amount.toNat := by
    rw [hfee]
    exact net_covers_fees hbps hinput
  have hcost : (poolInput + fee).toNat = poolInput.toNat + fee.toNat :=
    toNat_add_of_fit (by omega)
  have hquiet : ¬ poolInput + fee > amount := by
    rw [gt_iff_lt, UInt64.lt_iff_toNat_lt, hcost]
    omega
  have hten : (10000 : Word128).toNat = 10000 := rfl
  refine ⟨poolInput, hinput, hfee ▸ hcover, ?_, ?_⟩
  · have hdivide : (div128 (BitVec.ofNat 128 (amount.toNat * 10000))
        (BitVec.ofNat 128 (10000 + appliedBps pool fees)) : Result AnyError Word128) =
        .ok (BitVec.ofNat 128 (amount.toNat * 10000 / (10000 + appliedBps pool fees))) :=
      div128_eq_ok (toNat_word (by omega)) (toNat_word (by omega)) (by omega)
    refine bind_eq_ok.mpr ⟨_, Exact.add64_eq_ok hfit, bind_eq_ok.mpr ⟨_,
      Exact.add64_eq_ok hfit', bind_eq_ok.mpr ⟨_, mul128_eq_ok (toNat_widen _) hten (by omega),
        bind_eq_ok.mpr ⟨_, add128_eq_ok hten ((toNat_widen _).trans htotalBps) (by omega),
          bind_eq_ok.mpr ⟨_, hdivide, bind_eq_ok.mpr ⟨poolInput,
            narrow_eq_ok (toNat_word (by omega)) (by omega), bind_eq_ok.mpr ⟨fee, hexact,
              bind_eq_ok.mpr ⟨_, Exact.add64_eq_ok (by omega), if_neg hquiet⟩⟩⟩⟩⟩⟩⟩⟩
  · intro _
    refine bind_eq_ok.mpr ⟨_, plain_of_exact hfit _, bind_eq_ok.mpr ⟨_,
      plain_of_exact hfit' _, bind_eq_ok.mpr ⟨fee, ?_,
        bind_eq_ok.mpr ⟨poolInput + fee, ?_, ?_⟩⟩⟩⟩
    · rw [htotalBps]
      exact hplain _
    · rw [htotalBps]
      exact plain_of_exact (show poolInput.toNat + fee.toNat < 2 ^ 64 by omega) _
    · rw [htotalBps]
      exact if_neg hquiet

/-- **PumpSwap buys are sound.** -/
theorem buy_sound {amount slippageBps : UInt64} (hslip : slippageBps < basisPoints)
    (hbps : appliedBps pool fees ≤ 10000) :
    ∃ q, Computes pool fees .buy amount slippageBps q ∧ SlippageSound slippageBps q ∧
      ∃ poolInput, (∀ _ : Profile, quoteIntoPool fees
          (appliedCreatorBps pool.coinCreator fees.creatorBps) amount = .ok poolInput) ∧
        poolInput.toNat = amount.toNat * 10000 / (10000 + appliedBps pool fees) ∧
        BuySound amount poolInput (venueFees pool fees poolInput) pool.baseReserves q := by
  have hslipNat : slippageBps.toNat ≤ 10000 := UInt64.le_iff_toNat_le.mp (UInt64.le_of_lt hslip)
  obtain ⟨poolInput, hinput, hcover, hexact, hplain⟩ := quoteIntoPool_eq hbps amount
  refine ⟨nativeQuote amount slippageBps (baseOutForQuoteIn pool.quoteReserves pool.baseReserves
    (saturatingSub64 poolInput 1)) (saturatingSub64 amount poolInput), ⟨?_, ?_⟩,
    slippageSound hslip _ _ _, poolInput, hplain, hinput, hcover, ?_, baseOut_eq_zero_or_lt _ _ _⟩
  · exact bind_eq_ok.mpr ⟨_, hexact, bind_eq_ok.mpr ⟨_, baseOutForQuoteInExact_eq _ _ _,
      bind_eq_ok.mpr ⟨_, slippageDownExact_eq hslipNat, rfl⟩⟩⟩
  · intro profile
    exact bind_eq_ok.mpr ⟨_, hplain profile, bind_eq_ok.mpr ⟨_, slippageDown_eq hslipNat, rfl⟩⟩
  · show poolInput.toNat + (saturatingSub64 amount poolInput).toNat = amount.toNat
    rw [toNat_saturatingSub64]
    omega

/-- **PumpSwap sells are sound.** -/
theorem sell_sound {slippageBps : UInt64} (amount : UInt64) (hslip : slippageBps < basisPoints)
    (hbps : appliedBps pool fees ≤ 10000) :
    ∃ q, Computes pool fees .sell amount slippageBps q ∧ SlippageSound slippageBps q ∧
      SellSound (quoteOutForBaseIn pool.quoteReserves pool.baseReserves amount)
        pool.quoteReserves q := by
  have hslipNat : slippageBps.toNat ≤ 10000 := UInt64.le_iff_toNat_le.mp (UInt64.le_of_lt hslip)
  obtain ⟨fee, -, hexact, hplain⟩ := poolFee_eq hbps
    (quoteOutForBaseIn pool.quoteReserves pool.baseReserves amount)
  have hq := slippageSound hslip amount (saturatingSub64
    (quoteOutForBaseIn pool.quoteReserves pool.baseReserves amount) fee) fee
  refine ⟨_, ⟨?_, ?_⟩, hq, sellSound hq rfl (quoteOut_eq_zero_or_lt _ _ _)⟩
  · exact bind_eq_ok.mpr ⟨_, quoteOutForBaseInExact_eq _ _ _, bind_eq_ok.mpr ⟨_, hexact,
      bind_eq_ok.mpr ⟨_, slippageDownExact_eq hslipNat, rfl⟩⟩⟩
  · intro profile
    exact bind_eq_ok.mpr ⟨_, hplain profile, bind_eq_ok.mpr ⟨_, slippageDown_eq hslipNat, rfl⟩⟩

end PumpSwap

/-- **Native quotes are sound**: for every pool state and all fees that total at most
10000 bps, both venues compute their quotes without a loss, and the amounts add up. -/
theorem native_quotes_sound {amount slippageBps : UInt64} (hamount : 0 < amount)
    (hslip : slippageBps < basisPoints) :
    (∀ curve fees, PumpFun.appliedBps curve fees ≤ 10000 →
        PumpFun.QuotesSound curve fees amount slippageBps) ∧
      ∀ pool fees, PumpSwap.appliedBps pool fees ≤ 10000 →
        PumpSwap.QuotesSound pool fees amount slippageBps := by
  constructor
  · intro curve fees hbps
    exact ⟨PumpFun.buy_sound curve fees hamount hslip hbps,
      PumpFun.sell_sound curve fees amount hslip hbps⟩
  · intro pool fees hbps
    exact ⟨PumpSwap.buy_sound hslip hbps, PumpSwap.sell_sound amount hslip hbps⟩

/-- One SOL into a new curve, with one percent of fees and of slippage. -/
theorem native_quotes_sound_sample :
    PumpFun.QuotesSound PumpFun.newCurve PumpFun.onePercent 1000000000 100 :=
  (native_quotes_sound (by decide) (by decide)).1 _ _ (by decide)

end Solana
end TradingAggregators
