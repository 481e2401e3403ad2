import TradingAggregators.Market.ConstantProduct
import TradingAggregators.Market.Rounding
import TradingAggregators.Solana.Dexes.PumpFun

/-!
# The local Pump.fun buy quote and the documented one

The program's interface description says what `buy_exact_sol_in` pays.  The local quote takes
one lamport off before it divides, the program divides, corrects the net amount by the fees it
rounds up, and takes one lamport off afterwards.

## 1.  The documented quote

`Documented.tokensOut` and its reverse quote, in the words of the interface description.

## 2.  The local quote

`expectedOut_eq`: the local quote is the constant-product output of its own net amount, capped
by the real reserves.

## 3.  The two net amounts

`solIntoCurve_eq`: the local net amount is the documented one, less its lamport, plus the
`surplus`.  That is 0 when what the division of the amount leaves over does not pay for the
lamport and the fees the program rounds up stay within the amount, and 1 otherwise.

## 4.  When the local quote promises too much

`promisesDocumented_iff`: the local quote is at most the documented one exactly when the surplus
buys nothing more, or a reserve caps both.  `quote_exceeds_documented` is an amount for which it
does not.
-/

namespace TradingAggregators
namespace Solana
namespace PumpFun

open ConstantProduct Interaction Rounding Rust

/-! ## 1.  The documented quote -/

namespace Documented

def creatorFeeBps (curve : Curve) (fees : FeeSettings) : ℕ :=
  if curve.creator ≠ .zero 32 then fees.creatorBps.toNat else 0

def totalFeeBps (curve : Curve) (fees : FeeSettings) : ℕ :=
  fees.protocolBps.toNat + creatorFeeBps curve fees

/-- Step 1: the net amount before the fees are rounded up. -/
def dividedSol (curve : Curve) (fees : FeeSettings) (spendableSolIn : ℕ) : ℕ :=
  spendableSolIn * 10000 / (10000 + totalFeeBps curve fees)

/-- Step 2: the fees on a net amount, rounded up one by one. -/
def feesOn (curve : Curve) (fees : FeeSettings) (netSol : ℕ) : ℕ :=
  (netSol * fees.protocolBps.toNat) ⌈/⌉ 10000 + (netSol * creatorFeeBps curve fees) ⌈/⌉ 10000

/-- Step 3: the net amount, lowered by what it and its fees exceed the amount. -/
def netSol (curve : Curve) (fees : FeeSettings) (spendableSolIn : ℕ) : ℕ :=
  let netSol := dividedSol curve fees spendableSolIn
  let fees := feesOn curve fees netSol
  if netSol + fees > spendableSolIn then netSol - (netSol + fees - spendableSolIn) else netSol

/-- Step 4. -/
def tokensOut (curve : Curve) (fees : FeeSettings) (spendableSolIn : ℕ) : ℕ :=
  let netSol := netSol curve fees spendableSolIn
  (netSol - 1) * curve.baseReserves.toNat / (curve.quoteReserves.toNat + netSol - 1)

end Documented

/-! ## 2.  The local quote -/

/-- `total_bps` as the code adds it, on a build that does not check the sum. -/
def wrappedTotalBps (curve : Curve) (fees : FeeSettings) : UInt64 :=
  fees.protocolBps + if curve.creator ≠ .zero 32 then fees.creatorBps else 0

theorem toNat_solIntoCurve (amount totalBps : UInt64) :
    (solIntoCurve amount totalBps).toNat =
      (amount.toNat - 1) * 10000 / (totalBps.toNat + 10000) := by
  have hle : (amount.toNat - 1) * 10000 / (totalBps.toNat + 10000) ≤ amount.toNat - 1 := by
    refine Nat.div_le_of_le_mul ?_
    rw [Nat.mul_comm]
    exact Nat.mul_le_mul_right _ (Nat.le_add_left _ _)
  have hlt := amount.toNat_lt
  rw [solIntoCurve, UInt64.toNat_ofNat', Nat.mod_eq_of_lt (by omega)]

theorem toNat_baseOutForQuoteIn (quoteReserve baseReserve quoteIn : UInt64) :
    (baseOutForQuoteIn quoteReserve baseReserve quoteIn).toNat =
      if quoteReserve = 0 then 0
      else output quoteReserve.toNat baseReserve.toNat quoteIn.toNat := by
  have hle := output_le quoteReserve.toNat baseReserve.toNat quoteIn.toNat
  have hlt := baseReserve.toNat_lt
  unfold baseOutForQuoteIn
  by_cases hquote : quoteReserve = 0
  · rw [if_pos (Or.inr (Or.inl hquote)), if_pos hquote]
    rfl
  rw [if_neg hquote]
  split_ifs with hzero
  · rcases hzero with rfl | h | rfl
    · exact (output_zero _ _).symm
    · exact absurd h hquote
    · show 0 = quoteIn.toNat * 0 / _
      rw [Nat.mul_zero, Nat.zero_div]
  · rw [UInt64.toNat_ofNat', output, Nat.mul_comm baseReserve.toNat]
    rw [output] at hle
    exact Nat.mod_eq_of_lt (by omega)

/-- The local quote: the output of the local net amount, capped by the real reserves. -/
theorem expectedOut_eq [Profile] {curve : Curve} {fees : FeeSettings}
    {amount slippageBps : UInt64} {quote : Quote}
    (h : computeQuote curve fees .buy amount slippageBps = .ok quote) :
    quote.expectedOut = min (baseOutForQuoteIn curve.quoteReserves curve.baseReserves
      (solIntoCurve amount (wrappedTotalBps curve fees))) curve.realTokenReserves := by
  obtain ⟨total, htotal, h₁⟩ := bind_eq_ok.mp h
  obtain ⟨minOut, -, h₂⟩ := bind_eq_ok.mp h₁
  have hwrapped : total = wrappedTotalBps curve fees := eq_of_plain_eq_ok htotal
  rw [← pure_eq_ok.mp h₂, hwrapped]

/-! ## 3.  The two net amounts -/

/-- The two roundings take off the same lamport: what the division of the amount leaves over does
not pay for one, and the program has no excess of rounded fees to correct. -/
def SameLamport (curve : Curve) (fees : FeeSettings) (amount : UInt64) : Prop :=
  amount.toNat * 10000 % (10000 + Documented.totalFeeBps curve fees) < 10000 ∧
    Documented.dividedSol curve fees amount.toNat +
      Documented.feesOn curve fees (Documented.dividedSol curve fees amount.toNat) ≤
        amount.toNat

instance (curve : Curve) (fees : FeeSettings) (amount : UInt64) :
    Decidable (SameLamport curve fees amount) :=
  inferInstanceAs (Decidable (_ ∧ _))

/-- How many lamports more than the program the local quote trades. -/
def surplus (curve : Curve) (fees : FeeSettings) (amount : UInt64) : ℕ :=
  if Documented.totalFeeBps curve fees < 2 ^ 64 then
    if SameLamport curve fees amount then 0 else 1
  else
    -- The sum of the fees wraps: the local quote charges only what is left of it.
    (amount.toNat - 1) * 10000 / (10000 + (Documented.totalFeeBps curve fees - 2 ^ 64)) -
      (Documented.netSol curve fees amount.toNat - 1)

theorem toNat_wrappedTotalBps (curve : Curve) (fees : FeeSettings) :
    (wrappedTotalBps curve fees).toNat = Documented.totalFeeBps curve fees % 2 ^ 64 := by
  unfold wrappedTotalBps Documented.totalFeeBps Documented.creatorFeeBps
  by_cases hcreator : curve.creator ≠ .zero 32
  · rw [if_pos hcreator, if_pos hcreator, UInt64.toNat_add]
  · rw [if_neg hcreator, if_neg hcreator, UInt64.toNat_add]
    rfl

section Documented

variable (curve : Curve) (fees : FeeSettings) (amount : ℕ)

open Documented

/-- The rounded fees exceed the amount by at most one lamport. -/
theorem dividedSol_add_feesOn_le :
    dividedSol curve fees amount + feesOn curve fees (dividedSol curve fees amount) ≤
      amount + 1 := by
  rw [feesOn, ceilDiv_eq_shareUp, ceilDiv_eq_shareUp]
  exact net_add_shareUps_le_succ (by omega) amount _ _

/-- They stay within the amount when what the division leaves over pays for one lamport. -/
theorem dividedSol_add_feesOn_le_of_left
    (hleft : 10000 ≤ amount * 10000 % (10000 + totalFeeBps curve fees)) :
    dividedSol curve fees amount + feesOn curve fees (dividedSol curve fees amount) ≤
      amount := by
  rw [feesOn, ceilDiv_eq_shareUp, ceilDiv_eq_shareUp]
  exact net_add_shareUps_le_of_left (by omega) hleft

/-- The excess that step 3 corrects is one lamport. -/
theorem netSol_eq :
    netSol curve fees amount =
      dividedSol curve fees amount -
        if dividedSol curve fees amount + feesOn curve fees (dividedSol curve fees amount) ≤
          amount then 0 else 1 := by
  have hle := dividedSol_add_feesOn_le curve fees amount
  simp only [netSol]
  split_ifs <;> omega

theorem netSol_le : netSol curve fees amount ≤ dividedSol curve fees amount := by
  rw [netSol_eq]
  exact Nat.sub_le _ _

end Documented

/-- **The local net amount is the documented one, less its lamport, plus the surplus.** -/
theorem solIntoCurve_eq {curve : Curve} {fees : FeeSettings} {amount : UInt64}
    (hnet : 1 ≤ Documented.netSol curve fees amount.toNat) :
    (solIntoCurve amount (wrappedTotalBps curve fees)).toNat =
      Documented.netSol curve fees amount.toNat - 1 + surplus curve fees amount := by
  have hdivided : 1 ≤ Documented.dividedSol curve fees amount.toNat :=
    hnet.trans (netSol_le curve fees amount.toNat)
  have hpos : 0 < amount.toNat := hdivided.trans (net_le 10000 _ _)
  have hwrapped := toNat_wrappedTotalBps curve fees
  by_cases hfit : Documented.totalFeeBps curve fees < 2 ^ 64
  · have hpred : (amount.toNat - 1) * 10000 / (10000 + Documented.totalFeeBps curve fees) +
        (if 10000 ≤ amount.toNat * 10000 % (10000 + Documented.totalFeeBps curve fees)
          then 0 else 1) = Documented.dividedSol curve fees amount.toNat :=
      net_pred (by omega) hpos
    have hfees := dividedSol_add_feesOn_le_of_left curve fees amount.toNat
    rw [Nat.mod_eq_of_lt hfit] at hwrapped
    rw [netSol_eq] at hnet
    rw [toNat_solIntoCurve, hwrapped, Nat.add_comm _ 10000, netSol_eq, surplus, if_pos hfit]
    unfold SameLamport
    -- The lamport is paid from what the division leaves over, or from the excess, or not at all.
    by_cases hleft : 10000 ≤ amount.toNat * 10000 % (10000 + Documented.totalFeeBps curve fees)
    · simp only [hleft, hfees hleft, if_true, not_lt.mpr hleft, false_and, if_false] at *
      omega
    · simp only [hleft, if_false, not_le.mp hleft, true_and] at *
      split_ifs at * <;> omega
  · have hlt : Documented.totalFeeBps curve fees < 2 ^ 64 + 2 ^ 64 := by
      have hprotocol := fees.protocolBps.toNat_lt
      have hcreator := fees.creatorBps.toNat_lt
      unfold Documented.totalFeeBps Documented.creatorFeeBps
      split_ifs <;> omega
    have hless : Documented.dividedSol curve fees amount.toNat ≤
        (amount.toNat - 1) * 10000 / (10000 + (Documented.totalFeeBps curve fees - 2 ^ 64)) + 1 :=
      net_le_net_pred_add (by omega) (Nat.sub_le _ _) _
    have hnetLe := netSol_le curve fees amount.toNat
    rw [Nat.mod_eq_sub_mod (not_lt.mp hfit), Nat.mod_eq_of_lt (by omega)] at hwrapped
    rw [toNat_solIntoCurve, hwrapped, Nat.add_comm _ 10000, surplus, if_neg hfit]
    omega

/-! ## 4.  When the local quote promises too much -/

/-- **The local quote never promises more than the documented one**: in every build and for
every slippage, provided the documented net amount is positive. -/
def PromisesDocumented (curve : Curve) (fees : FeeSettings) (amount : UInt64) : Prop :=
  1 ≤ Documented.netSol curve fees amount.toNat →
    ∀ (_ : Profile) (slippageBps : UInt64) (quote : Quote),
      computeQuote curve fees .buy amount slippageBps = .ok quote →
        quote.expectedOut.toNat ≤ Documented.tokensOut curve fees amount.toNat

/-- The surplus buys nothing beyond the documented quote: its price stays within what step 4 leaves
over, up to the next token unit. -/
def SurplusBuysNothing (curve : Curve) (fees : FeeSettings) (amount : UInt64) : Prop :=
  let traded := Documented.netSol curve fees amount.toNat - 1
  let depth := curve.quoteReserves.toNat + traded
  traded * curve.baseReserves.toNat % depth +
      surplus curve fees amount * curve.baseReserves.toNat <
    depth + surplus curve fees amount * (Documented.tokensOut curve fees amount.toNat + 1)

instance (curve : Curve) (fees : FeeSettings) (amount : UInt64) :
    Decidable (SurplusBuysNothing curve fees amount) :=
  inferInstanceAs (Decidable (_ < _))

theorem baseOut_le_iff {curve : Curve} {fees : FeeSettings} {amount : UInt64}
    (hnet : 1 ≤ Documented.netSol curve fees amount.toNat) :
    (baseOutForQuoteIn curve.quoteReserves curve.baseReserves
        (solIntoCurve amount (wrappedTotalBps curve fees))).toNat ≤
      Documented.tokensOut curve fees amount.toNat ↔
        curve.quoteReserves = 0 ∨ SurplusBuysNothing curve fees amount := by
  rw [toNat_baseOutForQuoteIn]
  by_cases hquote : curve.quoteReserves = 0
  · rw [if_pos hquote]
    exact ⟨fun _ => Or.inl hquote, fun _ => Nat.zero_le _⟩
  have hpos : 0 < curve.quoteReserves.toNat :=
    Nat.pos_of_ne_zero fun h0 => hquote (UInt64.toNat_inj.mp h0)
  have htokens : Documented.tokensOut curve fees amount.toNat =
      output curve.quoteReserves.toNat curve.baseReserves.toNat
        (Documented.netSol curve fees amount.toNat - 1) := by
    rw [Documented.tokensOut, output, Nat.add_sub_assoc hnet]
  unfold SurplusBuysNothing
  rw [if_neg hquote, solIntoCurve_eq hnet, htokens, output_add_le_iff hpos]
  simp only [hquote, false_or]

theorem expectedOut_le_iff [Profile] {curve : Curve} {fees : FeeSettings}
    {amount slippageBps : UInt64} {quote : Quote}
    (hnet : 1 ≤ Documented.netSol curve fees amount.toNat)
    (h : computeQuote curve fees .buy amount slippageBps = .ok quote) :
    quote.expectedOut.toNat ≤ Documented.tokensOut curve fees amount.toNat ↔
      curve.quoteReserves = 0 ∨
        curve.realTokenReserves.toNat ≤ Documented.tokensOut curve fees amount.toNat ∨
        SurplusBuysNothing curve fees amount := by
  rw [expectedOut_eq h, toNat_min_le, baseOut_le_iff hnet]
  tauto

/-- **When the local quote keeps to the documented one**: exactly when the surplus buys nothing
more, or a reserve caps the quote. -/
theorem promisesDocumented_iff (curve : Curve) (fees : FeeSettings) (amount : UInt64) :
    PromisesDocumented curve fees amount ↔
      (1 ≤ Documented.netSol curve fees amount.toNat →
        curve.quoteReserves = 0 ∨
          curve.realTokenReserves.toNat ≤ Documented.tokensOut curve fees amount.toNat ∨
          SurplusBuysNothing curve fees amount) := by
  constructor
  · intro hpromises hnet
    let : Profile := ⟨false⟩
    obtain ⟨quote, hquote⟩ := exists_computeQuote rfl curve fees .buy amount 0
    exact (expectedOut_le_iff hnet hquote).mp (hpromises hnet ⟨false⟩ 0 quote hquote)
  · intro hkept hnet profile slippageBps quote hquote
    exact (expectedOut_le_iff hnet hquote).mpr (hkept hnet)

/-! ### An amount one lamport above a whole net amount -/

/-- A curve as it is created, without a creator fee. -/
def newCurve : Curve where
  creator := .zero 32
  baseReserves := 1073000000000000
  quoteReserves := 30000000000
  realTokenReserves := 793100000000000
  isMayhem := false
  isCashback := false
  tokenProgram := tokenProgram

/-- One percent for the protocol. -/
def onePercent : FeeSettings where
  standardRecipient := .zero 32
  mayhemRecipient := .zero 32
  buybackRecipient := .zero 32
  protocolBps := 100
  creatorBps := 0

/-- **The local quote exceeds the documented one**, for 1.010000001 SOL. -/
theorem quote_exceeds_documented : ¬ PromisesDocumented newCurve onePercent 1010000001 := by
  let : Profile := ⟨true⟩
  intro hpromises
  obtain ⟨quote, hquote, hmore⟩ : ∃ quote,
      computeQuote newCurve onePercent .buy 1010000001 0 = .ok quote ∧
        Documented.tokensOut newCurve onePercent 1010000001 < quote.expectedOut.toNat :=
    ⟨_, rfl, by decide +kernel⟩
  exact absurd (hpromises (by decide +kernel) ⟨true⟩ 0 quote hquote) (not_le.mpr hmore)

end PumpFun
end Solana
end TradingAggregators
