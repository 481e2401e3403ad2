import TradingAggregators.Evm.Sources.Relay
import TradingAggregators.Market.Rounding

/-!
# The slippage check of a Relay quote

Relay applies the slippage to the output before it takes the fees that are charged in the
output's currency.  The check adds these fees to the output, and both additions are modulo
`2 ^ 256`.

## 1.  The fees

`exactFees` sums them as natural numbers; `feesFromOutput` is that sum modulo `2 ^ 256`.

## 2.  The amounts

`checkAmounts_eq_ok`: what an accepted quote has passed, over the naturals.

## 3.  Where the bound holds

`Bounded` is the bound in exact arithmetic.  `bounded_iff`: every minimum that the check
accepts satisfies it exactly when the sum stays below `2 ^ 256`, or the bound is so weak that a
minimum of one satisfies it.  `slippage_wraps` is a response where neither is the case.
-/

namespace TradingAggregators
namespace Evm
namespace Relay

open Aggregators.Relay (CurrencyAmount Fees Swap)
open Interaction Rounding Rust

/-! ## 1.  The fees -/

/-- The fees that are charged in the output's currency, summed exactly. -/
def exactFees (fees : Fees Address) (output : Aggregators.Relay.Currency Address) :
    TradeResult ℕ := do
  let charged ← (feesIn fees output).mapM fun fee => decimal fee.amount
  pure (charged.map BitVec.toNat).sum

/-- The fold adds up what the fees decode to. -/
theorem foldlM_addFee_eq_ok {fees : List (CurrencyAmount Address)} {first total : Amount} :
    fees.foldlM addFee first = .ok total ↔
      ∃ charged, (fees.mapM fun fee => decimal fee.amount) = .ok charged ∧
        total.toNat = (first.toNat + (charged.map BitVec.toNat).sum) % 2 ^ 256 := by
  induction fees generalizing first with
  | nil =>
    have hfirst : first.toNat % 2 ^ 256 = first.toNat := Nat.mod_eq_of_lt first.isLt
    rw [List.foldlM_nil, pure_eq_ok]
    constructor
    · rintro rfl
      exact ⟨[], rfl, hfirst.symm⟩
    · rintro ⟨charged, hcharged, htotal⟩
      rw [List.mapM_nil, pure_eq_ok] at hcharged
      subst hcharged
      exact BitVec.eq_of_toNat_eq (htotal.trans hfirst).symm
  | cons fee fees ih =>
    rw [List.foldlM_cons, bind_eq_ok]
    constructor
    · rintro ⟨next, hnext, hfold⟩
      obtain ⟨x, hx, h₁⟩ := bind_eq_ok.mp hnext
      obtain ⟨charged, hcharged, htotal⟩ := ih.mp hfold
      rw [← pure_eq_ok.mp h₁, BitVec.toNat_add, Nat.mod_add_mod, Nat.add_assoc] at htotal
      refine ⟨x :: charged, ?_, htotal⟩
      rw [List.mapM_cons]
      exact bind_eq_ok.mpr ⟨x, hx, bind_eq_ok.mpr ⟨charged, hcharged, rfl⟩⟩
    · rintro ⟨charged, hcharged, htotal⟩
      rw [List.mapM_cons] at hcharged
      obtain ⟨x, hx, h₁⟩ := bind_eq_ok.mp hcharged
      obtain ⟨rest, hrest, h₂⟩ := bind_eq_ok.mp h₁
      rw [← pure_eq_ok.mp h₂, List.map_cons, List.sum_cons, ← Nat.add_assoc] at htotal
      refine ⟨first + x, bind_eq_ok.mpr ⟨x, hx, rfl⟩, ih.mpr ⟨rest, hrest, ?_⟩⟩
      rw [htotal, BitVec.toNat_add, Nat.mod_add_mod]

theorem exactFees_eq_ok {fees : Fees Address} {output : Aggregators.Relay.Currency Address}
    {total : ℕ} : exactFees fees output = .ok total ↔
      ∃ charged, ((feesIn fees output).mapM fun fee => decimal fee.amount) = .ok charged ∧
        (charged.map BitVec.toNat).sum = total := by
  unfold exactFees
  rw [bind_eq_ok]
  simp only [pure_eq_ok]

/-- **The fees of the code are the exact fees modulo `2 ^ 256`**, and they decode together. -/
theorem feesFromOutput_eq_ok {fees : Fees Address}
    {output : Aggregators.Relay.Currency Address} {taken : Amount} :
    feesFromOutput fees output = .ok taken ↔
      ∃ total, exactFees fees output = .ok total ∧ taken.toNat = total % 2 ^ 256 := by
  unfold feesFromOutput
  rw [foldlM_addFee_eq_ok]
  constructor
  · rintro ⟨charged, hcharged, htaken⟩
    rw [show (0 : Amount).toNat = 0 from rfl, Nat.zero_add] at htaken
    exact ⟨_, exactFees_eq_ok.mpr ⟨charged, hcharged, rfl⟩, htaken⟩
  · rintro ⟨total, htotal, htaken⟩
    obtain ⟨charged, hcharged, rfl⟩ := exactFees_eq_ok.mp htotal
    exact ⟨charged, hcharged, htaken.trans
      (by rw [show BitVec.toNat (0 : Amount) = 0 from rfl, Nat.zero_add])⟩

/-! ## 2.  The amounts -/

/-- What the slippage leaves of an amount, in basis points. -/
def kept (trade : Trade) : ℕ :=
  10000 - trade.slippageBps.toNat

section Amounts

variable [Profile] {trade : Trade}

theorem minOut_eq_ok (hvalid : trade.Valid) (expected : Amount) :
    ∃ floor, trade.minOut expected = .ok floor ∧
      floor.toNat = shareDown 10000 expected.toNat (kept trade) := by
  have hlt : trade.slippageBps.toNat < 10000 := UInt16.lt_iff_toNat_lt.mp hvalid.slippage
  have hle : trade.slippageBps ≤ basisPoints := UInt16.le_of_lt hvalid.slippage
  have hkept : (basisPoints - trade.slippageBps).toNat = kept trade := by
    rw [UInt16.toNat_sub_of_le _ _ hle]
    rfl
  have hbound : basisPoints - trade.slippageBps ≤ 10000 := by
    rw [UInt16.le_iff_toNat_le, hkept]
    exact Nat.sub_le _ _
  refine ⟨portion expected (basisPoints - trade.slippageBps), ?_, ?_⟩
  · rw [Trade.minOut, keptBps, plain_of_exact hle]
    rfl
  · rw [toNat_portion _ hbound, hkept]
    rfl

/-- The floor that the check demands of a minimum. -/
def demanded (trade : Trade) (output taken : Amount) : ℕ :=
  shareDown 10000 ((output.toNat + taken.toNat) % 2 ^ 256) (kept trade) - taken.toNat

theorem slippageFloor_eq_ok (hvalid : trade.Valid) (output taken : Amount) :
    ∃ floor, slippageFloor trade output taken = .ok floor ∧
      floor.toNat = demanded trade output taken := by
  obtain ⟨floor, hfloor, hvalue⟩ := minOut_eq_ok hvalid (output + taken)
  refine ⟨saturatingSub floor taken, bind_eq_ok.mpr ⟨floor, hfloor, rfl⟩, ?_⟩
  rw [toNat_saturatingSub, hvalue, BitVec.toNat_add]
  rfl

/-- **What the amounts of an accepted quote have passed.** -/
theorem checkAmounts_eq_ok (hvalid : trade.Valid) {input output minimum taken : Amount} :
    checkAmounts trade input output minimum taken = .ok () ↔
      input = trade.amount ∧ 0 < minimum.toNat ∧ minimum.toNat ≤ output.toNat ∧
        demanded trade output taken ≤ minimum.toNat := by
  obtain ⟨floor, hfloor, hvalue⟩ := slippageFloor_eq_ok hvalid output taken
  have hpos : minimum ≠ 0 ↔ 0 < minimum.toNat := by
    rw [Nat.pos_iff_ne_zero]
    exact not_congr (BitVec.toNat_inj (x := minimum) (y := 0)).symm
  unfold checkAmounts
  constructor
  · intro h
    obtain ⟨_, hfirst, h₁⟩ := bind_eq_ok.mp h
    obtain ⟨floor', hfloor', h₂⟩ := bind_eq_ok.mp h₁
    rw [failIf_eq_ok] at hfirst h₂
    simp only [not_or, not_not, gt_iff_lt, BitVec.not_lt] at hfirst
    obtain rfl : floor' = floor := Except.ok.inj (hfloor'.symm.trans hfloor)
    rw [BitVec.not_lt, BitVec.le_def, hvalue] at h₂
    exact ⟨hfirst.1, hpos.mp hfirst.2.1, hfirst.2.2, h₂⟩
  · rintro ⟨hinput, hminimum, hle, hdemanded⟩
    refine bind_eq_ok.mpr ⟨(), failIf_eq_ok.mpr ?_, bind_eq_ok.mpr ⟨floor, hfloor, ?_⟩⟩
    · simp only [not_or, not_not, gt_iff_lt, BitVec.not_lt]
      exact ⟨hinput, hpos.mpr hminimum, hle⟩
    · rw [failIf_eq_ok, BitVec.not_lt, BitVec.le_def, hvalue]
      exact hdemanded

end Amounts

/-! ## 3.  Where the bound holds -/

/-- **The bounds of a quote in exact arithmetic**, with `fees` the sum of the fees that are
charged in the output's currency. -/
structure Bounded (trade : Trade) (fees : ℕ) (q : Quote) : Prop where
  minOut_pos : 0 < q.minOut.toNat
  minOut_le : q.minOut.toNat ≤ q.expectedOut.toNat
  inAmount : q.inAmount = trade.amount
  slippage : (q.expectedOut.toNat + fees) * (10000 - trade.slippageBps.toNat) / 10000 ≤
    q.minOut.toNat + fees

/-- The response with another minimum. -/
def withMinimum (response : Response) (minimum : String) : Response :=
  { response with
    details := { response.details with
      currencyOut := { response.details.currencyOut with minimumAmount := minimum } } }

/-- A response that is accepted with some minimum: what it says otherwise is as requested, its
output is not zero, and its fees are as requested and add up to `fees`. -/
structure Acceptable (n : Network) (trade : Trade) (fee : Option AppFee) (response : Response)
    (output : Amount) (fees : ℕ) : Prop where
  matched : response.details.matches (swap n trade) = true
  input : decimal response.details.currencyIn.amount = .ok trade.amount
  output_eq : decimal response.details.currencyOut.amount = .ok output
  output_pos : 0 < output.toNat
  fees_eq : exactFees response.fees response.details.currencyOut.currency = .ok fees
  applicationFee : ∃ charged, appFee n response.fees trade fee = .ok charged

/-- Without a wrap the demanded floor is the exact one, up to multiples of `2 ^ 256` among the
fees. -/
theorem share_le_of_fits {trade : Trade} {output taken : Amount} {fees : ℕ}
    (htaken : taken.toNat = fees % 2 ^ 256) (hfits : output.toNat + taken.toNat < 2 ^ 256) :
    shareDown 10000 (output.toNat + fees) (kept trade) ≤ demanded trade output taken + fees := by
  have hkept : kept trade ≤ 10000 := Nat.sub_le _ _
  have hfees : fees = taken.toNat + 2 ^ 256 * (fees / 2 ^ 256) := by
    rw [htaken, Nat.mod_add_div]
  have hshare := shareDown_add_left_le hkept (output.toNat + taken.toNat)
    (2 ^ 256 * (fees / 2 ^ 256))
  rw [Nat.add_assoc, ← hfees] at hshare
  rw [demanded, Nat.mod_eq_of_lt hfits]
  omega

/-- With a wrap nothing is demanded. -/
theorem demanded_eq_zero {trade : Trade} {output taken : Amount}
    (hwraps : ¬ output.toNat + taken.toNat < 2 ^ 256) : demanded trade output taken = 0 := by
  have houtput := output.isLt
  have htaken := taken.isLt
  have hmod : (output.toNat + taken.toNat) % 2 ^ 256 =
      output.toNat + taken.toNat - 2 ^ 256 := by
    rw [Nat.mod_eq_sub_mod (by omega), Nat.mod_eq_of_lt (by omega)]
  have hshare : shareDown 10000 ((output.toNat + taken.toNat) % 2 ^ 256) (kept trade) ≤
      (output.toNat + taken.toNat) % 2 ^ 256 := shareDown_le (Nat.sub_le _ _)
  rw [demanded]
  omega

/-- The decimal text of the smallest minimum. -/
theorem decimal_one : decimal "1" = .ok 1 := by
  decide +kernel

section Bounds

variable [Profile] {n : Network} {trade : Trade} {fee : Option AppFee} {response : Response}

/-- A response that is acceptable is accepted with a minimum of one where nothing is
demanded. -/
theorem Acceptable.quote_one (hvalid : trade.Valid) {output : Amount} {fees : ℕ}
    (h : Acceptable n trade fee response output fees) {taken : Amount}
    (htaken : taken.toNat = fees % 2 ^ 256) (hdemanded : demanded trade output taken = 0) :
    ∃ q, quote n (withMinimum response "1") (swap n trade) trade fee = .ok q ∧ q.minOut = 1 ∧
      q.expectedOut = output := by
  obtain ⟨charged, hcharged⟩ := h.applicationFee
  refine ⟨{
    chainId := n.chainId
    source := Aggregators.Relay.venue
    input := trade.input
    output := trade.output
    inAmount := trade.amount
    expectedOut := output
    minOut := 1
    applicationFee := charged
    usdValue := response.details.usdValue }, quote_eq_ok.mpr ⟨taken, {
      matched := h.matched
      input := h.input
      output := h.output_eq
      minimum := decimal_one
      fees := feesFromOutput_eq_ok.mpr ⟨fees, h.fees_eq, htaken⟩
      amounts := (checkAmounts_eq_ok hvalid).mpr
        ⟨rfl, Nat.zero_lt_one, h.output_pos, hdemanded ▸ Nat.zero_le _⟩
      applicationFee := hcharged
      chainId := rfl
      source := rfl
      sides := ⟨rfl, rfl⟩
      usdValue := rfl }⟩, rfl, rfl⟩

/-- **When the slippage check is exact**: whatever minimum Relay states, an accepted quote is
bounded, if and only if the output and the fees of the response stay below `2 ^ 256`, or the
bound asks for no more than a minimum of one. -/
theorem bounded_iff (hvalid : trade.Valid) :
    (∀ minimum q fees,
      quote n (withMinimum response minimum) (swap n trade) trade fee = .ok q →
      exactFees response.fees response.details.currencyOut.currency = .ok fees →
      Bounded trade fees q) ↔
    ∀ output fees, Acceptable n trade fee response output fees →
      output.toNat + fees % 2 ^ 256 < 2 ^ 256 ∨
        (output.toNat + fees) * (10000 - trade.slippageBps.toNat) / 10000 ≤ 1 + fees := by
  constructor
  · intro hall output fees hacceptable
    by_cases hfits : output.toNat + fees % 2 ^ 256 < 2 ^ 256
    · exact Or.inl hfits
    · have htaken : (amount fees).toNat = fees % 2 ^ 256 := BitVec.toNat_ofNat fees 256
      rw [← htaken] at hfits
      obtain ⟨q, hquote, hone, houtput⟩ :=
        hacceptable.quote_one hvalid htaken (demanded_eq_zero hfits)
      have hbounded := (hall "1" q fees hquote hacceptable.fees_eq).slippage
      rw [hone, houtput] at hbounded
      exact Or.inr hbounded
  · intro hcondition minimum q fees hquote hfees
    obtain ⟨taken, hquoted⟩ := quote_eq_ok.mp hquote
    obtain ⟨hinput, hpos, hle, hdemanded⟩ := (checkAmounts_eq_ok hvalid).mp hquoted.amounts
    obtain ⟨total, htotal, htaken⟩ := feesFromOutput_eq_ok.mp hquoted.fees
    obtain rfl : total = fees := Except.ok.inj (htotal.symm.trans hfees)
    have hacceptable : Acceptable n trade fee response q.expectedOut total :=
      { matched := hquoted.matched
        input := by
          rw [← hinput]
          exact hquoted.input
        output_eq := hquoted.output
        output_pos := Nat.lt_of_lt_of_le hpos hle
        fees_eq := hfees
        applicationFee := ⟨_, hquoted.applicationFee⟩ }
    refine ⟨hpos, hle, hinput, ?_⟩
    rcases hcondition _ _ hacceptable with hfits | hweak
    · rw [← htaken] at hfits
      have hshare : shareDown 10000 (q.expectedOut.toNat + total) (kept trade) ≤
          demanded trade q.expectedOut taken + total := share_le_of_fits htaken hfits
      exact hshare.trans (Nat.add_le_add_right hdemanded total)
    · exact hweak.trans (Nat.add_le_add_right hpos total)

end Bounds

/-! ### Two responses -/

/-- A response for the sale with this output, this minimum and this relayer fee, in ETH. -/
def saleResponse (output minimum relayerFee : String) : Response where
  details :=
    { operation := "swap"
      sender := saleTrade.wallet
      recipient := saleTrade.wallet
      currencyIn := ⟨⟨4663, saleTrade.input.address⟩, "1000000", "1000000", none⟩
      currencyOut := ⟨⟨4663, zeroAddress⟩, output, minimum, none⟩ }
  steps := []
  fees := { relayer := some ⟨⟨4663, zeroAddress⟩, relayerFee, relayerFee, none⟩, app := none }

/-- The largest amount, in decimal. -/
def largest : String :=
  "115792089237316195423570985008687907853269984665640564039457584007913129639935"

/-- **The slippage check wraps**: with the largest output and a fee of one wei a minimum of one
wei is accepted, where the slippage of 1% leaves almost the whole output. -/
theorem slippage_wraps :
    let : Profile := ⟨false⟩
    ¬ ∀ q fees, quote robinhood (saleResponse largest "1" "1") (swap robinhood saleTrade)
        saleTrade none = .ok q →
      exactFees (saleResponse largest "1" "1").fees
        (saleResponse largest "1" "1").details.currencyOut.currency = .ok fees →
      Bounded saleTrade fees q := by
  intro profile hall
  have hquote : (quote robinhood (saleResponse largest "1" "1") (swap robinhood saleTrade)
      saleTrade none).toOption.map (fun q => (q.expectedOut, q.minOut)) =
        some (amount (2 ^ 256 - 1), 1) := by
    decide +kernel
  obtain ⟨q, h, hamounts⟩ := toOption_map_eq_some.mp hquote
  obtain ⟨houtput, hminimum⟩ := Prod.mk.inj hamounts
  have hslippage := (hall q 1 h (by decide +kernel)).slippage
  rw [houtput, hminimum] at hslippage
  exact absurd hslippage (by decide +kernel)

/-- A response whose sum stays in range is bounded. -/
theorem bounded_iff_sample :
    let : Profile := ⟨true⟩
    ∃ q, quote robinhood (saleResponse "300" "297" "3") (swap robinhood saleTrade) saleTrade
      none = .ok q ∧ Bounded saleTrade 3 q := by
  intro profile
  have hfees : exactFees (saleResponse "300" "297" "3").fees
      (saleResponse "300" "297" "3").details.currencyOut.currency = .ok 3 := by
    decide +kernel
  have hquote : (quote robinhood (saleResponse "300" "297" "3") (swap robinhood saleTrade)
      saleTrade none).isOk = true := by
    decide +kernel
  obtain ⟨q, h⟩ := isOk_iff.mp hquote
  have hcondition : ∀ output fees, Acceptable robinhood saleTrade none
      (saleResponse "300" "297" "3") output fees →
      output.toNat + fees % 2 ^ 256 < 2 ^ 256 ∨
        (output.toNat + fees) * (10000 - saleTrade.slippageBps.toNat) / 10000 ≤ 1 + fees := by
    intro output fees hacceptable
    left
    obtain rfl : (300 : Amount) = output :=
      Except.ok.inj ((show decimal "300" = .ok 300 by decide +kernel).symm.trans
        hacceptable.output_eq)
    obtain rfl : 3 = fees := Except.ok.inj (hfees.symm.trans hacceptable.fees_eq)
    decide
  exact ⟨q, h, (bounded_iff saleTrade_valid).mpr hcondition "297" q 3 h hfees⟩

end Relay
end Evm
end TradingAggregators
