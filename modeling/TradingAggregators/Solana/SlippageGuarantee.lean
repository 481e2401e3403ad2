import TradingAggregators.Solana.NativeQuotes
import TradingAggregators.Solana.NativeSettlement
import TradingAggregators.Solana.ProviderFees

/-!
# Slippage from the source to the wallet

The minimum that a prepared swap shows is below its expected output by no more than the
caller's tolerance, although the fees of a sell come off both.

* `Tolerates`: the minimum of a quote is within the tolerance of its expected output.
* `tolerates_of_prepareRoute`: every quote of every source is, whether the source is asked for
  one or the venue's pool is computed here.
* `slippage_kept`: with the fees added back, so is the quote of every prepared swap.
-/

namespace TradingAggregators
namespace Solana

open Interaction Rounding Rust Rust.Exact

/-- The minimum of a quote is not below what the tolerance leaves of its expected output. -/
def Tolerates (slippageBps : UInt64) (q : Quote) : Prop :=
  shareDown 10000 q.expectedOut.toNat (10000 - slippageBps.toNat) ≤ q.minOut.toNat

/-- A minimum within the tolerance loses less than the tolerated share and one unit. -/
theorem loss_lt_of_shareDown_le {e m s : ℕ} (hs : s ≤ 10000)
    (h : shareDown 10000 e (10000 - s) ≤ m) : (e - m) * 10000 < e * s + 10000 := by
  have hfloor : e * (10000 - s) < 10000 * (m + 1) :=
    lt_of_lt_of_le (Nat.lt_mul_div_succ _ (by decide)) (Nat.mul_le_mul_left _ (by
      unfold shareDown at h
      omega))
  have hsplit : e * (10000 - s) + e * s = e * 10000 := by
    rw [← Nat.mul_add, Nat.sub_add_cancel hs]
  omega

/-! ## Providers -/

theorem tolerates_of_validatedQuote {venue : String} {trade : Trade}
    {input expected minimum : UInt64} {q : Quote}
    (h : validatedQuote venue trade input expected minimum = .ok q) :
    Tolerates trade.slippageBps q := by
  obtain ⟨_, hvalid, h₁⟩ := bind_eq_ok.mp h
  obtain ⟨_, hchecks, h₂⟩ := bind_eq_ok.mp h₁
  have hslip := (Trade.validate_eq_ok.mp hvalid).slippage
  have hrest : (basisPoints - trade.slippageBps).toNat = 10000 - trade.slippageBps.toNat :=
    UInt64.toNat_sub_of_le _ _ (UInt64.le_of_lt hslip)
  rw [failIf_eq_ok, not_or, not_or, not_or, not_lt, hrest] at hchecks
  rw [← pure_eq_ok.mp h₂]
  exact hchecks.2.2.2

theorem Tolerates.of_outputs {slippageBps : UInt64} {q q' : Quote} (h : Tolerates slippageBps q)
    (hexpected : q'.expectedOut = q.expectedOut) (hmin : q'.minOut = q.minOut) :
    Tolerates slippageBps q' := by
  rw [Tolerates, hexpected, hmin]
  exact h

/-- A fee step leaves the outputs of a quote alone. -/
theorem ProviderResponse.tolerates_of_feeStep [Sdk] (r : ProviderResponse) (trade : Trade)
    {fee : Option ProviderFee} {slippageBps : UInt64} {q q' : Quote}
    (h : r.feeStep trade fee q = .ok q') (hq : Tolerates slippageBps q) :
    Tolerates slippageBps q' := by
  cases fee with
  | none =>
    rw [(feeStep_none h).2]
    exact hq
  | some p =>
    obtain ⟨amount, -, -, rfl⟩ := feeStep_some_iff.mp h
    exact hq.of_outputs rfl rfl

section Providers

variable [Sdk] {trade : Trade} {payer : Option Pubkey} {fee : Option ProviderFee}
  {tr : Interaction.Trace Answer} {route : PreparedSwap}

theorem Jupiter.tolerates_of_runs
    (h : (Jupiter.prepareWithPayer trade payer).Runs () tr (.ok route) ()) :
    Tolerates trade.slippageBps route.quote := by
  unfold Jupiter.prepareWithPayer at h
  obtain ⟨build, _, _, _, -, -, h₁⟩ := Proc.runs_bind_ok.mp h
  obtain ⟨quote, hquote, h₂⟩ := Proc.runs_ofResult_bind_ok.mp h₁
  obtain ⟨_, -, h₃⟩ := Proc.runs_ofResult_bind_ok.mp h₂
  obtain ⟨_, -, h₄⟩ := Proc.runs_ofResult_bind_ok.mp h₃
  obtain ⟨-, hroute, -⟩ := Proc.runs_pure.mp h₄
  obtain ⟨_, -, h₅⟩ := bind_eq_ok.mp hquote
  obtain ⟨_, -, h₆⟩ := bind_eq_ok.mp h₅
  obtain ⟨_, -, h₇⟩ := bind_eq_ok.mp h₆
  obtain ⟨_, -, h₈⟩ := bind_eq_ok.mp h₇
  rw [Except.ok.inj hroute]
  exact tolerates_of_validatedQuote h₈

theorem DFlow.tolerates_of_responseQuote {response : Aggregators.DFlow.QuoteResponse} {q : Quote}
    (h : DFlow.responseQuote response trade fee = .ok q) : Tolerates trade.slippageBps q := by
  obtain ⟨_, -, h₁⟩ := bind_eq_ok.mp h
  obtain ⟨_, -, h₂⟩ := bind_eq_ok.mp h₁
  obtain ⟨_, -, h₃⟩ := bind_eq_ok.mp h₂
  obtain ⟨_, -, h₄⟩ := bind_eq_ok.mp h₃
  obtain ⟨_, -, h₅⟩ := bind_eq_ok.mp h₄
  obtain ⟨_, -, h₆⟩ := bind_eq_ok.mp h₅
  obtain ⟨q₀, hquote, hstep⟩ := bind_eq_ok.mp h₆
  exact ProviderResponse.tolerates_of_feeStep (.dflow response) trade hstep
    (tolerates_of_validatedQuote hquote)

theorem DFlow.tolerates_of_runs
    (h : (DFlow.prepareWithFee trade payer fee).Runs () tr (.ok route) ()) :
    Tolerates trade.slippageBps route.quote := by
  unfold DFlow.prepareWithFee at h
  obtain ⟨⟨raw, quote⟩, _, _, _, -, hfetch, h₁⟩ := Proc.runs_bind_ok.mp h
  obtain ⟨answer, _, -, h₂⟩ := Proc.runs_ask_bind.mp h₁
  obtain ⟨_, -, h₃⟩ := Proc.runs_ofResult_bind_ok.mp h₂
  obtain ⟨_, -, h₄⟩ := Proc.runs_ofResult_bind_ok.mp h₃
  obtain ⟨_, -, h₅⟩ := Proc.runs_ofResult_bind_ok.mp h₄
  obtain ⟨_, _, _, _, -, -, h₆⟩ := Proc.runs_bind_ok.mp h₅
  obtain ⟨-, hroute, -⟩ := Proc.runs_pure.mp h₆
  rw [Except.ok.inj hroute]
  unfold DFlow.fetchQuote at hfetch
  obtain ⟨_, -, h₇⟩ := Proc.runs_ofResult_bind_ok.mp hfetch
  obtain ⟨response, _, -, h₈⟩ := Proc.runs_ask_bind.mp h₇
  obtain ⟨⟨_, response⟩, -, h₉⟩ := Proc.runs_ofResult_bind_ok.mp h₈
  obtain ⟨quote', hquote, h₁₀⟩ := Proc.runs_ofResult_bind_ok.mp h₉
  obtain ⟨-, hpair, -⟩ := Proc.runs_pure.mp h₁₀
  cases hpair
  exact DFlow.tolerates_of_responseQuote hquote

theorem Bloxroute.tolerates_of_runs
    (h : (Bloxroute.prepareWithFee trade payer fee).Runs () tr (.ok route) ()) :
    Tolerates trade.slippageBps route.quote := by
  obtain ⟨request, response, -, -, hresponse⟩ := Bloxroute.runs_prepareWithFee h
  obtain ⟨_, -, h₁⟩ := bind_eq_ok.mp hresponse
  obtain ⟨q₀, hquote, h₂⟩ := bind_eq_ok.mp h₁
  obtain ⟨q, hstep, h₃⟩ := bind_eq_ok.mp h₂
  obtain ⟨_, -, h₄⟩ := bind_eq_ok.mp h₃
  obtain ⟨_, -, h₅⟩ := bind_eq_ok.mp h₄
  obtain ⟨_, -, h₆⟩ := bind_eq_ok.mp h₅
  obtain ⟨_, -, h₇⟩ := bind_eq_ok.mp h₆
  rw [← pure_eq_ok.mp h₇]
  refine ProviderResponse.tolerates_of_feeStep (.bloxroute response) trade hstep ?_
  exact (tolerates_of_validatedQuote hquote).of_outputs rfl rfl

theorem Relay.tolerates_of_runs
    (h : (Relay.prepareWithFee trade payer fee).Runs () tr (.ok route) ()) :
    Tolerates trade.slippageBps route.quote := by
  unfold Relay.prepareWithFee at h
  obtain ⟨_, -, h₁⟩ := Proc.runs_ofResult_bind_ok.mp h
  obtain ⟨_, -, h₂⟩ := Proc.runs_ofResult_bind_ok.mp h₁
  obtain ⟨answer, _, -, h₃⟩ := Proc.runs_ask_bind.mp h₂
  obtain ⟨response, -, h₄⟩ := Proc.runs_ofResult_bind_ok.mp h₃
  obtain ⟨quoted, hquoted, h₅⟩ := Proc.runs_ofResult_bind_ok.mp h₄
  obtain ⟨q, hstep, h₆⟩ := Proc.runs_ofResult_bind_ok.mp h₅
  obtain ⟨_, -, h₇⟩ := Proc.runs_ofResult_bind_ok.mp h₆
  obtain ⟨_, -, h₈⟩ := Proc.runs_ofResult_bind_ok.mp h₇
  obtain ⟨-, hroute, -⟩ := Proc.runs_pure.mp h₈
  rw [Except.ok.inj hroute]
  obtain ⟨_, -, h₉⟩ := bind_eq_ok.mp hquoted
  obtain ⟨_, -, h₁₀⟩ := bind_eq_ok.mp h₉
  obtain ⟨_, -, h₁₁⟩ := bind_eq_ok.mp h₁₀
  obtain ⟨_, -, h₁₂⟩ := bind_eq_ok.mp h₁₁
  obtain ⟨q₀, hquote, h₁₃⟩ := bind_eq_ok.mp h₁₂
  refine ProviderResponse.tolerates_of_feeStep (.relay response) trade hstep ?_
  rw [← pure_eq_ok.mp h₁₃]
  exact (tolerates_of_validatedQuote hquote).of_outputs rfl rfl

end Providers

/-! ## Native venues -/

section Native

variable [Profile] {q : Quote} {side : Side} {amount slippageBps : UInt64}

/-- The minimum that both venues compute. -/
theorem tolerates_of_slippageDown {ε : Type} (hslip : slippageBps < basisPoints)
    (h : (slippageDown q.expectedOut slippageBps : Result ε UInt64) = .ok q.minOut) :
    Tolerates slippageBps q := by
  have hbps : slippageBps.toNat ≤ 10000 := (UInt64.lt_iff_toNat_lt.mp hslip).le
  rw [slippageDown_eq hbps] at h
  have hsound := (slippageSound hslip q.inAmount q.expectedOut q.fee).floor_le
  rw [Tolerates, ← Except.ok.inj h]
  exact hsound

theorem PumpFun.tolerates_of_computeQuote {curve : PumpFun.Curve} {fees : PumpFun.FeeSettings}
    (hslip : slippageBps < basisPoints)
    (h : PumpFun.computeQuote curve fees side amount slippageBps = .ok q) :
    Tolerates slippageBps q := by
  unfold PumpFun.computeQuote at h
  cases side with
  | buy =>
    obtain ⟨_, -, h₁⟩ := bind_eq_ok.mp h
    obtain ⟨minOut, hmin, h₂⟩ := bind_eq_ok.mp h₁
    rw [← pure_eq_ok.mp h₂]
    exact tolerates_of_slippageDown hslip hmin
  | sell =>
    obtain ⟨_, -, h₁⟩ := bind_eq_ok.mp h
    obtain ⟨minOut, hmin, h₂⟩ := bind_eq_ok.mp h₁
    rw [← pure_eq_ok.mp h₂]
    exact tolerates_of_slippageDown hslip hmin

theorem PumpSwap.tolerates_of_computeQuote {pool : PumpSwap.PoolState}
    {fees : PumpSwap.FeeSettings} (hslip : slippageBps < basisPoints)
    (h : PumpSwap.computeQuote pool fees side amount slippageBps = .ok q) :
    Tolerates slippageBps q := by
  unfold PumpSwap.computeQuote at h
  cases side with
  | buy =>
    obtain ⟨_, -, h₁⟩ := bind_eq_ok.mp h
    obtain ⟨minOut, hmin, h₂⟩ := bind_eq_ok.mp h₁
    rw [← pure_eq_ok.mp h₂]
    exact tolerates_of_slippageDown hslip hmin
  | sell =>
    obtain ⟨_, -, h₁⟩ := bind_eq_ok.mp h
    obtain ⟨minOut, hmin, h₂⟩ := bind_eq_ok.mp h₁
    rw [← pure_eq_ok.mp h₂]
    exact tolerates_of_slippageDown hslip hmin

end Native

/-! ## Every source -/

section Client

variable [Sdk] [Profile]

theorem tolerates_of_prepareRoute {client : TradingClient} {source : QuoteSource} {trade : Trade}
    {fee : Option ProviderFee} {tr : Interaction.Trace Answer} {route : PreparedSwap}
    (hslip : trade.slippageBps < basisPoints)
    (h : (client.prepareRoute source trade fee).Runs () tr (.ok route) ()) :
    Tolerates trade.slippageBps route.quote := by
  cases runs_prepareRoute h with
  | jupiter hrun => exact Jupiter.tolerates_of_runs hrun
  | dflow hrun => exact DFlow.tolerates_of_runs hrun
  | bloxroute hrun => exact Bloxroute.tolerates_of_runs hrun
  | relay hrun => exact Relay.tolerates_of_runs hrun
  | pumpFun cached hrun =>
    obtain ⟨curve, fees, hquote, -⟩ := PumpFun.runs_prepareSwap hrun
    exact PumpFun.tolerates_of_computeQuote hslip hquote
  | pumpSwap cached hrun =>
    obtain ⟨pool, fees, -, hquote, -⟩ := PumpSwap.runs_prepareSwap hrun
    exact PumpSwap.tolerates_of_computeQuote hslip hquote

/-- The fees of a prepared swap that come off its output. -/
def outputFees (trade : Trade) (providerFee : Option ProviderFee) (prepared : PreparedSwap) : ℕ :=
  match trade.side with
  | .buy => 0
  | .sell => collectedBySdk providerFee prepared + prepared.quote.sponsorshipFee.toNat

/-- **The caller's tolerance is kept from the source to the wallet.**  Whatever the source and
whatever it answers, the minimum of a prepared swap is positive and, with the fees of a sell
added back to both, not below what the tolerance leaves of the expected output; what may be
lost is less than the tolerated share of the gross output and one unit. -/
theorem slippage_kept {client : TradingClient} {trade : Trade} {tr : Interaction.Trace Answer}
    {prepared : PreparedSwap}
    (h : (client.prepareSelectedSwap trade).Runs () tr (.ok prepared) ()) :
    ∃ providerFee,
      client.providerFee trade (client.quoteSourceFor trade) = .ok providerFee ∧
      0 < prepared.quote.minOut ∧ prepared.quote.minOut ≤ prepared.quote.expectedOut ∧
      shareDown 10000 (prepared.quote.expectedOut.toNat + outputFees trade providerFee prepared)
          (10000 - trade.slippageBps.toNat) ≤
        prepared.quote.minOut.toNat + outputFees trade providerFee prepared ∧
      (prepared.quote.expectedOut.toNat - prepared.quote.minOut.toNat) * 10000 <
        (prepared.quote.expectedOut.toNat + outputFees trade providerFee prepared) *
          trade.slippageBps.toNat + 10000 := by
  obtain ⟨providerFee, routed, route, charged, hfrom, hconserved⟩ := runs_conserved h
  obtain ⟨tr', -, -, hroute⟩ := hfrom.answered
  have hslip := hfrom.valid.slippage
  have hrouted : routed.slippageBps = trade.slippageBps := by
    rw [(TradingClient.routedTrade_eq_ok hfrom.reserved).rest]
  have htolerates := tolerates_of_prepareRoute (hrouted ▸ hslip) hroute
  rw [hrouted] at htolerates
  -- What the route promises is what is shown and the fees that come off it.
  have houtput : prepared.quote.expectedOut.toNat + outputFees trade providerFee prepared =
        route.quote.expectedOut.toNat ∧
      prepared.quote.minOut.toNat + outputFees trade providerFee prepared =
        route.quote.minOut.toNat := by
    cases hside : trade.side with
    | buy =>
      obtain ⟨-, hexpected, hmin⟩ := hconserved.buy hside
      simp [outputFees, hside, hexpected, hmin]
    | sell =>
      obtain ⟨-, hexpected, hmin⟩ := hconserved.sell hside
      simp only [outputFees, hside]
      omega
  have hkept : shareDown 10000
      (prepared.quote.expectedOut.toNat + outputFees trade providerFee prepared)
        (10000 - trade.slippageBps.toNat) ≤
      prepared.quote.minOut.toNat + outputFees trade providerFee prepared := by
    rw [houtput.1, houtput.2]
    exact htolerates
  refine ⟨providerFee, hfrom.provider, hconserved.minOut_pos, hconserved.minOut_le, hkept, ?_⟩
  have hloss := loss_lt_of_shareDown_le (UInt64.lt_iff_toNat_lt.mp hslip).le hkept
  rwa [Nat.add_sub_add_right] at hloss

end Client

/-- Relay answers the sale and nothing else is answered. -/
def saleBackend (_ : ℕ) (q : Query) : Answer q :=
  match q with
  | .relayQuote _ => .ok saleAnswer
  | q => silent q

/-- The sale of the sample client pays an SDK fee and a sponsorship fee out of its 6 USDC. -/
theorem slippage_kept_sample :
    let := sampleSdk
    let : Profile := ⟨true⟩
    ∃ tr prepared, (sampleClient.prepareSelectedSwap relaySale).Runs () tr (.ok prepared) () ∧
      prepared.quote.applicationFee = 60000 ∧ prepared.quote.sponsorshipFee = 3000000 ∧
      ∃ providerFee, 3000000 ≤ outputFees relaySale providerFee prepared ∧
        shareDown 10000
            (prepared.quote.expectedOut.toNat + outputFees relaySale providerFee prepared)
            (10000 - relaySale.slippageBps.toNat) ≤
          prepared.quote.minOut.toNat + outputFees relaySale providerFee prepared := by
  intro sdk profile
  obtain ⟨tr, r, _, hrun, hok⟩ := Proc.runs_of_exec_prop saleBackend (fun _ => 1)
    (sampleClient.prepareSelectedSwap relaySale) ()
    (fun _ r => (r.toOption.map fun prepared =>
      (prepared.quote.applicationFee, prepared.quote.sponsorshipFee)) = some (60000, 3000000))
    (by decide +kernel)
  obtain ⟨prepared, rfl, hfees⟩ := toOption_map_eq_some.mp hok
  obtain ⟨happlication, hsponsorship⟩ := Prod.mk.inj hfees
  obtain ⟨providerFee, -, -, -, hkept, -⟩ := slippage_kept hrun
  refine ⟨tr, prepared, hrun, happlication, hsponsorship, providerFee, ?_, hkept⟩
  have hall : outputFees relaySale providerFee prepared =
      collectedBySdk providerFee prepared + prepared.quote.sponsorshipFee.toNat := rfl
  rw [hall, hsponsorship]
  exact Nat.le_add_left _ _

end Solana
end TradingAggregators
