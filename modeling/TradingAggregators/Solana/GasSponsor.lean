import TradingAggregators.Solana.GasSponsor.Cost
import TradingAggregators.Solana.SdkFee

/-!
# `solana/gas_sponsor/mod.rs`

Opt-in USDC sponsorship: another wallet pays the network fee and is reimbursed in USDC by
a transfer appended to the route.
-/

namespace TradingAggregators
namespace Solana

open Interaction Rust Wire

def defaultMaxCostLamports : UInt64 := 10000000
def defaultMaxFeeUsdc : UInt64 := 3000000

/-- The sponsor's signer is the environment's `sponsorSign`. -/
structure GasSponsor where
  wallet : Pubkey
  feeRecipient : Pubkey
  costPolicy : SponsorCostPolicy
  wallet_ne_default : wallet ≠ .zero 32
  feeRecipient_ne_default : feeRecipient ≠ .zero 32

def subtractFee (amount fee : UInt64) : TradeResult UInt64 :=
  okOr ((checkedSub64 amount fee).filter fun remaining => remaining > 0)
    (.build "USDC amount must exceed the combined trading and sponsorship fees")

namespace GasSponsor

def new (wallet : Pubkey) : TradeResult GasSponsor :=
  if h : wallet = .zero 32 then buildError "sponsor wallet must be nonzero"
  else do
    let costPolicy ← SponsorCostPolicy.new defaultMaxCostLamports defaultMaxFeeUsdc
    pure {
      wallet := wallet
      feeRecipient := wallet
      costPolicy := costPolicy
      wallet_ne_default := h
      feeRecipient_ne_default := h }

def withFeeRecipient (sponsor : GasSponsor) (recipient : Pubkey) : TradeResult GasSponsor :=
  if h : recipient = .zero 32 then buildError "sponsorship fee recipient must be nonzero"
  else .ok { sponsor with feeRecipient := recipient, feeRecipient_ne_default := h }

def withLimits (sponsor : GasSponsor) (maxCostLamports maxFeeUsdc : UInt64) :
    TradeResult GasSponsor := do
  let costPolicy ← sponsor.costPolicy.withLimits maxCostLamports maxFeeUsdc
  pure { sponsor with costPolicy := costPolicy }

def withServiceFeeUsdc (sponsor : GasSponsor) (amount : UInt64) : TradeResult GasSponsor := do
  let costPolicy ← sponsor.costPolicy.withServiceFeeUsdc amount
  pure { sponsor with costPolicy := costPolicy }

def reserveFee (sponsor : GasSponsor) (trade : Trade) : TradeResult Trade := do
  failIf (trade.settlement ≠ .usdc ∨ trade.wallet = sponsor.wallet)
    (.err (.build "sponsorship requires USDC settlement and a separate fee payer"))
  failIf (sponsor.feeRecipient = trade.wallet)
    (.err (.build "sponsorship fee recipient must differ from trading wallet"))
  match trade.side with
  | .buy => do
      -- Reserve the ceiling; submit/swap lower the charge before signing.
      let amount ← subtractFee trade.amount sponsor.costPolicy.maxFeeUsdc
      pure { trade with amount := amount }
  | .sell => pure trade

/-- A sponsor pays for other wallets' trades only. -/
theorem wallet_ne_of_reserveFee {sponsor : GasSponsor} {trade reserved : Trade}
    (h : sponsor.reserveFee trade = .ok reserved) : sponsor.wallet ≠ trade.wallet := by
  obtain ⟨_, hchecked, -⟩ := bind_eq_ok.mp h
  rw [failIf_eq_ok, not_or] at hchecked
  exact fun heq => hchecked.2 heq.symm

def applyToSwap [Sdk] (sponsor : GasSponsor) (trade : Trade) (prepared : PreparedSwap) :
    TradeResult PreparedSwap := do
  let quote := { prepared.quote with inAmount := trade.amount }
  let ceiling := sponsor.costPolicy.maxFeeUsdc
  let quote ← match trade.side with
    | .buy => pure quote
    | .sell => do
        let minOut ← subtractFee quote.minOut ceiling
        let expectedOut ← subtractFee quote.expectedOut ceiling
        pure { quote with minOut := minOut, expectedOut := expectedOut }
  let quote := { quote with sponsorshipFee := ceiling }
  -- Atomic with the swap: failure refunds USDC, but the sponsor still loses network fees.
  let instructions ← appendUsdcFee prepared.instructions sponsor.wallet trade.wallet
    sponsor.feeRecipient ceiling
  pure { prepared with quote := quote, instructions := instructions }

end GasSponsor
end Solana
end TradingAggregators
