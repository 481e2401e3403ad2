import TradingAggregators.Solana.SdkFee

/-!
# `solana/provider_fee.rs`

A fee that the provider collects inside its route instead of an SDK transfer.
-/

namespace TradingAggregators
namespace Solana

open Interaction Rust

structure ProviderFee where
  fee : SdkFee
  mint : Pubkey
  side : Side

namespace ProviderFee

def new [Profile] (fee : SdkFee) (trade : Trade) : TradeResult ProviderFee := do
  let _ ← fee.tradeAfterFee trade
  pure { fee := fee, side := trade.side, mint := trade.settlement.mint }

def account [Sdk] (p : ProviderFee) : Pubkey :=
  ata p.fee.recipient p.mint tokenProgram

def mode (p : ProviderFee) : String :=
  match p.side with
  | .buy => "inputMint"
  | .sell => "outputMint"

def setup [Sdk] (p : ProviderFee) (payer : Pubkey) : Instruction :=
  createAtaIdempotent payer p.fee.recipient p.mint tokenProgram

/-- `u64::checked_add`. -/
def checkedAdd64 (a b : UInt64) : Option UInt64 :=
  if a.toNat + b.toNat < 2 ^ 64 then some (a + b) else none

def validateAmount (p : ProviderFee) (quote : Quote) (amount bps : UInt64) :
    TradeResult Unit := do
  let basis ← match p.side with
    | .buy => pure quote.inAmount
    | .sell => okOr (checkedAdd64 quote.expectedOut amount) (.build "provider fee amount overflow")
  let expected :=
    UInt64.ofNat (basis.toNat * p.fee.basisPoints.toNat / Solana.basisPoints.toNat)
  failIf (bps ≠ p.fee.basisPoints.toUInt64 ∨ amount ≠ expected)
    (.err (.build "provider fee does not match the requested settlement fee"))

end ProviderFee
end Solana
end TradingAggregators
