import TradingAggregators.Solana.World

/-!
# The `Dex` trait

One quote and execution source, as an object.
-/

namespace TradingAggregators
namespace Solana

open Rust

structure Dex where
  name : String
  quote : Trade → AnyTask Unit Quote
  /-- Must return the quote enforced by these instructions. -/
  prepareSwap : Trade → AnyTask Unit PreparedSwap
  prepareSponsoredSwap : Trade → Pubkey → AnyTask Unit PreparedSwap

/-- Both Pump venues list eight recipients of a fee and pay the first. -/
def firstRecipient (recipients : Vector Pubkey 8) : Pubkey :=
  recipients[0]

/-- The default `prepare_sponsored_swap`. -/
def Dex.unsponsored (name : String) (_ : Trade) (_ : Pubkey) : AnyTask Unit PreparedSwap :=
  throw (.err (.other (name ++ " does not support sponsored swaps")))

end Solana
end TradingAggregators
