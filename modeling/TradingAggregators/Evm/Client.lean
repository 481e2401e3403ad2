import TradingAggregators.Evm.Dexes.Uniswap
import TradingAggregators.Evm.Execution
import TradingAggregators.Evm.Sources.Relay

/-!
# `evm/mod.rs`: what a client does

Preparing a swap with the source of the trade, quoting, finding markets, and a whole swap from
the quote to the receipts.
-/

namespace TradingAggregators
namespace Evm

open Interaction Rust Wire

/-- `prepared.quote.usd_value = None`. -/
def PreparedSwap.withoutUsdValue (prepared : PreparedSwap) : PreparedSwap where
  quote := { prepared.quote with usdValue := none }
  wallet := prepared.wallet
  transactions := prepared.transactions
  createdAt := prepared.createdAt
  nonempty := prepared.nonempty
  onChain := prepared.onChain
  fromWallet := prepared.fromWallet

namespace Client

variable [Alloy] [Uniswap.SolTypes] {σ : Type}

/-- The deepest Uniswap ETH pool for `token`; `none` means use Relay. -/
def findNativeMarket (n : Network) (token : Address) : Task σ (Option Uniswap.NativeMarket) :=
  Uniswap.findMarket n token

/-- Whether a user-supplied pool is a Uniswap ETH pool the router can trade. -/
def ethPool (n : Network) (pool : Uniswap.PoolRef) : Task σ (Option Uniswap.EthPool) :=
  Uniswap.ethPool n pool

variable [Profile]

/-- The adapter of a source. -/
def prepareWith (n : Network) (client : Client) (trade : Trade) :
    QuoteSource → Task σ PreparedSwap
  | .relay => Relay.prepare n trade client.appFee
  | .uniswap => Uniswap.prepare n trade client.appFee

def prepareSwap (n : Network) (client : Client) (trade : Trade) : Task σ PreparedSwap := do
  let prepared ← client.prepareWith n trade (client.quoteSourceFor trade)
  pure (if client.usdValueEnabled then prepared else prepared.withoutUsdValue)

def quote (n : Network) (client : Client) (trade : Trade) : Task σ Quote := do
  let prepared ← client.prepareSwap n trade
  pure prepared.quote

/-- `map_err(SwapError::before_submission)`. -/
def beforeSubmission : Fault TradeError → Fault SwapError
  | .err source => .err (.beforeSubmission source)
  | .panicked => .panicked

def swap (n : Network) (client : Client) (trade : Trade) :
    Proc Answer σ (Fault SwapError) SwapResult := do
  let prepared ← Proc.mapErr beforeSubmission (client.prepareSwap n trade)
  executeSwap n client prepared

end Client
end Evm
end TradingAggregators
