import TradingAggregators.Evm.Types
import TradingAggregators.Wire.Hex

/-!
# `evm/mod.rs` and `evm/robinhood.rs`: networks and clients

What a chain fixes at compile time, and the settings a client carries.
-/

namespace TradingAggregators
namespace Evm

open Rust Wire

/-- Uniswap's contracts on one chain, plus the pool that prices ETH in USD. -/
structure UniswapDeployment where
  weth : Address
  /-- The fee-taking router, not a Uniswap contract. -/
  cswapRouter : Address
  v2Factory : Address
  v3Factory : Address
  v3Quoter : Address
  v4Quoter : Address
  v4StateView : Address
  /-- Resolves a v4 pool id back to its key. -/
  v4PositionManager : Address
  /-- A deep v3 WETH/stablecoin pool. -/
  ethUsdPool : Address
  usdDecimals : UInt8

/-- The constants of the trait `Network`. -/
structure Network where
  chainId : UInt64
  name : String
  router : Address
  approvalProxy : Address
  uniswap : UniswapDeployment

/-- `Robinhood`. -/
def robinhood : Network where
  chainId := 4663
  name := "Robinhood"
  router := .hex 20 "0xb92fe925dc43a0ecde6c8b1a2709c170ec4fff4f"
  approvalProxy := .hex 20 "0xccc88a9d1b4ed6b0eaba998850414b24f1c315be"
  uniswap :=
    { weth := .hex 20 "0x0Bd7D308f8E1639FAb988df18A8011f41EAcAD73"
      cswapRouter := .hex 20 "0xd8fbb0ded86fb6d593b598a44daa082deb329ade"
      v2Factory := .hex 20 "0x8bceaa40b9acdfaedf85adf4ff01f5ad6517937f"
      v3Factory := .hex 20 "0x1f7d7550b1b028f7571e69a784071f0205fd2efa"
      v3Quoter := .hex 20 "0x33e885ed0ec9bf04ecfb19341582aadcb4c8a9e7"
      v4Quoter := .hex 20 "0x8dc178efb8111bb0973dd9d722ebeff267c98f94"
      v4StateView := .hex 20 "0xf3334192d15450cdd385c8b70e03f9a6bd9e673b"
      v4PositionManager := .hex 20 "0x58daec3116aae6d93017baaea7749052e8a04fa7"
      ethUsdPool := .hex 20 "0x52e65B17fB6E5BA00Ed806f37Afcd2DaA50271Ca"
      usdDecimals := 6 }

/-! ## The client -/

/-- Used only when neither the trade nor the client names a source. -/
def defaultQuoteSource : QuoteSource := .relay

/-- The settings of a `Client`, without its connections. -/
structure Client where
  quoteSource : Option QuoteSource
  appFee : Option AppFee
  usdValueEnabled : Bool
  /-- In nanoseconds. -/
  confirmationTimeout : ℕ

namespace Client

def new : Client where
  quoteSource := none
  appFee := none
  usdValueEnabled := true
  confirmationTimeout := 60 * 10 ^ 9

def withQuoteSource (client : Client) (source : QuoteSource) : Client :=
  { client with quoteSource := some source }

/-- Precedence: trade, then client, then Relay. -/
def quoteSourceFor (client : Client) (trade : Trade) : QuoteSource :=
  (trade.quoteSource <|> client.quoteSource).getD defaultQuoteSource

def withAppFee (client : Client) (fee : AppFee) : Client :=
  { client with appFee := if fee.basisPoints > 0 then some fee else none }

/-- The USD value of a quote is then always `none`. -/
def withoutUsdValue (client : Client) : Client :=
  { client with usdValueEnabled := false }

def withConfirmationTimeout (client : Client) (timeout : ℕ) : TradeResult Client :=
  if timeout = 0 then buildError "confirmation timeout must be positive"
  else .ok { client with confirmationTimeout := timeout }

end Client
end Evm
end TradingAggregators
