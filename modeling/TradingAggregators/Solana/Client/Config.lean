import TradingAggregators.Solana.Dexes.PumpFun
import TradingAggregators.Solana.Dexes.PumpSwap
import TradingAggregators.Solana.Executor
import TradingAggregators.Solana.Sources.Bloxroute
import TradingAggregators.Solana.Sources.DFlow
import TradingAggregators.Solana.Sources.Jupiter
import TradingAggregators.Solana.Sources.Relay

/-!
# `solana/client/mod.rs`: the client

What a `TradingClient` is configured with.  API keys and URLs belong to the environment;
what the venues have cached belongs to the client, since the next call reads it.
-/

namespace TradingAggregators
namespace Solana

open Interaction Rust
open Interaction.Proc (read update)

structure TradingClient where
  pumpfunFees : Option PumpFun.FeeSettings
  pumpswapFees : Option PumpSwap.FeeSettings
  solUsdcPool : Pubkey
  /-- The USDC and the SOL vault of the pool. -/
  solUsdcVaults : Option (Pubkey × Pubkey)
  quoteSource : Option QuoteSource
  sdkFee : Option SdkFee
  gasSponsor : Option GasSponsor
  usdValueEnabled : Bool
  sharedLookupTables : List AddressLookupTableAccount
  /-- In nanoseconds. -/
  deadline : ℕ

namespace TradingClient

def new : TradingClient where
  pumpfunFees := none
  pumpswapFees := none
  solUsdcPool := PumpSwap.defaultSolUsdcPool
  solUsdcVaults := none
  quoteSource := none
  sdkFee := none
  gasSponsor := none
  usdValueEnabled := true
  sharedLookupTables := []
  deadline := 30000000000

/-- The PumpSwap SOL/USDC pool that prices SOL for `quote.usd_value`. -/
def withPumpswapSolUsdcPool (client : TradingClient) (pool : Pubkey) : TradingClient :=
  { client with solUsdcPool := pool }

def withSdkFee (client : TradingClient) (fee : SdkFee) : TradingClient :=
  { client with sdkFee := some fee }

/-- Every USDC-settled trade on this client is sponsored, whatever the user's SOL balance. -/
def withGasSponsor (client : TradingClient) (sponsor : GasSponsor) : TradingClient :=
  { client with gasSponsor := some sponsor }

/-- Skips USD pricing and its pool reads. -/
def withoutUsdValue (client : TradingClient) : TradingClient :=
  { client with usdValueEnabled := false }

def withQuoteSource (client : TradingClient) (source : QuoteSource) : TradingClient :=
  { client with quoteSource := some source }

def withSharedLookupTables (client : TradingClient)
    (tables : List AddressLookupTableAccount) : TradingClient :=
  { client with sharedLookupTables := mergeLookupTables tables [] }

def withSharedLookupTableAddresses [Sdk] (client : TradingClient) (addresses : List Pubkey) :
    Task Unit TradingClient := do
  let tables ← loadAddressLookupTables addresses
  pure { client with sharedLookupTables := tables }

/-- Call after extending a table.  A failed refresh leaves the old snapshots in place. -/
def refreshSharedLookupTables [Sdk] : Task TradingClient Unit := do
  let client ← read
  let addresses := client.sharedLookupTables.map AddressLookupTableAccount.key
  let refreshed ← loadAddressLookupTables addresses
  update fun client => { client with sharedLookupTables := refreshed }

def sponsorFor (client : TradingClient) (trade : Trade) : Option GasSponsor :=
  client.gasSponsor.filter fun _ => trade.settlement = .usdc

end TradingClient
end Solana
end TradingAggregators
