import TradingAggregators.Solana.Client.UsdValue

/-!
# `solana/client/routing.rs`

Preparing a swap: choosing the source, taking the fees out of the amount that is routed,
asking one adapter for the route and appending the fee transfers to it.
-/

namespace TradingAggregators
namespace Solana

open Interaction Rust
open Interaction.Proc (ofResult both within)

/-- Used only when neither the trade, the client nor a legacy venue names a source. -/
def defaultQuoteSource : QuoteSource := .relay

def validateCandidate (trade : Trade) (prepared : PreparedSwap) (providerFee : Bool) :
    TradeResult Unit :=
  failIf (prepared.quote.inAmount ≠ trade.amount ∨
      (providerFee = false ∧ prepared.quote.applicationFee ≠ 0) ∨
      prepared.quote.sponsorshipFee ≠ 0 ∨
      prepared.quote.minOut = 0 ∨
      prepared.quote.minOut > prepared.quote.expectedOut ∨
      prepared.instructions = [])
    (.err (.build (prepared.venue ++ " returned invalid output amounts")))

/-- `tokio::time::timeout` of 15 s around a route. -/
def boundedRoute {α : Type} (venue : String) (preparation : Task Unit α) : Task Unit α :=
  within (.err (.venue venue "route preparation timed out")) preparation

namespace TradingClient

def quoteSourceFor (client : TradingClient) (trade : Trade) : QuoteSource :=
  (trade.quoteSource <|> client.quoteSource).getD (match trade.venue with
    | some .pumpFun => .pumpFun
    | some .pumpSwap => .pumpSwap
    | none => defaultQuoteSource)

/-- What is shown of a trade's USD value. -/
def usdValue (client : TradingClient) (trade : Trade) (poolPrices : Option PoolPrices)
    (routed charged : Quote) : Option UsdValue :=
  if client.usdValueEnabled then
    (poolPrices.bind fun prices => prices.usdValue trade charged) <|>
      usdValueAfterFees routed charged
  else none

/-- A provider-collected fee replaces the SDK transfer; never charge both. -/
def transferFee (client : TradingClient) (providerFee : Option ProviderFee) : Option SdkFee :=
  client.sdkFee.filter fun _ => providerFee.isNone

variable [Profile]

/-- The error of a provider fee that no provider can collect. -/
def providerFeeError : TradeError :=
  .build "provider fee collection requires bloXroute, DFlow or Relay"

def providerFee (client : TradingClient) (trade : Trade) (source : QuoteSource) :
    TradeResult (Option ProviderFee) :=
  match client.sdkFee.filter fun fee => fee.collection = .provider && fee.basisPoints > 0 with
  | none => .ok none
  | some fee => do
      failIf (source ∉ [QuoteSource.bloxroute, .dflow, .relay]) (.err providerFeeError)
      let fee ← ProviderFee.new fee trade
      pure (some fee)

def routedTrade (client : TradingClient) (trade : Trade) (transferFee : Option SdkFee) :
    TradeResult Trade := do
  let routed ← match transferFee with
    | some fee => fee.tradeAfterFee trade
    | none => pure trade
  match client.sponsorFor trade with
  | some sponsor => sponsor.reserveFee routed
  | none => pure routed

variable [Sdk]

def sourceAdapter (client : TradingClient) : QuoteSource → Dex
  | .jupiter => Jupiter.dex
  | .dflow => DFlow.dex
  | .bloxroute => Bloxroute.dex
  | .relay => Relay.dex
  | .pumpFun => PumpFun.dex client.pumpfunFees
  | .pumpSwap => PumpSwap.dex client.pumpswapFees

def prepareProviderFeeSwap (client : TradingClient) (source : QuoteSource) (trade : Trade)
    (fee : ProviderFee) : Task Unit PreparedSwap :=
  let payer := (client.sponsorFor trade).map GasSponsor.wallet
  match source with
  | .bloxroute => Bloxroute.prepareWithFee trade payer (some fee)
  | .dflow => DFlow.prepareWithFee trade payer (some fee)
  | .relay => Relay.prepareWithFee trade payer (some fee)
  | _ => throw (.err providerFeeError)

def prepareRoute (client : TradingClient) (source : QuoteSource) (trade : Trade)
    (providerFee : Option ProviderFee) : Task Unit PreparedSwap :=
  match providerFee with
  | some fee => client.prepareProviderFeeSwap source trade fee
  | none =>
      let adapter := client.sourceAdapter source
      dexErr adapter.name (match client.sponsorFor trade with
        | some sponsor => adapter.prepareSponsoredSwap trade sponsor.wallet
        | none => adapter.prepareSwap trade)

/-- Fee transfers go after the full route, so a failed transfer rolls back the swap. -/
def appendFees (client : TradingClient) (trade : Trade) (prepared : PreparedSwap)
    (transferFee : Option SdkFee) : TradeResult PreparedSwap := do
  let sponsor := client.sponsorFor trade
  let prepared ← match transferFee with
    | some fee =>
        let payer := (sponsor.map GasSponsor.wallet).getD trade.wallet
        fee.applyWithPayer trade prepared payer
    | none => pure prepared
  let prepared := { prepared with quote := { prepared.quote with inAmount := trade.amount } }
  match sponsor with
  | some sponsor => sponsor.applyToSwap trade prepared
  | none => pure prepared

def prepareSelectedSwap (client : TradingClient) (trade : Trade) : Task Unit PreparedSwap := do
  ofResult trade.validate
  let source := client.quoteSourceFor trade
  Proc.failIf (source.nativeVenue.isSome ∧ trade.settlement = .usdc)
    (.err (.build "Pump.fun and PumpSwap trade SOL only; use an aggregator for USDC"))
  let providerFee ← ofResult (client.providerFee trade source)
  let transferFee := client.transferFee providerFee
  let routed ← ofResult (client.routedTrade trade transferFee)
  let (prepared, poolPrices) ← both
    (boundedRoute (client.sourceAdapter source).name
      (client.prepareRoute source routed providerFee))
    (client.poolPrices trade source)
  let poolPrices ← ofResult poolPrices
  let prepared ← ofResult prepared
  ofResult (validateCandidate routed prepared providerFee.isSome)
  let routedQuote := prepared.quote
  let prepared ← ofResult (client.appendFees trade prepared transferFee)
  pure { prepared with
    quote := { prepared.quote with
      usdValue := client.usdValue trade poolPrices routedQuote prepared.quote } }

end TradingClient
end Solana
end TradingAggregators
