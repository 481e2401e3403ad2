import TradingAggregators.Solana.Client.Config

/-!
# `solana/client/usd_value.rs`

USD values at pool spot prices.  They are display-only: a pool read that fails gives `none`.
-/

namespace TradingAggregators
namespace Solana

open Interaction Rust Wire
open Interaction.Proc (ofResult attempt)

def usdcUnitsPerDollar : Float := 1000000.0

/-- USD per base unit of the traded token and of the settlement currency, at pool spot
prices. -/
structure PoolPrices where
  token : Float
  settlement : Float

def PoolPrices.usdValue (prices : PoolPrices) (trade : Trade) (quote : Quote) :
    Option UsdValue :=
  let (paidPrice, receivedPrice) := match trade.side with
    | .buy => (prices.settlement, prices.token)
    | .sell => (prices.token, prices.settlement)
  UsdValue.new (quote.inAmount.toFloat * paidPrice) (quote.expectedOut.toFloat * receivedPrice)

/-- Providers price the routed amounts, so scale to what the user pays and gets after SDK and
sponsorship fees; otherwise the loss would hide our own fees. -/
def usdValueAfterFees (routed charged : Quote) : Option UsdValue := do
  let reported ← routed.usdValue
  UsdValue.new (reported.paid * charged.inAmount.toFloat / routed.inAmount.toFloat)
    (reported.received * charged.expectedOut.toFloat / routed.expectedOut.toFloat)

/-- The SOL/USDC pool's base is USDC and its quote is SOL. -/
def usdPerLamport (poolData usdcVaultData solVaultData : Bytes) : Result AnyError Float := do
  let pool ← PumpSwap.PoolVaults.decode poolData usdcMint
  failIf (pool.quoteMint ≠ wsol) (.err (.other "SOL/USDC pool must be quoted in SOL"))
  let usdc ← tokenAccountAmount usdcVaultData
  let sol ← tokenAccountAmount solVaultData
  let lamportsPerUsdcUnit ← pool.spotPrice usdc sol
  pure (1.0 / (lamportsPerUsdcUnit * usdcUnitsPerDollar))

def usdPerUnit (mint : Pubkey) (usdPerLamport : Float) : Result AnyError Float :=
  if mint = wsol then .ok usdPerLamport
  else if mint = usdcMint then .ok (1.0 / usdcUnitsPerDollar)
  else fail (.other ("no USD price for " ++ keyText mint))

/-- `all_present`, without the count that its callers expect. -/
def allPresent {α : Type} (accounts : List (Option α)) : Result AnyError (List α) :=
  okOr (accounts.mapM id) (.other "pricing account not found")

def accountCount {α : Type} : Result AnyError α :=
  fail (.other "unexpected pricing account count")

/-- A PumpSwap pool keeps its reserves in vaults, so they need a second read. -/
def pumpswapSpot (mint : Pubkey) (poolData : Bytes) : AnyTask Unit (Pubkey × Float) := do
  let pool ← ofResult (PumpSwap.PoolVaults.decode poolData mint)
  let response ← ask (.getMultipleAccounts [pool.baseVault, pool.quoteVault])
  let vaults ← ofResult (clientResult response)
  match ← ofResult (allPresent vaults) with
  | [baseVault, quoteVault] => do
      let base ← ofResult (tokenAccountAmount baseVault.data)
      let quote ← ofResult (tokenAccountAmount quoteVault.data)
      let spot ← ofResult (pool.spotPrice base quote)
      pure (pool.quoteMint, spot)
  | _ => ofResult accountCount

namespace TradingClient

variable [Sdk]

def defaultPool (trade : Trade) (source : QuoteSource) : Option Pubkey :=
  match source with
  | .pumpFun => some (PumpFun.bondingCurvePda trade.mint)
  | .pumpSwap => some (PumpSwap.canonicalPoolPda trade.mint)
  | _ => none

/-- The quote mint of a pool and its price per token base unit, by the pool's program. -/
def tokenSpot (trade : Trade) (pool : Pubkey) (account : Account) :
    AnyTask Unit (Pubkey × Float) :=
  if account.owner = PumpFun.programId then do
    let price ← ofResult (PumpFun.curveSpotPrice pool trade.mint account.data)
    pure (wsol, price)
  else if account.owner = PumpSwap.programId then pumpswapSpot trade.mint account.data
  else throw (.err (.other ("no spot price for pools owned by " ++ keyText account.owner)))

def readPoolPrices (client : TradingClient) (trade : Trade) (pool : Pubkey) :
    AnyTask Unit PoolPrices := do
  let (solUsdcPool, usdcVault, solVault) ←
    PumpSwap.solUsdcPriceAccounts client.solUsdcPool client.solUsdcVaults
  let response ← ask (.getMultipleAccounts [pool, solUsdcPool, usdcVault, solVault])
  let accounts ← ofResult (clientResult response)
  match ← ofResult (allPresent accounts) with
  | [poolAccount, solUsdcPool, usdcVault, solVault] => do
      let usdPerLamport ← ofResult
        (usdPerLamport solUsdcPool.data usdcVault.data solVault.data)
      let (quoteMint, tokenSpot) ← tokenSpot trade pool poolAccount
      let perQuote ← ofResult (usdPerUnit quoteMint usdPerLamport)
      let perSettlement ← ofResult (usdPerUnit trade.settlement.mint usdPerLamport)
      pure { token := tokenSpot * perQuote, settlement := perSettlement }
  | _ => ofResult accountCount

/-- A failed pool read gives `none`, and the provider's values are used. -/
def poolPrices (client : TradingClient) (trade : Trade) (source : QuoteSource) :
    Task Unit (Option PoolPrices) :=
  if client.usdValueEnabled then
    match trade.pool <|> defaultPool trade source with
    | none => pure none
    | some pool => do
        match ← attempt (client.readPoolPrices trade pool) with
        | .ok prices => pure (some prices)
        | .error (.err _) => pure none
        | .error .panicked => throw .panicked
  else pure none

end TradingClient
end Solana
end TradingAggregators
