import TradingAggregators.Solana.Client.Routing

/-!
# `solana/client/mod.rs`: trading

Preparing, submitting and confirming one swap.
-/

namespace TradingAggregators
namespace Solana
namespace TradingClient

open Interaction Rust
open Interaction.Proc (ofResult both attempt)

variable [Sdk]

/-- `none` means the token has no tradable Pump.fun or PumpSwap market; use an aggregator. -/
def findNativeMarket (mint : Pubkey) : Task Unit (Option NativeMarket) := do
  let (bondingCurve, graduatedPool) ←
    both (PumpFun.findMarket mint) (PumpSwap.findMarket mint)
  let bondingCurve ← dexErr PumpFun.name (ofResult bondingCurve)
  let graduatedPool ← dexErr PumpSwap.name (ofResult graduatedPool)
  -- A live curve means the token has not graduated, so it takes priority.
  pure (bondingCurve <|> graduatedPool)

section Prepare

variable [Profile]

def prepareSwap (client : TradingClient) (trade : Trade) : Task Unit PreparedSwap :=
  client.prepareSelectedSwap trade

def quote (client : TradingClient) (trade : Trade) : Task Unit Quote := do
  let prepared ← client.prepareSwap trade
  pure prepared.quote

end Prepare

/-- No fallback after preparation: a submission error may mean the transaction landed. -/
def submitPrepared (client : TradingClient) (trade : Trade) (prepared : PreparedSwap)
    (submitter : Submitter) (priorityFeeLamports : UInt64)
    (lookupTables : List AddressLookupTableAccount) : Task Unit SwapResult :=
  submitSwap prepared { sponsor := client.sponsorFor trade } submitter trade priorityFeeLamports
    (mergeLookupTables lookupTables client.sharedLookupTables)

/-- `parse::<Signature>()` of a hash, with the client's error. -/
def parseHash (hash shown : String) : TradeResult Signature :=
  (parseKey 64 hash).mapError fun _ => .err (.decode "client" ("bad signature " ++ shown))

/-- What the wallet received, once the swap is confirmed. -/
def amountReceived (trade : Trade) (before : Option UInt64) (status : SwapStatus) :
    Task Unit (Option UInt64) :=
  match status with
  | .confirmed => do
      let after ← outputBalance trade
      pure (match before, after with
        | some before, some after => some (saturatingSub64 after before)
        | _, _ => none)
  | .failed | .pending => pure none

/-- The part of `swap_with_lookup_tables` that follows the submission. -/
def confirmPending (client : TradingClient) (trade : Trade) (before : Option UInt64)
    (pending : SwapResult) : Task Unit SwapResult := do
  let sig ← ofResult (parseHash pending.hash pending.hash)
  let status ← confirm sig client.deadline
  let amountReceived ← amountReceived trade before status
  pure { pending with status := status, amountReceived := amountReceived }

section Swap

variable [Profile]

def submitWithLookupTables (client : TradingClient) (trade : Trade) (submitter : Submitter)
    (priorityFeeLamports : UInt64) (lookupTables : List AddressLookupTableAccount) :
    Task Unit SwapResult := do
  let prepared ← client.prepareSwap trade
  client.submitPrepared trade prepared submitter priorityFeeLamports lookupTables

def submit (client : TradingClient) (trade : Trade) (submitter : Submitter)
    (priorityFeeLamports : UInt64) : Task Unit SwapResult :=
  client.submitWithLookupTables trade submitter priorityFeeLamports []

def swapWithLookupTables (client : TradingClient) (trade : Trade) (submitter : Submitter)
    (priorityFeeLamports : UInt64) (lookupTables : List AddressLookupTableAccount) :
    Task Unit SwapResult := do
  -- Both finish before anything is sent, so `before` never sees the swap's own output.
  let (before, prepared) ← both (outputBalance trade) (client.prepareSwap trade)
  let before ← ofResult before
  let prepared ← ofResult prepared
  let pending ← client.submitPrepared trade prepared submitter priorityFeeLamports lookupTables
  client.confirmPending trade before pending

def swap (client : TradingClient) (trade : Trade) (submitter : Submitter)
    (priorityFeeLamports : UInt64) : Task Unit SwapResult :=
  client.swapWithLookupTables trade submitter priorityFeeLamports []

end Swap

def status (hash : String) : Task Unit SwapStatus := do
  let sig ← ofResult (parseHash hash hash.quote)
  checkStatus sig

/-- Returns zero when the wallet has no token account for this mint. -/
def balance (wallet mint : Pubkey) : Task Unit UInt64 := do
  let response ← ask (.getAccount mint)
  let account ← ofResult (rpcResult "get_account(mint)" response)
  tokenBalance (ata wallet mint account.owner)

end TradingClient
end Solana
end TradingAggregators
