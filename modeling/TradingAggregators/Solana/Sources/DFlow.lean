import TradingAggregators.Solana.Dex
import TradingAggregators.Solana.LookupTable
import TradingAggregators.Solana.Sources.Common

/-!
# `solana/sources/dflow.rs`

Atomic imperative swaps, including user-executed sponsorship; no intent/async orders.
-/

namespace TradingAggregators
namespace Solana
namespace DFlow

open Aggregators.DFlow (InstructionsResponse QuoteResponse transactionVersion venue)
open Interaction Rust
open Interaction.Proc (ofResult)

def parseAmount (value : String) : TradeResult UInt64 :=
  (parseU64 value).mapError (decodeFault venue)

/-- The platform-fee part of `QuoteResponse::quote`. -/
def quoteFee [Sdk] (response : QuoteResponse) (fee : Option ProviderFee) (quote : Quote) :
    TradeResult Quote :=
  match fee, response.platformFee with
  | some requested, some received => do
      let amount ← parseAmount received.amount
      failIf (∃ account ∈ received.feeAccount, account ≠ keyText requested.account)
        (decodeFault venue "unexpected platform fee account")
      requested.validateAmount quote amount received.feeBps
      pure { quote with applicationFee := amount }
  | some _, none => .error (decodeFault venue "missing requested platform fee")
  | none, some received => do
      let unexpected ←
        if received.feeBps ≠ 0 then pure true
        else do
          let amount ← parseAmount received.amount
          pure (decide (amount ≠ 0))
      failIf (unexpected = true)
        (decodeFault venue "unexpected platform fee; SDK fee is applied separately")
      pure quote
  | none, none => .ok quote

/-- `QuoteResponse::quote`. -/
def responseQuote [Sdk] (response : QuoteResponse) (trade : Trade) (fee : Option ProviderFee) :
    TradeResult Quote := do
  let (input, output) := routeMints trade
  let minOut ← parseAmount response.otherAmountThreshold
  let mismatch : Fault TradeError :=
    decodeFault venue "quote does not match the requested trade"
  failIf (response.inputMint ≠ keyText input ∨ response.outputMint ≠ keyText output ∨
      response.slippageBps ≠ trade.slippageBps ∨ response.routePlan = [])
    mismatch
  let minOutAmount ← parseAmount response.minOutAmount
  failIf (minOutAmount ≠ minOut) mismatch
  let inAmount ← parseAmount response.inAmount
  let outAmount ← parseAmount response.outAmount
  let quote ← validatedQuote venue trade inAmount outAmount minOut
  quoteFee response fee quote

/-- `InstructionsResponse::instructions`: decode one instruction and keep it or not. -/
def keepInstruction [Sdk] (wallet : Pubkey) (payer : Option Pubkey)
    (kept : List Instruction) (ix : Aggregators.ApiInstruction) :
    TradeResult (List Instruction) := do
  let instruction ← decodeBase64 venue wallet payer ix
  let retained ← retainComputeBudget venue instruction
  pure (if retained then kept ++ [instruction] else kept)

/-- `InstructionsResponse::instructions`. -/
def responseInstructions [Sdk] (response : InstructionsResponse) (wallet : Pubkey)
    (payer : Option Pubkey) : TradeResult (List Instruction) := do
  failIf (response.transactionVersion ≠ transactionVersion)
    (decodeFault venue "only v0 swap instructions are supported")
  let instructions ←
    (response.computeBudgetInstructions ++ response.setupInstructions ++
      [response.swapInstruction] ++ response.cleanupInstructions ++
      response.otherInstructions).foldlM (keepInstruction wallet payer) []
  failIf (instructions = [] ∨ response.swapInstruction.data = "")
    (decodeFault venue "missing swap instruction")
  pure instructions

/-- Returns the raw quote too, because `/swap-instructions` expects it back unchanged. -/
def fetchQuote [Sdk] (trade : Trade) (payer : Option Pubkey) (fee : Option ProviderFee) :
    Task Unit (Aggregators.Value × Quote) := do
  ofResult trade.validate
  let (input, output) := routeMints trade
  let sponsored := payer.isSome
  let response ← ask (.dflowQuote {
    inputMint := keyText input
    outputMint := keyText output
    amount := trade.amount
    slippageBps := trade.slippageBps
    platformFeeBps := (fee.map fun fee => fee.fee.basisPoints).getD 0
    transactionVersion := transactionVersion
    sponsoredSwap := if sponsored then some true else none
    sponsorExec := if sponsored then some false else none
    platformFeeMode := fee.map ProviderFee.mode })
  let (raw, response) ← ofResult (apiResult response)
  let quote ← ofResult (responseQuote response trade fee)
  pure (raw, quote)

def prepareWithFee [Sdk] (trade : Trade) (payer : Option Pubkey) (fee : Option ProviderFee) :
    Task Unit PreparedSwap := do
  let (quoteResponse, quote) ← fetchQuote trade payer fee
  let response ← ask (.dflowInstructions {
    quoteResponse := quoteResponse
    userPublicKey := keyText trade.wallet
    wrapAndUnwrapSol := true
    transactionVersion := transactionVersion
    dynamicComputeUnitLimit := false
    computeUnitPriceMicroLamports := 0
    sponsor := payer.map keyText
    sponsorExec := payer.map fun _ => false
    feeAccount := fee.map fun fee => keyText fee.account })
  let response ← ofResult (apiResult response)
  let instructions ← ofResult (responseInstructions response trade.wallet payer)
  let instructions := match fee with
    | some fee => fee.setup (payer.getD trade.wallet) :: instructions
    | none => instructions
  let addresses ← ofResult (response.addressLookupTableAddresses.mapM fun address =>
    (parseKey 32 address).mapError (decodeFault venue))
  let lookupTables ← loadAddressLookupTables addresses
  pure {
    venue := venue
    quote := quote
    instructions := instructions
    lookupTables := lookupTables
    format := .v0 }

def dex [Sdk] : Dex where
  name := venue
  quote trade := anyhowTask do
    let (_, quote) ← fetchQuote trade none none
    pure quote
  prepareSwap trade := anyhowTask (prepareWithFee trade none none)
  prepareSponsoredSwap trade payer := anyhowTask (prepareWithFee trade (some payer) none)

end DFlow
end Solana
end TradingAggregators
