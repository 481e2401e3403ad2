import TradingAggregators.Solana.Dex
import TradingAggregators.Solana.Sources.Common

/-!
# `solana/sources/jupiter.rs`
-/

namespace TradingAggregators
namespace Solana
namespace Jupiter

open Aggregators.Jupiter (BuildRequest BuildResponse venue)
open Interaction Rust
open Interaction.Proc (ofResult)

def exactInputMode : String := "ExactIn"

def decodeError {α : Type} (error : String) : TradeResult α :=
  .error (decodeFault venue error)

def build (trade : Trade) (payer : Option Pubkey) : Task Unit BuildResponse := do
  ofResult trade.validate
  let (input, output) := routeMints trade
  let response ← ask (.jupiterBuild {
    inputMint := keyText input
    outputMint := keyText output
    amount := trade.amount
    taker := keyText trade.wallet
    slippageBps := trade.slippageBps
    wrapAndUnwrapSol := true
    payer := payer.map keyText })
  ofResult (apiResult response)

def parseAmount (field value : String) : TradeResult UInt64 :=
  (parseU64 value).mapError fun _ =>
    decodeFault venue ("bad " ++ field ++ " " ++ value.quote)

def parseAddress (value : String) : TradeResult Pubkey :=
  (parseKey 32 value).mapError fun _ =>
    decodeFault venue ("bad lookup table address " ++ value)

/-- `BuildResponse::quote`. -/
def responseQuote (response : BuildResponse) (trade : Trade) : TradeResult Quote := do
  let (input, output) := routeMints trade
  failIf (response.swapMode ≠ exactInputMode ∨ response.inputMint ≠ keyText input ∨
      response.outputMint ≠ keyText output)
    (decodeFault venue "build response does not match the requested exact-input trade")
  let inAmount ← parseAmount "inAmount" response.inAmount
  let outAmount ← parseAmount "outAmount" response.outAmount
  let threshold ← parseAmount "otherAmountThreshold" response.otherAmountThreshold
  validatedQuote venue trade inAmount outAmount threshold

/-- `BuildResponse::instructions`. -/
def responseInstructions [Sdk] (response : BuildResponse) (wallet : Pubkey)
    (payer : Option Pubkey) : TradeResult (List Instruction) :=
  (response.setupInstructions ++ [response.swapInstruction] ++
    response.cleanupInstruction.toList ++ response.otherInstructions).mapM
      (decodeBase64 venue wallet payer)

/-- `BuildResponse::lookup_tables`. -/
def responseLookupTables (response : BuildResponse) :
    TradeResult (List AddressLookupTableAccount) :=
  match response.addressesByLookupTableAddress with
  | none => .ok []
  | some tables =>
      tables.mapM fun (key, addresses) => do
        let key ← parseAddress key
        let addresses ← addresses.mapM parseAddress
        pure { key := key, addresses := addresses }

def prepareWithPayer [Sdk] (trade : Trade) (payer : Option Pubkey) : Task Unit PreparedSwap := do
  let build ← build trade payer
  let quote ← ofResult (responseQuote build trade)
  let instructions ← ofResult (responseInstructions build trade.wallet payer)
  let lookupTables ← ofResult (responseLookupTables build)
  pure {
    venue := venue
    quote := quote
    instructions := instructions
    lookupTables := lookupTables
    format := .v0 }

def dex [Sdk] : Dex where
  name := venue
  quote trade := anyhowTask do
    let build ← build trade none
    ofResult (responseQuote build trade)
  prepareSwap trade := anyhowTask (prepareWithPayer trade none)
  prepareSponsoredSwap trade payer := anyhowTask (prepareWithPayer trade (some payer))

end Jupiter
end Solana
end TradingAggregators
