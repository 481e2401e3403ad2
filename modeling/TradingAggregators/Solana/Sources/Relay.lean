import TradingAggregators.Solana.Dex
import TradingAggregators.Solana.Sources.Common

/-!
# `solana/sources/relay`

One atomic, same-chain Solana swap, always as a V1 transaction.  Solver deposits and
multi-transaction flows are rejected.
-/

namespace TradingAggregators
namespace Solana
namespace Relay

open Aggregators.Relay (AppFeeRequest Details Fees QuoteResponse Swap venue)
open Interaction Rust
open Interaction.Proc (ofResult)

def solanaChainId : UInt64 := 792703809
def nativeSol : String := "11111111111111111111111111111111"
def v1Version : UInt8 := 1

def currencies (trade : Trade) : String × String :=
  let settlement := match trade.settlement with
    | .sol => nativeSol
    | .usdc => keyText usdcMint
  match trade.side with
  | .buy => (settlement, keyText trade.mint)
  | .sell => (keyText trade.mint, settlement)

def swap (trade : Trade) : Swap String :=
  let (input, output) := currencies trade
  { wallet := keyText trade.wallet
    chainId := solanaChainId
    input := input
    output := output
    amount := toString trade.amount.toNat
    slippageBps := toString trade.slippageBps.toNat }

def parseAmount (value : String) : TradeResult UInt64 :=
  (parseU64 value).mapError (decodeFault venue)

def quote (details : Details String) (swap : Swap String) (trade : Trade) :
    TradeResult Quote := do
  failIf (details.matches swap ≠ true)
    (decodeFault venue "quote does not match the requested wallet, currencies or chain")
  let input ← parseAmount details.currencyIn.amount
  let expected ← parseAmount details.currencyOut.amount
  let minimum ← parseAmount details.currencyOut.minimumAmount
  let quote ← validatedQuote venue trade input expected minimum
  pure { quote with usdValue := details.usdValue }

def swapData (response : QuoteResponse String TransactionData) :
    TradeResult TransactionData :=
  match response.steps with
  | [step] =>
      match step.items with
      | [item] => do
          -- Deposits may settle asynchronously; submitting them is not an atomic swap.
          failIf (step.id ≠ "swap" ∨ step.kind ≠ "transaction" ∨ item.status ≠ "incomplete")
            (decodeFault venue "only an unexecuted same-chain swap transaction is supported")
          okOr item.data (.decode venue "missing executable swap data")
      | _ => .error (decodeFault venue "expected one swap transaction")
  | _ => .error (decodeFault venue "expected one atomic swap step")

/-- The loop of `TransactionData::instructions`. -/
def keepInstruction [Sdk] (trade : Trade) (payer : Option Pubkey) (kept : List Instruction)
    (ix : Aggregators.ApiInstruction) : TradeResult (List Instruction) := do
  let instruction ← decodeHex venue trade.wallet payer ix
  let instruction ← match payer with
    | some payer => moveRentToSponsor venue instruction trade.wallet payer
    | none => pure instruction
  let retained ← retainComputeBudget venue instruction
  pure (if retained then kept ++ [instruction] else kept)

/-- `TransactionData::instructions`. -/
def dataInstructions [Sdk] (data : TransactionData) (trade : Trade) (payer : Option Pubkey) :
    TradeResult (List Instruction) := do
  failIf (∃ id ∈ data.chainId, id ≠ solanaChainId)
    (decodeFault venue "transaction is not on Solana")
  failIf (data.transactionVersion ≠ some v1Version)
    (decodeFault venue "transaction version does not match the request")
  let instructions ← data.instructions.foldlM (keepInstruction trade payer) []
  failIf (instructions = [] ∨ ¬ ∃ ix ∈ instructions, ∃ account ∈ ix.accounts,
      account.isSigner ∧ account.pubkey = trade.wallet)
    (decodeFault venue "missing swap instructions or trading wallet signer")
  let config ← configInstructions venue data.transactionConfig
  pure (instructions ++ config)

/-! ## `sources/relay/app_fee.rs` -/

namespace AppFee

def request (trade : Trade) (fee : ProviderFee) : TradeResult (AppFeeRequest String) := do
  -- Relay supports only input-currency app fees on Solana.
  failIf (trade.side ≠ .buy)
    (.err (.build "Relay API fees support buys only; use SDK fee collection for SOL/USDC sell fees"))
  let recipient ← okOr fee.fee.relayFeeRecipient
    (.build "Relay provider fees require with_relay_fee_recipient(EVM address)")
  pure { recipient := recipient, fee := toString fee.fee.basisPoints.toNat }

def apply (fees : Fees String) (trade : Trade) (fee : Option ProviderFee) (quote : Quote) :
    TradeResult Quote := do
  let amount ← match fees.app with
    | some app => parseAmount app.amount
    | none => pure 0
  match fee with
  | some fee => do
      let app ← okOr fees.app (.decode venue "missing requested app fee")
      failIf (app.currency.chainId ≠ solanaChainId ∨ app.currency.address ≠ (currencies trade).1)
        (decodeFault venue "app fee is not charged in the requested SOL/USDC input")
      fee.validateAmount quote amount fee.fee.basisPoints.toUInt64
      pure { quote with applicationFee := amount }
  | none => do
      failIf (amount ≠ 0) (decodeFault venue "unexpected app fee")
      pure quote

end AppFee

/-- The app fees of a request: one for a provider fee, none otherwise. -/
def appFees (trade : Trade) (fee : Option ProviderFee) :
    TradeResult (List (AppFeeRequest String)) :=
  fee.toList.mapM (AppFee.request trade)

def prepareWithFee [Sdk] (trade : Trade) (payer : Option Pubkey) (fee : Option ProviderFee) :
    Task Unit PreparedSwap := do
  ofResult trade.validate
  let swap := swap trade
  let appFees ← ofResult (appFees trade fee)
  let options : SolanaOptions :=
    { includeComputeUnitLimit := false
      depositFeePayer := payer.map keyText
      useV1Transaction := true }
  let response ← ask (.relayQuote (.new swap options appFees))
  let response ← ofResult (apiResult response)
  let quote ← ofResult (quote response.details swap trade)
  let quote ← ofResult (AppFee.apply response.fees trade fee quote)
  let data ← ofResult (swapData response)
  let instructions ← ofResult (dataInstructions data trade payer)
  pure {
    venue := venue
    quote := quote
    instructions := instructions
    lookupTables := []
    format := .v1 }

def dex [Sdk] : Dex where
  name := venue
  quote trade := anyhowTask do
    let prepared ← prepareWithFee trade none none
    pure prepared.quote
  prepareSwap trade := anyhowTask (prepareWithFee trade none none)
  prepareSponsoredSwap trade payer := anyhowTask (prepareWithFee trade (some payer) none)

end Relay
end Solana
end TradingAggregators
