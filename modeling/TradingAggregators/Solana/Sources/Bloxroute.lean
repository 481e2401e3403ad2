import TradingAggregators.Solana.Dex
import TradingAggregators.Solana.Sources.Common

/-!
# `solana/sources/bloxroute.rs`
-/

namespace TradingAggregators
namespace Solana
namespace Bloxroute

open Aggregators.Bloxroute (InstructionsResponse venue)
open Interaction Rust
open Interaction.Proc (ofResult)

def program : Pubkey := pubkey "BLXJD1miMgFTjCNR9B9KRPnhXMQZQaANvC7EGRVeTphD"
def maxV1Accounts : UInt8 := 64
/-- A submitter tip account, a fee recipient and its USDC account. -/
def sdkExtraAccounts : UInt8 := 3
/-- The reimbursement recipient and its USDC account. -/
def sponsorExtraAccounts : UInt8 := 2

/-- The router is none of the programs that the SDK's own instructions call. -/
theorem program_ne :
    program ≠ ataProgram ∧ program ≠ systemProgram ∧ program ≠ computeBudgetProgram := by
  decide +kernel

def maxAccounts (payer : Option Pubkey) : UInt8 :=
  let sponsorExtra := if payer.isSome then sponsorExtraAccounts else 0
  maxV1Accounts - sdkExtraAccounts - sponsorExtra

/-- The platform-fee part of `InstructionsResponse::prepare_with_fee`. -/
def quoteFee (response : InstructionsResponse) (fee : Option ProviderFee) (quote : Quote) :
    TradeResult Quote :=
  match fee, response.platformFee with
  | some requested, some received => do
      failIf (received.mint ≠ some (keyText requested.mint) ∨
          received.mode ≠ some requested.mode)
        (decodeFault venue "provider fee mint or side does not match settlement")
      requested.validateAmount quote received.amount received.bps.toUInt64
      pure { quote with applicationFee := received.amount }
  | some _, none => .error (decodeFault venue "missing requested platform fee")
  | none, some received => do
      failIf (received.amount ≠ 0 ∨ received.bps ≠ 0)
        (decodeFault venue "unexpected platform fee; SDK fee is collected separately")
      pure quote
  | none, none => .ok quote

/-- One setup instruction, its rent moved to the sponsor where there is one. -/
def setupInstruction [Sdk] (trade : Trade) (payer : Option Pubkey)
    (ix : Aggregators.ApiInstruction) : TradeResult Instruction := do
  let instruction ← decodeBase64 venue trade.wallet payer ix
  failIf (instruction.programId = computeBudgetProgram)
    (decodeFault venue "unexpected compute budget in setup instructions")
  match payer with
  | some payer => moveRentToSponsor venue instruction trade.wallet payer
  | none => pure instruction

/-- `InstructionsResponse::prepare_with_fee`. -/
def responsePrepare [Sdk] (response : InstructionsResponse) (trade : Trade)
    (payer : Option Pubkey) (fee : Option ProviderFee) : TradeResult PreparedSwap := do
  let (input, output) := routeMints trade
  failIf (response.inputMint ≠ keyText input ∨ response.outputMint ≠ keyText output)
    (decodeFault venue "response mints do not match the requested trade")
  let quote ← validatedQuote venue trade response.inputAmount response.outputAmount
    response.outputAmountMin
  let quote := { quote with
    usdValue := UsdValue.fromReported response.inputValueUsd response.outputValueUsd }
  let quote ← quoteFee response fee quote
  let config ← configInstructions venue response.transactionConfig
  let feeSetup := (fee.map fun fee => fee.setup (payer.getD trade.wallet)).toList
  let setup ← response.setupInstructions.mapM (setupInstruction trade payer)
  let swap ← decodeBase64 venue trade.wallet payer response.swapInstruction
  failIf (swap.programId ≠ program ∨ swap.data = [] ∨
      ¬ ∃ account ∈ swap.accounts, account.pubkey = trade.wallet ∧ account.isSigner)
    (decodeFault venue "invalid bloXroute swap instruction or owner")
  pure {
    venue := venue
    quote := quote
    instructions := config ++ feeSetup ++ setup ++ [swap]
    lookupTables := []
    -- bloXroute routes use ~60 inline accounts and return no lookup tables.
    format := .v1 }

def prepareWithFee [Sdk] (trade : Trade) (payer : Option Pubkey) (fee : Option ProviderFee) :
    Task Unit PreparedSwap := do
  ofResult trade.validate
  let (input, output) := routeMints trade
  let response ← ask (.bloxrouteInstructions {
    inputMint := keyText input
    outputMint := keyText output
    amount := trade.amount
    payer := keyText trade.wallet
    slippageBps := trade.slippageBps
    wrapUnwrapSol := true
    priorityFee := 0
    platformFeeBps := fee.map fun fee => fee.fee.basisPoints
    platformFeeMode := fee.map ProviderFee.mode
    platformFeeAccount := fee.map fun fee => keyText fee.account
    maxAccounts := maxAccounts payer
    feePayer := payer.map keyText })
  let response ← ofResult (apiResult response)
  ofResult (responsePrepare response trade payer fee)

def dex [Sdk] : Dex where
  name := venue
  quote trade := anyhowTask do
    let prepared ← prepareWithFee trade none none
    pure prepared.quote
  prepareSwap trade := anyhowTask (prepareWithFee trade none none)
  prepareSponsoredSwap trade sponsor := anyhowTask (prepareWithFee trade (some sponsor) none)

end Bloxroute
end Solana
end TradingAggregators
