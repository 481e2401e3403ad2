import TradingAggregators.UsdValue

/-!
# `aggregators`: provider HTTP APIs

Requests and response types only.  What a provider answers to a request is decided by its
server: a response is any value of the response type, which is what `serde` can decode.
-/

namespace TradingAggregators
namespace Aggregators

/-- The text of a JSON value that the code hands on without looking inside. -/
abbrev Value := String

structure ApiAccount where
  pubkey : String
  isSigner : Bool
  isWritable : Bool

/-- A Solana instruction as providers return it, still encoded. -/
structure ApiInstruction where
  programId : String
  accounts : List ApiAccount
  data : String

/-- Budget settings a provider wants in a V1 transaction's header. -/
structure TransactionConfig where
  computeUnitLimit : Option UInt32
  loadedAccountsDataSizeLimit : Option UInt32
  heapSize : Option UInt32
  priorityFee : Option UInt64

/-! ## `aggregators/jupiter.rs` -/

namespace Jupiter

def venue : String := "jupiter"

structure BuildRequest where
  inputMint : String
  outputMint : String
  amount : UInt64
  taker : String
  slippageBps : UInt64
  wrapAndUnwrapSol : Bool
  payer : Option String

/-- The lookup tables come out of a hash map, so their order is the map's. -/
structure BuildResponse where
  inputMint : String
  outputMint : String
  swapMode : String
  inAmount : String
  outAmount : String
  otherAmountThreshold : String
  setupInstructions : List ApiInstruction
  swapInstruction : ApiInstruction
  cleanupInstruction : Option ApiInstruction
  otherInstructions : List ApiInstruction
  addressesByLookupTableAddress : Option (List (String × List String))

end Jupiter

/-! ## `aggregators/dflow.rs` -/

namespace DFlow

def venue : String := "dflow"
def transactionVersion : String := "v0"

structure QuoteRequest where
  inputMint : String
  outputMint : String
  amount : UInt64
  slippageBps : UInt64
  platformFeeBps : UInt16
  transactionVersion : String
  sponsoredSwap : Option Bool
  sponsorExec : Option Bool
  platformFeeMode : Option String

structure PlatformFee where
  amount : String
  feeBps : UInt64
  feeAccount : Option String

structure QuoteResponse where
  inputMint : String
  outputMint : String
  inAmount : String
  outAmount : String
  minOutAmount : String
  otherAmountThreshold : String
  slippageBps : UInt64
  platformFee : Option PlatformFee
  routePlan : List Value

structure InstructionsRequest where
  quoteResponse : Value
  userPublicKey : String
  wrapAndUnwrapSol : Bool
  transactionVersion : String
  dynamicComputeUnitLimit : Bool
  computeUnitPriceMicroLamports : UInt64
  sponsor : Option String
  sponsorExec : Option Bool
  feeAccount : Option String

structure InstructionsResponse where
  transactionVersion : String
  computeBudgetInstructions : List ApiInstruction
  setupInstructions : List ApiInstruction
  swapInstruction : ApiInstruction
  cleanupInstructions : List ApiInstruction
  otherInstructions : List ApiInstruction
  addressLookupTableAddresses : List String

def decodeError (error : String) : TradeError :=
  .decode venue error

end DFlow

/-! ## `aggregators/bloxroute.rs` -/

namespace Bloxroute

def venue : String := "bloxroute"

structure InstructionsRequest where
  inputMint : String
  outputMint : String
  amount : UInt64
  payer : String
  slippageBps : UInt64
  wrapUnwrapSol : Bool
  priorityFee : UInt64
  platformFeeBps : Option UInt16
  platformFeeMode : Option String
  platformFeeAccount : Option String
  maxAccounts : UInt8
  feePayer : Option String

structure PlatformFee where
  amount : UInt64
  bps : UInt16
  mint : Option String
  mode : Option String

structure InstructionsResponse where
  inputMint : String
  outputMint : String
  inputAmount : UInt64
  outputAmount : UInt64
  outputAmountMin : UInt64
  inputValueUsd : Option Float
  outputValueUsd : Option Float
  platformFee : Option PlatformFee
  transactionConfig : TransactionConfig
  setupInstructions : List ApiInstruction
  swapInstruction : ApiInstruction

end Bloxroute

/-! ## `aggregators/relay.rs`

`A` is the chain's address type, `X` its request options and `S` the transaction data
inside each step. -/

namespace Relay

def venue : String := "relay"
def exactInput : String := "EXACT_INPUT"

/-- One same-chain exact-input swap that pays back to the same wallet. -/
structure Swap (A : Type) where
  wallet : A
  chainId : UInt64
  input : A
  output : A
  amount : String
  slippageBps : String

structure AppFeeRequest (A : Type) where
  recipient : A
  fee : String

structure QuoteRequest (A X : Type) where
  user : A
  recipient : A
  originChainId : UInt64
  destinationChainId : UInt64
  originCurrency : A
  destinationCurrency : A
  amount : String
  tradeType : String
  slippageTolerance : String
  forceSolverExecution : Bool
  chainOptions : X
  appFees : List (AppFeeRequest A)

/-- `QuoteRequest::new`. -/
def QuoteRequest.new {A X : Type} (swap : Swap A) (chainOptions : X)
    (appFees : List (AppFeeRequest A)) : QuoteRequest A X where
  user := swap.wallet
  recipient := swap.wallet
  originChainId := swap.chainId
  destinationChainId := swap.chainId
  originCurrency := swap.input
  destinationCurrency := swap.output
  amount := swap.amount
  tradeType := exactInput
  slippageTolerance := swap.slippageBps
  forceSolverExecution := false
  chainOptions := chainOptions
  appFees := appFees

structure Currency (A : Type) where
  chainId : UInt64
  address : A

structure CurrencyAmount (A : Type) where
  currency : Currency A
  amount : String
  minimumAmount : String
  amountUsd : Option String

/-- USD is display-only, so an unparseable value is dropped instead of failing the quote. -/
def CurrencyAmount.usd {A : Type} (c : CurrencyAmount A) : Option Float := do
  parseF64 (← c.amountUsd)

structure Details (A : Type) where
  operation : String
  sender : A
  recipient : A
  currencyIn : CurrencyAmount A
  currencyOut : CurrencyAmount A

/-- Relay echoes the swap it quoted; anything else is not the requested same-chain swap. -/
def Details.matches {A : Type} [DecidableEq A] (d : Details A) (swap : Swap A) : Bool :=
  d.operation = "swap"
    && d.sender = swap.wallet
    && d.recipient = swap.wallet
    && d.currencyIn.currency.chainId = swap.chainId
    && d.currencyOut.currency.chainId = swap.chainId
    && d.currencyIn.currency.address = swap.input
    && d.currencyOut.currency.address = swap.output

def Details.usdValue {A : Type} (d : Details A) : Option UsdValue :=
  UsdValue.fromReported d.currencyIn.usd d.currencyOut.usd

structure StepItem (S : Type) where
  status : String
  data : Option S

structure Step (S : Type) where
  id : String
  kind : String
  items : List (StepItem S)

structure Fees (A : Type) where
  relayer : Option (CurrencyAmount A)
  app : Option (CurrencyAmount A)

structure QuoteResponse (A S : Type) where
  details : Details A
  steps : List (Step S)
  fees : Fees A

def decodeError (error : String) : TradeError :=
  .decode venue error

end Relay
end Aggregators
end TradingAggregators
