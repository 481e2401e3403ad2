import TradingAggregators.Aggregators
import TradingAggregators.Evm.Alloy
import TradingAggregators.Interaction.Procedure

/-!
# What the EVM code asks its environment

Every call that leaves the process is a question: the node, Relay's API, the two clocks,
the signer and the submitter.  The answers are arbitrary values of the type the call
returns, so nothing is assumed about the parties behind them.
-/

namespace TradingAggregators
namespace Evm

open Aggregators Interaction Rust Wire

/-! ## Relay's request options and transaction data -/

/-- `EvmOptions` of `sources/relay/mod.rs`. -/
structure EvmOptions where
  usePermit : Bool
  subsidizeFees : Bool

/-- A number of a JSON document: an unsigned or a negative integer, or any other number. -/
inductive JsonNumber where
  | unsigned (n : UInt64)
  | negative (n : Int64)
  | float (x : Float)

/-- `as_u64`. -/
def JsonNumber.asU64 : JsonNumber → Option UInt64
  | .unsigned n => some n
  | .negative _ | .float _ => none

/-- A JSON value, as far as a transaction quantity looks into it. -/
inductive JsonValue where
  | string (s : String)
  | number (n : JsonNumber)
  /-- `null`, a boolean, an array or an object. -/
  | other

/-- `ApiTransaction` of `sources/relay/transactions.rs`. -/
structure ApiTransaction where
  chainId : UInt64
  sender : Address
  target : Address
  data : Bytes
  value : JsonValue
  gas : Option JsonValue
  gasPrice : Option JsonValue
  maxFeePerGas : Option JsonValue
  maxPriorityFeePerGas : Option JsonValue

/-! ## Questions -/

/-- A failed `eth_call`: the message of the node's error response, if there was one, and the
text of the error. -/
structure CallError where
  response : Option String
  text : String

inductive Query where
  /-- `eth_chainId`. -/
  | chainId
  /-- `eth_getTransactionCount`, pending transactions included. -/
  | pendingNonce (address : Address)
  /-- `eth_call` against the latest block. -/
  | call (target : Address) (data : Bytes)
  /-- `eth_estimateGas`. -/
  | estimateGas (sender target : Address) (value : Amount) (data : Bytes)
  /-- `eth_feeHistory`, evaluated by alloy. -/
  | eip1559Fees
  /-- `eth_getTransactionReceipt`. -/
  | receipt (hash : TransactionHash)
  | relayQuote (request : Relay.QuoteRequest Address EvmOptions)
  /-- `Instant::now`. -/
  | instant
  /-- `SystemTime::now`. -/
  | systemTime
  | sign (wallet : Address) (tx : TxEip1559)
  | submit (signed : Bytes)

/-- The answer to `receipt` is the status of the receipt, if there is one. -/
abbrev Answer : Query → Type
  | .chainId => Except String UInt64
  | .pendingNonce _ => Except String UInt64
  | .call _ _ => Except CallError Bytes
  | .estimateGas _ _ _ _ => Except String UInt64
  | .eip1559Fees => Except String (U128 × U128)
  | .receipt _ => Except String (Option Bool)
  | .relayQuote _ => Except TradeError (Relay.QuoteResponse Address ApiTransaction)
  | .instant => Instant
  -- Nanoseconds since the Unix epoch.
  | .systemTime => Int
  | .sign _ _ => Except String Bytes
  | .submit _ => Except String TransactionHash

/-- An asynchronous function of the crate with a mutable variable of type `σ`. -/
abbrev Task (σ α : Type) := Proc Answer σ (Fault TradeError) α

/-- Ask the environment. -/
abbrev ask {σ ε : Type} (q : Query) : Proc Answer σ ε (Answer q) :=
  Proc.ask q

/-! ## `evm/node.rs` -/

namespace Node

open Interaction.Proc (ofResult)

variable {σ α : Type}

def venue : String := "evm rpc"

def rpcError (method error : String) : TradeError :=
  .venue venue (method ++ ": " ++ error)

/-- `map_err(rpc_error(VENUE, method))`. -/
def rpcResult (method : String) (r : Except String α) : TradeResult α :=
  r.mapError fun error => .err (rpcError method error)

@[simp] theorem rpcResult_eq_ok {method : String} {r : Except String α} {a : α} :
    rpcResult method r = .ok a ↔ r = .ok a :=
  mapError_eq_ok

inductive ReceiptStatus where
  | pending
  | succeeded
  | reverted
  deriving DecidableEq

def chainId : Task σ UInt64 := do
  let response ← ask .chainId
  ofResult (rpcResult "eth_chainId" response)

/-- Counts pending transactions too, so a still-unmined earlier swap is not overwritten. -/
def pendingNonce (address : Address) : Task σ UInt64 := do
  let response ← ask (.pendingNonce address)
  ofResult (rpcResult "eth_getTransactionCount" response)

def call (target : Address) (data : Bytes) : Task σ Bytes := do
  let response ← ask (.call target data)
  ofResult (rpcResult "eth_call" (response.mapError CallError.text))

/-- A response that reports a revert is no failure of the call. -/
def revertAsNone (response : Except CallError Bytes) : TradeResult (Option Bytes) :=
  match response with
  | .ok output => .ok (some output)
  | .error error =>
      -- alloy's own revert test: an error response whose message mentions a revert.
      if error.response.any fun message => "revert".toList <:+: message.toList then .ok none
      else fail (rpcError "eth_call" error.text)

@[simp] theorem revertAsNone_eq_some {response : Except CallError Bytes} {output : Bytes} :
    revertAsNone response = .ok (some output) ↔ response = .ok output := by
  unfold revertAsNone
  cases response with
  | ok data => simp
  | error error =>
    simp only [reduceCtorEq, iff_false]
    split_ifs <;> exact fun h => nomatch h

/-- Like `call`, but `none` when the call reverts. -/
def tryCall (target : Address) (data : Bytes) : Task σ (Option Bytes) := do
  let response ← ask (.call target data)
  ofResult (revertAsNone response)

def estimateGas (transaction : Transaction) : Task σ UInt64 := do
  let response ← ask (.estimateGas transaction.sender transaction.target transaction.value
    transaction.data)
  ofResult (rpcResult "eth_estimateGas" response)

/-- `(max_fee_per_gas, max_priority_fee_per_gas)` from recent fee history. -/
def eip1559Fees : Task σ (U128 × U128) := do
  let response ← ask .eip1559Fees
  ofResult (rpcResult "eth_feeHistory" response)

def statusOf : Option Bool → ReceiptStatus
  | none => .pending
  | some true => .succeeded
  | some false => .reverted

def receiptStatus (hash : TransactionHash) : Task σ ReceiptStatus := do
  let response ← ask (.receipt hash)
  let receipt ← ofResult (rpcResult "eth_getTransactionReceipt" response)
  pure (statusOf receipt)

end Node
end Evm
end TradingAggregators
