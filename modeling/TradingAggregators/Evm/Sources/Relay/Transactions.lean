import TradingAggregators.Evm.Config
import TradingAggregators.Evm.World

/-!
# `evm/sources/relay/transactions.rs`

Decoding the steps of a Relay response.  Only approvals and one atomic swap are let
through, and an approval is cut down to the amount of the trade.
-/

namespace TradingAggregators
namespace Evm
namespace Relay

open Aggregators.Relay (Step StepItem decodeError)
open Interaction Rust Wire

def approveSelector : Bytes := [0x09, 0x5e, 0xa7, 0xb3]

/-- `decode_error`, returned. -/
def decodeFault (detail : String) : Fault TradeError :=
  .err (decodeError detail)

/-! ## Quantities -/

/-- One step of reading digits. -/
def readDigit (radix n : ℕ) (c : Char) : Except String ℕ :=
  match toDigit radix c with
  | some d => .ok (n * radix + d)
  | none => .error ("invalid digit: " ++ c.toString)

/-- `Amount::from_str_radix`. -/
def amountFromDigits (radix : ℕ) (cs : List Char) : Except String Amount := do
  let value ← cs.foldlM (readDigit radix) 0
  if value < 2 ^ 256 then .ok (amount value)
  else .error "the value is too large to fit the target type"

/-- `decimal` of `sources/relay/mod.rs`. -/
def decimal (value : String) : TradeResult Amount := do
  failIf (value.toList = [] ∨ value.toList.all Char.isDigit = false)
    (decodeFault "expected a decimal integer amount")
  (amountFromDigits 10 value.toList).mapError decodeFault

def isHexDigit (c : Char) : Bool :=
  (toDigit 16 c).isSome

def quantity : JsonValue → TradeResult Amount
  | .string value =>
      match value.toList with
      | '0' :: 'x' :: hex =>
          if hex ≠ [] ∧ hex.all isHexDigit = true then
            (amountFromDigits 16 hex).mapError decodeFault
          else decimal value
      | _ => decimal value
  | .number value =>
      match value.asU64 with
      | some n => .ok (amount n.toNat)
      | none => .error (decodeFault "invalid numeric transaction quantity")
  | .other => .error (decodeFault "invalid transaction quantity")

/-- `map(quantity).transpose()`. -/
def optionalQuantity : Option JsonValue → TradeResult (Option Amount)
  | none => .ok none
  | some value => (quantity value).map some

/-! ## One transaction -/

/-- A legacy gas price excludes the two EIP-1559 fees, and the tip is within the cap. -/
def gasInconsistent (transaction : Transaction) : Prop :=
  transaction.gasPrice.isSome ∧
      (transaction.maxFeePerGas.isSome ∨ transaction.maxPriorityFeePerGas.isSome) ∨
    ∃ priority ∈ transaction.maxPriorityFeePerGas, ∃ cap ∈ transaction.maxFeePerGas,
      priority > cap

/-- Over an `Option` a bounded quantifier is a test of its one element. -/
instance existsMemDecidable {α : Type} (o : Option α) (P : α → Prop) [DecidablePred P] :
    Decidable (∃ a ∈ o, P a) :=
  match o with
  | none => isFalse fun ⟨_, ha, _⟩ => nomatch ha
  | some a =>
      decidable_of_iff (P a)
        ⟨fun h => ⟨a, rfl, h⟩, fun ⟨_, ha, h⟩ => Option.some.inj ha ▸ h⟩

instance (transaction : Transaction) : Decidable (gasInconsistent transaction) :=
  have (priority : Amount) : Decidable (∃ cap ∈ transaction.maxFeePerGas, priority > cap) :=
    existsMemDecidable _ _
  have : Decidable (∃ priority ∈ transaction.maxPriorityFeePerGas,
      ∃ cap ∈ transaction.maxFeePerGas, priority > cap) := existsMemDecidable _ _
  instDecidableOr

/-- `ApiTransaction::decode`. -/
def decodeTransaction (n : Network) (trade : Trade) (api : ApiTransaction) :
    TradeResult Transaction := do
  failIf (api.chainId ≠ n.chainId ∨ api.sender ≠ trade.wallet ∨ api.target = zeroAddress ∨
      api.data.length < 4)
    (decodeFault "invalid transaction chain, sender, target or calldata")
  let value ← quantity api.value
  let gas ← optionalQuantity api.gas
  let gasPrice ← optionalQuantity api.gasPrice
  let maxFeePerGas ← optionalQuantity api.maxFeePerGas
  let maxPriorityFeePerGas ← optionalQuantity api.maxPriorityFeePerGas
  let transaction : Transaction :=
    { chainId := api.chainId
      sender := api.sender
      target := api.target
      data := api.data
      value := value
      gas := gas
      gasPrice := gasPrice
      maxFeePerGas := maxFeePerGas
      maxPriorityFeePerGas := maxPriorityFeePerGas }
  failIf (gasInconsistent transaction) (decodeFault "inconsistent transaction gas prices")
  pure transaction

/-- The native value of the swap transaction. -/
def swapValue (trade : Trade) : Amount :=
  if trade.input = .native then trade.amount else 0

def validateSwap (n : Network) (trade : Trade) (transaction : Transaction) :
    TradeResult Transaction := do
  failIf (transaction.target ∉ [n.router, n.approvalProxy] ∨
      transaction.value ≠ swapValue trade)
    (decodeFault "swap target or native value differs from the requested route")
  pure transaction

/-- The spender an approval names. -/
def spenderOf (data : Bytes) : Address :=
  .ofBytes 20 ((data.drop 16).take 20)

/-- The allowance an approval asks for. -/
def allowanceOf (data : Bytes) : Amount :=
  amount (ofBeBytes ((data.drop 36).take 32))

/-- Bound the new allowance to this trade instead of signing an unlimited approval. -/
def boundAllowance (trade : Trade) (transaction : Transaction) : Transaction :=
  if allowanceOf transaction.data = 0 then transaction
  else { transaction with data := patch 36 (beBytes 32 trade.amount.toNat) transaction.data }

/-- The source overwrites the transaction in place; here the new one is returned. -/
def validateApproval (n : Network) (trade : Trade) (transaction : Transaction) :
    TradeResult Transaction := do
  failIf (trade.input = .native ∨ transaction.target ≠ trade.input.address ∨
      transaction.value ≠ 0 ∨ transaction.data.length ≠ 68 ∨
      transaction.data.take 4 ≠ approveSelector ∨
      (transaction.data.drop 4).take 12 ≠ List.replicate 12 0)
    (decodeFault "invalid token approval")
  failIf (spenderOf transaction.data ∉ [n.router, n.approvalProxy] ∨
      allowanceOf transaction.data ≠ 0 ∧ allowanceOf transaction.data < trade.amount)
    (decodeFault "unexpected approval spender or insufficient allowance")
  pure (boundAllowance trade transaction)

/-! ## The steps -/

/-- The check of a transaction in the swap step, or in an approval step. -/
def validate (n : Network) (trade : Trade) : Bool → Transaction → TradeResult Transaction
  | true => validateSwap n trade
  | false => validateApproval n trade

/-- One round of the inner loop; a completed approval is skipped. -/
def decodeItem (n : Network) (trade : Trade) (swap : Bool) (item : StepItem ApiTransaction) :
    TradeResult (Option Transaction) :=
  if swap = false ∧ item.status = "complete" then .ok none
  else do
    failIf (item.status ≠ "incomplete") (decodeFault "transaction is not awaiting execution")
    let data ← okOr item.data (decodeError "missing transaction data")
    let transaction ← decodeTransaction n trade data
    let transaction ← validate n trade swap transaction
    pure (some transaction)

/-- One round of the outer loop. -/
def decodeStep (n : Network) (trade : Trade) (swap : Bool) (step : Step ApiTransaction) :
    TradeResult (List Transaction) := do
  failIf (step.kind ≠ "transaction" ∨ swap = true ∧ step.id ≠ "swap" ∨
      swap = false ∧ step.id ∉ ["approve", "approval"] ∨ step.items = [] ∨
      step.items.length > (if swap then 1 else 2))
    (decodeFault "unsupported Relay step; only approvals and an atomic swap are supported")
  let transactions ← step.items.mapM (decodeItem n trade swap)
  pure transactions.reduceOption

/-- The outer loop; the last step is the swap. -/
def decodeSteps (n : Network) (trade : Trade) : List (Step ApiTransaction) →
    TradeResult (List Transaction)
  | [] => .ok []
  | step :: steps => do
      let transactions ← decodeStep n trade steps.isEmpty step
      let later ← decodeSteps n trade steps
      pure (transactions ++ later)

/-- `transactions::decode`. -/
def decode (n : Network) (trade : Trade) (steps : List (Step ApiTransaction)) :
    TradeResult (List Transaction) := do
  failIf (steps = [] ∨ steps.length > 2)
    (decodeFault "expected optional approval followed by one same-chain swap")
  decodeSteps n trade steps

end Relay
end Evm
end TradingAggregators
