import TradingAggregators.Evm.Config
import TradingAggregators.Evm.World

/-!
# `evm/execution.rs` and `evm/unsigned.rs`

Filling, signing, submitting and confirming the transactions of a prepared swap, one after
the other.  The hashes of what was handed to the submitter are the procedure's variable, the
source's out-parameter `submitted`.
-/

namespace TradingAggregators
namespace Evm

open Interaction Rust Wire
open Interaction.Proc (ofResult)

variable {σ : Type}

/-- In nanoseconds. -/
def maxQuoteAge : ℕ := 60 * 10 ^ 9
/-- In nanoseconds. -/
def pollInterval : ℕ := 10 ^ 9
/-- Extra gas over our own estimate; Relay-supplied limits are used as given. -/
def gasHeadroomPercent : UInt64 := 20

/-! ## Verifying a signature -/

section Verify

variable [Alloy]

/-- `UnsignedTransaction::verify_signed`. -/
def verifySigned (unsigned : TxEip1559) (signed : Bytes) (wallet : Address) :
    TradeResult TransactionHash := do
  let (decoded, remaining) ← (Alloy.eip2718Decode signed).mapError fun error =>
    .err (.sign ("signed bytes are not EIP-1559: " ++ error))
  failIf (remaining ≠ [] ∨ decoded.tx ≠ unsigned)
    (.err (.sign "signed transaction differs from the prepared one"))
  let signer ← (Alloy.recoverSigner decoded).mapError fun error =>
    .err (.sign ("cannot recover signer: " ++ error))
  failIf (signer ≠ wallet)
    (.err (.sign ("signed by " ++ addressText signer ++ ", expected trading wallet " ++
      addressText wallet)))
  pure decoded.hash

/-- What a signed payload has to be: exactly this transaction, signed by the wallet. -/
structure SignedForm (unsigned : TxEip1559) (wallet : Address) (signed : Bytes)
    (hash : TransactionHash) : Prop where
  decodes : ∃ decoded : SignedTx, Alloy.eip2718Decode signed = .ok (decoded, []) ∧
    decoded.tx = unsigned ∧ Alloy.recoverSigner decoded = .ok wallet ∧ decoded.hash = hash

theorem verifySigned_eq_ok {unsigned : TxEip1559} {signed : Bytes} {wallet : Address}
    {hash : TransactionHash} (h : verifySigned unsigned signed wallet = .ok hash) :
    SignedForm unsigned wallet signed hash := by
  unfold verifySigned at h
  obtain ⟨⟨decoded, remaining⟩, hdecode, h₁⟩ := bind_eq_ok.mp h
  obtain ⟨_, hsame, h₂⟩ := bind_eq_ok.mp h₁
  obtain ⟨signer, hsigner, h₃⟩ := bind_eq_ok.mp h₂
  obtain ⟨_, hwallet, h₄⟩ := bind_eq_ok.mp h₃
  rw [mapError_eq_ok] at hdecode hsigner
  rw [failIf_eq_ok, not_or, not_not, not_not] at hsame
  rw [failIf_eq_ok, not_not] at hwallet
  obtain ⟨rfl, htx⟩ := hsame
  exact ⟨decoded, hdecode, htx, hwallet ▸ hsigner, pure_eq_ok.mp h₄⟩

theorem SignedForm.payloadHash_eq {unsigned : TxEip1559} {wallet : Address} {signed : Bytes}
    {hash : TransactionHash} (h : SignedForm unsigned wallet signed hash) :
    payloadHash signed = some hash := by
  obtain ⟨decoded, hdecode, -, -, hhash⟩ := h.decodes
  rw [payloadHash, hdecode, ← hhash]

end Verify

/-! ## Filling -/

def toU64 (x : Amount) (field : String) : TradeResult UInt64 :=
  if x.toNat < 2 ^ 64 then .ok (UInt64.ofNat x.toNat)
  else buildError (field ++ " does not fit in 64 bits")

def toU128 (x : Amount) (field : String) : TradeResult U128 :=
  if x.toNat < 2 ^ 128 then .ok (BitVec.ofNat 128 x.toNat)
  else buildError (field ++ " does not fit in 128 bits")

/-- A fee that the transaction gives, or else the estimated one. -/
def feeOr (given : Option Amount) (field : String) (estimated : U128) : TradeResult U128 :=
  match given with
  | some fee => toU128 fee field
  | none => .ok estimated

/-- The fees of a transaction that leaves at least one of them to the node's estimate. -/
def estimatedFees (transaction : Transaction) (estimate : U128 × U128) :
    TradeResult (U128 × U128) := do
  let priorityFee ← feeOr transaction.maxPriorityFeePerGas "priority fee" estimate.2
  -- The cap must cover the tip, even when only Relay's tip is used.
  let maxFee ← feeOr transaction.maxFeePerGas "max fee"
    (if estimate.1 < priorityFee then priorityFee else estimate.1)
  pure (maxFee, priorityFee)

/-- `(max_fee_per_gas, max_priority_fee_per_gas)`. -/
def fees (transaction : Transaction) : Task σ (U128 × U128) :=
  match transaction.gasPrice, transaction.maxFeePerGas, transaction.maxPriorityFeePerGas with
  | some gasPrice, _, _ => ofResult do
      -- A legacy gas price maps to an EIP-1559 fee cap and tip of the same value.
      let gasPrice ← toU128 gasPrice "gas price"
      pure (gasPrice, gasPrice)
  | none, some maxFee, some priorityFee => ofResult do
      let maxFee ← toU128 maxFee "max fee"
      let priorityFee ← toU128 priorityFee "priority fee"
      pure (maxFee, priorityFee)
  | none, _, _ => do
      let estimate ← Node.eip1559Fees
      ofResult (estimatedFees transaction estimate)

/-! ## The outcome -/

/-- What `execute_swap` returns for the outcome of the loop. -/
def swapOutcome (prepared : PreparedSwap) (submitted : List TransactionHash) :
    TradeResult Unit → Result SwapError SwapResult
  | .ok () => .ok { quote := prepared.quote, transactionHashes := submitted }
  | .error (.err source) => fail { source := source, submitted := submitted }
  | .error .panicked => .error .panicked

theorem swapOutcome_eq_ok {prepared : PreparedSwap} {submitted : List TransactionHash}
    {c : TradeResult Unit} {result : SwapResult} :
    swapOutcome prepared submitted c = .ok result ↔
      c = .ok () ∧ result = { quote := prepared.quote, transactionHashes := submitted } := by
  rcases c with (_ | _) | _ <;> simp [swapOutcome, eq_comm]

theorem swapOutcome_eq_err {prepared : PreparedSwap} {submitted : List TransactionHash}
    {c : TradeResult Unit} {error : SwapError} :
    swapOutcome prepared submitted c = .error (.err error) ↔
      ∃ source, c = .error (.err source) ∧
        error = { source := source, submitted := submitted } := by
  rcases c with (_ | _) | _ <;> simp [swapOutcome, eq_comm]

/-! ## The transactions of a swap -/

section Execute

variable [Alloy] [Profile]

/-- `estimate + estimate * GAS_HEADROOM_PERCENT / 100`. -/
def withHeadroom (estimate : UInt64) : TradeResult UInt64 := do
  let extra ← mul64 estimate gasHeadroomPercent
  add64 estimate (extra / 100)

def gasLimit (transaction : Transaction) : Task σ UInt64 :=
  match transaction.gas with
  | some gas => ofResult (toU64 gas "gas limit")
  | none => do
      let estimate ← Node.estimateGas transaction
      ofResult (withHeadroom estimate)

/-- The EIP-1559 transaction with these numbers for a prepared one. -/
def filled (n : Network) (transaction : Transaction) (gasLimit : UInt64) (fees : U128 × U128)
    (nonce : UInt64) : TxEip1559 where
  chainId := n.chainId
  nonce := nonce
  gasLimit := gasLimit
  maxFeePerGas := fees.1
  maxPriorityFeePerGas := fees.2
  target := .call transaction.target
  value := transaction.value
  accessList := []
  input := transaction.data

def fill (n : Network) (transaction : Transaction) : Task σ TxEip1559 := do
  let gasLimit ← gasLimit transaction
  let fees ← fees transaction
  let nonce ← Node.pendingNonce transaction.sender
  pure (filled n transaction gasLimit fees nonce)

/-! ## Confirming -/

def revertedError (hash : TransactionHash) : TradeError :=
  .submit ("transaction " ++ hexText hash.bytes ++ " reverted")

def timedOutError (hash : TransactionHash) : TradeError :=
  .submit ("confirmation timed out for " ++ hexText hash.bytes ++
    "; transaction may still confirm")

/-- The loop of `confirm` when its deadline passes after `rounds` further rounds. -/
def poll (hash : TransactionHash) : ℕ → Task σ Unit
  | 0 => throw (.err (timedOutError hash))
  | rounds + 1 => do
      match ← Node.receiptStatus hash with
      | .succeeded => pure ()
      | .reverted => throw (.err (revertedError hash))
      | .pending => poll hash rounds

/-- Every round sleeps, so the deadline bounds the rounds; the clock may cut them shorter. -/
def confirm (client : Client) (hash : TransactionHash) : Task σ Unit := do
  let rounds ← Proc.perform (.choose .pure)
  poll hash (min rounds ((client.confirmationTimeout + (pollInterval - 1)) / pollInterval))

/-! ## The loop -/

def checkNodeChain (n : Network) : Task σ Unit := do
  let chainId ← Node.chainId
  Proc.failIf (chainId ≠ n.chainId)
    (.err (.build ("RPC is on chain " ++ toString chainId.toNat ++ ", expected " ++ n.name ++
      " (" ++ toString n.chainId.toNat ++ ")")))

/-- One round of the loop in `execute_transactions`. -/
def executeTransaction (n : Network) (client : Client) (prepared : PreparedSwap)
    (transaction : Transaction) : Task (List TransactionHash) Unit := do
  let now ← ask .instant
  Proc.failIf (elapsed now prepared.createdAt ≥ maxQuoteAge)
    (.err (.build "prepared quote expired; no further transactions submitted"))
  -- Filled one at a time: a swap's gas can only be estimated once its approval is mined.
  let unsigned ← fill n transaction
  let signed ← ask (.sign prepared.wallet unsigned)
  let signed ← ofResult (signed.mapError fun error => .err (.sign error))
  let hash ← ofResult (verifySigned unsigned signed prepared.wallet)
  -- Recorded before sending: a failed submit call may still have broadcast it.
  Proc.update fun submitted => submitted ++ [hash]
  let reported ← ask (.submit signed)
  let reported ← ofResult (reported.mapError fun error => .err (.submit error))
  Proc.failIf (reported ≠ hash)
    (.err (.submit ("submitter reported " ++ hexText reported.bytes ++
      ", but the signed transaction is " ++ hexText hash.bytes)))
  confirm client hash

/-- The loop of `execute_transactions`. -/
def executeEach (n : Network) (client : Client) (prepared : PreparedSwap) :
    List Transaction → Task (List TransactionHash) Unit
  | [] => pure ()
  | transaction :: transactions => do
      executeTransaction n client prepared transaction
      executeEach n client prepared transactions

def executeTransactions (n : Network) (client : Client) (prepared : PreparedSwap) :
    Task (List TransactionHash) Unit := do
  Proc.failIf (prepared.quote.chainId ≠ n.chainId)
    (.err (.build "prepared swap belongs to a different chain"))
  checkNodeChain n
  executeEach n client prepared prepared.transactions

/-- Executes this prepared quote without requesting another one. -/
def executeSwap (n : Network) (client : Client) (prepared : PreparedSwap) :
    Proc Answer σ (Fault SwapError) SwapResult := do
  let (result, submitted) ← Proc.capture (executeTransactions n client prepared) []
  ofResult (swapOutcome prepared submitted result)

end Execute
end Evm
end TradingAggregators
