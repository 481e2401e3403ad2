import TradingAggregators.Solana.GasSponsor
import TradingAggregators.Solana.LookupTable

/-!
# `solana/executor.rs`

Building, signing, submitting and confirming one transaction.
-/

namespace TradingAggregators
namespace Solana

open Interaction Rust Wire
open Interaction.Proc (ofResult both attempt scope read update)

variable {σ : Type}

def cuLimitMax : UInt32 := 1400000
def defaultCuLimit : UInt32 := 350000
/-- 20% above simulated usage. -/
def cuHeadroom : Float := 1.2
def microLamportsPerLamport : ℕ := 1000000
def maxV0TransactionBytes : UInt64 := 1232
/-- `v1::MAX_TRANSACTION_SIZE`. -/
def maxV1TransactionBytes : UInt64 := 4096
/-- V0's default when no limit is requested; V1 would read a missing limit as zero. -/
def maxLoadedAccountsDataSize : UInt32 := 64 * 1024 * 1024
/-- V0 layout is [CU limit, CU price, ...route], so route instruction `i` lands at `i + 2`. -/
def prependedBudgetInstructions : ℕ := 2

/-- One transaction's route instructions and the layout to build them in. -/
structure Route where
  instructions : List Instruction
  lookupTables : List AddressLookupTableAccount
  format : TransactionFormat

/-- What the executor knows of a submitter besides that it submits. -/
structure Submitter where
  defaultTip : Option Tip

/-! ## Compute budget -/

def isComputeUnitLimit (instruction : Instruction) : Bool :=
  instruction.programId = computeBudgetProgram
    && instruction.data.head? = some setComputeUnitLimitTag

/-- `u32::from_le_bytes` on a slice that has to have four bytes. -/
def readU32 (bytes : Bytes) : Option UInt32 :=
  if bytes.length = 4 then some (UInt32.ofNat (ofLeBytes bytes)) else none

/-- One round of the loop in `take_compute_unit_limit`. -/
def takeLimit (requested : Option UInt32) (instruction : Instruction) :
    TradeResult (Option UInt32) := do
  let limit ← okOr (readU32 (instruction.data.drop 1)) (.build "invalid compute unit limit")
  failIf (requested.isSome ∨ ¬ (1 ≤ limit ∧ limit ≤ cuLimitMax) ∨ instruction.accounts ≠ [])
    (.err (.build "invalid or duplicate compute unit limit"))
  pure (some limit)

def takeComputeUnitLimit (instructions : List Instruction) :
    TradeResult (Option UInt32 × List Instruction) := do
  let requested ← (instructions.filter isComputeUnitLimit).foldlM takeLimit none
  pure (requested, instructions.filter fun instruction => !isComputeUnitLimit instruction)

/-- Compute budget a route asks for.  V0 keeps heap and loaded-account requests as
instructions; V1 moves them into the message header, where they must live. -/
structure RequestedBudget where
  computeUnitLimit : Option UInt32
  loadedAccountsDataSizeLimit : Option UInt32
  heapSize : Option UInt32

def invalidBudget : TradeError :=
  .build "invalid or duplicate compute-budget request for a v1 transaction"

def budgetValue (instruction : Instruction) : TradeResult (UInt8 × UInt32) :=
  match instruction.data with
  | [] => fail invalidBudget
  | tag :: value => do
      let value ← okOr (readU32 value) invalidBudget
      pure (tag, value)

namespace RequestedBudget

/-- One round of the loop in `RequestedBudget::take`. -/
def record (budget : RequestedBudget) (instruction : Instruction) :
    TradeResult RequestedBudget := do
  let (tag, value) ← budgetValue instruction
  if tag = requestHeapFrame then do
    failIf budget.heapSize.isSome (.err invalidBudget)
    pure { budget with heapSize := some value }
  else if tag = setLoadedAccountsDataSizeLimitTag then do
    failIf budget.loadedAccountsDataSizeLimit.isSome (.err invalidBudget)
    pure { budget with loadedAccountsDataSizeLimit := some value }
  else fail invalidBudget

def take (instructions : List Instruction) (format : TransactionFormat) :
    TradeResult (RequestedBudget × List Instruction) := do
  let (computeUnitLimit, instructions) ← takeComputeUnitLimit instructions
  let budget : RequestedBudget :=
    { computeUnitLimit := computeUnitLimit
      loadedAccountsDataSizeLimit := none
      heapSize := none }
  match format with
  | .v0 => pure (budget, instructions)
  | .v1 => do
      let budget ← (instructions.filter fun instruction =>
        instruction.programId = computeBudgetProgram).foldlM record budget
      pure (budget, instructions.filter fun instruction =>
        instruction.programId ≠ computeBudgetProgram)

/-- V1 takes the priority fee as total lamports, the unit callers already budget in. -/
def v1Config (budget : RequestedBudget) (computeUnitLimit : UInt32)
    (priorityFeeLamports : UInt64) : V1TransactionConfig where
  priorityFee := if priorityFeeLamports > 0 then some priorityFeeLamports else none
  computeUnitLimit := some computeUnitLimit
  loadedAccountsDataSizeLimit :=
    some (budget.loadedAccountsDataSizeLimit.getD maxLoadedAccountsDataSize)
  heapSize := budget.heapSize

end RequestedBudget

/-! ## Compilation -/

section Build

variable [Sdk]

def compileV0 (payer : Pubkey) (instructions : List Instruction)
    (lookupTables : List AddressLookupTableAccount) (blockhash : Hash) :
    TradeResult VersionedMessage := do
  let message ← (Sdk.compileV0 payer instructions lookupTables blockhash).mapError fun error =>
    .err (.build ("compile message: " ++ error))
  pure (.v0 message)

def compileV1 (payer : Pubkey) (instructions : List Instruction) (config : V1TransactionConfig)
    (blockhash : Hash) : TradeResult VersionedMessage := do
  let message ← (Sdk.compileV1 payer instructions blockhash config).mapError fun error =>
    .err (.build ("compile v1 message: " ++ error))
  -- Compiling doesn't enforce V1's 64-account and 64-instruction caps; validation does.
  (Sdk.validateV1 message).mapError fun error =>
    .err (.build ("invalid v1 message: " ++ error))
  pure (.v1 message)

def unsigned (message : VersionedMessage) : VersionedTransaction where
  signatures := List.replicate message.header.numRequiredSignatures.toNat (.zero 64)
  message := message

/-- Measured in wincode, the wire encoding. -/
def checkSize (tx : VersionedTransaction) (format : TransactionFormat) : TradeResult Unit := do
  let (maximum, hint) := match format with
    | .v0 => (maxV0TransactionBytes, "; provide an address lookup table")
    | .v1 => (maxV1TransactionBytes, "")
  let size ← (Sdk.serializedSize tx).mapError fun error =>
    .err (.build ("measure transaction: " ++ error))
  failIf (size > maximum)
    (.err (.build ("transaction is " ++ toString size.toNat ++ " bytes; maximum is " ++
      toString maximum.toNat ++ hint)))

/-- Where the route's last instruction, the sponsor reimbursement, lands once compiled.
V0 drops CU-limit requests and prepends two budget instructions; V1 moves every budget
instruction into the message header. -/
def lastCompiledIndex (instructions : List Instruction) (format : TransactionFormat) :
    Option ℕ :=
  let (kept, prepended) := match format with
    | .v0 => ((instructions.filter fun instruction => !isComputeUnitLimit instruction).length,
        prependedBudgetInstructions)
    | .v1 => ((instructions.filter fun instruction =>
        instruction.programId ≠ computeBudgetProgram).length, 0)
  if kept = 0 then none else some (kept - 1 + prepended)

/-- The transaction `simulate_units` simulates. -/
def unitsTransaction (payer : Pubkey) (route : Route) (budget : RequestedBudget) :
    TradeResult VersionedTransaction := do
  -- Placeholder blockhash: the node substitutes a live one.
  let message ← match route.format with
    | .v0 =>
        let instructions := setComputeUnitLimit cuLimitMax :: route.instructions
        compileV0 payer instructions route.lookupTables (.zero 32)
    | .v1 => compileV1 payer route.instructions (budget.v1Config cuLimitMax 0) (.zero 32)
  pure (unsigned message)

def simulateUnits (payer : Pubkey) (route : Route) (budget : RequestedBudget) :
    Task σ (Option UInt64) := do
  let tx ← ofResult (unitsTransaction payer route budget)
  let response ← ask (.simulateTransaction tx true)
  let sim ← ofResult (rpcResult "simulate_transaction" response)
  match sim.err with
  | some error => throw (.err (.simulation error (sim.logs.getD [])))
  | none => pure sim.unitsConsumed

def latestBlockhash : Task σ Hash := do
  let response ← ask .getLatestBlockhash
  ofResult (rpcResult "get_latest_blockhash" response)

/-- The CU limit for what the simulation consumed; a provider's request is a floor. -/
def cuLimit (simulated : Option UInt64) (budget : RequestedBudget) : UInt32 :=
  let limit := match simulated with
    | some units => min (max (units.toFloat * cuHeadroom).toUInt32 1) cuLimitMax
    -- Only a successful simulation missing its CU estimate uses the default.
    | none => defaultCuLimit
  max limit (budget.computeUnitLimit.getD 0)

/-- V0 prices the caller's total priority fee per compute unit. -/
def unitPrice (priorityFeeLamports : UInt64) (cuLimit : UInt32) : UInt64 :=
  UInt64.ofNat (priorityFeeLamports.toNat * microLamportsPerLamport / cuLimit.toNat)

/-- The message of `build_transaction` for a computed CU limit. -/
def compileRoute (payer : Pubkey) (route : Route) (budget : RequestedBudget)
    (priorityFeeLamports : UInt64) (cuLimit : UInt32) (blockhash : Hash) :
    TradeResult VersionedMessage :=
  match route.format with
  | .v0 =>
      compileV0 payer
        ([setComputeUnitLimit cuLimit, setComputeUnitPrice (unitPrice priorityFeeLamports cuLimit)]
          ++ route.instructions)
        route.lookupTables blockhash
  | .v1 =>
      compileV1 payer route.instructions (budget.v1Config cuLimit priorityFeeLamports) blockhash

/-- The route after the submitter's tip was appended. -/
def Route.withTip (route : Route) (payer : Pubkey) (submitter : Submitter) : Route :=
  match submitter.defaultTip with
  | some t => { route with instructions := route.instructions ++ [tip payer t.account t.lamports] }
  | none => route

def buildTransaction (payer : Pubkey) (route : Route) (priorityFeeLamports : UInt64)
    (submitter : Submitter) : Task σ VersionedTransaction := do
  let (budget, instructions) ← ofResult (RequestedBudget.take route.instructions route.format)
  let route := { route with instructions := instructions }.withTip payer submitter
  let (simulated, blockhash) ← both (simulateUnits payer route budget) latestBlockhash
  let simulated ← ofResult simulated
  let cuLimit := cuLimit simulated budget
  let blockhash ← ofResult blockhash
  let message ← ofResult
    (compileRoute payer route budget priorityFeeLamports cuLimit blockhash)
  let tx := unsigned message
  ofResult (checkSize tx route.format)
  pure tx

end Build

/-! ## Signing -/

/-- The user signer is the environment's `userSign`. -/
structure SwapSigners where
  sponsor : Option GasSponsor

namespace SwapSigners

def payer (signers : SwapSigners) (wallet : Pubkey) : Pubkey :=
  (signers.sponsor.map GasSponsor.wallet).getD wallet

def userSignerIndex (signers : SwapSigners) (wallet : Pubkey) (tx : VersionedTransaction) :
    TradeResult ℕ := do
  let required := tx.message.header.numRequiredSignatures.toNat
  -- Slicing behind the last key panics.
  failIf (tx.message.staticAccountKeys.length < required) .panicked
  let keys := tx.message.staticAccountKeys.take required
  let payer := signers.payer wallet
  failIf (keys.head? ≠ some payer ∨ wallet ∉ keys ∨ ∃ key ∈ keys, key ≠ wallet ∧ key ≠ payer)
    (.err (.sign "transaction requires unexpected signers"))
  match keys.idxOf? wallet with
  | some index => pure index
  | none => throw .panicked

/-- `tx.signatures[index] = signature`. -/
def putSignature (index : ℕ) (signature : Signature) : Task VersionedTransaction Unit := do
  let tx ← read
  Proc.failIf (tx.signatures.length ≤ index) .panicked
  update fun tx => { tx with signatures := tx.signatures.set index signature }

def sign (signers : SwapSigners) (wallet : Pubkey) : Task VersionedTransaction Unit := do
  let userIndex ← ofResult (signers.userSignerIndex wallet (← read))
  let response ← ask (.userSign wallet (← read))
  let signature ← ofResult (response.mapError fun error => .err (.sign ("user: " ++ error)))
  putSignature userIndex signature
  match signers.sponsor with
  | some sponsor => do
      let response ← ask (.sponsorSign sponsor.wallet (← read))
      let signature ← ofResult
        (response.mapError fun error => .err (.sign ("sponsor: " ++ error)))
      putSignature 0 signature
  | none => pure ()

end SwapSigners

/-! ## Submission -/

section Submit

variable [Sdk]

/-- The sponsored part of `submit_swap`: price the reimbursement in the built transaction. -/
def priceSponsorship (signers : SwapSigners) (prepared : PreparedSwap)
    (tx : VersionedTransaction) : Task Unit (UInt64 × VersionedTransaction) :=
  match signers.sponsor with
  | some sponsor => do
      let index ← ofResult (okOr (lastCompiledIndex prepared.instructions prepared.format)
        (.build "missing sponsorship transfer"))
      scope (sponsor.costPolicy.finalizeFee index) tx
  | none => pure (prepared.quote.sponsorshipFee, tx)

def submitSwap (prepared : PreparedSwap) (signers : SwapSigners) (submitter : Submitter)
    (params : Trade) (priorityFeeLamports : UInt64)
    (supplementalLookupTables : List AddressLookupTableAccount) : Task Unit SwapResult := do
  let alts := mergeLookupTables prepared.lookupTables supplementalLookupTables
  let route : Route :=
    { instructions := prepared.instructions
      lookupTables := alts
      format := prepared.format }
  let tx ← buildTransaction (signers.payer params.wallet) route priorityFeeLamports submitter
  let _ ← ofResult (signers.userSignerIndex params.wallet tx)
  let (sponsorshipFee, tx) ← priceSponsorship signers prepared tx
  let (_, tx) ← scope (signers.sign params.wallet) tx
  let response ← ask (.submit tx)
  let sig ← ofResult (response.mapError fun e => .err (.submit e))
  pure {
    hash := keyText sig
    dex := prepared.venue
    status := .pending
    amountReceived := none
    applicationFee := prepared.quote.applicationFee
    sponsorshipFee := sponsorshipFee }

end Submit

/-! ## Confirmation -/

def checkStatus (sig : Signature) : Task σ SwapStatus := do
  let response ← ask (.getSignatureStatus sig)
  let status ← ofResult (rpcResult "signature status" response)
  pure (match status with
    | some (.ok ()) => .confirmed
    | some (.error _) => .failed
    | none => .pending)

/-- The loop of `confirm` when its deadline passes after `rounds` further rounds. -/
def poll (sig : Signature) : ℕ → Task σ SwapStatus
  | 0 => checkStatus sig
  | rounds + 1 => do
      match ← checkStatus sig with
      | .pending => poll sig rounds
      | terminal => pure terminal

/-- Nanoseconds between two status checks. -/
def pollInterval : ℕ := 500000000

/-- Every round sleeps, so the deadline bounds the rounds; the clock may cut them shorter. -/
def confirm (sig : Signature) (deadline : ℕ) : Task σ SwapStatus := do
  let rounds ← Proc.perform (.choose .pure)
  poll sig (min rounds ((deadline + (pollInterval - 1)) / pollInterval))

/-! ## Balances -/

/-- Leading fields shared by SPL Token and Token-2022 accounts. -/
structure TokenAccountHead where
  mint : Pubkey
  owner : Pubkey
  amount : UInt64

def TokenAccountHead.codec : Codec TokenAccountHead :=
  ((Codec.fixed 32).seq ((Codec.fixed 32).seq Codec.u64)).iso
    (fun p => ⟨p.1, p.2.1, p.2.2⟩) (fun t => (t.mint, t.owner, t.amount)) fun _ => rfl

def tokenAccountAmount (data : Bytes) : Result AnyError UInt64 := do
  let head ← decodeAccount TokenAccountHead.codec data
  pure head.amount

/-- `anyhow::Error::to_string` of an error that holds no `TradeError`. -/
def Fault.toTrade (f : String → TradeError) : Fault AnyError → Fault TradeError
  | .err (.other msg) => .err (f msg)
  | .err (.trade e) => .err e
  | .panicked => .panicked

/-- A missing token account holds zero. -/
def tokenBalance (account : Pubkey) : Task σ UInt64 := do
  let response ← ask (.getAccountWithCommitment account .confirmed)
  let response ← ofResult (rpcResult "token balance" response)
  match response.value with
  | none => pure 0
  | some account =>
      ofResult ((tokenAccountAmount account.data).mapError
        (Fault.toTrade (.decode "token account")))

/-- The account whose balance a trade pays into. -/
inductive OutputAccount where
  | lamports
  | token (account : Pubkey)

section Balance

variable [Sdk]

def outputAccount (trade : Trade) : Task σ (Option OutputAccount) :=
  match trade.side, trade.settlement with
  | .sell, .sol => pure (some .lamports)
  | .sell, .usdc => pure (some (.token (ata trade.wallet usdcMint tokenProgram)))
  | .buy, _ => do
      match ← ask (.getAccount trade.mint) with
      | .ok mint => pure (some (.token (ata trade.wallet trade.mint mint.owner)))
      | .error _ => pure none

/-- Reads at `confirmed`, the commitment `confirm` waits for.  `none` means unknown, not
zero. -/
def outputBalance (trade : Trade) : Task σ (Option UInt64) := do
  match ← outputAccount trade with
  | none => pure none
  | some .lamports => do
      match ← ask (.getBalance trade.wallet .confirmed) with
      | .ok balance => pure (some balance)
      | .error _ => pure none
  | some (.token account) => do
      match ← attempt (tokenBalance account) with
      | .ok balance => pure (some balance)
      | .error _ => pure none

end Balance
end Solana
end TradingAggregators
