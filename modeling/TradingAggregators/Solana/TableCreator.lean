import Mathlib.Data.List.Basic
import TradingAggregators.Solana.Common
import TradingAggregators.Solana.LookupTable

/-!
# `examples/create_shared_alt.rs`

The program that fills an address lookup table: `LookupTableCreator`.  What it prints is left
out.
-/

namespace TradingAggregators
namespace Solana

open Interaction Rust Wire
open Interaction.Proc (ofResult)

/-- What the program reads of a decoded address lookup table. -/
structure TableState extends LookupTableState where
  authority : Option Pubkey

/-- The SDK with the decoders that only this program calls. -/
class TableSdk extends Sdk where
  /-- `AddressLookupTable::deserialize`, with the authority. -/
  deserializeTable : Bytes → Except String TableState
  /-- `bincode::deserialize::<SlotHashes>`. -/
  deserializeSlotHashes : Bytes → Except String (List (UInt64 × Hash))
  /-- It is one decoder. -/
  deserializeLookupTable_eq : ∀ data,
    deserializeLookupTable data = (deserializeTable data).map TableState.toLookupTableState

/-- `ProgramInstruction` of the address lookup table program. -/
inductive TableInstruction where
  | createLookupTable (table authority payer : Pubkey) (recentSlot : UInt64)
  | extendLookupTable (table authority : Pubkey) (payer : Option Pubkey)
      (newAddresses : List Pubkey)

/-! ## What it asks -/

inductive TableQuery where
  | getAccount (key : Pubkey)
  | getBalance (key : Pubkey)
  | getMinimumBalanceForRentExemption (size : ℕ)
  | getLatestBlockhash
  | getFeeForMessage (payer : Pubkey) (blockhash : Hash)
  | sendAndConfirmTransaction (instruction : TableInstruction) (payer : Pubkey) (blockhash : Hash)
  | getSlot
  | sleep (milliseconds : ℕ)

abbrev TableAnswer : TableQuery → Type
  | .getAccount _ => Except ClientError Account
  | .getBalance _ => Except ClientError UInt64
  | .getMinimumBalanceForRentExemption _ => Except ClientError UInt64
  | .getLatestBlockhash => Except ClientError Hash
  | .getFeeForMessage _ _ => Except ClientError UInt64
  | .sendAndConfirmTransaction _ _ _ => Except ClientError Signature
  | .getSlot => Except ClientError UInt64
  | .sleep _ => Unit

abbrev TableTask (α : Type) := Proc TableAnswer Unit (Fault AnyError) α

namespace LookupTableCreator

def extendChunkSize : ℕ := 20
def activationAttempts : ℕ := 30
/-- `LOOKUP_TABLE_MAX_ADDRESSES`. -/
def maxAddresses : ℕ := 256
/-- `LOOKUP_TABLE_META_SIZE`. -/
def metaSize : ℕ := 56
def slotHashesSysvar : Pubkey := pubkey "SysvarS1otHashes111111111111111111111111111"

/-- `slice::chunks`. -/
def chunks {α : Type} (size : ℕ) (xs : List α) : List (List α) :=
  (xs.toChunksAux (size - 1) 0).2

/-- `Context::context` on an error that holds no `TradeError`. -/
def context {α : Type} (text : String) (r : Result AnyError α) : Result AnyError α :=
  r.mapError (inContext (text ++ ": "))

/-! ## `LookupTableCreator` -/

section Creator

variable [TableSdk]

def readOwnedTable (authority table : Pubkey) : TableTask (List Pubkey) := do
  let account ← Proc.ask (.getAccount table)
  let account ← ofResult (clientResult account)
  Proc.failIf (account.owner ≠ lookupTableProgram) (.err (.other "account is not an ALT"))
  let state ← ofResult (clientResult (TableSdk.deserializeTable account.data))
  Proc.failIf (state.authority ≠ some authority)
    (.err (.other "wrong authority or frozen table"))
  Proc.failIf (state.deactivationSlot ≠ 18446744073709551615)
    (.err (.other "table is deactivating"))
  pure state.addresses

def send (authority : Pubkey) (instruction : TableInstruction) : TableTask Unit := do
  let blockhash ← Proc.ask .getLatestBlockhash
  let blockhash ← ofResult (clientResult blockhash)
  let confirmed ← Proc.ask (.sendAndConfirmTransaction instruction authority blockhash)
  let _ ← ofResult (context "send and confirm ALT transaction" (clientResult confirmed))
  pure ()

def recentCreationSlot : TableTask UInt64 := do
  let account ← Proc.ask (.getAccount slotHashesSysvar)
  let account ← ofResult (context "read SlotHashes sysvar" (clientResult account))
  let hashes ← ofResult (context "decode SlotHashes sysvar"
    (clientResult (TableSdk.deserializeSlotHashes account.data)))
  ofResult (okOr (hashes.head?.map Prod.fst) (.other "SlotHashes is empty"))

/-- `derive_lookup_table_address`, the address only. -/
def tableAddress (authority : Pubkey) (slot : UInt64) : Pubkey :=
  pda [authority.bytes, le64 slot] lookupTableProgram

def create (authority : Pubkey) : TableTask Pubkey := do
  let slot ← recentCreationSlot
  let table := tableAddress authority slot
  Proc.mapErr (inContext "create table: ")
    (send authority (.createLookupTable table authority authority slot))
  pure table

/-- The loop over the chunks. -/
def extendAll (authority table : Pubkey) : List (List Pubkey) → TableTask Unit
  | [] => pure ()
  | chunk :: rest => do
      Proc.mapErr
        (inContext ("extend " ++ keyText table ++ "; resume using --table " ++ keyText table ++ ": "))
        (send authority (.extendLookupTable table authority (some authority) chunk))
      extendAll authority table rest

/-- The rounds of `wait_until_active` that are left. -/
def awaitActive (table : Pubkey) (desired : List Pubkey) : ℕ → TableTask Unit
  | 0 => throw (.err (.other ("table " ++ keyText table ++
      " not yet active; retry with --table " ++ keyText table)))
  | rounds + 1 => do
      let account ← Proc.ask (.getAccount table)
      let account ← ofResult (clientResult account)
      let state ← ofResult (clientResult (TableSdk.deserializeTable account.data))
      if ∀ key ∈ desired, key ∈ state.addresses then do
        let slot ← Proc.ask .getSlot
        let slot ← ofResult (clientResult slot)
        if slot > state.lastExtendedSlot then pure ()
        else do
          Proc.ask (TableQuery.sleep 500)
          awaitActive table desired rounds
      else do
        Proc.ask (TableQuery.sleep 500)
        awaitActive table desired rounds

def waitUntilActive (table : Pubkey) (desired : List Pubkey) : TableTask Unit :=
  awaitActive table desired activationAttempts

variable [Profile]

def checkFunding (authority : Pubkey) (additionalRent : UInt64) (transactionCount : ℕ) :
    TableTask Unit := do
  let blockhash ← Proc.ask .getLatestBlockhash
  let blockhash ← ofResult (clientResult blockhash)
  let fee ← Proc.ask (.getFeeForMessage authority blockhash)
  let fee ← ofResult (clientResult fee)
  let fees ← ofResult (mul64 fee (UInt64.ofNat transactionCount))
  let needed ← ofResult (add64 additionalRent fees)
  let balance ← Proc.ask (.getBalance authority)
  let balance ← ofResult (clientResult balance)
  Proc.failIf (¬ balance ≥ needed)
    (.err (.other ("insufficient SOL: have " ++ toString balance.toNat ++
      " lamports, need about " ++ toString needed.toNat ++ "; short " ++
      toString (saturatingSub64 needed balance).toNat ++
      " lamports. Fund the payer and resume the existing table with --table ADDRESS")))

/-- The addresses that a table still lacks. -/
def missing (stored desired : List Pubkey) : List Pubkey :=
  desired.filter fun key => key ∉ stored

def populate (authority : Pubkey) (existing : Option Pubkey) (desired : List Pubkey) :
    TableTask Pubkey := do
  let stored ← match existing with
    | some table => readOwnedTable authority table
    | none => pure []
  let missing := missing stored desired
  Proc.failIf (¬ stored.length + missing.length ≤ maxAddresses) (.err (.other "table is full"))
  let rent ← Proc.ask
    (.getMinimumBalanceForRentExemption (metaSize + (stored.length + missing.length) * 32))
  let rent ← ofResult (clientResult rent)
  let currentRent ← match existing with
    | some table => do
        let balance ← Proc.ask (.getBalance table)
        ofResult (clientResult balance)
    | none => pure 0
  let transactionCount := (missing.length + extendChunkSize - 1) / extendChunkSize +
    (if existing.isNone then 1 else 0)
  checkFunding authority (saturatingSub64 rent currentRent) transactionCount
  let table ← match existing with
    | some table => pure table
    | none => create authority
  extendAll authority table (chunks extendChunkSize missing)
  waitUntilActive table desired
  pure table

end Creator
end LookupTableCreator
end Solana
end TradingAggregators
