import TradingAggregators.Solana.World

/-!
# `solana/lookup_table.rs`

Loading address lookup tables and merging lists of them.
-/

namespace TradingAggregators
namespace Solana

open Interaction Rust Wire
open Interaction.Proc (ofResult within both attempt scope read update call)

variable {σ : Type}

def lookupTableProgram : Pubkey := pubkey "AddressLookupTab1e1111111111111111111111111"

def decodeLookupTable [Sdk] (address owner : Pubkey) (data : Bytes) (slot : UInt64) :
    TradeResult AddressLookupTableAccount := do
  failIf (owner ≠ lookupTableProgram)
    (.err (.decode "address lookup table"
      ("account " ++ keyText address ++ " has owner " ++ keyText owner)))
  let table ← (Sdk.deserializeLookupTable data).mapError fun error =>
    .err (.decode "address lookup table" ("account " ++ keyText address ++ ": " ++ error))
  -- Cache only fully warmed, non-deactivating tables.
  failIf (table.deactivationSlot ≠ 18446744073709551615 ∨ slot ≤ table.lastExtendedSlot)
    (.err (.decode "address lookup table"
      ("account " ++ keyText address ++ " is deactivating or not warmed up at RPC slot " ++
        toString slot.toNat ++ "; use an active table and retry after its extension slot")))
  pure { key := address, addresses := table.addresses }

def loadAddressLookupTable [Sdk] (address : Pubkey) : Task σ AddressLookupTableAccount := do
  let response ← ask (.getAccountWithCommitment address .client)
  let response ← ofResult (rpcResult "get address lookup table" response)
  let account ← ofResult (okOr response.value
    (.decode "address lookup table"
      ("account " ++ keyText address ++ " does not exist on this RPC cluster")))
  ofResult (decodeLookupTable address account.owner account.data response.slot)

/-- The loop of `load_address_lookup_tables`, with the addresses it has seen. -/
def loadUnseen [Sdk] (seen : List Pubkey) :
    List Pubkey → Task σ (List AddressLookupTableAccount)
  | [] => pure []
  | address :: addresses =>
      if address ∈ seen then loadUnseen seen addresses
      else do
        let table ← loadAddressLookupTable address
        let tables ← loadUnseen (address :: seen) addresses
        pure (table :: tables)

def loadAddressLookupTables [Sdk] (addresses : List Pubkey) :
    Task σ (List AddressLookupTableAccount) :=
  loadUnseen [] addresses

/-- Keep the tables whose key is neither in `seen` nor earlier in the list. -/
def firstOfEachKey (seen : List Pubkey) :
    List AddressLookupTableAccount → List AddressLookupTableAccount
  | [] => []
  | table :: tables =>
      if table.key ∈ seen then firstOfEachKey seen tables
      else table :: firstOfEachKey (table.key :: seen) tables

def mergeLookupTables (primary supplemental : List AddressLookupTableAccount) :
    List AddressLookupTableAccount :=
  firstOfEachKey [] (primary ++ supplemental)

end Solana
end TradingAggregators
