import TradingAggregators.Error
import TradingAggregators.Wire.Base58

/-!
# What the crate takes from the Solana SDK

The data types of instructions, messages and transactions, and `Sdk`: the functions of
third-party crates that the code calls and whose source is not part of the repository.
Nothing is assumed about them here.  `KeepsInstructions` is the documented property of
message compilation that some results name as a hypothesis.
-/

namespace TradingAggregators
namespace Solana

open Wire Rust

/-! ## Keys and signatures -/

abbrev Pubkey := FixedBytes 32

/-- Named once, so that `key ∈ keys` is decided by one and the same term everywhere. -/
instance : LawfulBEq Pubkey := inferInstance

abbrev Hash := FixedBytes 32

abbrev Signature := FixedBytes 64

/-- `Pubkey::to_string` and `Signature::to_string`. -/
def keyText {n : ℕ} (key : FixedBytes n) : String :=
  Base58.encode key.bytes

/-- `parse::<Pubkey>()` and `parse::<Signature>()`. -/
def parseKey (n : ℕ) (s : String) : Except String (FixedBytes n) :=
  match Base58.decode s with
  | none => .error "Invalid Base58 string"
  | some bs => if h : bs.length = n then .ok ⟨bs, h⟩ else .error "String is the wrong size"

/-- A printed key reads back. -/
@[simp] theorem parseKey_keyText {n : ℕ} (key : FixedBytes n) :
    parseKey n (keyText key) = .ok key := by
  have hdec : Base58.decode (keyText key) = some key.bytes := Base58.decode_encode key.bytes
  simp only [parseKey, hdec]
  rw [dif_pos key.size]

theorem keyText_injective {n : ℕ} {a b : FixedBytes n} (h : keyText a = keyText b) : a = b :=
  FixedBytes.ext (Base58.encode_injective h)

/-- `pubkey!`: a key written in base 58. -/
def pubkey (s : String) : Pubkey :=
  match parseKey 32 s with
  | .ok key => key
  | .error _ => .zero 32

/-! ## Instructions and transactions -/

structure AccountMeta where
  pubkey : Pubkey
  isSigner : Bool
  isWritable : Bool
  deriving DecidableEq

/-- `AccountMeta::new`. -/
def AccountMeta.writable (pubkey : Pubkey) (isSigner : Bool) : AccountMeta :=
  ⟨pubkey, isSigner, true⟩

/-- `AccountMeta::new_readonly`. -/
def AccountMeta.readonly (pubkey : Pubkey) (isSigner : Bool) : AccountMeta :=
  ⟨pubkey, isSigner, false⟩

structure Instruction where
  programId : Pubkey
  accounts : List AccountMeta
  data : Bytes
  deriving DecidableEq

structure AddressLookupTableAccount where
  key : Pubkey
  addresses : List Pubkey
  deriving DecidableEq

structure MessageHeader where
  numRequiredSignatures : UInt8
  numReadonlySignedAccounts : UInt8
  numReadonlyUnsignedAccounts : UInt8
  deriving DecidableEq

structure CompiledInstruction where
  programIdIndex : UInt8
  accounts : Bytes
  data : Bytes
  deriving DecidableEq

structure MessageAddressTableLookup where
  accountKey : Pubkey
  writableIndexes : Bytes
  readonlyIndexes : Bytes
  deriving DecidableEq

/-- A legacy message. -/
structure LegacyMessage where
  header : MessageHeader
  accountKeys : List Pubkey
  recentBlockhash : Hash
  instructions : List CompiledInstruction
  deriving DecidableEq

/-- `v0::Message`. -/
structure V0Message where
  header : MessageHeader
  accountKeys : List Pubkey
  recentBlockhash : Hash
  instructions : List CompiledInstruction
  addressTableLookups : List MessageAddressTableLookup
  deriving DecidableEq

/-- `v1::TransactionConfig`: the compute budget in a V1 message header. -/
structure V1TransactionConfig where
  priorityFee : Option UInt64
  computeUnitLimit : Option UInt32
  loadedAccountsDataSizeLimit : Option UInt32
  heapSize : Option UInt32
  deriving DecidableEq

/-- `v1::Message`. -/
structure V1Message where
  header : MessageHeader
  config : V1TransactionConfig
  lifetimeSpecifier : Hash
  accountKeys : List Pubkey
  instructions : List CompiledInstruction
  deriving DecidableEq

inductive VersionedMessage where
  | legacy (m : LegacyMessage)
  | v0 (m : V0Message)
  | v1 (m : V1Message)
  deriving DecidableEq

namespace VersionedMessage

def header : VersionedMessage → MessageHeader
  | .legacy m => m.header
  | .v0 m => m.header
  | .v1 m => m.header

def staticAccountKeys : VersionedMessage → List Pubkey
  | .legacy m => m.accountKeys
  | .v0 m => m.accountKeys
  | .v1 m => m.accountKeys

def instructions : VersionedMessage → List CompiledInstruction
  | .legacy m => m.instructions
  | .v0 m => m.instructions
  | .v1 m => m.instructions

end VersionedMessage

structure VersionedTransaction where
  signatures : List Signature
  message : VersionedMessage
  deriving DecidableEq

/-- What the code reads of a decoded address lookup table. -/
structure LookupTableState where
  deactivationSlot : UInt64
  lastExtendedSlot : UInt64
  addresses : List Pubkey

/-! ## Third-party functions -/

/-- The functions the code calls in crates that are not part of the repository. -/
class Sdk where
  /-- `Pubkey::find_program_address`, the address only. -/
  findProgramAddress : List Bytes → Pubkey → Pubkey
  /-- `Sha256`. -/
  sha256 : Bytes → FixedBytes 32
  /-- `base64::engine::general_purpose::STANDARD.decode`. -/
  base64Decode : String → Except String Bytes
  /-- `AddressLookupTable::deserialize`. -/
  deserializeLookupTable : Bytes → Except String LookupTableState
  /-- `v0::Message::try_compile`. -/
  compileV0 : Pubkey → List Instruction → List AddressLookupTableAccount → Hash →
    Except String V0Message
  /-- `v1::Message::try_compile_with_config`. -/
  compileV1 : Pubkey → List Instruction → Hash → V1TransactionConfig → Except String V1Message
  /-- `v1::Message::validate`. -/
  validateV1 : V1Message → Except String Unit
  /-- `wincode::serialized_size`. -/
  serializedSize : VersionedTransaction → Except String UInt64

/-- A compiled instruction stands for `ix`: same data, and its program is the static key
`ix` names. -/
structure CompiledFrom (keys : List Pubkey) (ix : Instruction) (c : CompiledInstruction) :
    Prop where
  data : c.data = ix.data
  program : keys[c.programIdIndex.toNat]? = some ix.programId

/-- Message compilation keeps the order of the instructions, their programs and their
data. -/
structure KeepsInstructions [Sdk] : Prop where
  v0 : ∀ payer ixs tables blockhash m, Sdk.compileV0 payer ixs tables blockhash = .ok m →
    List.Forall₂ (CompiledFrom m.accountKeys) ixs m.instructions
  v1 : ∀ payer ixs blockhash config m, Sdk.compileV1 payer ixs blockhash config = .ok m →
    List.Forall₂ (CompiledFrom m.accountKeys) ixs m.instructions

end Solana
end TradingAggregators
