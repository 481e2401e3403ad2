import TradingAggregators.Evm.Types

/-!
# What the EVM code takes from alloy

The EIP-1559 transaction, and `Alloy`: the functions of the alloy crates that the code
calls and whose source is not part of the repository.  Decoding signed bytes, the hash of
what was decoded and the recovery of its signer are functions of the bytes; nothing else is
assumed about them.
-/

namespace TradingAggregators
namespace Evm

open Rust Wire

/-- `TxKind`: the target of a call, or a contract creation. -/
inductive TxKind where
  | create
  | call (target : Address)
  deriving DecidableEq

structure AccessListItem where
  address : Address
  storageKeys : List (FixedBytes 32)
  deriving DecidableEq

structure TxEip1559 where
  chainId : UInt64
  nonce : UInt64
  gasLimit : UInt64
  maxFeePerGas : U128
  maxPriorityFeePerGas : U128
  target : TxKind
  value : Amount
  accessList : List AccessListItem
  input : Bytes
  deriving DecidableEq

/-- `Signed<TxEip1559>`: a transaction with its signature and its hash. -/
structure SignedTx where
  tx : TxEip1559
  signature : FixedBytes 65
  hash : TransactionHash
  deriving DecidableEq

/-- The functions the code calls in the alloy crates. -/
class Alloy where
  keccak256 : Bytes → FixedBytes 32
  /-- `TxEip1559::eip2718_decode`: what was decoded, and the bytes behind it. -/
  eip2718Decode : Bytes → Except String (SignedTx × Bytes)
  /-- `Signed::recover_signer`. -/
  recoverSigner : SignedTx → Except String Address

/-- The hash of a signed payload, where it decodes. -/
def payloadHash [Alloy] (signed : Bytes) : Option TransactionHash :=
  match Alloy.eip2718Decode signed with
  | .ok (decoded, _) => some decoded.hash
  | .error _ => none

/-! ## Text of addresses and hashes -/

/-- Write a digit in upper case when the nibble of the digest at its place is 8 or more. -/
def checksumDigit (digit nibble : Char) : Char :=
  if ('8' ≤ nibble ∧ nibble ≤ '9') ∨ 'a' ≤ nibble then digit.toUpper else digit

/-- The text of an address: hexadecimal, the case of the letters being its checksum. -/
def addressText [Alloy] (a : Address) : String :=
  let digits := a.bytes.flatMap hexByte
  let digest := (Alloy.keccak256 (textBytes (String.ofList digits))).bytes.flatMap hexByte
  "0x" ++ String.ofList (List.zipWith checksumDigit digits digest)

end Evm
end TradingAggregators
