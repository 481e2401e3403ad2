import TradingAggregators.Solana.World

/-!
# One concrete SDK

Message compilation as the Solana crates do it when no lookup table holds a key of the
transaction: the payer first, then the other keys by class (writable signers, read-only
signers, writable, read-only), each class in key order.  `referenceSdk_keepsInstructions`
shows that it has the property that results about compiled messages assume.
-/

namespace TradingAggregators
namespace Solana

open Interaction Rust Wire

/-! ## Keys of a message -/

/-- One mention of a key in a transaction. -/
def mentions (payer : Pubkey) (ixs : List Instruction) : List AccountMeta :=
  .writable payer true ::
    ixs.flatMap fun ix => .readonly ix.programId false :: ix.accounts

/-- Insert a key into an ascending list without duplicates. -/
def insertKey (key : Pubkey) : List Pubkey → List Pubkey
  | [] => [key]
  | k :: ks => if key = k then k :: ks else if key < k then key :: k :: ks else k :: insertKey key ks

/-- The keys other than the payer that are used in one class. -/
def keyClass (payer : Pubkey) (uses : List AccountMeta) (isSigner isWritable : Bool) :
    List Pubkey :=
  ((uses.map AccountMeta.pubkey).foldr insertKey []).filter fun key =>
    key ≠ payer
      && (uses.any fun u => u.pubkey = key && u.isSigner) = isSigner
      && (uses.any fun u => u.pubkey = key && u.isWritable) = isWritable

/-- The static keys of a message and its header. -/
def compileKeys (payer : Pubkey) (ixs : List Instruction) : MessageHeader × List Pubkey :=
  let uses := mentions payer ixs
  let writableSigners := keyClass payer uses true true
  let readonlySigners := keyClass payer uses true false
  let writable := keyClass payer uses false true
  let readonly := keyClass payer uses false false
  ({ numRequiredSignatures := UInt8.ofNat (1 + writableSigners.length + readonlySigners.length)
     numReadonlySignedAccounts := UInt8.ofNat readonlySigners.length
     numReadonlyUnsignedAccounts := UInt8.ofNat readonly.length },
    payer :: (writableSigners ++ readonlySigners ++ writable ++ readonly))

/-- The position of a key as a byte. -/
def keyIndex (keys : List Pubkey) (key : Pubkey) : Except String UInt8 :=
  match keys.idxOf? key with
  | some i => if i < 256 then .ok (UInt8.ofNat i) else .error "account index overflowed during compilation"
  | none => .error "encountered unknown account key during instruction compilation"

theorem keyIndex_eq_ok {keys : List Pubkey} {key : Pubkey} {i : UInt8}
    (h : keyIndex keys key = .ok i) : keys[i.toNat]? = some key := by
  unfold keyIndex at h
  split at h
  · next j hj =>
    split_ifs at h with hlt
    rw [← Except.ok.inj h, UInt8.toNat_ofNat', Nat.mod_eq_of_lt hlt]
    obtain ⟨hj, hkey, -⟩ := List.findIdx?_eq_some_iff_getElem.mp hj
    rw [List.getElem?_eq_getElem hj]
    exact congrArg some (by simpa using hkey)
  · exact nomatch h

def compileInstruction (keys : List Pubkey) (ix : Instruction) :
    Except String CompiledInstruction := do
  let program ← keyIndex keys ix.programId
  let accounts ← ix.accounts.mapM fun a => keyIndex keys a.pubkey
  pure { programIdIndex := program, accounts := accounts, data := ix.data }

theorem compileInstruction_eq_ok {keys : List Pubkey} {ix : Instruction}
    {c : CompiledInstruction} (h : compileInstruction keys ix = .ok c) :
    CompiledFrom keys ix c := by
  obtain ⟨program, hprogram, h⟩ := bind_eq_ok.mp h
  obtain ⟨accounts, -, h⟩ := bind_eq_ok.mp h
  rw [← pure_eq_ok.mp h]
  exact ⟨rfl, keyIndex_eq_ok hprogram⟩

/-! ## Sizes -/

/-- The bytes of a message behind its version prefix, all lists being short. -/
def messageSize (keys : List Pubkey) (ixs : List CompiledInstruction) : ℕ :=
  3 + 1 + 32 * keys.length + 32 + 1 +
    (ixs.map fun c => 3 + c.accounts.length + c.data.length).sum + 1

/-! ## Base 64 -/

def base64Alphabet : List Char :=
  "ABCDEFGHIJKLMNOPQRSTUVWXYZabcdefghijklmnopqrstuvwxyz0123456789+/".toList

/-- The value of some symbols of one group, most significant first. -/
def base64Value (symbols : List Char) : Except String ℕ := do
  let digits ← symbols.mapM fun c =>
    match base64Alphabet.idxOf? c with
    | some d => .ok d
    | none => .error "Invalid symbol"
  pure (Nat.ofDigits 64 digits.reverse)

/-- The standard alphabet with padding: four symbols for three bytes. -/
def base64Groups : List Char → Except String Bytes
  | [] => .ok []
  | [a, b, '=', '='] => do
      let n ← base64Value [a, b]
      if n % 16 ≠ 0 then .error "Invalid last symbol" else pure [UInt8.ofNat (n / 16)]
  | [a, b, c, '='] => do
      let n ← base64Value [a, b, c]
      if n % 4 ≠ 0 then .error "Invalid last symbol"
      else pure [UInt8.ofNat (n / 1024), UInt8.ofNat (n / 4 % 256)]
  | a :: b :: c :: d :: rest => do
      let n ← base64Value [a, b, c, d]
      let bytes ← base64Groups rest
      pure (UInt8.ofNat (n / 65536) :: UInt8.ofNat (n / 256 % 256) :: UInt8.ofNat (n % 256) ::
        bytes)
  | _ => .error "Invalid padding"

/-! ## The SDK -/

/-- An SDK with this table of derived addresses. -/
@[reducible] def referenceSdk (derived : List (List Bytes × Pubkey × Pubkey)) : Sdk where
  findProgramAddress seeds program :=
    match derived.find? fun d => d.1 = seeds && d.2.1 = program with
    | some d => d.2.2
    | none => .zero 32
  sha256 _ := .zero 32
  base64Decode text := base64Groups text.toList
  deserializeLookupTable _ := .error "invalid account data for instruction"
  compileV0 payer ixs _ blockhash := do
    let keys := compileKeys payer ixs
    let compiled ← ixs.mapM (compileInstruction keys.2)
    pure {
      header := keys.1
      accountKeys := keys.2
      recentBlockhash := blockhash
      instructions := compiled
      addressTableLookups := [] }
  compileV1 payer ixs blockhash config := do
    let keys := compileKeys payer ixs
    let compiled ← ixs.mapM (compileInstruction keys.2)
    pure {
      header := keys.1
      config := config
      lifetimeSpecifier := blockhash
      accountKeys := keys.2
      instructions := compiled }
  validateV1 message :=
    if message.accountKeys.length ≤ 64 ∧ message.instructions.length ≤ 64 then .ok ()
    else .error "TooManyAddresses"
  serializedSize tx :=
    .ok (UInt64.ofNat (1 + 64 * tx.signatures.length + 1 +
      messageSize tx.message.staticAccountKeys tx.message.instructions))

theorem referenceSdk_keepsInstructions (derived : List (List Bytes × Pubkey × Pubkey)) :
    let := referenceSdk derived
    KeepsInstructions := by
  let := referenceSdk derived
  constructor
  · intro payer ixs tables blockhash m h
    obtain ⟨compiled, hcompiled, h⟩ := bind_eq_ok.mp h
    rw [← pure_eq_ok.mp h]
    exact (mapM_eq_ok.mp hcompiled).imp fun _ _ => compileInstruction_eq_ok
  · intro payer ixs blockhash config m h
    obtain ⟨compiled, hcompiled, h⟩ := bind_eq_ok.mp h
    rw [← pure_eq_ok.mp h]
    exact (mapM_eq_ok.mp hcompiled).imp fun _ _ => compileInstruction_eq_ok

/-! ## Sample parties -/

def sampleUser : Pubkey := ⟨List.replicate 32 1, rfl⟩
def sampleSponsorWallet : Pubkey := ⟨List.replicate 32 2, rfl⟩
def sampleFeeRecipient : Pubkey := ⟨List.replicate 32 3, rfl⟩
def sampleMint : Pubkey := ⟨List.replicate 32 4, rfl⟩

/-- The sample recipient may charge one percent. -/
theorem sampleFeeRecipient_ne_zero : sampleFeeRecipient ≠ .zero 32 := by
  decide

theorem onePercent_lt : (100 : UInt16).toUInt64 < basisPoints := by
  decide

/-- The sponsor's signature, with which the sample submitter answers. -/
def sampleSignature : Signature := ⟨List.replicate 64 2, rfl⟩

/-- The USDC accounts of the sample parties. -/
def sampleDerived : List (List Bytes × Pubkey × Pubkey) :=
  [([sampleUser.bytes, tokenProgram.bytes, usdcMint.bytes], ataProgram,
      pubkey "Gs6NxmndAL3PULGZeYUHCknpMdDVbL46eFCBh856p5z6"),
    ([sampleSponsorWallet.bytes, tokenProgram.bytes, usdcMint.bytes], ataProgram,
      pubkey "8Ae4vjYTZ5Z8mq2GJMUXpU2LDKMsqDaA7Tg7sZ85Gz9T"),
    ([sampleFeeRecipient.bytes, tokenProgram.bytes, usdcMint.bytes], ataProgram,
      pubkey "GewoiTtgmMFV5vERJqe64UJXUW2ygmxtAxZ8mhpju1dH")]

@[reducible] def sampleSdk : Sdk := referenceSdk sampleDerived

/-! ## A silent environment -/

/-- Every call fails and the clock stands at zero. -/
def silent : (q : Query) → Answer q
  | .getAccount _ => .error "AccountNotFound"
  | .getAccountWithCommitment _ _ => .error "connection refused"
  | .getMultipleAccounts _ => .error "connection refused"
  | .getTokenAccountBalance _ => .error "connection refused"
  | .getBalance _ _ => .error "connection refused"
  | .getLatestBlockhash => .error "connection refused"
  | .simulateTransaction _ _ => .error "connection refused"
  | .getSignatureStatus _ => .error "connection refused"
  | .jupiterBuild _ => .error (.network "send" "connection refused")
  | .dflowQuote _ => .error (.network "send" "connection refused")
  | .dflowInstructions _ => .error (.network "send" "connection refused")
  | .bloxrouteInstructions _ => .error (.network "send" "connection refused")
  | .relayQuote _ => .error (.network "send" "connection refused")
  | .solUsdcPrice => .error "connection refused"
  | .now => 0
  | .userSign _ _ => .error "connection refused"
  | .sponsorSign _ _ => .error "connection refused"
  | .submit _ => .error "connection refused"

end Solana
end TradingAggregators
