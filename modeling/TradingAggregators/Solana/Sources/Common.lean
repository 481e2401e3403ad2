import TradingAggregators.Solana.ProviderFee
import TradingAggregators.Solana.World

/-!
# `solana/sources/mod.rs`

What the aggregator adapters share: checking a quote, decoding a provider's instructions
and compute-budget settings, and moving rent to a sponsor.
-/

namespace TradingAggregators
namespace Solana

open Aggregators Interaction Rust Wire

def routeMints (trade : Trade) : Pubkey × Pubkey :=
  match trade.side with
  | .buy => (trade.settlement.mint, trade.mint)
  | .sell => (trade.mint, trade.settlement.mint)

/-- An API error whose text names the venue. -/
def decodeFault (venue detail : String) : Fault TradeError :=
  .err (.decode venue detail)

def validatedQuote (venue : String) (trade : Trade) (input expected minimum : UInt64) :
    TradeResult Quote := do
  trade.validate
  let floor := expected.toNat * (basisPoints - trade.slippageBps).toNat / basisPoints.toNat
  failIf (input ≠ trade.amount ∨ minimum = 0 ∨ minimum > expected ∨ minimum.toNat < floor)
    (decodeFault venue "invalid input, minimum output or slippage")
  pure {
    inAmount := input
    expectedOut := expected
    minOut := minimum
    usdValue := none
    fee := 0
    applicationFee := 0
    sponsorshipFee := 0 }

/-! ## Instructions -/

/-- One account of a provider's instruction; nobody else may have to sign. -/
def decodeAccountMeta (venue : String) (wallet : Pubkey) (payer : Option Pubkey)
    (account : ApiAccount) : TradeResult AccountMeta := do
  let pubkey ← (parseKey 32 account.pubkey).mapError (decodeFault venue)
  failIf (account.isSigner ∧ pubkey ≠ wallet ∧ some pubkey ≠ payer)
    (decodeFault venue "route requires an additional signer")
  pure { pubkey := pubkey, isSigner := account.isSigner, isWritable := account.isWritable }

def decodeInstruction (venue : String) (wallet : Pubkey) (payer : Option Pubkey)
    (ix : ApiInstruction) (data : Bytes) : TradeResult Instruction := do
  let accounts ← ix.accounts.mapM (decodeAccountMeta venue wallet payer)
  let programId ← (parseKey 32 ix.programId).mapError (decodeFault venue)
  pure { programId := programId, accounts := accounts, data := data }

/-- `ApiInstruction::decode_base64`. -/
def decodeBase64 [Sdk] (venue : String) (wallet : Pubkey) (payer : Option Pubkey)
    (ix : ApiInstruction) : TradeResult Instruction := do
  let data ← (Sdk.base64Decode ix.data).mapError (decodeFault venue)
  decodeInstruction venue wallet payer ix data

/-- `u8::is_ascii_hexdigit`. -/
def isHexByte (b : UInt8) : Bool :=
  isHexDigit (Char.ofNat b.toNat)

/-- One byte from two digits; both panics of the source are kept. -/
def hexByte (text : String) (index : ℕ) : TradeResult UInt8 := do
  let digits ← sliceText text index 2
  match fromStrRadix 16 256 digits with
  | .ok n => pure (UInt8.ofNat n)
  | .error _ => throw .panicked

/-- `ApiInstruction::decode_hex`. -/
def decodeHex (venue : String) (wallet : Pubkey) (payer : Option Pubkey)
    (ix : ApiInstruction) : TradeResult Instruction := do
  let bytes := textBytes ix.data
  failIf (bytes.length % 2 ≠ 0 ∨ ¬ bytes.all isHexByte)
    (decodeFault venue "invalid hex instruction data")
  let data ← (List.range (bytes.length / 2)).mapM fun k => hexByte ix.data (2 * k)
  decodeInstruction venue wallet payer ix data

/-! ## Compute budget -/

def budget (kind : UInt8) (value : UInt32) : Instruction where
  programId := computeBudgetProgram
  accounts := []
  data := kind :: le32 value

/-- `TransactionConfig::instructions`: expressed as budget instructions; the executor moves
them into the V1 message header. -/
def configInstructions (venue : String) (config : TransactionConfig) :
    TradeResult (List Instruction) := do
  failIf ((∃ limit ∈ config.computeUnitLimit, ¬ (1 ≤ limit ∧ limit ≤ 1400000)) ∨
      (∃ size ∈ config.loadedAccountsDataSizeLimit, ¬ (1 ≤ size ∧ size ≤ 67108864)) ∨
      (∃ fee ∈ config.priorityFee, fee ≠ 0))
    (decodeFault venue "unsupported transaction configuration")
  let instructions :=
    (config.computeUnitLimit.map setComputeUnitLimit).toList ++
      (config.loadedAccountsDataSizeLimit.map
        (budget setLoadedAccountsDataSizeLimitTag)).toList
  match config.heapSize with
  | some heap => do
      failIf (¬ (32768 ≤ heap ∧ heap ≤ 262144) ∨ heap % 1024 ≠ 0)
        (decodeFault venue "invalid heap size")
      pure (instructions ++ [budget requestHeapFrame heap])
  | none => pure instructions

/-- A heap size that a configuration may ask for. -/
def HeapInBounds (heap : UInt32) : Prop :=
  (32768 ≤ heap ∧ heap ≤ 262144) ∧ heap % 1024 = 0

/-- A limit on the loaded accounts that a configuration may ask for. -/
def LoadedInBounds (size : UInt32) : Prop :=
  1 ≤ size ∧ size ≤ 67108864

/-- The instructions of a configuration, which is within its bounds. -/
structure ConfigInstructions (config : TransactionConfig) (ixs : List Instruction) : Prop where
  instructions : ixs = (config.computeUnitLimit.map setComputeUnitLimit).toList ++
    ((config.loadedAccountsDataSizeLimit.map (budget setLoadedAccountsDataSizeLimitTag)).toList ++
      (config.heapSize.map (budget requestHeapFrame)).toList)
  limit : ∀ limit ∈ config.computeUnitLimit, 1 ≤ limit ∧ limit ≤ 1400000
  loaded : ∀ size ∈ config.loadedAccountsDataSizeLimit, LoadedInBounds size
  heap : ∀ heap ∈ config.heapSize, HeapInBounds heap

theorem configInstructions_eq_ok {venue : String} {config : TransactionConfig}
    {ixs : List Instruction} (h : configInstructions venue config = .ok ixs) :
    ConfigInstructions config ixs := by
  obtain ⟨_, hchecks, h₁⟩ := bind_eq_ok.mp h
  rw [failIf_eq_ok, not_or, not_or] at hchecks
  obtain ⟨hlimit, hloaded, -⟩ := hchecks
  push Not at hlimit hloaded
  cases hheap : config.heapSize with
  | none =>
    rw [hheap] at h₁
    refine ⟨?_, hlimit, hloaded, by simp [hheap]⟩
    rw [← pure_eq_ok.mp h₁, hheap]
    simp
  | some heap =>
    rw [hheap] at h₁
    obtain ⟨_, hvalid, h₂⟩ := bind_eq_ok.mp h₁
    rw [failIf_eq_ok, not_or, not_not, not_not] at hvalid
    refine ⟨?_, hlimit, hloaded, by simpa [hheap, HeapInBounds] using hvalid⟩
    rw [← pure_eq_ok.mp h₂, hheap]
    simp

/-- The instructions of a configuration are those of the compute-budget program. -/
theorem ConfigInstructions.programId {config : TransactionConfig} {ixs : List Instruction}
    (h : ConfigInstructions config ixs) :
    ∀ ix ∈ ixs, ix.programId = computeBudgetProgram := by
  intro ix hix
  simp only [h.instructions, List.mem_append, Option.mem_toList, Option.map_eq_some_iff] at hix
  rcases hix with ⟨limit, -, rfl⟩ | ⟨size, -, rfl⟩ | ⟨heap, -, rfl⟩
  · rfl
  · rfl
  · rfl

/-- The executor sets CU limit and price itself; heap and loaded-account requests are
kept. -/
def retainComputeBudget (venue : String) (instruction : Instruction) : TradeResult Bool :=
  let unsupported := decodeFault venue "unsupported compute-budget instruction"
  if instruction.programId ≠ computeBudgetProgram then .ok true
  else
    match instruction.data with
    | [] => .error unsupported
    | tag :: value =>
        if (tag = setComputeUnitLimitTag ∧ value.length = 4) ∨
            (tag = setComputeUnitPriceTag ∧ value.length = 8) then .ok false
        else if (tag = requestHeapFrame ∨ tag = setLoadedAccountsDataSizeLimitTag) ∧
            value.length = 4 then .ok true
        else .error unsupported

/-! ## Sponsorship -/

/-- The token-account setup of a sponsored route, paid by the sponsor. -/
def moveAtaRent [Sdk] (venue : String) (wallet sponsor : Pubkey) (instruction : Instruction) :
    TradeResult Instruction :=
  let unsupported := decodeFault venue "unsupported sponsored token-account setup"
  match instruction.accounts with
  | [payer, address, owner, mint, system, token] => do
      failIf (instruction.data ∉ [[], [ataCreate], [ataCreateIdempotent]] ∨
          payer.pubkey ∉ [wallet, sponsor] ∨ system.pubkey ≠ systemProgram ∨
          address.pubkey ≠ ata owner.pubkey mint.pubkey token.pubkey)
        unsupported
      pure { instruction with
        accounts := [.writable sponsor true, address, owner, mint, system, token] }
  | _ => .error unsupported

/-- Rent paid inside the swap program itself can't be seen here; the executor's simulation
still fails such a route before anything is sent. -/
def moveRentToSponsor [Sdk] (venue : String) (instruction : Instruction)
    (wallet sponsor : Pubkey) : TradeResult Instruction := do
  let instruction ←
    if instruction.programId = ataProgram then moveAtaRent venue wallet sponsor instruction
    else .ok instruction
  let spendsUserSol := instruction.programId = systemProgram ∧
    (∃ account ∈ instruction.accounts.head?, account.pubkey = wallet) ∧
    instruction.data ≠ (systemTransfer wallet sponsor 0).data
  failIf spendsUserSol (decodeFault venue "sponsored route still requires user SOL")
  pure instruction

end Solana
end TradingAggregators
