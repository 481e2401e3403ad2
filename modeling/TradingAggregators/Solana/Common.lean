import TradingAggregators.Solana.Sdk
import TradingAggregators.Wire.Borsh

/-!
# `solana/dexes/common.rs`

Program ids, instruction builders and the integer formulas shared by the venues.  A `u128`
intermediate of these formulas never leaves its range, so it is a natural number here;
`as u64` keeps the low 64 bits.
-/

namespace TradingAggregators
namespace Solana

open Wire Rust

/-! ## Constants -/

def systemProgram : Pubkey := pubkey "11111111111111111111111111111111"
def tokenProgram : Pubkey := pubkey "TokenkegQfeZyiNwAJbNbGKPFXCWuBvf9Ss623VQ5DA"
def token2022Program : Pubkey := pubkey "TokenzQdBNbLqP5VEhdkAS6EPFLC1PHnBqCXEpPxuEb"
def ataProgram : Pubkey := pubkey "ATokenGPvbdGVxr1b2hvZbsiqW5xWH25efTNsLJA8knL"
def computeBudgetProgram : Pubkey := pubkey "ComputeBudget111111111111111111111111111111"
def wsol : Pubkey := pubkey "So11111111111111111111111111111111111111112"
def usdcMint : Pubkey := pubkey "EPjFWdd5AufqSSqeM2qN1xzybapC8G4wEGGkZwyTDt1v"

def ixCloseAccount : UInt8 := 9
def ixSyncNative : UInt8 := 17

def sysTransfer : UInt32 := 2

def requestHeapFrame : UInt8 := 1
def setComputeUnitLimitTag : UInt8 := 2
def setComputeUnitPriceTag : UInt8 := 3
def setLoadedAccountsDataSizeLimitTag : UInt8 := 4

def ataCreate : UInt8 := 0
def ataCreateIdempotent : UInt8 := 1

/-- Borsh `OptionBool(true)`. -/
def trackVolume : UInt8 := 1

/-- None of the programs the fee and tip instructions call is the compute-budget program. -/
theorem computeBudgetProgram_ne :
    systemProgram ≠ computeBudgetProgram ∧ tokenProgram ≠ computeBudgetProgram ∧
      ataProgram ≠ computeBudgetProgram := by
  decide

/-- The data of an SPL `TransferChecked`: tag 12, the amount, the decimals. -/
def transferCheckedData (amount : UInt64) (decimals : UInt8) : Bytes :=
  12 :: (le64 amount ++ [decimals])

@[simp] theorem length_transferCheckedData (amount : UInt64) (decimals : UInt8) :
    (transferCheckedData amount decimals).length = 10 := by
  simp [transferCheckedData]

/-! ## Derived addresses -/

section Instructions

variable [Sdk]

def pda (seeds : List Bytes) (program : Pubkey) : Pubkey :=
  Sdk.findProgramAddress seeds program

def ata (wallet mint tokenProgram : Pubkey) : Pubkey :=
  pda [wallet.bytes, tokenProgram.bytes, mint.bytes] ataProgram

/-! ## Instructions -/

def createAtaIdempotent (payer wallet mint tokenProgram : Pubkey) : Instruction where
  programId := ataProgram
  accounts :=
    [.writable payer true,
      .writable (ata wallet mint tokenProgram) false,
      .readonly wallet false,
      .readonly mint false,
      .readonly systemProgram false,
      .readonly tokenProgram false]
  data := [ataCreateIdempotent]

def systemTransfer (source destination : Pubkey) (lamports : UInt64) : Instruction where
  programId := systemProgram
  accounts := [.writable source true, .writable destination false]
  data := le32 sysTransfer ++ le64 lamports

def tip (payer tipAccount : Pubkey) (lamports : UInt64) : Instruction :=
  systemTransfer payer tipAccount lamports

def syncNative (account : Pubkey) : Instruction where
  programId := tokenProgram
  accounts := [.writable account false]
  data := [ixSyncNative]

def closeAccount (account destination owner : Pubkey) : Instruction where
  programId := tokenProgram
  accounts := [.writable account false, .writable destination false, .readonly owner true]
  data := [ixCloseAccount]

def setComputeUnitLimit (units : UInt32) : Instruction where
  programId := computeBudgetProgram
  accounts := []
  data := setComputeUnitLimitTag :: le32 units

def setComputeUnitPrice (microLamports : UInt64) : Instruction where
  programId := computeBudgetProgram
  accounts := []
  data := setComputeUnitPriceTag :: le64 microLamports

/-- `spl_token::instruction::transfer_checked` with a single authority. -/
def transferChecked (program source mint destination authority : Pubkey) (amount : UInt64)
    (decimals : UInt8) : Except String Instruction :=
  if program = tokenProgram then
    .ok {
      programId := program
      accounts :=
        [.writable source false, .readonly mint false, .writable destination false,
          .readonly authority true]
      data := transferCheckedData amount decimals }
  else .error "Incorrect program id for instruction"

def anchorDiscriminator (ixName : String) : Bytes :=
  (Sdk.sha256 (("global:" ++ ixName).toList.map fun c => UInt8.ofNat c.toNat)).bytes.take 8

end Instructions

/-! ## Account data -/

/-- `decode_account`: what follows the decoded value is ignored. -/
def decodeAccount {α : Type} (codec : Codec α) (data : Bytes) : Result AnyError α :=
  match codec.decode data with
  | .ok (a, _) => .ok a
  | .error msg => fail (.other msg)

/-- `map_err(|e| anyhow!("{text}{e}"))` on an error that holds no `TradeError`. -/
def inContext (text : String) : Fault AnyError → Fault AnyError
  | .err (.other msg) => .err (.other (text ++ msg))
  | fault => fault

/-! ## Formulas -/

def baseOutForQuoteIn (quoteReserve baseReserve quoteIn : UInt64) : UInt64 :=
  if quoteIn = 0 ∨ quoteReserve = 0 ∨ baseReserve = 0 then 0
  else UInt64.ofNat (baseReserve.toNat * quoteIn.toNat / (quoteReserve.toNat + quoteIn.toNat))

def quoteOutForBaseIn (quoteReserve baseReserve baseIn : UInt64) : UInt64 :=
  if baseIn = 0 ∨ quoteReserve = 0 ∨ baseReserve = 0 then 0
  else UInt64.ofNat (quoteReserve.toNat * baseIn.toNat / (baseReserve.toNat + baseIn.toNat))

def feeFloor (amount bps : UInt64) : UInt64 :=
  UInt64.ofNat (amount.toNat * bps.toNat / 10000)

def feeCeil (amount bps : UInt64) : UInt64 :=
  UInt64.ofNat ((amount.toNat * bps.toNat + 9999) / 10000)

def slippageDown {ε : Type} [Profile] (x bps : UInt64) : Result ε UInt64 :=
  sub64 x (UInt64.ofNat (x.toNat * bps.toNat / 10000))

end Solana
end TradingAggregators
