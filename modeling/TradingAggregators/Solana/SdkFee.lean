import TradingAggregators.Solana.Types

/-!
# `solana/sdk_fee.rs`

The optional SDK fee in the trade's settlement currency.  An `SdkFee` carries what its
constructors check: a nonzero recipient, a fee below 10000 bps and, where there is one, a
well-formed Relay claim address.
-/

namespace TradingAggregators
namespace Solana

open Interaction Rust Wire

def usdcDecimals : UInt8 := 6

inductive FeeCollection where
  | sdk
  /-- bloXroute/DFlow input/output fees, or Relay input fees on buys. -/
  | provider
  deriving DecidableEq

/-- A hexadecimal digit, as `u8::is_ascii_hexdigit`. -/
def isHexDigit (c : Char) : Bool :=
  (toDigit 16 c).isSome

/-- `0x` and 40 hex digits, not all zero. -/
def isRelayFeeRecipient (recipient : String) : Bool :=
  match recipient.toList with
  | '0' :: 'x' :: address =>
      address.length = 40 && address.all isHexDigit && address.any (· ≠ '0')
  | _ => false

/-- Optional, bypassable SDK fee; no custom program required. -/
structure SdkFee where
  recipient : Pubkey
  basisPoints : UInt16
  collection : FeeCollection
  relayFeeRecipient : Option String
  recipient_ne_default : recipient ≠ .zero 32
  basisPoints_lt : basisPoints.toUInt64 < Solana.basisPoints
  relayFeeRecipient_valid : ∀ address ∈ relayFeeRecipient, isRelayFeeRecipient address

namespace SdkFee

/-- Without a claim address there is nothing to check. -/
theorem isRelayFeeRecipient_of_mem_none :
    ∀ address ∈ (none : Option String), isRelayFeeRecipient address := by
  simp

/-- Zero basis points disables charging. -/
def new (recipient : Pubkey) (basisPoints : UInt16) : TradeResult SdkFee :=
  if h : recipient = .zero 32 ∨ basisPoints.toUInt64 ≥ Solana.basisPoints then
    buildError "SDK fee requires a nonzero recipient and fee below 10000 bps"
  else
    .ok {
      recipient := recipient
      basisPoints := basisPoints
      collection := .sdk
      relayFeeRecipient := none
      recipient_ne_default := fun he => h (Or.inl he)
      basisPoints_lt := UInt64.not_le.mp fun he => h (Or.inr he)
      relayFeeRecipient_valid := isRelayFeeRecipient_of_mem_none }

def withCollection (fee : SdkFee) (collection : FeeCollection) : SdkFee :=
  { fee with collection := collection }

/-- Sets Relay's EVM app-fee claim address. -/
def withRelayFeeRecipient (fee : SdkFee) (recipient : String) : TradeResult SdkFee :=
  if h : isRelayFeeRecipient recipient then
    .ok {
      fee with
      relayFeeRecipient := some recipient
      relayFeeRecipient_valid := by simpa using h }
  else
    buildError "Relay app fee recipient must be a nonzero EVM address (0x and 40 hex digits)"

def amount (fee : SdkFee) (basis : UInt64) : UInt64 :=
  UInt64.ofNat (basis.toNat * fee.basisPoints.toNat / Solana.basisPoints.toNat)

theorem basisPoints_toNat_lt (fee : SdkFee) : fee.basisPoints.toNat < 10000 :=
  UInt64.lt_iff_toNat_lt.mp fee.basisPoints_lt

/-- The fee never leaves 64 bits. -/
theorem toNat_amount (fee : SdkFee) (basis : UInt64) :
    (fee.amount basis).toNat = basis.toNat * fee.basisPoints.toNat / 10000 := by
  have hbasis := basis.toNat_lt
  have hprod : basis.toNat * fee.basisPoints.toNat ≤ basis.toNat * 10000 :=
    Nat.mul_le_mul_left _ fee.basisPoints_toNat_lt.le
  have hle : basis.toNat * fee.basisPoints.toNat / 10000 ≤ basis.toNat := by omega
  show (UInt64.ofNat (basis.toNat * fee.basisPoints.toNat / 10000)).toNat = _
  rw [UInt64.toNat_ofNat', Nat.mod_eq_of_lt (lt_of_le_of_lt hle hbasis)]

theorem amount_le (fee : SdkFee) (basis : UInt64) : fee.amount basis ≤ basis := by
  have hprod : basis.toNat * fee.basisPoints.toNat ≤ basis.toNat * 10000 :=
    Nat.mul_le_mul_left _ fee.basisPoints_toNat_lt.le
  rw [UInt64.le_iff_toNat_le, toNat_amount]
  omega

section Plain

variable [Profile]

def tradeAfterFee (fee : SdkFee) (trade : Trade) : TradeResult Trade := do
  trade.validate
  failIf (fee.basisPoints > 0 ∧ trade.wallet = fee.recipient)
    (.err (.build "SDK fee recipient must differ from trading wallet"))
  match trade.side with
  | .buy => do
      let amount ← sub64 trade.amount (fee.amount trade.amount)
      pure { trade with amount := amount }
  | .sell => pure trade

def quoteAfterFee (fee : SdkFee) (trade : Trade) (quote : Quote) : TradeResult Quote := do
  failIf (quote.minOut = 0 ∨ quote.expectedOut < quote.minOut)
    (.err (.build "SDK fee route requires a positive, valid minimum output"))
  -- Sell fees are fixed from this quote's expected output, not from actual proceeds.
  let applicationFee := fee.amount <| match trade.side with
    | .buy => trade.amount
    | .sell => quote.expectedOut
  let quote := { quote with inAmount := trade.amount, applicationFee := applicationFee }
  match trade.side with
  | .buy => pure quote
  | .sell => do
      failIf (quote.applicationFee ≥ quote.minOut)
        (.err (.build "minimum output must exceed the sell fee calculated from expected output"))
      let expectedOut ← sub64 quote.expectedOut quote.applicationFee
      let minOut ← sub64 quote.minOut quote.applicationFee
      pure { quote with expectedOut := expectedOut, minOut := minOut }

end Plain

end SdkFee

/-- The instructions of a USDC fee: the recipient's token account and the transfer. -/
def appendUsdcFee [Sdk] (instructions : List Instruction) (payer wallet recipient : Pubkey)
    (amount : UInt64) : TradeResult (List Instruction) := do
  let instructions := instructions ++ [createAtaIdempotent payer recipient usdcMint tokenProgram]
  let transfer ← (transferChecked tokenProgram (ata wallet usdcMint tokenProgram) usdcMint
    (ata recipient usdcMint tokenProgram) wallet amount usdcDecimals).mapError
      fun error => .err (.build ("USDC fee transfer: " ++ error))
  pure (instructions ++ [transfer])

/-- The transfer of a USDC fee. -/
def usdcTransfer [Sdk] (wallet recipient : Pubkey) (amount : UInt64) : Instruction where
  programId := tokenProgram
  accounts :=
    [.writable (ata wallet usdcMint tokenProgram) false, .readonly usdcMint false,
      .writable (ata recipient usdcMint tokenProgram) false, .readonly wallet true]
  data := transferCheckedData amount usdcDecimals

theorem transferChecked_usdc [Sdk] (wallet recipient : Pubkey) (amount : UInt64) :
    transferChecked tokenProgram (ata wallet usdcMint tokenProgram) usdcMint
      (ata recipient usdcMint tokenProgram) wallet amount usdcDecimals =
      .ok (usdcTransfer wallet recipient amount) :=
  if_pos rfl

/-- Appending a USDC fee never fails and adds exactly two instructions. -/
@[simp] theorem appendUsdcFee_eq [Sdk] (instructions : List Instruction)
    (payer wallet recipient : Pubkey) (amount : UInt64) :
    appendUsdcFee instructions payer wallet recipient amount =
      .ok (instructions ++ [createAtaIdempotent payer recipient usdcMint tokenProgram] ++
        [usdcTransfer wallet recipient amount]) := by
  rw [appendUsdcFee, transferChecked_usdc]
  rfl

def SdkFee.applyWithPayer [Profile] [Sdk] (fee : SdkFee) (trade : Trade)
    (prepared : PreparedSwap) (payer : Pubkey) : TradeResult PreparedSwap := do
  let quote ← fee.quoteAfterFee trade prepared.quote
  let prepared := { prepared with quote := quote }
  if prepared.quote.applicationFee > 0 then
    -- Append after the full route, never per hop; a failed transfer rolls back the swap.
    match trade.settlement with
    | .sol =>
        pure { prepared with
          instructions := prepared.instructions ++
            [systemTransfer trade.wallet fee.recipient prepared.quote.applicationFee] }
    | .usdc => do
        let instructions ← appendUsdcFee prepared.instructions payer trade.wallet fee.recipient
          prepared.quote.applicationFee
        pure { prepared with instructions := instructions }
  else pure prepared

end Solana
end TradingAggregators
