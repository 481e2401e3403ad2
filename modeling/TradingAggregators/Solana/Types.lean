import TradingAggregators.Solana.Common
import TradingAggregators.UsdValue

/-!
# `solana/types.rs`

The trade, the quote and what an adapter prepares.
-/

namespace TradingAggregators
namespace Solana

open Interaction Rust

def basisPoints : UInt64 := 10000

inductive Side where
  | buy
  | sell
  deriving DecidableEq

inductive Venue where
  | pumpFun
  | pumpSwap
  deriving DecidableEq

/-- Exactly one quote/execution source.  Failures never switch to another source. -/
inductive QuoteSource where
  | jupiter
  | dflow
  | bloxroute
  | relay
  | pumpFun
  | pumpSwap
  deriving DecidableEq

def QuoteSource.nativeVenue : QuoteSource → Option Venue
  | .pumpFun => some .pumpFun
  | .pumpSwap => some .pumpSwap
  | .jupiter | .dflow | .bloxroute | .relay => none

/-- A SOL-paired Pump.fun curve or PumpSwap pool. -/
structure NativeMarket where
  source : QuoteSource
  pool : Pubkey
  deriving DecidableEq

inductive Settlement where
  | sol
  | usdc
  deriving DecidableEq

def Settlement.mint : Settlement → Pubkey
  | .sol => wsol
  | .usdc => usdcMint

structure Trade where
  settlement : Settlement
  wallet : Pubkey
  mint : Pubkey
  side : Side
  amount : UInt64
  slippageBps : UInt64
  /-- Legacy native selection, used only when neither trade nor client specifies a source. -/
  venue : Option Venue
  pool : Option Pubkey
  quoteSource : Option QuoteSource
  deriving DecidableEq

def Trade.validate (trade : Trade) : TradeResult Unit :=
  failIf (trade.amount = 0 ∨ trade.slippageBps ≥ basisPoints ∨
      trade.mint = trade.settlement.mint)
    (.err (.build "trade requires a positive amount, slippage below 10000 bps and a token other than the settlement currency"))

/-- What `validate` promises its callers. -/
structure Trade.Valid (trade : Trade) : Prop where
  amount : trade.amount ≠ 0
  slippage : trade.slippageBps < basisPoints
  mint : trade.mint ≠ trade.settlement.mint

theorem Trade.validate_eq_ok {trade : Trade} {u : Unit} :
    trade.validate = .ok u ↔ trade.Valid := by
  rw [Trade.validate, failIf_eq_ok, not_or, not_or, ge_iff_le, UInt64.not_le]
  exact ⟨fun ⟨ha, hs, hm⟩ => ⟨ha, hs, hm⟩, fun h => ⟨h.amount, h.slippage, h.mint⟩⟩

structure Quote where
  inAmount : UInt64
  /-- Display-only. -/
  usdValue : Option UsdValue
  expectedOut : UInt64
  minOut : UInt64
  /-- Informational. -/
  fee : UInt64
  /-- In settlement units; outputs are already net of it. -/
  applicationFee : UInt64
  /-- The reserved USDC ceiling; the final charge is set before signing. -/
  sponsorshipFee : UInt64

/-- The transaction layout the executor builds for a route. -/
inductive TransactionFormat where
  /-- Compute budget as instructions; lookup tables allowed. -/
  | v0
  /-- Compute budget in the message header; inline addresses only. -/
  | v1
  deriving DecidableEq

structure PreparedSwap where
  venue : String
  quote : Quote
  instructions : List Instruction
  /-- Ignored for `TransactionFormat.v1`. -/
  lookupTables : List AddressLookupTableAccount
  format : TransactionFormat

structure Tip where
  account : Pubkey
  lamports : UInt64
  deriving DecidableEq

inductive SwapStatus where
  | confirmed
  | failed
  | pending
  deriving DecidableEq

structure SwapResult where
  hash : String
  dex : String
  status : SwapStatus
  amountReceived : Option UInt64
  applicationFee : UInt64
  /-- Collected only if the transaction succeeds on-chain. -/
  sponsorshipFee : UInt64
  deriving DecidableEq

end Solana
end TradingAggregators
