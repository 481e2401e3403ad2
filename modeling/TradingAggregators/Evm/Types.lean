import TradingAggregators.UsdValue
import TradingAggregators.Wire.Hex

/-!
# `evm/types.rs`

The trade, the quote, what an adapter prepares and what executing it returns, with the
pool types of `evm/dexes/uniswap/mod.rs` that a trade can name.

`Amount` is `U256`: its operators wrap, which is what the operators of `BitVec 256` do.
-/

namespace TradingAggregators
namespace Evm

open Interaction Rust Wire

/-! ## Words -/

abbrev Address := FixedBytes 20

abbrev TransactionHash := FixedBytes 32

abbrev Amount := BitVec 256

abbrev U128 := BitVec 128

/-- `Amount::from`, of a smaller word. -/
def amount (n : ℕ) : Amount :=
  BitVec.ofNat 256 n

/-- `Address::ZERO`. -/
def zeroAddress : Address :=
  .zero 20

/-- Nanoseconds of a monotone clock. -/
abbrev Instant := ℕ

/-- `elapsed` at the time `now`; it saturates at zero. -/
def elapsed (now since : Instant) : ℕ :=
  now - since

/-! ## The trade -/

def basisPoints : UInt16 := 10000

/-- Exactly one quote/execution source.  Failures never switch to another source. -/
inductive QuoteSource where
  | relay
  /-- ETH pairs only, one pool, through the fee-taking router. -/
  | uniswap
  deriving DecidableEq

inductive Currency where
  | native
  | token (address : Address)
  deriving DecidableEq

def Currency.address : Currency → Address
  | .native => zeroAddress
  | .token address => address

structure PoolKey where
  currency0 : Address
  currency1 : Address
  fee : UInt32
  tickSpacing : Int32
  hooks : Address
  deriving DecidableEq

/-- One Uniswap pool pairing a token with ETH (native in v4, or WETH). -/
inductive UniswapPool where
  | v2 (pair : Address)
  | v3 (pool : Address)
  /-- Hookless pools only: hooks can charge fees or revert outside the quote. -/
  | v4 (key : PoolKey)
  deriving DecidableEq

structure Trade where
  wallet : Address
  input : Currency
  output : Currency
  amount : Amount
  slippageBps : UInt16
  /-- Overrides the client's source for this trade. -/
  quoteSource : Option QuoteSource
  /-- Uniswap only: trade exactly this pool instead of the deepest ETH pool. -/
  pool : Option UniswapPool
  deriving DecidableEq

/-- `amount × bps / 10_000`, rounded down without overflowing on large amounts. -/
def portion (x : Amount) (bps : UInt16) : Amount :=
  let denominator := amount basisPoints.toNat
  let numerator := amount bps.toNat
  x / denominator * numerator + x % denominator * numerator / denominator

/-- None of the operations of `portion` wraps. -/
theorem toNat_portion (x : Amount) {bps : UInt16} (h : bps ≤ 10000) :
    (portion x bps).toNat = x.toNat * bps.toNat / 10000 := by
  have hbps : bps.toNat ≤ 10000 := UInt16.le_iff_toNat_le.mp h
  have hx : x.toNat < 2 ^ 256 := x.isLt
  have hdenominator : (amount basisPoints.toNat).toNat = 10000 := rfl
  have hnumerator : (amount bps.toNat).toNat = bps.toNat := by
    rw [amount, BitVec.toNat_ofNat, Nat.mod_eq_of_lt (by omega)]
  have hsplit : 10000 * (x.toNat / 10000) + x.toNat % 10000 = x.toNat := Nat.div_add_mod _ _
  have hwhole : x.toNat / 10000 * bps.toNat ≤ x.toNat / 10000 * 10000 :=
    Nat.mul_le_mul_left _ hbps
  have hrest : x.toNat % 10000 * bps.toNat ≤ x.toNat % 10000 * 10000 :=
    Nat.mul_le_mul_left _ hbps
  have hmod : x.toNat % 10000 < 10000 := Nat.mod_lt _ (by decide)
  have hvalue : x.toNat * bps.toNat / 10000 =
      x.toNat / 10000 * bps.toNat + x.toNat % 10000 * bps.toNat / 10000 := by
    have hsum : x.toNat * bps.toNat =
        x.toNat % 10000 * bps.toNat + 10000 * (x.toNat / 10000 * bps.toNat) := by
      calc x.toNat * bps.toNat
          = (10000 * (x.toNat / 10000) + x.toNat % 10000) * bps.toNat := by rw [hsplit]
        _ = x.toNat % 10000 * bps.toNat + 10000 * (x.toNat / 10000 * bps.toNat) := by
          rw [Nat.add_mul, Nat.mul_assoc, Nat.add_comm]
    rw [hsum, Nat.add_mul_div_left _ _ (by decide), Nat.add_comm]
  rw [portion, BitVec.toNat_add, BitVec.toNat_mul, BitVec.toNat_udiv, BitVec.toNat_udiv,
    BitVec.toNat_mul, BitVec.toNat_umod, hdenominator, hnumerator, hvalue,
    Nat.mod_eq_of_lt (a := x.toNat / 10000 * bps.toNat) (by omega),
    Nat.mod_eq_of_lt (a := x.toNat % 10000 * bps.toNat) (by omega),
    Nat.mod_eq_of_lt (by omega)]

/-- `U256::saturating_sub`. -/
def saturatingSub (x y : Amount) : Amount :=
  if y ≤ x then x - y else 0

theorem toNat_saturatingSub (x y : Amount) :
    (saturatingSub x y).toNat = x.toNat - y.toNat := by
  unfold saturatingSub
  by_cases h : y ≤ x
  · rw [if_pos h, BitVec.toNat_sub_of_le h]
  · have hlt : x.toNat < y.toNat := Nat.lt_of_not_le h
    rw [if_neg h, Nat.sub_eq_zero_of_le hlt.le]
    rfl

/-- `BASIS_POINTS - bps`, on `u16`. -/
def keptBps [Profile] (bps : UInt16) : TradeResult UInt16 :=
  plain (bps ≤ basisPoints) (basisPoints - bps)

/-- The least output slippage allows. -/
def Trade.minOut [Profile] (trade : Trade) (expected : Amount) : TradeResult Amount := do
  let kept ← keptBps trade.slippageBps
  pure (portion expected kept)

def Trade.validate (trade : Trade) : TradeResult Unit :=
  failIf (trade.wallet = zeroAddress ∨ trade.amount = 0 ∨ trade.slippageBps ≥ basisPoints ∨
      trade.input.address = trade.output.address ∨
      trade.input = .token zeroAddress ∨ trade.output = .token zeroAddress)
    (.err (.build "swap requires a wallet, distinct currencies, positive input and slippage below 10000 bps"))

/-- What `validate` promises its callers. -/
structure Trade.Valid (trade : Trade) : Prop where
  wallet : trade.wallet ≠ zeroAddress
  amount : trade.amount ≠ 0
  slippage : trade.slippageBps < basisPoints
  distinct : trade.input.address ≠ trade.output.address
  input : trade.input ≠ .token zeroAddress
  output : trade.output ≠ .token zeroAddress

theorem Trade.validate_eq_ok {trade : Trade} {u : Unit} :
    trade.validate = .ok u ↔ trade.Valid := by
  rw [Trade.validate, failIf_eq_ok]
  simp only [not_or, ge_iff_le, UInt16.not_le]
  exact ⟨fun ⟨hw, ha, hs, hd, hi, ho⟩ => ⟨hw, ha, hs, hd, hi, ho⟩,
    fun h => ⟨h.wallet, h.amount, h.slippage, h.distinct, h.input, h.output⟩⟩

/-- A claim address and a rate below 10000 bps. -/
structure AppFee where
  recipient : Address
  basisPoints : UInt16
  recipient_ne : recipient ≠ zeroAddress
  rate_lt : basisPoints < 10000

def AppFee.new (recipient : Address) (bps : UInt16) : TradeResult AppFee :=
  if h : recipient ≠ zeroAddress ∧ bps < 10000 then .ok ⟨recipient, bps, h.1, h.2⟩
  else buildError "app fee requires a nonzero claim address and fee below 10000 bps"

/-- The fee on `x`, rounded down. -/
def AppFee.of (fee : AppFee) (x : Amount) : Amount :=
  portion x fee.basisPoints

/-! ## The quote -/

structure FeeAmount where
  currency : Currency
  amount : Amount
  deriving DecidableEq

structure Quote where
  chainId : UInt64
  source : String
  input : Currency
  output : Currency
  inAmount : Amount
  expectedOut : Amount
  minOut : Amount
  /-- Quoted on-chain charge; Relay credits the claim address's offchain USDC balance. -/
  applicationFee : Option FeeAmount
  /-- `none` when the source reports no USD amounts. -/
  usdValue : Option UsdValue

/-! ## Transactions -/

/-- One transaction as an adapter describes it; `sender` and `target` are the source's `from`
and `to`. -/
structure Transaction where
  chainId : UInt64
  sender : Address
  target : Address
  data : Bytes
  value : Amount
  gas : Option Amount
  gasPrice : Option Amount
  maxFeePerGas : Option Amount
  maxPriorityFeePerGas : Option Amount
  deriving DecidableEq

/-- What an adapter hands to the executor.  Only the adapters build one, and what they
build is a nonempty list of transactions of one wallet on the chain of the quote. -/
structure PreparedSwap where
  quote : Quote
  wallet : Address
  transactions : List Transaction
  createdAt : Instant
  nonempty : transactions ≠ []
  onChain : ∀ t ∈ transactions, t.chainId = quote.chainId
  fromWallet : ∀ t ∈ transactions, t.sender = wallet

structure SwapResult where
  quote : Quote
  /-- Successful approval transactions followed by the successful swap transaction. -/
  transactionHashes : List TransactionHash

structure SwapError where
  source : TradeError
  /-- Every transaction handed to the submitter, including one whose submit call failed,
  since it may still land. -/
  submitted : List TransactionHash

def SwapError.beforeSubmission (source : TradeError) : SwapError where
  source := source
  submitted := []

end Evm
end TradingAggregators
