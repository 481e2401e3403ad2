import TradingAggregators.Evm.OfficialPools
import TradingAggregators.Rust.Exact

/-!
# The amounts of a Uniswap quote

The app fee comes off the ETH side, before the pool is asked on buys and after it has answered on
sells, and slippage comes off what is left.

## 1.  Without a loss

`portionExact`, `poolInputExact` and `tradeQuoteExact` are the source's computations with steps
that have to be exact; `poolInputExact_eq` and `tradeQuoteExact_eq` say that nothing wraps.

## 2.  The amounts

`toNat_feeOn`, `toNat_poolInput`: the fee and what it leaves.

## 3.  A run of `quote_trade`

`quote_amounts_exact`: what a run returns for each answer of the pool.
-/

namespace TradingAggregators
namespace Evm
namespace Uniswap

open Interaction Rust
open Rust.Exact

/-! ## 1.  Without a loss -/

/-- `portion`, step by step. -/
def portionExact (x : Amount) (bps : UInt16) : TradeResult Amount := do
  let denominator := amount basisPoints.toNat
  let numerator := amount bps.toNat
  let quotient ← divWord x denominator
  let whole ← mulWord quotient numerator
  let remainder ← modWord x denominator
  let product ← mulWord remainder numerator
  let part ← divWord product denominator
  addWord whole part

theorem portionExact_eq (x : Amount) {bps : UInt16} (h : bps ≤ 10000) :
    portionExact x bps = .ok (portion x bps) := by
  have hbps : bps.toNat ≤ 10000 := UInt16.le_iff_toNat_le.mp h
  have hx : x.toNat < 2 ^ 256 := x.isLt
  have hzero : amount basisPoints.toNat ≠ 0 := by decide
  have hdenominator : (amount basisPoints.toNat).toNat = 10000 := rfl
  have hnumerator : (amount bps.toNat).toNat = bps.toNat := by
    rw [amount, BitVec.toNat_ofNat, Nat.mod_eq_of_lt (by omega)]
  have hquotient : (x / amount basisPoints.toNat).toNat = x.toNat / 10000 := by
    rw [BitVec.toNat_udiv, hdenominator]
  have hremainder : (x % amount basisPoints.toNat).toNat = x.toNat % 10000 := by
    rw [BitVec.toNat_umod, hdenominator]
  have hmod : x.toNat % 10000 < 10000 := Nat.mod_lt _ (by decide)
  have hwhole : x.toNat / 10000 * bps.toNat ≤ x.toNat / 10000 * 10000 :=
    Nat.mul_le_mul_left _ hbps
  have hproduct : x.toNat % 10000 * bps.toNat ≤ x.toNat % 10000 * 10000 :=
    Nat.mul_le_mul_left _ hbps
  have hwholeNat : (x / amount basisPoints.toNat * amount bps.toNat).toNat =
      x.toNat / 10000 * bps.toNat := by
    rw [BitVec.toNat_mul, hquotient, hnumerator, Nat.mod_eq_of_lt (by omega)]
  have hpartNat : (x % amount basisPoints.toNat * amount bps.toNat /
      amount basisPoints.toNat).toNat = x.toNat % 10000 * bps.toNat / 10000 := by
    rw [BitVec.toNat_udiv, BitVec.toNat_mul, hremainder, hnumerator, hdenominator,
      Nat.mod_eq_of_lt (by omega)]
  refine bind_eq_ok.mpr ⟨_, exactly_of hzero _, bind_eq_ok.mpr ⟨_, exactly_of ?_ _,
    bind_eq_ok.mpr ⟨_, exactly_of hzero _, bind_eq_ok.mpr ⟨_, exactly_of ?_ _,
      bind_eq_ok.mpr ⟨_, exactly_of hzero _, exactly_of ?_ _⟩⟩⟩⟩⟩
  · rw [hquotient, hnumerator]
    omega
  · rw [hremainder, hnumerator]
    omega
  · rw [hwholeNat, hpartNat]
    omega

/-- `fee_on`, step by step. -/
def feeOnExact (fee : Option AppFee) (x : Amount) : TradeResult Amount :=
  match fee with
  | some fee => portionExact x fee.basisPoints
  | none => .ok 0

def feeInExact (direction : Direction) (fee : Option AppFee) (x : Amount) : TradeResult Amount :=
  match direction with
  | .buy => feeOnExact fee x
  | .sell => .ok 0

def feeOutExact (direction : Direction) (fee : Option AppFee) (amountOut : Amount) :
    TradeResult Amount :=
  match direction with
  | .buy => .ok 0
  | .sell => feeOnExact fee amountOut

/-- The rate of an optional fee. -/
def rate : Option AppFee → ℕ
  | some fee => fee.basisPoints.toNat
  | none => 0

section Fees

variable (fee : Option AppFee) (x : Amount)

theorem feeRate_le (fee : AppFee) : fee.basisPoints ≤ 10000 :=
  UInt16.le_of_lt fee.rate_lt

theorem rate_lt : rate fee < 10000 := by
  cases fee with
  | none => decide
  | some fee => exact UInt16.lt_iff_toNat_lt.mp fee.rate_lt

theorem feeOnExact_eq : feeOnExact fee x = .ok (feeOn fee x) := by
  cases fee with
  | none => rfl
  | some fee => exact portionExact_eq x (feeRate_le fee)

theorem toNat_feeOn : (feeOn fee x).toNat = x.toNat * rate fee / 10000 := by
  cases fee with
  | none =>
    show 0 = x.toNat * 0 / 10000
    rw [Nat.mul_zero, Nat.zero_div]
  | some fee => exact toNat_portion x (feeRate_le fee)

theorem feeOn_le : feeOn fee x ≤ x := by
  rw [BitVec.le_def, toNat_feeOn]
  refine Nat.div_le_of_le_mul ?_
  rw [Nat.mul_comm 10000]
  exact Nat.mul_le_mul_left _ (rate_lt fee).le

/-- A fee leaves something of a positive amount. -/
theorem feeOn_lt (hx : x ≠ 0) : (feeOn fee x).toNat < x.toNat := by
  have hpos : 0 < x.toNat := Nat.pos_of_ne_zero fun h => hx (BitVec.eq_of_toNat_eq h)
  rw [toNat_feeOn, Nat.div_lt_iff_lt_mul (by decide)]
  exact Nat.mul_lt_mul_of_pos_left (rate_lt fee) hpos

end Fees

/-- The amount that `quote_trade` asks the pool about. -/
def poolInput (trade : Trade) (route : Route) (fee : Option AppFee) : Amount :=
  trade.amount - feeIn route.direction fee trade.amount

/-- The same, step by step. -/
def poolInputExact (trade : Trade) (route : Route) (fee : Option AppFee) : TradeResult Amount := do
  let feeIn ← feeInExact route.direction fee trade.amount
  subWord trade.amount feeIn

/-- `quote_trade` after the reads, step by step. -/
def tradeQuoteExact [SolTypes] [Profile] (n : Network) (trade : Trade) (route : Route)
    (fee : Option AppFee) (poolQuote : PoolQuote) (usdPerWei : TradeResult Float) :
    TradeResult { quote : Quote // quote.chainId = n.chainId } := do
  let feeIn ← feeInExact route.direction fee trade.amount
  let feeOut ← feeOutExact route.direction fee poolQuote.amountOut
  let expectedOut ← subWord poolQuote.amountOut feeOut
  let kept ← keptBps trade.slippageBps
  let minOut ← portionExact expectedOut kept
  failIf (minOut = 0) (.err (venueError "quoted output is zero"))
  let charged ← addWord feeIn feeOut
  pure ⟨{
    chainId := n.chainId
    source := venue
    input := trade.input
    output := trade.output
    inAmount := trade.amount
    expectedOut := expectedOut
    minOut := minOut
    applicationFee :=
      if charged ≠ 0 then some { currency := .native, amount := charged } else none
    usdValue := do
      usdValue route.direction trade.amount expectedOut poolQuote (← usdPerWei.toOption) }, rfl⟩

section Steps

variable {trade : Trade} (route : Route) (fee : Option AppFee)

theorem feeInExact_eq (x : Amount) :
    feeInExact route.direction fee x = .ok (feeIn route.direction fee x) := by
  cases route.direction with
  | buy => exact feeOnExact_eq fee x
  | sell => rfl

theorem feeOutExact_eq (x : Amount) :
    feeOutExact route.direction fee x = .ok (feeOut route.direction fee x) := by
  cases route.direction with
  | buy => rfl
  | sell => exact feeOnExact_eq fee x

theorem feeIn_le (x : Amount) : feeIn route.direction fee x ≤ x := by
  cases route.direction with
  | buy => exact feeOn_le fee x
  | sell => exact BitVec.le_def.mpr (Nat.zero_le _)

theorem feeOut_le (x : Amount) : feeOut route.direction fee x ≤ x := by
  cases route.direction with
  | buy => exact BitVec.le_def.mpr (Nat.zero_le _)
  | sell => exact feeOn_le fee x

/-- One of the two fees is zero. -/
theorem feeIn_add_feeOut_lt (x y : Amount) :
    (feeIn route.direction fee x).toNat + (feeOut route.direction fee y).toNat < 2 ^ 256 := by
  cases route.direction with
  | buy => exact (feeOn fee x).isLt
  | sell =>
    show 0 + (feeOn fee y).toNat < 2 ^ 256
    rw [Nat.zero_add]
    exact (feeOn fee y).isLt

theorem poolInputExact_eq :
    poolInputExact trade route fee = .ok (poolInput trade route fee) := by
  rw [poolInputExact, feeInExact_eq, ok_bind]
  exact exactly_of (feeIn_le route fee trade.amount) _

theorem keptBps_eq [Profile] (hvalid : trade.Valid) :
    keptBps trade.slippageBps = .ok (basisPoints - trade.slippageBps) :=
  plain_of_exact (UInt16.le_of_lt hvalid.slippage) _

theorem kept_le (hvalid : trade.Valid) : basisPoints - trade.slippageBps ≤ 10000 := by
  rw [UInt16.le_iff_toNat_le, UInt16.toNat_sub_of_le _ _ (UInt16.le_of_lt hvalid.slippage)]
  exact Nat.sub_le _ _

/-- **Nothing wraps in `quote_trade`.** -/
theorem tradeQuoteExact_eq [SolTypes] [Profile] (n : Network) (hvalid : trade.Valid)
    (poolQuote : PoolQuote) (usdPerWei : TradeResult Float) :
    tradeQuoteExact n trade route fee poolQuote usdPerWei =
      tradeQuote n trade route fee poolQuote usdPerWei := by
  have hsub : (subWord poolQuote.amountOut (feeOut route.direction fee poolQuote.amountOut) :
      TradeResult Amount) =
        .ok (poolQuote.amountOut - feeOut route.direction fee poolQuote.amountOut) :=
    exactly_of (feeOut_le route fee poolQuote.amountOut) _
  have hadd : (addWord (feeIn route.direction fee trade.amount)
      (feeOut route.direction fee poolQuote.amountOut) : TradeResult Amount) =
        .ok (feeIn route.direction fee trade.amount +
          feeOut route.direction fee poolQuote.amountOut) :=
    exactly_of (feeIn_add_feeOut_lt route fee _ _) _
  rw [tradeQuoteExact, feeInExact_eq, ok_bind, feeOutExact_eq, ok_bind, hsub, ok_bind,
    keptBps_eq hvalid, ok_bind, portionExact_eq _ (kept_le hvalid), ok_bind, hadd, tradeQuote,
    Trade.minOut, keptBps_eq hvalid]
  rfl

end Steps

/-! ## 2.  The amounts -/

/-- The app fee that a quote reports. -/
def charged (q : Quote) : ℕ :=
  match q.applicationFee with
  | some fee => fee.amount.toNat
  | none => 0

/-- What is left of the pool's output after the fee on sells. -/
def netOut (direction : Direction) (fee : Option AppFee) (x : Amount) : ℕ :=
  match direction with
  | .buy => x.toNat
  | .sell => x.toNat - x.toNat * rate fee / 10000

/-- What slippage leaves of an output. -/
def leastOut (trade : Trade) (expectedOut : ℕ) : ℕ :=
  expectedOut * (10000 - trade.slippageBps.toNat) / 10000

section Amounts

variable {trade : Trade} (route : Route) (fee : Option AppFee)

theorem toNat_poolInput :
    (poolInput trade route fee).toNat =
      trade.amount.toNat - (feeIn route.direction fee trade.amount).toNat :=
  BitVec.toNat_sub_of_le (feeIn_le route fee trade.amount)

/-- What is left of a buy's input is positive. -/
theorem poolInput_pos (hvalid : trade.Valid) (hbuy : route.direction = .buy) :
    0 < (poolInput trade route fee).toNat := by
  have hlt := feeOn_lt fee trade.amount hvalid.amount
  rw [toNat_poolInput, hbuy]
  exact Nat.sub_pos_of_lt hlt

theorem toNat_expectedOut (x : Amount) :
    (x - feeOut route.direction fee x).toNat = netOut route.direction fee x := by
  have hle := feeOut_le route fee x
  rw [BitVec.toNat_sub_of_le hle]
  cases route.direction with
  | buy => rfl
  | sell =>
    show x.toNat - (feeOn fee x).toNat = _
    rw [toNat_feeOn]
    rfl

theorem toNat_minOut (hvalid : trade.Valid) (x : Amount) :
    (portion x (basisPoints - trade.slippageBps)).toNat = leastOut trade x.toNat := by
  rw [toNat_portion x (kept_le hvalid),
    UInt16.toNat_sub_of_le _ _ (UInt16.le_of_lt hvalid.slippage)]
  rfl

/-- The fee of a quote is reported where there is one. -/
theorem charged_eq {q : Quote} {x : Amount}
    (h : q.applicationFee = if x ≠ 0 then some { currency := .native, amount := x } else none) :
    charged q = x.toNat := by
  rw [charged, h]
  by_cases hx : x = 0
  · rw [if_neg (not_not_intro hx), hx]
    rfl
  · rw [if_pos hx]

/-- What `quote_trade` makes of an answer of the pool: the least output decides, and the fee is
what the two sides of the pool have lost. -/
theorem tradeQuote_cases [SolTypes] [Profile] (n : Network) (hvalid : trade.Valid)
    (poolQuote : PoolQuote) (usdPerWei : TradeResult Float) :
    (leastOut trade (netOut route.direction fee poolQuote.amountOut) = 0 ∧
      ∃ e, tradeQuote n trade route fee poolQuote usdPerWei = .error e) ∨
    (leastOut trade (netOut route.direction fee poolQuote.amountOut) ≠ 0 ∧
      ∃ q, tradeQuote n trade route fee poolQuote usdPerWei = .ok q ∧
        q.1.expectedOut.toNat = netOut route.direction fee poolQuote.amountOut ∧
        q.1.minOut.toNat = leastOut trade q.1.expectedOut.toNat ∧
        charged q.1 = (feeIn route.direction fee trade.amount).toNat +
          (feeOut route.direction fee poolQuote.amountOut).toNat) := by
  have hexpected := toNat_expectedOut route fee poolQuote.amountOut
  have hminimum := toNat_minOut hvalid
    (poolQuote.amountOut - feeOut route.direction fee poolQuote.amountOut)
  rw [tradeQuote, Trade.minOut, keptBps_eq hvalid, ok_bind]
  by_cases hzero : portion (poolQuote.amountOut - feeOut route.direction fee poolQuote.amountOut)
      (basisPoints - trade.slippageBps) = 0
  · left
    rw [hzero, hexpected] at hminimum
    exact ⟨hminimum.symm, _, bind_eq_error.mpr (Or.inr ⟨_, rfl,
      bind_eq_error.mpr (Or.inl (failIf_pos hzero _))⟩)⟩
  · right
    have hne : leastOut trade (netOut route.direction fee poolQuote.amountOut) ≠ 0 := by
      rw [← hexpected, ← hminimum]
      exact fun h => hzero (BitVec.eq_of_toNat_eq h)
    refine ⟨hne, _, bind_eq_ok.mpr ⟨_, rfl, bind_eq_ok.mpr ⟨(), failIf_neg hzero _, rfl⟩⟩,
      hexpected, hminimum, ?_⟩
    rw [charged_eq rfl, BitVec.toNat_add,
      Nat.mod_eq_of_lt (feeIn_add_feeOut_lt route fee _ _)]

end Amounts

/-! ## 3.  A run of `quote_trade` -/

/-- The result of `quote_trade` for the pool's answer. -/
structure QuotedAs (n : Network) (trade : Trade) (route : Route) (fee : Option AppFee)
    (outcome : TradeResult PoolQuote) (r : TradeResult { q : Quote // q.chainId = n.chainId }) :
    Prop where
  rejects_iff : (∃ e, r = .error e) ↔ (∃ e, outcome = .error e) ∨
    ∃ pool, outcome = .ok pool ∧
      leastOut trade (netOut route.direction fee pool.amountOut) = 0
  expectedOut : ∀ pool q, outcome = .ok pool → r = .ok q →
    q.1.expectedOut.toNat = netOut route.direction fee pool.amountOut
  buy : ∀ q, r = .ok q → route.direction = .buy →
    charged q.1 = trade.amount.toNat * rate fee / 10000 ∧
      (poolInput trade route fee).toNat + charged q.1 = trade.amount.toNat
  sell : ∀ pool q, outcome = .ok pool → r = .ok q → route.direction = .sell →
    charged q.1 = pool.amountOut.toNat * rate fee / 10000 ∧
      q.1.expectedOut.toNat + charged q.1 = pool.amountOut.toNat
  minOut : ∀ q, r = .ok q → q.1.minOut.toNat =
    q.1.expectedOut.toNat * (10000 - trade.slippageBps.toNat) / 10000

section Runs

variable [SolTypes] [Profile] {n : Network} {trade : Trade} {route : Route} {fee : Option AppFee}

omit [SolTypes] [Profile] in
theorem quotedAs_error (e : Fault TradeError) :
    QuotedAs n trade route fee (.error e) (.error e) where
  rejects_iff := ⟨fun _ => Or.inl ⟨e, rfl⟩, fun _ => ⟨e, rfl⟩⟩
  expectedOut := fun _ _ h => nomatch h
  buy := fun _ h => nomatch h
  sell := fun _ _ h => nomatch h
  minOut := fun _ h => nomatch h

theorem quotedAs_tradeQuote (hvalid : trade.Valid) (pool : PoolQuote)
    (usdPerWei : TradeResult Float) :
    QuotedAs n trade route fee (.ok pool) (tradeQuote n trade route fee pool usdPerWei) := by
  rcases tradeQuote_cases route fee n hvalid pool usdPerWei with
    ⟨hzero, e, he⟩ | ⟨hne, q, hq, hexpected, hminimum, hcharged⟩
  · rw [he]
    exact ⟨⟨fun _ => Or.inr ⟨pool, rfl, hzero⟩, fun _ => ⟨e, rfl⟩⟩, fun _ _ _ h => (nomatch h),
      fun _ h => (nomatch h), fun _ _ _ h => (nomatch h), fun _ h => (nomatch h)⟩
  · rw [hq]
    constructor
    · constructor
      · rintro ⟨e, he⟩
        exact nomatch he
      · rintro (⟨e, he⟩ | ⟨pool', hpool, hzero⟩)
        · exact nomatch he
        · rw [← Except.ok.inj hpool] at hzero
          exact absurd hzero hne
    · rintro pool' q' hpool hq'
      rw [← Except.ok.inj hpool, ← Except.ok.inj hq']
      exact hexpected
    · rintro q' hq' hbuy
      rw [← Except.ok.inj hq', toNat_poolInput, hcharged]
      have hle := BitVec.le_def.mp (feeIn_le route fee trade.amount)
      have hfee : (feeIn route.direction fee trade.amount).toNat =
          trade.amount.toNat * rate fee / 10000 := by
        rw [hbuy]
        exact toNat_feeOn fee trade.amount
      have hout : (feeOut route.direction fee pool.amountOut).toNat = 0 := by
        rw [hbuy]
        rfl
      omega
    · rintro pool' q' hpool hq' hsell
      rw [← Except.ok.inj hpool, ← Except.ok.inj hq', hexpected, hcharged]
      have hle := BitVec.le_def.mp (feeOn_le fee pool.amountOut)
      rw [toNat_feeOn] at hle
      have hin : (feeIn route.direction fee trade.amount).toNat = 0 := by
        rw [hsell]
        rfl
      have hfee : (feeOut route.direction fee pool.amountOut).toNat =
          pool.amountOut.toNat * rate fee / 10000 := by
        rw [hsell]
        exact toNat_feeOn fee pool.amountOut
      have hnet : netOut route.direction fee pool.amountOut =
          pool.amountOut.toNat - pool.amountOut.toNat * rate fee / 10000 := by
        rw [hsell]
        rfl
      omega
    · rintro q' hq'
      rw [← Except.ok.inj hq']
      exact hminimum

/-- **The amounts of a Uniswap quote are exact**: nothing wraps, and every run of `quote_trade`
asks the pool about what the fee leaves of the input and makes of the answer what `QuotedAs`
says. -/
theorem quote_amounts_exact [Alloy] {σ : Type} (hvalid : trade.Valid) :
    (poolInputExact trade route fee = .ok (poolInput trade route fee) ∧
      ∀ pool usdPerWei, tradeQuoteExact n trade route fee pool usdPerWei =
        tradeQuote n trade route fee pool usdPerWei) ∧
    (route.direction = .buy → 0 < (poolInput trade route fee).toNat) ∧
    ∀ (s s' : σ) tr r, (quoteTrade n trade route fee).Runs s tr r s' →
      ∃ outcome tr', tr' ⊆ tr ∧
        (quote n.uniswap route (poolInput trade route fee)).Runs () tr' outcome () ∧
        QuotedAs n trade route fee outcome r := by
  refine ⟨⟨poolInputExact_eq route fee, tradeQuoteExact_eq route fee n hvalid⟩,
    poolInput_pos route fee hvalid, ?_⟩
  intro s s' tr r h
  obtain ⟨outcome, usdPerWei, tr₁, tr₂, tr₃, hsub, -, -, hquote, -, hrest⟩ :=
    Proc.runs_both_bind h
  refine ⟨outcome, tr₁, hsub, hquote, ?_⟩
  rcases Proc.runs_ofResult_bind.mp hrest with ⟨e, he, -, rfl, -⟩ | ⟨pool, hpool, hlast⟩
  · have houtcome : outcome = .error e := he
    rw [houtcome]
    exact quotedAs_error e
  · have houtcome : outcome = .ok pool := hpool
    obtain ⟨-, rfl, -⟩ := Proc.runs_ofResult.mp hlast
    rw [houtcome]
    exact quotedAs_tradeQuote hvalid pool usdPerWei

end Runs

/-! ### A purchase with an app fee -/

def sampleAppFee : AppFee where
  recipient := .hex 20 "0x4444444444444444444444444444444444444444"
  basisPoints := 30
  recipient_ne := by decide
  rate_lt := by decide

theorem quote_amounts_exact_sample :
    let := referenceAbi
    let := sampleAlloy
    let : Profile := ⟨true⟩
    let route : Route := ⟨.v2 samplePair, samplePairToken, .buy⟩
    ∃ tr q outcome,
      (quoteTrade robinhood samplePairTrade route (some sampleAppFee)).Runs () tr (.ok q) () ∧
        QuotedAs robinhood samplePairTrade route (some sampleAppFee) outcome (.ok q) := by
  intro abi alloy profile route
  have hvalid : samplePairTrade.Valid := by
    constructor <;> decide
  obtain ⟨tr, q, _, hrun⟩ := Proc.runs_ok_of_exec (contractAnswers sampleContracts)
    (fun _ => 0) (quoteTrade robinhood samplePairTrade route (some sampleAppFee)) ()
    (by decide +kernel)
  obtain ⟨outcome, _, -, -, hquoted⟩ := (quote_amounts_exact hvalid).2.2 _ _ _ _ hrun
  exact ⟨tr, q, outcome, hrun, hquoted⟩

end Uniswap
end Evm
end TradingAggregators
