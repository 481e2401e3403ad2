import TradingAggregators.Solana.NativeQuotes

/-!
# Trades at the quoted outputs extract nothing

`baseOutForQuoteIn` and `quoteOutForBaseIn` are constant-product outputs, rounded down.  A pool
that takes what a trade brings and pays what these formulas say therefore makes the steps of an
abstract constant-product pool (`Reserves.trades_of_after`), whose runs never lose value.

* `Reserves.toNat_out_buy`, `Reserves.toNat_out_sell`: the outputs on naturals.
* `no_value_extracted`: runs of trades, round trips and split inputs.
-/

namespace TradingAggregators
namespace Solana

open ConstantProduct Rust Rust.Exact

/-- The reserves of a pool. -/
structure Reserves where
  quote : UInt64
  base : UInt64
  deriving DecidableEq

/-- A trade at the quoted output. -/
inductive PoolTrade where
  | buy (quoteIn : UInt64)
  | sell (baseIn : UInt64)

namespace Reserves

structure Positive (r : Reserves) : Prop where
  quote : 0 < r.quote
  base : 0 < r.base

/-- `quote * base`, which need not fit a word. -/
def product (r : Reserves) : ℕ :=
  r.quote.toNat * r.base.toNat

/-- What the pool pays for a trade. -/
def out (r : Reserves) : PoolTrade → UInt64
  | .buy quoteIn => baseOutForQuoteIn r.quote r.base quoteIn
  | .sell baseIn => quoteOutForBaseIn r.quote r.base baseIn

/-- The reserves after a trade, where the sum of the reserve and the input is a `u64`. -/
def after (r : Reserves) (trade : PoolTrade) : Option Reserves :=
  match trade with
  | .buy quoteIn => (ProviderFee.checkedAdd64 r.quote quoteIn).map fun quote =>
      { quote := quote, base := r.base - r.out trade }
  | .sell baseIn => (ProviderFee.checkedAdd64 r.base baseIn).map fun base =>
      { quote := r.quote - r.out trade, base := base }

/-- The reserves after a run of trades. -/
def afterAll (r : Reserves) (trades : List PoolTrade) : Option Reserves :=
  trades.foldlM after r

/-! ## The abstract pool -/

def pool (r : Reserves) : Pool where
  left := r.quote.toNat
  right := r.base.toNat

variable {r r' : Reserves}

theorem positive_pool : r.pool.Positive ↔ r.Positive :=
  ⟨fun h => ⟨UInt64.lt_iff_toNat_lt.mpr h.left, UInt64.lt_iff_toNat_lt.mpr h.right⟩,
    fun h => ⟨UInt64.lt_iff_toNat_lt.mp h.quote, UInt64.lt_iff_toNat_lt.mp h.base⟩⟩

theorem toNat_out_buy (hr : r.Positive) (quoteIn : UInt64) :
    (r.out (.buy quoteIn)).toNat = output r.quote.toNat r.base.toNat quoteIn.toNat := by
  have hquote : r.quote ≠ 0 := UInt64.pos_iff_ne_zero.mp hr.quote
  rw [out, PumpFun.toNat_baseOutForQuoteIn, if_neg hquote]

theorem toNat_out_sell (hr : r.Positive) (baseIn : UInt64) :
    (r.out (.sell baseIn)).toNat = output r.base.toNat r.quote.toNat baseIn.toNat := by
  have hbase : r.base ≠ 0 := UInt64.pos_iff_ne_zero.mp hr.base
  rw [out, quoteOutForBaseIn_eq, PumpFun.toNat_baseOutForQuoteIn, if_neg hbase]

theorem checkedAdd64_eq_some {a b c : UInt64} :
    ProviderFee.checkedAdd64 a b = some c ↔ a.toNat + b.toNat < 2 ^ 64 ∧ a + b = c := by
  unfold ProviderFee.checkedAdd64
  by_cases hfit : a.toNat + b.toNat < 2 ^ 64
  · rw [if_pos hfit, Option.some.injEq]
    exact ⟨fun h => ⟨hfit, h⟩, fun h => h.2⟩
  · rw [if_neg hfit]
    exact ⟨fun h => (nomatch h), fun h => absurd h.1 hfit⟩

/-- A buy adds its input to the quote reserve and takes its output from the base reserve. -/
theorem pool_of_buy (hr : r.Positive) {quoteIn : UInt64}
    (h : r.after (.buy quoteIn) = some r') :
    r'.pool = ⟨r.quote.toNat + quoteIn.toNat,
      r.base.toNat - output r.quote.toNat r.base.toNat quoteIn.toNat⟩ := by
  obtain ⟨quote, hadd, rfl⟩ := Option.map_eq_some_iff.mp h
  obtain ⟨hfit, rfl⟩ := checkedAdd64_eq_some.mp hadd
  have hout := toNat_out_buy hr quoteIn
  have hle : r.out (.buy quoteIn) ≤ r.base := by
    rw [UInt64.le_iff_toNat_le, hout]
    exact output_le _ _ _
  rw [pool, toNat_add_of_fit hfit, UInt64.toNat_sub_of_le _ _ hle, hout]

/-- A sell adds its input to the base reserve and takes its output from the quote reserve. -/
theorem pool_of_sell (hr : r.Positive) {baseIn : UInt64}
    (h : r.after (.sell baseIn) = some r') :
    r'.pool = ⟨r.quote.toNat - output r.base.toNat r.quote.toNat baseIn.toNat,
      r.base.toNat + baseIn.toNat⟩ := by
  obtain ⟨base, hadd, rfl⟩ := Option.map_eq_some_iff.mp h
  obtain ⟨hfit, rfl⟩ := checkedAdd64_eq_some.mp hadd
  have hout := toNat_out_sell hr baseIn
  have hle : r.out (.sell baseIn) ≤ r.quote := by
    rw [UInt64.le_iff_toNat_le, hout]
    exact output_le _ _ _
  rw [pool, toNat_add_of_fit hfit, UInt64.toNat_sub_of_le _ _ hle, hout]

/-- **The pool makes the steps of the abstract one.** -/
theorem trades_of_after (hr : r.Positive) {trade : PoolTrade}
    (h : r.after trade = some r') : r.pool.Trades r'.pool := by
  cases trade with
  | buy quoteIn =>
    rw [pool_of_buy hr h]
    exact .intoLeft r.pool quoteIn.toNat
  | sell baseIn =>
    rw [pool_of_sell hr h]
    exact .intoRight r.pool baseIn.toNat

theorem positive_of_after (hr : r.Positive) {trade : PoolTrade}
    (h : r.after trade = some r') : r'.Positive :=
  positive_pool.mp ((trades_of_after hr h).positive (positive_pool.mpr hr))

theorem trades_of_afterAll (hr : r.Positive) {trades : List PoolTrade}
    (h : r.afterAll trades = some r') : Relation.ReflTransGen Pool.Trades r.pool r'.pool := by
  unfold afterAll at h
  induction trades generalizing r with
  | nil =>
    rw [List.foldlM_nil] at h
    obtain rfl := Option.some.inj h
    exact .refl
  | cons trade trades ih =>
    rw [List.foldlM_cons] at h
    obtain ⟨next, hnext, hrest⟩ := Option.bind_eq_some_iff.mp h
    exact .head (trades_of_after hr hnext) (ih (positive_of_after hr hnext) hrest)

/-! ## Round trips and split inputs -/

/-- Selling what a buy returned yields at most what the buy cost. -/
theorem sell_back_le (hr : r.Positive) {quoteIn : UInt64}
    (h : r.after (.buy quoteIn) = some r') :
    r'.out (.sell (r.out (.buy quoteIn))) ≤ quoteIn := by
  have hpool := pool_of_buy hr h
  have hquote : r'.quote.toNat = _ := congrArg Pool.left hpool
  have hbase : r'.base.toNat = _ := congrArg Pool.right hpool
  rw [UInt64.le_iff_toNat_le, toNat_out_sell (positive_of_after hr h), hquote, hbase,
    toNat_out_buy hr]
  exact output_back_le _ _ _

theorem buy_split_le (hr : r.Positive) {first second : UInt64}
    (h : r.after (.buy first) = some r') (hsum : first.toNat + second.toNat < 2 ^ 64) :
    (r.out (.buy first)).toNat + (r'.out (.buy second)).toNat ≤
      (r.out (.buy (first + second))).toNat := by
  have hpool := pool_of_buy hr h
  have hquote : r'.quote.toNat = _ := congrArg Pool.left hpool
  have hbase : r'.base.toNat = _ := congrArg Pool.right hpool
  rw [toNat_out_buy hr, toNat_out_buy hr, toNat_out_buy (positive_of_after hr h), hquote, hbase,
    toNat_add_of_fit hsum]
  exact output_split_le (positive_pool.mpr hr).left _ _ _

theorem sell_split_le (hr : r.Positive) {first second : UInt64}
    (h : r.after (.sell first) = some r') (hsum : first.toNat + second.toNat < 2 ^ 64) :
    (r.out (.sell first)).toNat + (r'.out (.sell second)).toNat ≤
      (r.out (.sell (first + second))).toNat := by
  have hpool := pool_of_sell hr h
  have hquote : r'.quote.toNat = _ := congrArg Pool.left hpool
  have hbase : r'.base.toNat = _ := congrArg Pool.right hpool
  rw [toNat_out_sell hr, toNat_out_sell hr, toNat_out_sell (positive_of_after hr h), hquote,
    hbase, toNat_add_of_fit hsum]
  exact output_split_le (positive_pool.mpr hr).right _ _ _

end Reserves

open Reserves in
/-- **No sequence of quoted trades extracts value from a pool.** -/
theorem no_value_extracted {r : Reserves} (hr : r.Positive) :
    (∀ trades r', r.afterAll trades = some r' →
      r'.Positive ∧ r.product ≤ r'.product ∧
        ¬ (r'.quote ≤ r.quote ∧ r'.base ≤ r.base ∧ (r'.quote < r.quote ∨ r'.base < r.base))) ∧
    (∀ x r', r.after (.buy x) = some r' → r'.out (.sell (r.out (.buy x))) ≤ x) ∧
    (∀ x y r', r.after (.buy x) = some r' → x.toNat + y.toNat < 2 ^ 64 →
      (r.out (.buy x)).toNat + (r'.out (.buy y)).toNat ≤ (r.out (.buy (x + y))).toNat) ∧
    ∀ x y r', r.after (.sell x) = some r' → x.toNat + y.toNat < 2 ^ 64 →
      (r.out (.sell x)).toNat + (r'.out (.sell y)).toNat ≤ (r.out (.sell (x + y))).toNat := by
  refine ⟨fun trades r' h => ?_, fun x r' h => sell_back_le hr h,
    fun x y r' h hsum => buy_split_le hr h hsum, fun x y r' h hsum => sell_split_le hr h hsum⟩
  have hrun := trades_of_afterAll hr h
  have hpositive := positive_pool.mpr hr
  refine ⟨positive_pool.mp (Pool.positive_of_run hrun hpositive), Pool.product_le_of_run hrun, ?_⟩
  simp only [UInt64.le_iff_toNat_le, UInt64.lt_iff_toNat_lt]
  exact Pool.not_drained_of_run hrun hpositive

/-- A buy and a sell on the reserves of a new pool. -/
theorem no_value_extracted_sample :
    ∃ r', Reserves.afterAll ⟨1000000, 2000000⟩ [.buy 1000, .sell 500] = some r' ∧
      r'.Positive ∧ Reserves.product ⟨1000000, 2000000⟩ ≤ r'.product := by
  have hr : Reserves.Positive ⟨1000000, 2000000⟩ := ⟨by decide, by decide⟩
  obtain ⟨r', h⟩ := Option.isSome_iff_exists.mp
    (show (Reserves.afterAll ⟨1000000, 2000000⟩ [.buy 1000, .sell 500]).isSome by decide +kernel)
  obtain ⟨hpositive, hproduct, -⟩ := (no_value_extracted hr).1 _ r' h
  exact ⟨r', h, hpositive, hproduct⟩

end Solana
end TradingAggregators
