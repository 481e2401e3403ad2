import TradingAggregators.Evm.OfficialPools
import TradingAggregators.Market.ConstantProduct

/-!
# The v2 quote and the constant-product formula

A v2 pair keeps 0.3% of the input and pays the constant-product output for the rest.  The quote
computes that output modulo `2 ^ 256`, and the input is any amount below `2 ^ 256`.

* `amountOut_eq_ok`: the quoted output is the formula's, modulo `2 ^ 256`.
* `runs_quote_ok`: the reserves behind a quote.
* `v2_quote_exact_iff`: when a quote is the formula's output, and `v2_quote_wraps`, where it is
  not.
-/

namespace TradingAggregators
namespace Evm
namespace Uniswap
namespace V2

open ConstantProduct Interaction Rust

/-- What a pair pays for an input, over unbounded integers. -/
def pays (x reserveIn reserveOut : ℕ) : ℕ :=
  output (1000 * reserveIn) reserveOut (997 * x)

/-- The inputs that the quote prices as the pair does.  With the input after the fee reduced
modulo `2 ^ 256`, neither the product nor the sum leaves the range, and the reduction is either
none or leaves an input that still buys all but one unit of the reserve. -/
def PricedExactly (x reserveIn reserveOut : ℕ) : Prop :=
  997 * x % 2 ^ 256 * reserveOut < 2 ^ 256 ∧ 1000 * reserveIn + 997 * x % 2 ^ 256 < 2 ^ 256 ∧
    (997 * x < 2 ^ 256 ∨ 1000 * reserveIn * (reserveOut - 1) ≤ 997 * x % 2 ^ 256)

instance (x reserveIn reserveOut : ℕ) : Decidable (PricedExactly x reserveIn reserveOut) :=
  inferInstanceAs (Decidable (_ ∧ _ ∧ (_ ∨ _)))

section Words

variable {x reserveIn reserveOut out : Amount}

theorem divide_eq_ok {x y z : Amount} : divide x y = .ok z ↔ y ≠ 0 ∧ x / y = z := by
  unfold divide
  by_cases hy : y = 0
  · rw [if_pos hy]
    exact ⟨fun h => (nomatch h), fun h => absurd hy h.1⟩
  · rw [if_neg hy, Except.ok.injEq]
    exact ⟨fun h => ⟨hy, h⟩, fun h => h.2⟩

/-- The quoted output is the formula's, modulo `2 ^ 256`. -/
theorem amountOut_eq_ok (hin : reserveIn.toNat < 2 ^ 112)
    (h : amountOut x reserveIn reserveOut = .ok out) :
    (1000 * reserveIn.toNat + 997 * x.toNat % 2 ^ 256) % 2 ^ 256 ≠ 0 ∧
      out.toNat = wrapped (2 ^ 256) (1000 * reserveIn.toNat) reserveOut.toNat (997 * x.toNat) := by
  obtain ⟨hne, hout⟩ := divide_eq_ok.mp h
  have hkept : (x * inputKeptPerMille).toNat = 997 * x.toNat % 2 ^ 256 := by
    rw [BitVec.toNat_mul, show inputKeptPerMille.toNat = 997 from rfl, Nat.mul_comm]
  have hreserve : (reserveIn * perMille).toNat = 1000 * reserveIn.toNat := by
    rw [BitVec.toNat_mul, show perMille.toNat = 1000 from rfl, Nat.mul_comm,
      Nat.mod_eq_of_lt (by omega)]
  have hdivisor : (reserveIn * perMille + x * inputKeptPerMille).toNat =
      (1000 * reserveIn.toNat + 997 * x.toNat % 2 ^ 256) % 2 ^ 256 := by
    rw [BitVec.toNat_add, hkept, hreserve]
  constructor
  · rw [← hdivisor]
    exact fun hzero => hne (BitVec.eq_of_toNat_eq hzero)
  · rw [← hout, BitVec.toNat_udiv, hdivisor, BitVec.toNat_mul, hkept, wrapped]

end Words

section Runs

variable [SolTypes] {σ : Type} {s s' : σ} {tr : Trace Answer} {deployment : UniswapDeployment}
  {pair : Address} {swap : SwapIn} {q : PoolQuote}

/-- `(reserve_in, reserve_out)` of a swap, from the pair's answer. -/
def swapReserves (deployment : UniswapDeployment) (swap : SwapIn) (answer : GetReservesReturn) :
    Amount × Amount :=
  orient swap.direction
    (if deployment.weth < swap.token then
      (answer.reserve0.setWidth 256, answer.reserve1.setWidth 256)
    else (answer.reserve1.setWidth 256, answer.reserve0.setWidth 256))

omit [SolTypes] in
theorem swapReserves_lt (deployment : UniswapDeployment) (swap : SwapIn)
    (answer : GetReservesReturn) :
    (swapReserves deployment swap answer).1.toNat < 2 ^ 112 ∧
      (swapReserves deployment swap answer).2.toNat < 2 ^ 112 := by
  have hword : ∀ r : U112, (r.setWidth 256).toNat < 2 ^ 112 := by
    intro r
    rw [BitVec.toNat_setWidth]
    exact lt_of_le_of_lt (Nat.mod_le _ _) r.isLt
  unfold swapReserves
  cases swap.direction with
  | buy => split_ifs <;> exact ⟨hword _, hword _⟩
  | sell => split_ifs <;> exact ⟨hword _, hword _⟩

/-- The reserves behind a quote are positive, and the pair has answered with them. -/
theorem runs_quote_ok (h : (quote deployment pair swap).Runs s tr (.ok q) s') :
    ∃ answer, Returned (InTrace tr) pair .getReserves () answer ∧
      (swapReserves deployment swap answer).1 ≠ 0 ∧
      (swapReserves deployment swap answer).2 ≠ 0 ∧
      amountOut swap.amount (swapReserves deployment swap answer).1
        (swapReserves deployment swap answer).2 = .ok q.amountOut := by
  obtain ⟨named, held, tr₁, tr₂, tr₃, -, hsub, -, -, hheld, hrest⟩ := Proc.runs_both_bind h
  obtain ⟨-, hprice, -⟩ := Proc.runs_ofResult.mp hrest
  obtain ⟨official, -, h₁⟩ := bind_eq_ok.mp hprice.symm
  obtain ⟨_, -, h₂⟩ := bind_eq_ok.mp h₁
  obtain ⟨oriented, hok, h₃⟩ := bind_eq_ok.mp h₂
  obtain ⟨_, hliquid, h₄⟩ := bind_eq_ok.mp h₃
  obtain ⟨out, hout, h₅⟩ := bind_eq_ok.mp h₄
  rw [failIf_eq_ok, not_or] at hliquid
  have hrun : (reserves pair deployment.weth swap.token).Runs () tr₂ (.ok oriented) () :=
    hok ▸ hheld
  obtain ⟨answer, s₁, tr₄, tr₅, rfl, hread, hlast⟩ := Proc.runs_bind_ok.mp hrun
  obtain ⟨-, horiented, -⟩ := Proc.runs_pure.mp hlast
  obtain rfl := Except.ok.inj horiented
  obtain rfl := pure_eq_ok.mp h₅
  have hreturned := returned_of_read hread
  exact ⟨answer, hreturned.mono (InTrace.mono fun e he => hsub (List.mem_append_left _ he)),
    hliquid.1, hliquid.2, hout⟩

/-- **When a v2 quote is the pair's output**: for the reserves that the pair holds, the quoted
output is the formula's over unbounded integers, and below the reserve, exactly for the inputs
that are `PricedExactly`. -/
theorem v2_quote_exact_iff {contracts : Contracts} {answer : GetReservesReturn}
    (hheld : Returned contracts.Answered pair .getReserves () answer)
    (hstate : ∀ e ∈ tr, contracts.Answers e)
    (h : (quote deployment pair swap).Runs s tr (.ok q) s') :
    (q.amountOut.toNat = pays swap.amount.toNat (swapReserves deployment swap answer).1.toNat
        (swapReserves deployment swap answer).2.toNat ∧
      q.amountOut.toNat < (swapReserves deployment swap answer).2.toNat) ↔
    PricedExactly swap.amount.toNat (swapReserves deployment swap answer).1.toNat
      (swapReserves deployment swap answer).2.toNat := by
  obtain ⟨answer', hread, hinNe, houtNe, hout⟩ := runs_quote_ok h
  obtain rfl : answer' = answer := (hread.inState (List.Subset.refl tr) hstate).unique hheld
  obtain ⟨hinLt, houtLt⟩ := swapReserves_lt deployment swap answer'
  generalize (swapReserves deployment swap answer').1 = reserveIn at *
  generalize (swapReserves deployment swap answer').2 = reserveOut at *
  have hinPos : 0 < reserveIn.toNat :=
    Nat.pos_of_ne_zero fun hzero => hinNe (BitVec.eq_of_toNat_eq hzero)
  have houtPos : 0 < reserveOut.toNat :=
    Nat.pos_of_ne_zero fun hzero => houtNe (BitVec.eq_of_toNat_eq hzero)
  obtain ⟨hdivisor, hvalue⟩ := amountOut_eq_ok hinLt hout
  have hsmall : reserveIn.toNat * reserveOut.toNat < 2 ^ 112 * 2 ^ 112 :=
    Nat.mul_lt_mul'' hinLt houtLt
  have hbound : 2 * (1000 * reserveIn.toNat * reserveOut.toNat) ≤ 2 ^ 256 := by
    rw [Nat.mul_assoc]
    omega
  have hiff := wrapped_eq_output_iff hbound (by omega) (by omega) houtPos hdivisor
  rw [hvalue, PricedExactly, ← hiff]
  constructor
  · exact fun h => h.1
  · intro heq
    refine ⟨heq, ?_⟩
    rw [heq]
    exact output_lt (by omega) houtPos _

end Runs

/-! ### A purchase for more than `2 ^ 256 / 997` wei -/

/-- The least amount whose input after the fee wraps, and one ETH. -/
def wrappingSwap : SwapIn where
  token := samplePairToken
  direction := .buy
  amount := amount (2 ^ 256 / 997 + 1 + 10 ^ 18)

deriving instance DecidableEq for GetReservesReturn

def sampleReserves : GetReservesReturn where
  reserve0 := 5000000000000000000
  reserve1 := 8000000000000000000000
  blockTimestampLast := 1700000000

theorem returned_sampleReserves :
    let := referenceAbi
    Returned sampleContracts.Answered samplePair .getReserves () sampleReserves := by
  intro abi
  have hanswer : sampleContracts samplePair (SolTypes.abiEncode .getReserves ()) =
      some (word (5 * 10 ^ 18) ++ word (8 * 10 ^ 21) ++ word 1700000000) := by
    decide +kernel
  exact ⟨_, hanswer, toOption_eq_some.mp (by decide +kernel)⟩

/-- **A large purchase is mispriced**: the pair is said to pay what one ETH buys. -/
theorem v2_quote_wraps :
    let := referenceAbi
    ¬ ∀ tr q answer, (quote robinhood.uniswap samplePair wrappingSwap).Runs () tr (.ok q) () →
      (∀ e ∈ tr, sampleContracts.Answers e) →
      Returned sampleContracts.Answered samplePair .getReserves () answer →
      q.amountOut.toNat = pays wrappingSwap.amount.toNat
        (swapReserves robinhood.uniswap wrappingSwap answer).1.toNat
        (swapReserves robinhood.uniswap wrappingSwap answer).2.toNat := by
  intro abi hall
  obtain ⟨tr, r, _, hrun, hresult, hstate⟩ := Proc.runs_of_exec_prop
    (contractAnswers sampleContracts) (fun _ => 0)
    (quote robinhood.uniswap samplePair wrappingSwap) ()
    (fun tr r => r.toOption.map PoolQuote.amountOut = some 1329998332499583125261 ∧
      ∀ e ∈ tr, sampleContracts.Answers e)
    (by decide +kernel)
  obtain ⟨q, rfl, hout⟩ := toOption_map_eq_some.mp hresult
  have heq := hall tr q _ hrun hstate returned_sampleReserves
  rw [hout] at heq
  exact absurd heq (by decide +kernel)

/-- The purchase of the sample, through the same pair, is priced exactly. -/
theorem v2_quote_exact_iff_sample :
    let := referenceAbi
    let swap : SwapIn := ⟨samplePairToken, .buy, 1000000000000000⟩
    ∃ tr q answer, (quote robinhood.uniswap samplePair swap).Runs () tr (.ok q) () ∧
      q.amountOut.toNat = pays swap.amount.toNat
        (swapReserves robinhood.uniswap swap answer).1.toNat
        (swapReserves robinhood.uniswap swap answer).2.toNat := by
  intro abi swap
  obtain ⟨tr, r, _, hrun, hok, hstate⟩ := Proc.runs_of_exec_prop
    (contractAnswers sampleContracts) (fun _ => 0) (quote robinhood.uniswap samplePair swap) ()
    (fun tr r => r.isOk = true ∧ ∀ e ∈ tr, sampleContracts.Answers e) (by decide +kernel)
  obtain ⟨q, rfl⟩ := isOk_iff.mp hok
  have hiff := v2_quote_exact_iff returned_sampleReserves hstate hrun
  exact ⟨tr, q, _, hrun, (hiff.mpr (by decide +kernel)).1⟩

end V2
end Uniswap
end Evm
end TradingAggregators
