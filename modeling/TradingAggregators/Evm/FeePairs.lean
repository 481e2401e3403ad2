import TradingAggregators.Evm.Dexes.Uniswap.Router
import TradingAggregators.Evm.Execution
import TradingAggregators.Evm.ReferenceAbi
import TradingAggregators.Evm.RelaySteps

/-!
# The two EIP-1559 fees of a filled transaction

A provider may give a legacy gas price, a fee cap, a tip, or any consistent part of these; what is
missing comes from the node.  The decoder compares a cap with a tip only where both are given.

## 1.  Given and estimated fees

`feeOr_some` and `feeOr_none`: a given fee is used as it is, and a missing one is the estimate.

## 2.  A run of `fees`

`runs_fees_ok`: the pair is that of one of four cases (`FeeCase`).

## 3.  Valid pairs

`fees_valid_iff`: the pair is valid exactly unless the provider gives a cap alone and the node's
tip is above it.  `cap_below_tip` is such a transaction.
-/

namespace TradingAggregators
namespace Evm

open Interaction Rust Wire
open Relay (gasInconsistent)

/-! ## 1.  Given and estimated fees -/

section Fees

variable {x : Amount} {y estimated : U128} {field : String}

theorem toU128_eq_ok (h : toU128 x field = .ok y) : y.toNat = x.toNat := by
  unfold toU128 at h
  split_ifs at h with hfits
  · rw [← Except.ok.inj h, BitVec.toNat_ofNat, Nat.mod_eq_of_lt hfits]
  · exact nomatch h

theorem feeOr_some (h : feeOr (some x) field estimated = .ok y) : y.toNat = x.toNat :=
  toU128_eq_ok h

theorem feeOr_none (h : feeOr none field estimated = .ok y) : y = estimated :=
  (Except.ok.inj h).symm

end Fees

/-! ## 2.  A run of `fees` -/

/-- The node's estimate in a run: the maximum fee and the priority fee. -/
def EstimatedIn (tr : Trace Answer) (estimate : U128 × U128) : Prop :=
  ⟨.eip1559Fees, .ok estimate⟩ ∈ tr

/-- One question gives one estimate. -/
@[simp] theorem estimatedIn_singleton {estimate estimate' : U128 × U128} :
    EstimatedIn [⟨.eip1559Fees, .ok estimate⟩] estimate' ↔ estimate' = estimate := by
  rw [EstimatedIn, List.mem_singleton]
  constructor
  · intro h
    injection h with _ hanswer
    exact Except.ok.inj hanswer
  · rintro rfl
    rfl

/-- How the pair of a transaction comes about. -/
inductive FeeCase (t : Transaction) (tr : Trace Answer) (pair : U128 × U128) : Prop where
  /-- A legacy gas price is both fees. -/
  | legacy (gasPrice : Amount) (given : t.gasPrice = some gasPrice)
      (fees : pair.1.toNat = gasPrice.toNat ∧ pair.2.toNat = gasPrice.toNat)
  /-- Both fees are given; the node is not asked. -/
  | given (cap tip : Amount) (gasPrice : t.gasPrice = none) (capGiven : t.maxFeePerGas = some cap)
      (tipGiven : t.maxPriorityFeePerGas = some tip)
      (fees : pair.1.toNat = cap.toNat ∧ pair.2.toNat = tip.toNat)
  /-- The provider's cap beside the node's tip. -/
  | capOnly (cap : Amount) (estimate : U128 × U128) (asked : tr = [⟨.eip1559Fees, .ok estimate⟩])
      (gasPrice : t.gasPrice = none) (capGiven : t.maxFeePerGas = some cap)
      (tipMissing : t.maxPriorityFeePerGas = none)
      (fees : pair.1.toNat = cap.toNat ∧ pair.2 = estimate.2)
  /-- The node's cap, raised to the tip where it is below. -/
  | estimated (estimate : U128 × U128) (asked : tr = [⟨.eip1559Fees, .ok estimate⟩])
      (gasPrice : t.gasPrice = none) (capMissing : t.maxFeePerGas = none)
      (tip : ∀ x ∈ t.maxPriorityFeePerGas, pair.2.toNat = x.toNat)
      (cap : pair.1 = if estimate.1 < pair.2 then pair.2 else estimate.1)

section Runs

variable {σ : Type} {s s' : σ} {tr : Trace Answer} {t : Transaction} {pair : U128 × U128}

/-- The node is asked for its estimate once. -/
theorem runs_estimated_ok
    (h : (Node.eip1559Fees >>= fun estimate =>
      (Proc.ofResult (estimatedFees t estimate) : Task σ (U128 × U128))).Runs s tr (.ok pair) s') :
    ∃ estimate, tr = [⟨.eip1559Fees, .ok estimate⟩] ∧ estimatedFees t estimate = .ok pair := by
  obtain ⟨estimate, _, tr₁, tr₂, rfl, h₁, h₂⟩ := Proc.runs_bind_ok.mp h
  obtain ⟨-, response, rfl, hresponse⟩ := Proc.runs_ask_ofResult.mp h₁
  obtain ⟨rfl, hpair, -⟩ := Proc.runs_ofResult.mp h₂
  rw [eq_comm, Node.rpcResult_eq_ok] at hresponse
  rw [hresponse]
  exact ⟨estimate, rfl, hpair.symm⟩

theorem runs_fees_ok (h : (fees t).Runs s tr (.ok pair) s') : FeeCase t tr pair := by
  unfold fees at h
  cases hgas : t.gasPrice with
  | some gasPrice =>
    rw [hgas] at h
    obtain ⟨-, hresult, -⟩ := Proc.runs_ofResult.mp h
    obtain ⟨fee, hfee, hpair⟩ := bind_eq_ok.mp hresult.symm
    obtain rfl := pure_eq_ok.mp hpair
    exact .legacy gasPrice hgas ⟨toU128_eq_ok hfee, toU128_eq_ok hfee⟩
  | none =>
    cases hcap : t.maxFeePerGas with
    | some cap =>
      cases htip : t.maxPriorityFeePerGas with
      | some tip =>
        rw [hgas, hcap, htip] at h
        obtain ⟨-, hresult, -⟩ := Proc.runs_ofResult.mp h
        obtain ⟨maxFee, hmax, h₁⟩ := bind_eq_ok.mp hresult.symm
        obtain ⟨priorityFee, hpriority, hpair⟩ := bind_eq_ok.mp h₁
        obtain rfl := pure_eq_ok.mp hpair
        exact .given cap tip hgas hcap htip ⟨toU128_eq_ok hmax, toU128_eq_ok hpriority⟩
      | none =>
        rw [hgas, hcap, htip] at h
        obtain ⟨estimate, hasked, hpair⟩ := runs_estimated_ok h
        unfold estimatedFees at hpair
        rw [hcap, htip] at hpair
        obtain ⟨priorityFee, hpriority, h₁⟩ := bind_eq_ok.mp hpair
        obtain ⟨maxFee, hmax, h₂⟩ := bind_eq_ok.mp h₁
        obtain rfl := pure_eq_ok.mp h₂
        exact .capOnly cap estimate hasked hgas hcap htip ⟨feeOr_some hmax, feeOr_none hpriority⟩
    | none =>
      rw [hgas, hcap] at h
      obtain ⟨estimate, hasked, hpair⟩ := runs_estimated_ok h
      unfold estimatedFees at hpair
      rw [hcap] at hpair
      obtain ⟨priorityFee, hpriority, h₁⟩ := bind_eq_ok.mp hpair
      obtain ⟨maxFee, hmax, h₂⟩ := bind_eq_ok.mp h₁
      obtain rfl := pure_eq_ok.mp h₂
      refine .estimated estimate hasked hgas hcap ?_ (feeOr_none hmax)
      intro x hx
      rw [Option.mem_def.mp hx] at hpriority
      exact feeOr_some hpriority

end Runs

/-! ## 3.  Valid pairs -/

/-- The tip is within the cap, and each fee that the provider gives is used as it is. -/
structure ValidFees (t : Transaction) (pair : U128 × U128) : Prop where
  tip_le_cap : pair.2 ≤ pair.1
  gasPrice : ∀ x ∈ t.gasPrice, pair.1.toNat = x.toNat ∧ pair.2.toNat = x.toNat
  maxFee : ∀ x ∈ t.maxFeePerGas, pair.1.toNat = x.toNat
  priorityFee : ∀ x ∈ t.maxPriorityFeePerGas, pair.2.toNat = x.toNat

/-- A cap is all that the provider gives, and this tip is above it. -/
def CapBelowTip (t : Transaction) (tip : U128) : Prop :=
  t.gasPrice = none ∧ t.maxPriorityFeePerGas = none ∧ ∃ cap ∈ t.maxFeePerGas, cap.toNat < tip.toNat

section Cases

variable {t : Transaction} {tr : Trace Answer} {pair : U128 × U128}

/-- A legacy gas price stands alone. -/
theorem legacy_alone {gasPrice : Amount} (hconsistent : ¬ gasInconsistent t)
    (hgas : t.gasPrice = some gasPrice) :
    t.maxFeePerGas = none ∧ t.maxPriorityFeePerGas = none := by
  have hsome : t.gasPrice.isSome := by rw [hgas]; rfl
  constructor
  · by_contra hne
    exact hconsistent (Or.inl ⟨hsome, Or.inl (Option.isSome_iff_ne_none.mpr hne)⟩)
  · by_contra hne
    exact hconsistent (Or.inl ⟨hsome, Or.inr (Option.isSome_iff_ne_none.mpr hne)⟩)

namespace FeeCase

theorem gasPrice_eq (h : FeeCase t tr pair) :
    ∀ x ∈ t.gasPrice, pair.1.toNat = x.toNat ∧ pair.2.toNat = x.toNat := by
  intro x hx
  cases h with
  | legacy gasPrice given fees =>
    obtain rfl : gasPrice = x := Option.some.inj (given.symm.trans hx)
    exact fees
  | given _ _ gasPrice _ _ _ => exact nomatch gasPrice.symm.trans hx
  | capOnly _ _ _ gasPrice _ _ _ => exact nomatch gasPrice.symm.trans hx
  | estimated _ _ gasPrice _ _ _ => exact nomatch gasPrice.symm.trans hx

theorem maxFee_eq (h : FeeCase t tr pair) (hconsistent : ¬ gasInconsistent t) :
    ∀ x ∈ t.maxFeePerGas, pair.1.toNat = x.toNat := by
  intro x hx
  cases h with
  | legacy _ given _ => exact nomatch (legacy_alone hconsistent given).1.symm.trans hx
  | given cap _ _ capGiven _ fees =>
    obtain rfl : cap = x := Option.some.inj (capGiven.symm.trans hx)
    exact fees.1
  | capOnly cap _ _ _ capGiven _ fees =>
    obtain rfl : cap = x := Option.some.inj (capGiven.symm.trans hx)
    exact fees.1
  | estimated _ _ _ capMissing _ _ => exact nomatch capMissing.symm.trans hx

theorem priorityFee_eq (h : FeeCase t tr pair) (hconsistent : ¬ gasInconsistent t) :
    ∀ x ∈ t.maxPriorityFeePerGas, pair.2.toNat = x.toNat := by
  intro x hx
  cases h with
  | legacy _ given _ => exact nomatch (legacy_alone hconsistent given).2.symm.trans hx
  | given _ tip _ _ tipGiven fees =>
    obtain rfl : tip = x := Option.some.inj (tipGiven.symm.trans hx)
    exact fees.2
  | capOnly _ _ _ _ _ tipMissing _ => exact nomatch tipMissing.symm.trans hx
  | estimated _ _ _ _ tip _ => exact tip x hx

/-- The tip exceeds the cap only where the provider's cap meets the node's tip. -/
theorem tip_le_cap_iff (h : FeeCase t tr pair) (hconsistent : ¬ gasInconsistent t) :
    pair.2 ≤ pair.1 ↔ ∀ estimate, EstimatedIn tr estimate → ¬ CapBelowTip t estimate.2 := by
  cases h with
  | legacy gasPrice given fees =>
    constructor
    · rintro - estimate - ⟨hnone, -⟩
      exact nomatch given.symm.trans hnone
    · intro _
      exact BitVec.le_def.mpr (fees.2.trans fees.1.symm).le
  | given cap tip gasPrice capGiven tipGiven fees =>
    constructor
    · rintro - estimate - ⟨-, hnone, -⟩
      exact nomatch tipGiven.symm.trans hnone
    · intro _
      -- The decoder has compared the two.
      have hle : tip.toNat ≤ cap.toNat := by
        by_contra hlt
        exact hconsistent (Or.inr ⟨tip, tipGiven, cap, capGiven, Nat.lt_of_not_le hlt⟩)
      rw [BitVec.le_def, fees.1, fees.2]
      exact hle
  | capOnly cap estimate asked gasPrice capGiven tipMissing fees =>
    rw [BitVec.le_def, fees.1, fees.2]
    constructor
    · rintro hle estimate' hasked ⟨-, -, x, hx, hlt⟩
      obtain rfl : cap = x := Option.some.inj (capGiven.symm.trans hx)
      rw [asked, estimatedIn_singleton] at hasked
      rw [hasked] at hlt
      omega
    · intro hall
      by_contra hlt
      refine hall estimate ?_ ⟨gasPrice, tipMissing, cap, capGiven, Nat.lt_of_not_le hlt⟩
      rw [asked, estimatedIn_singleton]
  | estimated estimate asked gasPrice capMissing tip cap =>
    constructor
    · rintro - estimate' - ⟨-, -, x, hx, -⟩
      exact nomatch capMissing.symm.trans hx
    · intro _
      rw [cap]
      by_cases hlt : estimate.1 < pair.2
      · rw [if_pos hlt]
        exact BitVec.le_refl _
      · rw [if_neg hlt]
        exact BitVec.not_lt.mp hlt

end FeeCase

end Cases

/-- The transactions that the adapters hand to the executor: the Relay decoder accepts them, or
the Uniswap adapter builds them. -/
inductive Adapted [Uniswap.SolTypes] (n : Network) (t : Transaction) : Prop where
  | relay (trade : Trade) (api : ApiTransaction)
      (accepted : Relay.decodeTransaction n trade api = .ok t)
  | uniswap (swap : Uniswap.Swap) (tr : Trace Answer)
      (built : Uniswap.SwapTransactions n swap.wallet)
      (run : (swap.transactions n).Runs () tr (.ok built) ()) (mem : t ∈ built.transactions)

section Valid

variable [Uniswap.SolTypes] {σ : Type} {n : Network} {t : Transaction} {s s' : σ}
  {tr : Trace Answer} {pair : U128 × U128}

theorem Adapted.gasConsistent (h : Adapted n t) : ¬ gasInconsistent t := by
  cases h with
  | relay trade api accepted => exact (Relay.decodeTransaction_eq_ok accepted).1.gasConsistent
  | uniswap swap tr built run mem =>
    obtain ⟨approve, pool, -, rfl⟩ := Uniswap.Swap.runs_transactions_ok run
    obtain ⟨hgas, -, htip⟩ := Uniswap.Swap.gas_of_mem_collected mem
    rintro (⟨hlegacy, -⟩ | ⟨tip, hmem, -⟩)
    · rw [hgas] at hlegacy
      exact absurd hlegacy Bool.false_ne_true
    · rw [htip] at hmem
      exact nomatch hmem

/-- **When the fee pair is valid**: whatever an adapter hands over and whatever the node estimates,
the tip is within the cap and given fees are used as they are, if and only if it is not so that a
cap is all that the provider gives and the estimated tip is above it. -/
theorem fees_valid_iff (hadapted : Adapted n t) (h : (fees t).Runs s tr (.ok pair) s') :
    ValidFees t pair ↔ ∀ estimate, EstimatedIn tr estimate → ¬ CapBelowTip t estimate.2 := by
  have hcase := runs_fees_ok h
  have hconsistent := hadapted.gasConsistent
  constructor
  · intro hvalid
    exact (hcase.tip_le_cap_iff hconsistent).mp hvalid.tip_le_cap
  · intro hall
    exact ⟨(hcase.tip_le_cap_iff hconsistent).mpr hall, hcase.gasPrice_eq,
      hcase.maxFee_eq hconsistent, hcase.priorityFee_eq hconsistent⟩

end Valid

/-! ### A cap alone -/

/-- A call of Relay's router with a cap of 1 gwei and no tip. -/
def capTransaction : ApiTransaction :=
  { Relay.saleTransaction robinhood.router [0x4e, 0x71, 0xd9, 0x2d] none with
    maxFeePerGas := some (.string "1000000000")
    maxPriorityFeePerGas := none }

/-- The same, decoded. -/
def capDecoded : Transaction where
  chainId := 4663
  sender := Relay.saleTrade.wallet
  target := robinhood.router
  data := [0x4e, 0x71, 0xd9, 0x2d]
  value := 0
  gas := none
  gasPrice := none
  maxFeePerGas := some 1000000000
  maxPriorityFeePerGas := none

theorem decode_capTransaction :
    Relay.decodeTransaction robinhood Relay.saleTrade capTransaction = .ok capDecoded := by
  have hdecode : (Relay.decodeTransaction robinhood Relay.saleTrade capTransaction).toOption =
      some capDecoded := by
    decide +kernel
  exact toOption_eq_some.mp hdecode

/-- It is filled with its cap and the node's tip. -/
theorem runs_fees_capDecoded (estimate : U128 × U128) :
    (fees capDecoded).Runs () [⟨.eip1559Fees, .ok estimate⟩] (.ok (1000000000, estimate.2)) () := by
  have hpair : estimatedFees capDecoded estimate = .ok (1000000000, estimate.2) := rfl
  refine Proc.runs_bind_ok.mpr ⟨estimate, (), [⟨.eip1559Fees, .ok estimate⟩], [], rfl, ?_, ?_⟩
  · exact Proc.runs_ask_ofResult.mpr ⟨rfl, .ok estimate, rfl, rfl⟩
  · exact Proc.runs_ofResult.mpr ⟨rfl, hpair.symm, rfl⟩

/-- **A cap below the estimated tip is kept**: the node estimates 3 gwei and a tip of 2 gwei, and
the transaction is filled with a cap of 1 gwei and that tip. -/
theorem cap_below_tip :
    ¬ ∀ t tr pair, Relay.decodeTransaction robinhood Relay.saleTrade capTransaction = .ok t →
      (fees t).Runs () tr (.ok pair) () →
      (∀ estimate, EstimatedIn tr estimate → estimate.2 ≤ estimate.1) → ValidFees t pair := by
  intro hall
  have hvalid := hall _ _ _ decode_capTransaction
    (runs_fees_capDecoded (3000000000, 2000000000)) (by simp)
  exact absurd hvalid.tip_le_cap (by decide)

/-- With an estimated tip of 1 gwei the cap is enough. -/
theorem fees_valid_iff_sale :
    let := Uniswap.referenceAbi
    ∃ tr pair, Adapted robinhood capDecoded ∧ (fees capDecoded).Runs () tr (.ok pair) () ∧
      ValidFees capDecoded pair := by
  intro abi
  have hadapted : Adapted robinhood capDecoded :=
    .relay Relay.saleTrade capTransaction decode_capTransaction
  have hrun := runs_fees_capDecoded (3000000000, 1000000000)
  refine ⟨_, _, hadapted, hrun, (fees_valid_iff hadapted hrun).mpr ?_⟩
  rintro estimate hasked ⟨-, -, cap, hcap, hlt⟩
  rw [estimatedIn_singleton] at hasked
  obtain rfl : 1000000000 = cap := Option.some.inj hcap
  rw [hasked] at hlt
  exact absurd hlt (by decide)

end Evm
end TradingAggregators
