import TradingAggregators.Evm.RelaySteps
import Mathlib.Logic.Function.Basic

/-!
# The allowances that accepted approvals leave

Each approval of a Relay response is checked on its own: it resets an allowance, or it asks for
at least the amount of the trade.  What the swap finds depends on the order.

## 1.  The token

`Allowances` is what the input token knows of the wallet's spenders; an approval overwrites one
entry, so the last one of each spender decides (`afterApprovals_last`).

## 2.  What was sent and what is executed

`approvalOf_accepts`: an executed approval names the provider's spender, and it is a reset
exactly when the provider's is one.

## 3.  Enough allowance

`allowances_suffice_iff`: every spender is left with the amount of the trade exactly when the
last pending approval of each is no reset.  `reset_accepted` is a response that resets last.
-/

namespace TradingAggregators
namespace Evm
namespace Relay

open Aggregators.Relay (Step StepItem)
open Interaction Rust Wire

/-! ## 1.  The token -/

/-- The allowances that the wallet has granted on the input token. -/
abbrev Allowances := Address → Amount

/-- The spender and the allowance that calldata of an approval names. -/
def approvalOf (data : Bytes) : Address × Amount :=
  (spenderOf data, allowanceOf data)

/-- `approve` of the token. -/
def Allowances.approve (table : Allowances) (approval : Address × Amount) : Allowances :=
  Function.update table approval.1 approval.2

/-- The table after approvals were executed in order. -/
def afterApprovals (table : Allowances) (approvals : List (Address × Amount)) : Allowances :=
  approvals.foldl Allowances.approve table

/-- Approvals of other spenders leave an entry alone. -/
theorem afterApprovals_other {table : Allowances} {approvals : List (Address × Amount)}
    {spender : Address} (h : ∀ a ∈ approvals, a.1 ≠ spender) :
    afterApprovals table approvals spender = table spender := by
  induction approvals generalizing table with
  | nil => rfl
  | cons a approvals ih =>
    obtain ⟨hne, hrest⟩ := List.forall_mem_cons.mp h
    show afterApprovals (table.approve a) approvals spender = _
    rw [ih hrest]
    exact Function.update_of_ne hne.symm _ _

/-- The last approval of a spender decides. -/
theorem afterApprovals_last {table : Allowances} {before after : List (Address × Amount)}
    {a : Address × Amount} (h : ∀ later ∈ after, later.1 ≠ a.1) :
    afterApprovals table (before ++ a :: after) a.1 = a.2 := by
  have hsplit : afterApprovals table (before ++ a :: after) =
      afterApprovals ((afterApprovals table before).approve a) after := by
    rw [afterApprovals, List.foldl_append]
    rfl
  rw [hsplit, afterApprovals_other h]
  exact Function.update_self _ _ _

/-- No spender is reset last. -/
def EndsApproved (approvals : List (Address × Amount)) : Prop :=
  ∀ before a after, approvals = before ++ a :: after → (∀ later ∈ after, later.1 ≠ a.1) →
    a.2 ≠ 0

/-- An allowance that is no reset, cut down to the amount. -/
def bounded (x : Amount) (approval : Address × Amount) : Address × Amount :=
  (approval.1, if approval.2 = 0 then 0 else x)

/-- Approvals that are resets or of the amount leave every spender with the amount exactly when
none is reset last. -/
theorem amount_le_afterApprovals_iff {x : Amount} (hx : x ≠ 0)
    (approvals : List (Address × Amount)) :
    (∀ table, ∀ a ∈ approvals.map (bounded x),
      x ≤ afterApprovals table (approvals.map (bounded x)) a.1) ↔ EndsApproved approvals := by
  have hlast : ∀ {before after : List (Address × Amount)} {a : Address × Amount} (table),
      (∀ later ∈ after, later.1 ≠ a.1) →
      afterApprovals table ((before ++ a :: after).map (bounded x)) a.1 =
        if a.2 = 0 then 0 else x := by
    intro before after a table hafter
    rw [List.map_append, List.map_cons]
    refine afterApprovals_last (a := bounded x a) fun later hlater => ?_
    obtain ⟨b, hb, rfl⟩ := List.mem_map.mp hlater
    exact hafter b hb
  constructor
  · rintro hall before a after rfl hafter hzero
    have hle := hall (fun _ => 0) (bounded x a) (List.mem_map_of_mem (by simp))
    rw [show (bounded x a).1 = a.1 from rfl, hlast _ hafter, if_pos hzero] at hle
    exact hx (BitVec.eq_of_toNat_eq (Nat.le_zero.mp hle))
  · intro hends table b hb
    obtain ⟨a, ha, rfl⟩ := List.mem_map.mp hb
    obtain ⟨before, last, after, rfl, hsame, hafter⟩ :=
      exists_last_split (p := fun c : Address × Amount => c.1 = a.1) ⟨a, ha, rfl⟩
    have hother : ∀ later ∈ after, later.1 ≠ last.1 := fun later hlater =>
      hsame ▸ hafter later hlater
    show x ≤ afterApprovals table _ a.1
    rw [← hsame, hlast table hother, if_neg (hends before last after rfl hother)]
    exact BitVec.le_refl x

/-! ## 2.  What was sent and what is executed -/

section Decoded

variable {n : Network} {trade : Trade}

theorem approvalOf_accepts {api : ApiTransaction} {t' : Transaction}
    (h : AcceptsApproval n trade api t') :
    approvalOf t'.data = bounded trade.amount (approvalOf api.data) := by
  obtain ⟨t, hdecode, hvalidate⟩ := h
  obtain ⟨-, hdata⟩ := decodeTransaction_eq_ok hdecode
  obtain ⟨hform, rfl⟩ := validateApproval_eq_ok hvalidate
  rw [← hdata, boundAllowance_eq hform.data]
  simp only [approvalOf, bounded, spenderOf_approveData, allowanceOf_approveData]
  rfl

/-- The approvals that a response holds and that are not completed, as the provider sent
them. -/
def pendingApprovals (steps : List (Step ApiTransaction)) : List (Address × Amount) :=
  (pendingData (steps.flatMap Step.items)).dropLast.map fun api => approvalOf api.data

/-- The approvals of decoded transactions: all but the swap. -/
def executedApprovals (txs : List Transaction) : List (Address × Amount) :=
  txs.dropLast.map fun t => approvalOf t.data

theorem executedApprovals_decode {steps : List (Step ApiTransaction)} {txs : List Transaction}
    (h : decode n trade steps = .ok txs) :
    executedApprovals txs = (pendingApprovals steps).map (bounded trade.amount) := by
  obtain ⟨apis, api, approvals, swap, hpending, rfl, happrovals, -, -⟩ := decode_eq_ok h
  rw [executedApprovals, pendingApprovals, hpending, List.dropLast_concat, List.dropLast_concat,
    List.map_map]
  clear hpending h
  induction happrovals with
  | nil => rfl
  | cons haccepts _ ih =>
    rw [List.map_cons, List.map_cons, ih, approvalOf_accepts haccepts]
    rfl

/-! ## 3.  Enough allowance -/

/-- **When accepted approvals leave enough allowance**: whatever the wallet had granted before,
each spender that they name is left with the amount of the trade, if and only if the last
pending approval of each asks for an allowance that is not zero. -/
theorem allowances_suffice_iff {steps : List (Step ApiTransaction)} {txs : List Transaction}
    (hvalid : trade.Valid) (h : decode n trade steps = .ok txs) :
    (∀ table, ∀ a ∈ executedApprovals txs,
      trade.amount ≤ afterApprovals table (executedApprovals txs) a.1) ↔
    EndsApproved (pendingApprovals steps) := by
  rw [executedApprovals_decode h]
  exact amount_le_afterApprovals_iff hvalid.amount _

end Decoded

/-! ### A response that resets last -/

/-- A reset of the router's allowance, and the swap through the router. -/
def resetSteps : List (Step ApiTransaction) :=
  [{ id := "approve"
     kind := "transaction"
     items :=
       [{ status := "incomplete"
          data := some (saleTransaction saleTrade.input.address
            (approveData robinhood.router 0) none) }] },
   { id := "swap"
     kind := "transaction"
     items :=
       [{ status := "incomplete"
          data := some (saleTransaction robinhood.router [0x4e, 0x71, 0xd9, 0x2d]
            (some (.string "200000"))) }] }]

/-- **A lone reset is accepted**, and it takes the allowance that the swap needs. -/
theorem reset_accepted :
    ¬ ∀ txs, decode robinhood saleTrade resetSteps = .ok txs →
      ∀ table, ∀ a ∈ executedApprovals txs,
        saleTrade.amount ≤ afterApprovals table (executedApprovals txs) a.1 := by
  intro hall
  have hdecode : (decode robinhood saleTrade resetSteps).toOption.map executedApprovals =
      some [(robinhood.router, 0)] := by
    decide +kernel
  obtain ⟨txs, h, hexecuted⟩ := toOption_map_eq_some.mp hdecode
  have hle := hall txs h (fun _ => saleTrade.amount) (robinhood.router, 0) (by simp [hexecuted])
  rw [hexecuted] at hle
  exact absurd hle (by decide +kernel)

/-- The sale's response approves last. -/
theorem allowances_suffice_iff_sale :
    ∃ txs, decode robinhood saleTrade saleSteps = .ok txs ∧
      ∀ table, ∀ a ∈ executedApprovals txs,
        saleTrade.amount ≤ afterApprovals table (executedApprovals txs) a.1 := by
  have hdecode : (decode robinhood saleTrade saleSteps).isOk = true := by
    decide +kernel
  have hpending : pendingApprovals saleSteps =
      [(robinhood.approvalProxy, amount (2 ^ 256 - 1))] := by
    decide +kernel
  obtain ⟨txs, h⟩ := isOk_iff.mp hdecode
  refine ⟨txs, h, (allowances_suffice_iff saleTrade_valid h).mpr ?_⟩
  rw [hpending]
  intro before a after hsplit _
  cases before with
  | nil =>
    obtain ⟨rfl, -⟩ := List.cons.inj hsplit
    decide
  | cons b before => simp at hsplit

end Relay
end Evm
end TradingAggregators
