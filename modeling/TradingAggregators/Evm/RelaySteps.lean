import Mathlib.Data.List.ReduceOption
import TradingAggregators.Evm.Sources.Relay.Transactions

/-!
# What the Relay decoder lets through

* `approveData`: the calldata of `approve(spender, allowance)`, and `eq_approveData`: calldata
  that passes the raw checks is of this form.
* `IsApproval`, `IsSwap`: what an accepted approval and an accepted swap are, compared with
  the transaction that the provider sent.
* `decoded_steps`: an accepted response is zero, one or two approvals and one swap.
-/

namespace TradingAggregators
namespace Evm
namespace Relay

open Aggregators.Relay (Step StepItem)
open Interaction Rust Wire

/-! ## Approval calldata -/

/-- `approve(spender, allowance)`, encoded. -/
def approveData (spender : Address) (allowance : Amount) : Bytes :=
  approveSelector ++ (List.replicate 12 0 ++ (spender.bytes ++ beBytes 32 allowance.toNat))

theorem length_approveData (spender : Address) (allowance : Amount) :
    (approveData spender allowance).length = 68 := by
  have hspender : spender.bytes.length = 20 := spender.size
  simp [approveData, approveSelector, hspender]

theorem toNat_amount {k : ℕ} (h : k < 2 ^ 256) : (amount k).toNat = k := by
  rw [amount, BitVec.toNat_ofNat, Nat.mod_eq_of_lt h]

theorem beBytes_amount_ofBeBytes {bs : Bytes} (h : bs.length = 32) :
    beBytes 32 (amount (ofBeBytes bs)).toNat = bs := by
  have hlt : ofBeBytes bs < 2 ^ 256 := by
    have hbound := ofBeBytes_lt bs
    rw [h] at hbound
    exact hbound
  rw [toNat_amount hlt, ← h, beBytes_ofBeBytes]

/-- Calldata of 68 bytes with the selector and zero padding is an encoded approval. -/
theorem eq_approveData {data : Bytes} (hlength : data.length = 68)
    (hselector : data.take 4 = approveSelector)
    (hpadding : (data.drop 4).take 12 = List.replicate 12 0) :
    data = approveData (spenderOf data) (allowanceOf data) := by
  have hspender : (spenderOf data).bytes = (data.drop 16).take 20 :=
    FixedBytes.ofBytes_bytes (by simp [hlength])
  have hallowance : beBytes 32 (allowanceOf data).toNat = (data.drop 36).take 32 :=
    beBytes_amount_ofBeBytes (by simp [hlength])
  have htail : (data.drop 36).take 32 = data.drop 36 :=
    List.take_of_length_le (by simp [hlength])
  calc data = data.take 4 ++ data.drop 4 := (List.take_append_drop 4 data).symm
    _ = data.take 4 ++ ((data.drop 4).take 12 ++ data.drop 16) := by
      rw [← drop_split 4 12]
    _ = data.take 4 ++ ((data.drop 4).take 12 ++ ((data.drop 16).take 20 ++ data.drop 36)) := by
      rw [← drop_split 16 20]
    _ = approveData (spenderOf data) (allowanceOf data) := by
      rw [approveData, hspender, hallowance, htail, hselector, hpadding]

section ApproveData

variable (spender : Address) (allowance : Amount)

theorem drop_selector_approveData :
    (approveData spender allowance).drop 16 = spender.bytes ++ beBytes 32 allowance.toNat := by
  have hhead : (approveSelector ++ List.replicate 12 0).length = 16 := rfl
  rw [approveData, ← List.append_assoc, List.drop_left' hhead]

theorem drop_approveData :
    (approveData spender allowance).drop 36 = beBytes 32 allowance.toNat := by
  have hdrop : (approveData spender allowance).drop 36 =
      ((approveData spender allowance).drop 16).drop 20 := by
    rw [List.drop_drop]
  rw [hdrop, drop_selector_approveData, List.drop_left' spender.size]

theorem take_approveData :
    (approveData spender allowance).take 36 =
      approveSelector ++ (List.replicate 12 0 ++ spender.bytes) := by
  have hsplit : (approveData spender allowance).take 36 ++ beBytes 32 allowance.toNat =
      approveData spender allowance := by
    rw [← drop_approveData spender allowance, List.take_append_drop]
  have happend : (approveData spender allowance).take 36 ++ beBytes 32 allowance.toNat =
      (approveSelector ++ (List.replicate 12 0 ++ spender.bytes)) ++
        beBytes 32 allowance.toNat := by
    rw [hsplit, approveData]
    simp
  exact List.append_cancel_right happend

@[simp] theorem spenderOf_approveData : spenderOf (approveData spender allowance) = spender := by
  have hspender : ((approveData spender allowance).drop 16).take 20 = spender.bytes := by
    rw [drop_selector_approveData, List.take_left' spender.size]
  apply FixedBytes.ext
  rw [spenderOf, hspender, FixedBytes.ofBytes_bytes spender.size]

@[simp] theorem allowanceOf_approveData :
    allowanceOf (approveData spender allowance) = allowance := by
  have hword : (beBytes 32 allowance.toNat).take 32 = beBytes 32 allowance.toNat :=
    List.take_of_length_le (by simp)
  rw [allowanceOf, drop_approveData, hword, ofBeBytes_beBytes allowance.isLt, amount]
  exact BitVec.ofNat_toNat 256 allowance

/-- Overwriting the last word of an approval replaces its allowance. -/
theorem patch_approveData (x : Amount) :
    patch 36 (beBytes 32 x.toNat) (approveData spender allowance) = approveData spender x := by
  have hend : (approveData spender allowance).drop (36 + 32) = [] :=
    List.drop_of_length_le (by simp [length_approveData])
  rw [patch, take_approveData, length_beBytes, hend, List.append_nil, approveData]
  simp

end ApproveData

/-! ## One transaction -/

section Transactions

variable {n : Network} {trade : Trade} {api : ApiTransaction} {t t' : Transaction}

/-- What every accepted transaction has in common with the one the provider sent: all but
its calldata. -/
structure Decoded (n : Network) (trade : Trade) (api : ApiTransaction) (t : Transaction) :
    Prop where
  onChain : t.chainId = n.chainId
  fromWallet : t.sender = trade.wallet
  calldata : 4 ≤ t.data.length
  gasConsistent : ¬ gasInconsistent t
  target : t.target = api.target
  value : quantity api.value = .ok t.value
  gas : optionalQuantity api.gas = .ok t.gas
  gasPrice : optionalQuantity api.gasPrice = .ok t.gasPrice
  maxFeePerGas : optionalQuantity api.maxFeePerGas = .ok t.maxFeePerGas
  maxPriorityFeePerGas : optionalQuantity api.maxPriorityFeePerGas = .ok t.maxPriorityFeePerGas

theorem decodeTransaction_eq_ok (h : decodeTransaction n trade api = .ok t) :
    Decoded n trade api t ∧ t.data = api.data := by
  unfold decodeTransaction at h
  obtain ⟨_, hchecks, h₁⟩ := bind_eq_ok.mp h
  obtain ⟨value, hvalue, h₂⟩ := bind_eq_ok.mp h₁
  obtain ⟨gas, hgas, h₃⟩ := bind_eq_ok.mp h₂
  obtain ⟨gasPrice, hgasPrice, h₄⟩ := bind_eq_ok.mp h₃
  obtain ⟨maxFee, hmaxFee, h₅⟩ := bind_eq_ok.mp h₄
  obtain ⟨priorityFee, hpriorityFee, h₆⟩ := bind_eq_ok.mp h₅
  obtain ⟨_, hconsistent, h₇⟩ := bind_eq_ok.mp h₆
  simp only [failIf_eq_ok, not_or, not_not, not_lt] at hchecks
  obtain ⟨hchain, hsender, -, hlength⟩ := hchecks
  rw [failIf_eq_ok] at hconsistent
  cases pure_eq_ok.mp h₇
  exact ⟨{
    onChain := hchain
    fromWallet := hsender
    calldata := hlength
    gasConsistent := hconsistent
    target := rfl
    value := hvalue
    gas := hgas
    gasPrice := hgasPrice
    maxFeePerGas := hmaxFee
    maxPriorityFeePerGas := hpriorityFee }, rfl⟩

/-- Approving exactly this trade, or resetting the allowance. -/
structure Approves (n : Network) (trade : Trade) (t : Transaction) (spender : Address)
    (allowance : Amount) : Prop where
  input : trade.input = .token t.target
  noValue : t.value = 0
  spender_mem : spender ∈ [n.router, n.approvalProxy]
  allowance_eq : allowance = 0 ∨ allowance = trade.amount
  data : t.data = approveData spender allowance

/-- Bounding rewrites the allowance of an approval that is no reset. -/
theorem boundAllowance_eq {spender : Address} {allowance : Amount}
    (hdata : t.data = approveData spender allowance) :
    boundAllowance trade t =
      { t with data := approveData spender (if allowance = 0 then 0 else trade.amount) } := by
  rw [boundAllowance, hdata, allowanceOf_approveData]
  by_cases hzero : allowance = 0
  · rw [if_pos hzero, if_pos hzero, ← hzero, ← hdata]
  · rw [if_neg hzero, if_neg hzero, patch_approveData]

/-- An approval that is bounded already is accepted as it stands. -/
theorem Approves.validateApproval_eq {spender : Address} {allowance : Amount}
    (h : Approves n trade t spender allowance) : validateApproval n trade t = .ok t := by
  have hbounded : boundAllowance trade t = t := by
    have hallowance : (if allowance = 0 then 0 else trade.amount) = allowance := by
      rcases h.allowance_eq with hzero | hamount
      · rw [if_pos hzero, hzero]
      · rw [← hamount]
        split_ifs with hzero
        · exact hzero.symm
        · rfl
    rw [boundAllowance_eq h.data, hallowance, ← h.data]
  have hselector : t.data.take 4 = approveSelector := by
    rw [h.data]
    rfl
  have hpadding : (t.data.drop 4).take 12 = List.replicate 12 0 := by
    rw [h.data]
    rfl
  have hraw : ¬ (trade.input = .native ∨ t.target ≠ trade.input.address ∨ t.value ≠ 0 ∨
      t.data.length ≠ 68 ∨ t.data.take 4 ≠ approveSelector ∨
      (t.data.drop 4).take 12 ≠ List.replicate 12 0) := by
    rw [h.input, hselector, hpadding, h.data, h.noValue, length_approveData]
    simp [Currency.address]
  have hspender : ¬ (spenderOf t.data ∉ [n.router, n.approvalProxy] ∨
      allowanceOf t.data ≠ 0 ∧ allowanceOf t.data < trade.amount) := by
    rw [h.data, spenderOf_approveData, allowanceOf_approveData]
    rintro (hmem | ⟨hne, hlt⟩)
    · exact hmem h.spender_mem
    · rcases h.allowance_eq with hzero | hamount
      · exact hne hzero
      · exact absurd hamount (BitVec.ne_of_lt hlt)
  unfold validateApproval
  rw [failIf_neg hraw, failIf_neg hspender, ok_bind, ok_bind, hbounded]
  rfl

/-- What the checks of an approval establish, before its allowance is bounded. -/
structure ApprovalForm (n : Network) (trade : Trade) (t : Transaction) : Prop where
  input : trade.input = .token t.target
  noValue : t.value = 0
  length : t.data.length = 68
  spender_mem : spenderOf t.data ∈ [n.router, n.approvalProxy]
  data : t.data = approveData (spenderOf t.data) (allowanceOf t.data)

theorem validateApproval_eq_ok (h : validateApproval n trade t = .ok t') :
    ApprovalForm n trade t ∧ t' = boundAllowance trade t := by
  unfold validateApproval at h
  obtain ⟨_, hraw, h₁⟩ := bind_eq_ok.mp h
  obtain ⟨_, hspender, h₂⟩ := bind_eq_ok.mp h₁
  simp only [failIf_eq_ok, not_or, not_not] at hraw hspender
  obtain ⟨hinput, htarget, hvalue, hlength, hselector, hpadding⟩ := hraw
  have htoken : trade.input = .token t.target := by
    cases hcurrency : trade.input with
    | native => exact absurd hcurrency hinput
    | token address =>
      rw [htarget, hcurrency]
      rfl
  exact ⟨⟨htoken, hvalue, hlength, hspender.1, eq_approveData hlength hselector hpadding⟩,
    (pure_eq_ok.mp h₂).symm⟩

/-- A bounded approval approves exactly this trade, or resets. -/
theorem ApprovalForm.approves (h : ApprovalForm n trade t) :
    Approves n trade (boundAllowance trade t) (spenderOf t.data)
      (if allowanceOf t.data = 0 then 0 else trade.amount) := by
  rw [boundAllowance_eq h.data]
  refine ⟨h.input, h.noValue, h.spender_mem, ?_, rfl⟩
  split_ifs
  · exact Or.inl rfl
  · exact Or.inr rfl

/-- Bounding changes nothing before the allowance. -/
theorem ApprovalForm.take_eq (h : ApprovalForm n trade t) :
    (boundAllowance trade t).data.take 36 = t.data.take 36 := by
  rw [boundAllowance_eq h.data, take_approveData,
    ← take_approveData (spenderOf t.data) (allowanceOf t.data), ← h.data]

/-- An accepted approval, compared with what the provider sent. -/
structure IsApproval (n : Network) (trade : Trade) (api : ApiTransaction) (t : Transaction) :
    Prop where
  decoded : Decoded n trade api t
  approves : ∃ spender allowance, Approves n trade t spender allowance
  length : api.data.length = 68
  /-- Only the allowance, the last 32 of the 68 bytes, can differ from the provider's. -/
  prefix_eq : t.data.take 36 = api.data.take 36
  /-- Validating it again accepts it unchanged. -/
  stable : validateApproval n trade t = .ok t

/-- An accepted swap, compared with what the provider sent. -/
structure IsSwap (n : Network) (trade : Trade) (api : ApiTransaction) (t : Transaction) :
    Prop where
  decoded : Decoded n trade api t
  target : t.target ∈ [n.router, n.approvalProxy]
  value : t.value = swapValue trade
  data : t.data = api.data

/-- The provider's approval is decoded, and what its check returns is accepted. -/
def AcceptsApproval (n : Network) (trade : Trade) (api : ApiTransaction) (t' : Transaction) :
    Prop :=
  ∃ t, decodeTransaction n trade api = .ok t ∧ validateApproval n trade t = .ok t'

theorem AcceptsApproval.isApproval (h : AcceptsApproval n trade api t') :
    IsApproval n trade api t' := by
  obtain ⟨t, hdecode, hvalidate⟩ := h
  obtain ⟨hdecoded, hdata⟩ := decodeTransaction_eq_ok hdecode
  obtain ⟨hform, rfl⟩ := validateApproval_eq_ok hvalidate
  have happroves := hform.approves
  have hcalldata : 4 ≤ (boundAllowance trade t).data.length := by
    rw [happroves.data, length_approveData]
    omega
  have hdecoded' : Decoded n trade api (boundAllowance trade t) := by
    rw [boundAllowance_eq hform.data] at hcalldata ⊢
    exact { hdecoded with calldata := hcalldata }
  exact {
    decoded := hdecoded'
    approves := ⟨_, _, happroves⟩
    length := hdata ▸ hform.length
    prefix_eq := hdata ▸ hform.take_eq
    stable := happroves.validateApproval_eq }

theorem isSwap_of_validate (hdecode : decodeTransaction n trade api = .ok t)
    (hvalidate : validateSwap n trade t = .ok t') : IsSwap n trade api t' := by
  obtain ⟨hdecoded, hdata⟩ := decodeTransaction_eq_ok hdecode
  unfold validateSwap at hvalidate
  obtain ⟨_, hchecks, hpure⟩ := bind_eq_ok.mp hvalidate
  simp only [failIf_eq_ok, not_or, not_not] at hchecks
  cases pure_eq_ok.mp hpure
  exact ⟨hdecoded, hchecks.1, hchecks.2, hdata⟩

end Transactions

/-! ## The steps -/

section Steps

variable {n : Network} {trade : Trade}

/-- The transaction data of the items that are not completed, in order. -/
def pendingData (items : List (StepItem ApiTransaction)) : List ApiTransaction :=
  items.filterMap fun item => if item.status = "complete" then none else item.data

theorem pendingData_append (items items' : List (StepItem ApiTransaction)) :
    pendingData (items ++ items') = pendingData items ++ pendingData items' :=
  List.filterMap_append

/-- An item is skipped, as only an approval can be, or it holds a pending transaction that
passes its check. -/
theorem decodeItem_eq_ok {swap : Bool} {item : StepItem ApiTransaction} {o : Option Transaction}
    (h : decodeItem n trade swap item = .ok o) :
    (swap = false ∧ item.status = "complete" ∧ o = none) ∨
    ∃ api t t', item.status ≠ "complete" ∧ item.data = some api ∧ o = some t' ∧
      decodeTransaction n trade api = .ok t ∧ validate n trade swap t = .ok t' := by
  unfold decodeItem at h
  by_cases hskip : swap = false ∧ item.status = "complete"
  · rw [if_pos hskip] at h
    exact Or.inl ⟨hskip.1, hskip.2, (Except.ok.inj h).symm⟩
  · rw [if_neg hskip] at h
    obtain ⟨_, hstatus, h₁⟩ := bind_eq_ok.mp h
    obtain ⟨api, hdata, h₂⟩ := bind_eq_ok.mp h₁
    obtain ⟨t, hdecode, h₃⟩ := bind_eq_ok.mp h₂
    obtain ⟨t', hvalidate, h₄⟩ := bind_eq_ok.mp h₃
    rw [failIf_eq_ok, not_not] at hstatus
    rw [okOr_eq_ok] at hdata
    refine Or.inr ⟨api, t, t', ?_, hdata, (pure_eq_ok.mp h₄).symm, hdecode, hvalidate⟩
    rw [hstatus]
    decide

/-- The items of an approval step. -/
theorem approvals_of_items {items : List (StepItem ApiTransaction)}
    {os : List (Option Transaction)}
    (h : List.Forall₂ (fun item o => decodeItem n trade false item = .ok o) items os) :
    List.Forall₂ (AcceptsApproval n trade) (pendingData items) os.reduceOption := by
  induction h with
  | nil => exact .nil
  | @cons item o items os hitem _ ih =>
    rcases decodeItem_eq_ok hitem with
      ⟨-, hstatus, rfl⟩ | ⟨api, t, t', hstatus, hdata, rfl, hdecode, hvalidate⟩
    · have hskip : pendingData (item :: items) = pendingData items := by
        simp [pendingData, hstatus]
      rw [hskip]
      exact ih
    · have hkeep : pendingData (item :: items) = api :: pendingData items := by
        simp [pendingData, hstatus, hdata]
      rw [hkeep]
      exact .cons ⟨t, hdecode, hvalidate⟩ ih

theorem length_le_of_items {items : List (StepItem ApiTransaction)}
    {os : List (Option Transaction)} {swap : Bool}
    (h : List.Forall₂ (fun item o => decodeItem n trade swap item = .ok o) items os) :
    os.reduceOption.length ≤ items.length := by
  rw [h.length_eq]
  exact List.reduceOption_length_le os

/-- A decoded step has one or more items, at most two, or one for the swap, and yields what is
left of them. -/
theorem decodeStep_eq_ok {swap : Bool} {step : Step ApiTransaction} {txs : List Transaction}
    (h : decodeStep n trade swap step = .ok txs) :
    ∃ os, List.Forall₂ (fun item o => decodeItem n trade swap item = .ok o) step.items os ∧
      txs = os.reduceOption ∧ step.items ≠ [] ∧
      step.items.length ≤ if swap then 1 else 2 := by
  unfold decodeStep at h
  obtain ⟨_, hshape, h₁⟩ := bind_eq_ok.mp h
  obtain ⟨os, hitems, h₂⟩ := bind_eq_ok.mp h₁
  rw [failIf_eq_ok] at hshape
  simp only [not_or, not_lt] at hshape
  obtain ⟨-, -, -, hne, hlength⟩ := hshape
  exact ⟨os, mapM_eq_ok.mp hitems, (pure_eq_ok.mp h₂).symm, hne, hlength⟩

/-- An approval step yields at most two approvals. -/
theorem decodeStep_approval {step : Step ApiTransaction} {txs : List Transaction}
    (h : decodeStep n trade false step = .ok txs) :
    List.Forall₂ (AcceptsApproval n trade) (pendingData step.items) txs ∧ txs.length ≤ 2 := by
  obtain ⟨os, hitems, rfl, -, htwo⟩ := decodeStep_eq_ok h
  exact ⟨approvals_of_items hitems, (length_le_of_items hitems).trans htwo⟩

/-- The swap step yields exactly one swap. -/
theorem decodeStep_swap {step : Step ApiTransaction} {txs : List Transaction}
    (h : decodeStep n trade true step = .ok txs) :
    ∃ api t, pendingData step.items = [api] ∧ txs = [t] ∧ IsSwap n trade api t := by
  obtain ⟨os, hitems, rfl, hne, hone⟩ := decodeStep_eq_ok h
  obtain ⟨item, hitem⟩ : ∃ item, step.items = [item] := by
    have hpos : 0 < step.items.length := List.length_pos_of_ne_nil hne
    have hle : step.items.length ≤ 1 := hone
    exact List.length_eq_one_iff.mp (by omega)
  rw [hitem] at hitems
  obtain ⟨o, os', ho, hnil, rfl⟩ := List.forall₂_cons_left_iff.mp hitems
  cases List.forall₂_nil_left_iff.mp hnil
  rcases decodeItem_eq_ok ho with ⟨hfalse, -⟩ | ⟨api, t, t', hstatus, hdata, rfl, hdecode, hvalidate⟩
  · exact nomatch hfalse
  · refine ⟨api, t', ?_, rfl, isSwap_of_validate hdecode hvalidate⟩
    simp [hitem, pendingData, hstatus, hdata]

/-- The native value that a trade puts into its transactions. -/
def nativeInput (trade : Trade) : ℕ :=
  if trade.input = .native then trade.amount.toNat else 0

/-- **What a decoded response is**: at most two approvals and then the swap. -/
structure DecodedSteps (n : Network) (trade : Trade) (steps : List (Step ApiTransaction))
    (txs approvals : List Transaction) (swap : Transaction) : Prop where
  txs_eq : txs = approvals ++ [swap]
  length_le : approvals.length ≤ 2
  /-- The transactions are those of the pending items, in order. -/
  provider : ∃ apis api, pendingData (steps.flatMap Step.items) = apis ++ [api] ∧
    List.Forall₂ (IsApproval n trade) apis approvals ∧ IsSwap n trade api swap
  /-- On the network's chain, from the wallet, with calldata and consistent gas fields. -/
  sound : ∀ t ∈ txs, t.chainId = n.chainId ∧ t.sender = trade.wallet ∧ 4 ≤ t.data.length ∧
    ¬ gasInconsistent t
  native : trade.input = .native → approvals = []
  value : (txs.map fun t => t.value.toNat).sum = nativeInput trade

theorem sum_approvals {apis : List ApiTransaction} {approvals : List Transaction}
    (h : List.Forall₂ (IsApproval n trade) apis approvals) :
    (approvals.map fun t => t.value.toNat).sum = 0 := by
  induction h with
  | nil => rfl
  | cons happroval _ ih =>
    obtain ⟨_, _, happroves⟩ := happroval.approves
    rw [List.map_cons, List.sum_cons, ih, happroves.noValue]
    rfl

/-- Approvals and a swap in this order make up a decoded response. -/
theorem decodedSteps_of_parts {steps : List (Step ApiTransaction)} {apis : List ApiTransaction}
    {api : ApiTransaction} {approvals : List Transaction} {swap : Transaction}
    (hpending : pendingData (steps.flatMap Step.items) = apis ++ [api])
    (happrovals : List.Forall₂ (IsApproval n trade) apis approvals)
    (hlength : approvals.length ≤ 2) (hswap : IsSwap n trade api swap) :
    DecodedSteps n trade steps (approvals ++ [swap]) approvals swap := by
  have hdecoded : ∀ t ∈ approvals ++ [swap], ∃ api, Decoded n trade api t := by
    intro t ht
    rcases List.mem_append.mp ht with ht | ht
    · obtain ⟨api', -, happroval⟩ := exists_of_forall₂ happrovals ht
      exact ⟨api', happroval.decoded⟩
    · rw [List.mem_singleton.mp ht]
      exact ⟨api, hswap.decoded⟩
  have hnative : trade.input = .native → approvals = [] := by
    intro hinput
    cases happrovals with
    | nil => rfl
    | cons happroval _ =>
      obtain ⟨_, _, happroves⟩ := happroval.approves
      exact nomatch hinput.symm.trans happroves.input
  exact {
    txs_eq := rfl
    length_le := hlength
    provider := ⟨apis, api, hpending, happrovals, hswap⟩
    sound := by
      intro t ht
      obtain ⟨_, hdec⟩ := hdecoded t ht
      exact ⟨hdec.onChain, hdec.fromWallet, hdec.calldata, hdec.gasConsistent⟩
    native := hnative
    value := by
      rw [List.map_append, List.sum_append, sum_approvals happrovals, List.map_singleton,
        List.sum_singleton, hswap.value, swapValue, nativeInput, Nat.zero_add]
      split_ifs
      · rfl
      · rfl }

/-- The pending transactions of an accepted response: approvals, and a swap behind them. -/
theorem decode_eq_ok {steps : List (Step ApiTransaction)} {txs : List Transaction}
    (h : decode n trade steps = .ok txs) :
    ∃ apis api approvals swap, pendingData (steps.flatMap Step.items) = apis ++ [api] ∧
      txs = approvals ++ [swap] ∧ List.Forall₂ (AcceptsApproval n trade) apis approvals ∧
      approvals.length ≤ 2 ∧ IsSwap n trade api swap := by
  unfold decode at h
  obtain ⟨_, hcount, h₁⟩ := bind_eq_ok.mp h
  rw [failIf_eq_ok, not_or, not_lt] at hcount
  obtain ⟨hne, htwo⟩ := hcount
  match steps, hne, htwo, h₁ with
  | [step], _, _, h₁ =>
    obtain ⟨txs₁, hstep, h₂⟩ := bind_eq_ok.mp h₁
    obtain ⟨api, swap, hpending, rfl, hswap⟩ := decodeStep_swap hstep
    cases pure_eq_ok.mp h₂
    have hitems : pendingData ([step].flatMap Step.items) = [] ++ [api] := by
      simpa using hpending
    exact ⟨[], api, [], swap, hitems, rfl, .nil, by simp, hswap⟩
  | [approval, step], _, _, h₁ =>
    obtain ⟨approvals, happroval, h₂⟩ := bind_eq_ok.mp h₁
    obtain ⟨happrovals, hlength⟩ := decodeStep_approval happroval
    obtain ⟨later, hlater, h₃⟩ := bind_eq_ok.mp h₂
    obtain ⟨txs₁, hstep, h₄⟩ := bind_eq_ok.mp hlater
    obtain ⟨api, swap, hpending, rfl, hswap⟩ := decodeStep_swap hstep
    cases pure_eq_ok.mp h₄
    cases pure_eq_ok.mp h₃
    have hitems : pendingData ([approval, step].flatMap Step.items) =
        pendingData approval.items ++ [api] := by
      have hflat : [approval, step].flatMap Step.items = approval.items ++ step.items := by simp
      rw [hflat, pendingData_append, hpending]
    exact ⟨_, api, approvals, swap, hitems, rfl, happrovals, hlength, hswap⟩
  | _ :: _ :: _ :: _, _, htwo, _ =>
    simp at htwo

/-- **What the decoder lets through**, for every response and every trade. -/
theorem decoded_steps {steps : List (Step ApiTransaction)} {txs : List Transaction}
    (h : decode n trade steps = .ok txs) :
    ∃ approvals swap, DecodedSteps n trade steps txs approvals swap := by
  obtain ⟨apis, api, approvals, swap, hpending, rfl, happrovals, hlength, hswap⟩ :=
    decode_eq_ok h
  exact ⟨approvals, swap, decodedSteps_of_parts hpending
    (happrovals.imp fun _ _ => AcceptsApproval.isApproval) hlength hswap⟩

end Steps

/-! ## A response with an unlimited approval -/

/-- Selling one million units of a token for ETH. -/
def saleTrade : Trade where
  wallet := .ofBytes 20 (beBytes 20 0x7e5f4552091a69125d5dfcb7b8c2659029395bdf)
  input := .token (.ofBytes 20 (beBytes 20 0x5fc5360d0400a0fd4f2af552add042d716f1d168))
  output := .native
  amount := 1000000
  slippageBps := 100
  quoteSource := none
  pool := none

theorem saleTrade_valid : saleTrade.Valid :=
  Trade.validate_eq_ok.mp (show saleTrade.validate = .ok () by decide +kernel)

/-- One transaction of the response. -/
def saleTransaction (target : Address) (data : Bytes) (gas : Option JsonValue) :
    ApiTransaction where
  chainId := 4663
  sender := saleTrade.wallet
  target := target
  data := data
  value := .string "0x0"
  gas := gas
  gasPrice := none
  maxFeePerGas := some (.string "2000")
  maxPriorityFeePerGas := some (.number (.unsigned 1000))

/-- A completed reset, an unlimited approval and the swap. -/
def saleSteps : List (Step ApiTransaction) :=
  [{ id := "approve"
     kind := "transaction"
     items :=
       [{ status := "complete", data := none },
        { status := "incomplete"
          data := some (saleTransaction saleTrade.input.address
            (approveData robinhood.approvalProxy (amount (2 ^ 256 - 1))) none) }] },
   { id := "swap"
     kind := "transaction"
     items :=
       [{ status := "incomplete"
          data := some (saleTransaction robinhood.router [0x4e, 0x71, 0xd9, 0x2d]
            (some (.string "200000"))) }] }]

/-- The unlimited approval comes out bounded, in front of the swap. -/
theorem decoded_steps_sale :
    ∃ txs approvals swap, decode robinhood saleTrade saleSteps = .ok txs ∧
      txs.map Transaction.data =
        [approveData robinhood.approvalProxy 1000000, [0x4e, 0x71, 0xd9, 0x2d]] ∧
      DecodedSteps robinhood saleTrade saleSteps txs approvals swap := by
  have hdecode : (decode robinhood saleTrade saleSteps).toOption.map
      (List.map Transaction.data) =
        some [approveData robinhood.approvalProxy 1000000, [0x4e, 0x71, 0xd9, 0x2d]] := by
    decide +kernel
  obtain ⟨txs, h, hdata⟩ := toOption_map_eq_some.mp hdecode
  obtain ⟨approvals, swap, hsteps⟩ := decoded_steps h
  exact ⟨txs, approvals, swap, h, hdata, hsteps⟩

end Relay
end Evm
end TradingAggregators
