import TradingAggregators.Solana.Conservation
import TradingAggregators.Solana.SponsoredRun

/-!
# Who sets the compute budget

The executor puts one `SetComputeUnitLimit` and one `SetComputeUnitPrice` in front of a V0
route and keeps a V1 message free of compute-budget instructions.  What it does not strip from
a V0 route has to be filtered by the adapter that built the route.

## 1.  Requests

`budgetRequests` reads the compute-budget requests of a list of instructions;
`budgetRequests_compiled` says that compiling keeps them.

## 2.  What the executor leaves

`budgetSetByExecutor_iff`: a built message asks for each kind at most once, the executor's
limit and price included, exactly when it is V1 or the route `LeavesBudget`.

## 3.  What the adapters let through

Each adapter has one lemma about its runs (`BudgetRun`).  DFlow and Relay drop the requests
that the executor sets, bloXroute refuses them, and Jupiter keeps everything.

## 4.  Whole runs

`budgetSetByExecutor_iff_answers`: the executor alone sets the budget if and only if the
provider's response was well behaved.  `jupiter_overrides_price` is one that was not.
-/

namespace TradingAggregators
namespace Solana

open Aggregators Interaction Interaction.Program Rust Wire

variable {σ : Type}

/-! ## 1.  Requests -/

/-- The request of a compute-budget instruction. -/
def Instruction.request? (ix : Instruction) : Option Bytes :=
  if ix.programId = computeBudgetProgram then some ix.data else none

/-- The compute-budget requests of a list of instructions, in order. -/
def budgetRequests (ixs : List Instruction) : List Bytes :=
  ixs.filterMap Instruction.request?

/-- The compute-budget requests of a compiled message, in order. -/
def messageRequests (m : VersionedMessage) : List Bytes :=
  m.instructions.filterMap fun c =>
    if m.staticAccountKeys[c.programIdIndex.toNat]? = some computeBudgetProgram then some c.data
    else none

/-- The requests of one kind: the first byte is the kind. -/
def ofKind (kind : UInt8) (requests : List Bytes) : List Bytes :=
  requests.filter fun data => data.head? = some kind

@[simp] theorem ofKind_append (kind : UInt8) (xs ys : List Bytes) :
    ofKind kind (xs ++ ys) = ofKind kind xs ++ ofKind kind ys :=
  List.filter_append ..

@[simp] theorem budgetRequests_append (ixs ixs' : List Instruction) :
    budgetRequests (ixs ++ ixs') = budgetRequests ixs ++ budgetRequests ixs' :=
  List.filterMap_append ..

theorem request?_eq_none {ix : Instruction} (h : ix.programId ≠ computeBudgetProgram) :
    ix.request? = none :=
  if_neg h

/-- Instructions of other programs request nothing. -/
theorem budgetRequests_eq_nil {ixs : List Instruction}
    (h : ∀ ix ∈ ixs, ix.programId ≠ computeBudgetProgram) : budgetRequests ixs = [] :=
  List.filterMap_eq_nil_iff.mpr fun ix hix => request?_eq_none (h ix hix)

/-- Lists that correspond member by member pick the same values. -/
theorem filterMap_eq_of_forall₂ {α β γ : Type} {R : α → β → Prop} {f : α → Option γ}
    {g : β → Option γ} (hfg : ∀ a b, R a b → f a = g b) {xs : List α} {ys : List β}
    (h : List.Forall₂ R xs ys) : xs.filterMap f = ys.filterMap g := by
  induction h with
  | nil => rfl
  | cons hab _ ih => rw [List.filterMap_cons, List.filterMap_cons, hfg _ _ hab, ih]

/-- Compiling keeps the requests. -/
theorem budgetRequests_compiled {m : VersionedMessage} {ixs : List Instruction}
    (h : List.Forall₂ (CompiledFrom m.staticAccountKeys) ixs m.instructions) :
    messageRequests m = budgetRequests ixs := by
  refine (filterMap_eq_of_forall₂ (fun ix c hc => ?_) h).symm
  rw [Instruction.request?, hc.program, hc.data]
  simp only [Option.some.injEq]

/-! ## 2.  What the executor leaves -/

/-- **The executor alone sets the compute budget** of a message: a V0 message has its limit
and its price once, no second one, and at most one request of each other kind; a V1 message
has no compute-budget instruction. -/
def BudgetSetByExecutor (priorityFeeLamports : UInt64) (m : VersionedMessage) : Prop :=
  match m with
  | .v0 _ =>
      (∃ cuLimit,
        ofKind setComputeUnitLimitTag (messageRequests m) = [(setComputeUnitLimit cuLimit).data] ∧
        ofKind setComputeUnitPriceTag (messageRequests m) =
          [(setComputeUnitPrice (unitPrice priorityFeeLamports cuLimit)).data]) ∧
      (ofKind requestHeapFrame (messageRequests m)).length ≤ 1 ∧
      (ofKind setLoadedAccountsDataSizeLimitTag (messageRequests m)).length ≤ 1
  | .v1 _ => messageRequests m = []
  | .legacy _ => False

/-- Requests that a V0 route may carry: no price, and each kind that the executor keeps at
most once. -/
structure LeavesBudget (requests : List Bytes) : Prop where
  price : ofKind setComputeUnitPriceTag requests = []
  heapFrame : (ofKind requestHeapFrame requests).length ≤ 1
  loadedAccounts : (ofKind setLoadedAccountsDataSizeLimitTag requests).length ≤ 1

theorem LeavesBudget.nil : LeavesBudget [] :=
  ⟨rfl, Nat.zero_le 1, Nat.zero_le 1⟩

/-- The V0 pass strips the limits from the requests. -/
theorem budgetRequests_keeps_v0 (ixs : List Instruction) :
    budgetRequests (ixs.filter (keeps .v0)) =
      (budgetRequests ixs).filter fun data => data.head? ≠ some setComputeUnitLimitTag := by
  induction ixs with
  | nil => rfl
  | cons ix ixs ih =>
    unfold budgetRequests at ih ⊢
    by_cases hprogram : ix.programId = computeBudgetProgram
    · by_cases hlimit : ix.data.head? = some setComputeUnitLimitTag
      · simpa [Instruction.request?, keeps, isComputeUnitLimit, hprogram, hlimit] using ih
      · simpa [Instruction.request?, keeps, isComputeUnitLimit, hprogram, hlimit] using ih
    · simpa [Instruction.request?, keeps, isComputeUnitLimit, hprogram] using ih

theorem budgetRequests_keeps_v1 (ixs : List Instruction) :
    budgetRequests (ixs.filter (keeps .v1)) = [] := by
  refine budgetRequests_eq_nil fun ix hix => ?_
  simpa [keeps] using (List.mem_filter.mp hix).2

/-- Stripping one kind leaves the others alone. -/
theorem ofKind_filter_ne {kind stripped : UInt8} (requests : List Bytes) :
    ofKind kind (requests.filter fun data => data.head? ≠ some stripped) =
      if kind = stripped then [] else ofKind kind requests := by
  rw [ofKind, List.filter_filter]
  split_ifs with h
  · refine List.filter_eq_nil_iff.mpr fun data _ => ?_
    simp [h]
  · refine List.filter_congr fun data _ => ?_
    by_cases hhead : data.head? = some kind
    · simp [hhead, h]
    · simp [hhead]

theorem budgetRequests_tip (payer : Pubkey) (submitter : Submitter) :
    budgetRequests (tipInstructions payer submitter) = [] := by
  refine budgetRequests_eq_nil fun ix hix => ?_
  obtain ⟨account, lamports, rfl⟩ := mem_tipInstructions hix
  exact computeBudgetProgram_ne.1

theorem budgetRequests_budgetInstructions (fee : UInt64) (limit : UInt32) :
    budgetRequests (budgetInstructions .v0 fee limit) =
      [(setComputeUnitLimit limit).data, (setComputeUnitPrice (unitPrice fee limit)).data] := rfl

section Executor

variable [Sdk]

/-- What reaches the built message of a V0 route. -/
theorem messageRequests_v0 (keeps : KeepsInstructions) {payer : Pubkey} {route : Route}
    {fee : UInt64} {submitter : Submitter} {budget : RequestedBudget} {limit : UInt32}
    {tx : VersionedTransaction} (h : BuiltFrom payer route fee submitter budget limit tx)
    (hformat : route.format = .v0) :
    messageRequests tx.message =
      [(setComputeUnitLimit limit).data, (setComputeUnitPrice (unitPrice fee limit)).data] ++
        (budgetRequests route.instructions).filter
          fun data => data.head? ≠ some setComputeUnitLimitTag := by
  rw [budgetRequests_compiled (h.compiled keeps), hformat, budgetRequests_append,
    budgetRequests_append, budgetRequests_tip, List.append_nil, budgetRequests_keeps_v0,
    budgetRequests_budgetInstructions]

/-- **The executor alone sets the budget of a built message** exactly when the message is V1
or its route leaves the budget to the executor. -/
theorem budgetSetByExecutor_iff (keeps : KeepsInstructions) {payer : Pubkey} {route : Route}
    {fee : UInt64} {submitter : Submitter} {budget : RequestedBudget} {limit : UInt32}
    {tx : VersionedTransaction} (h : BuiltFrom payer route fee submitter budget limit tx) :
    BudgetSetByExecutor fee tx.message ↔
      route.format = .v1 ∨ LeavesBudget (budgetRequests route.instructions) := by
  cases hformat : route.format with
  | v0 =>
    have hmessage := h.format
    rw [hformat] at hmessage
    obtain ⟨m, hm⟩ := hmessage
    have hrequests := messageRequests_v0 keeps h hformat
    have hother : ∀ kind, kind ≠ setComputeUnitLimitTag → kind ≠ setComputeUnitPriceTag →
        ofKind kind (messageRequests tx.message) =
          ofKind kind (budgetRequests route.instructions) := by
      intro kind hlimit hprice
      rw [hrequests, ofKind_append, ofKind_filter_ne, if_neg hlimit]
      simp [ofKind, setComputeUnitLimit, setComputeUnitPrice, hlimit.symm, hprice.symm]
    have hlimit : ofKind setComputeUnitLimitTag (messageRequests tx.message) =
        [(setComputeUnitLimit limit).data] := by
      rw [hrequests, ofKind_append, ofKind_filter_ne, if_pos rfl]
      rfl
    have hprice : ofKind setComputeUnitPriceTag (messageRequests tx.message) =
        (setComputeUnitPrice (unitPrice fee limit)).data ::
          ofKind setComputeUnitPriceTag (budgetRequests route.instructions) := by
      rw [hrequests, ofKind_append, ofKind_filter_ne, if_neg (by decide)]
      rfl
    have hheap := hother requestHeapFrame (by decide) (by decide)
    have hloaded := hother setLoadedAccountsDataSizeLimitTag (by decide) (by decide)
    rw [hm] at hlimit hprice hheap hloaded
    rw [hm]
    constructor
    · rintro ⟨⟨limit', -, hprice'⟩, hheap', hloaded'⟩
      rw [hprice] at hprice'
      exact Or.inr ⟨(List.cons.inj hprice').2, hheap ▸ hheap', hloaded ▸ hloaded'⟩
    · rintro (hv1 | hleaves)
      · exact nomatch hv1
      · refine ⟨⟨limit, hlimit, ?_⟩, hheap ▸ hleaves.heapFrame, hloaded ▸ hleaves.loadedAccounts⟩
        rw [hprice, hleaves.price]
  | v1 =>
    have hmessage := h.format
    rw [hformat] at hmessage
    obtain ⟨m, hm⟩ := hmessage
    have hnil : messageRequests tx.message = [] := by
      rw [budgetRequests_compiled (h.compiled keeps), hformat, budgetRequests_append,
        budgetRequests_append, budgetRequests_tip, budgetRequests_keeps_v1]
      rfl
    rw [hm] at hnil ⊢
    exact ⟨fun _ => Or.inl rfl, fun _ => hnil⟩

end Executor

/-! ## 3.  What the adapters let through -/

/-- The instructions of a Jupiter response that the adapter uses. -/
def Jupiter.sentInstructions (response : Aggregators.Jupiter.BuildResponse) :
    List ApiInstruction :=
  response.setupInstructions ++ [response.swapInstruction] ++
    response.cleanupInstruction.toList ++ response.otherInstructions

/-- The instructions of a DFlow response that the adapter uses. -/
def DFlow.sentInstructions (response : Aggregators.DFlow.InstructionsResponse) :
    List ApiInstruction :=
  response.computeBudgetInstructions ++ response.setupInstructions ++
    [response.swapInstruction] ++ response.cleanupInstructions ++ response.otherInstructions

/-- The kinds of requests that `retain_compute_budget` keeps. -/
def RetainedKind (data : Bytes) : Prop :=
  data.head? = some requestHeapFrame ∨ data.head? = some setLoadedAccountsDataSizeLimitTag

instance : DecidablePred RetainedKind :=
  fun _ => inferInstanceAs (Decidable (_ ∨ _))

theorem retainComputeBudget_eq_ok {venue : String} {ix : Instruction} {retained : Bool}
    (h : retainComputeBudget venue ix = .ok retained) :
    (ix.request? = none ∧ retained = true) ∨
      (ix.request? = some ix.data ∧ retained = decide (RetainedKind ix.data)) := by
  unfold retainComputeBudget at h
  by_cases hprogram : ix.programId ≠ computeBudgetProgram
  · rw [if_pos hprogram] at h
    exact Or.inl ⟨request?_eq_none hprogram, (Except.ok.inj h).symm⟩
  · rw [if_neg hprogram] at h
    rw [not_not] at hprogram
    refine Or.inr ⟨if_pos hprogram, ?_⟩
    cases hdata : ix.data with
    | nil =>
      rw [hdata] at h
      exact nomatch h
    | cons tag value =>
      simp only [hdata] at h
      split_ifs at h with hset hkept
      · rw [← Except.ok.inj h]
        refine (decide_eq_false ?_).symm
        rintro (hhead | hhead)
        · rcases hset with ⟨rfl, -⟩ | ⟨rfl, -⟩ <;>
            exact absurd (Option.some.inj hhead) (by decide)
        · rcases hset with ⟨rfl, -⟩ | ⟨rfl, -⟩ <;>
            exact absurd (Option.some.inj hhead) (by decide)
      · rw [← Except.ok.inj h]
        refine (decide_eq_true ?_).symm
        rcases hkept.1 with rfl | rfl
        · exact Or.inl rfl
        · exact Or.inr rfl

/-- What DFlow's filter leaves of a list of requests. -/
theorem leavesBudget_retained (requests : List Bytes) :
    LeavesBudget (requests.filter RetainedKind) ↔
      (ofKind requestHeapFrame requests).length ≤ 1 ∧
        (ofKind setLoadedAccountsDataSizeLimitTag requests).length ≤ 1 := by
  have hkept : ∀ kind : UInt8, (∀ data : Bytes, data.head? = some kind → RetainedKind data) →
      ofKind kind (requests.filter RetainedKind) = ofKind kind requests := by
    intro kind hkind
    rw [ofKind, List.filter_filter]
    refine List.filter_congr fun data _ => ?_
    by_cases hhead : data.head? = some kind
    · simp [hhead, hkind data hhead]
    · simp [hhead]
  have hprice : ofKind setComputeUnitPriceTag (requests.filter RetainedKind) = [] := by
    rw [ofKind, List.filter_filter]
    refine List.filter_eq_nil_iff.mpr fun data _ => ?_
    by_cases hhead : data.head? = some setComputeUnitPriceTag
    · have hnot : ¬ RetainedKind data := by
        rw [RetainedKind, hhead]
        decide
      simp [hnot]
    · simp [hhead]
  have hheap := hkept requestHeapFrame fun _ => Or.inl
  have hloaded := hkept setLoadedAccountsDataSizeLimitTag fun _ => Or.inr
  constructor
  · rintro ⟨-, h₁, h₂⟩
    rw [hheap] at h₁
    rw [hloaded] at h₂
    exact ⟨h₁, h₂⟩
  · rintro ⟨h₁, h₂⟩
    exact ⟨hprice, hheap ▸ h₁, hloaded ▸ h₂⟩

section Adapters

variable [Sdk]

/-- The compute-budget request that a provider's instruction decodes to. -/
def apiRequest? (ix : ApiInstruction) : Option Bytes :=
  match parseKey 32 ix.programId, Sdk.base64Decode ix.data with
  | .ok program, .ok data => if program = computeBudgetProgram then some data else none
  | _, _ => none

/-- The compute-budget requests of a provider's instructions, in order. -/
def apiRequests (ixs : List ApiInstruction) : List Bytes :=
  ixs.filterMap apiRequest?

theorem request?_decodeBase64 {venue : String} {wallet : Pubkey} {payer : Option Pubkey}
    {api : ApiInstruction} {ix : Instruction}
    (h : decodeBase64 venue wallet payer api = .ok ix) : ix.request? = apiRequest? api := by
  unfold decodeBase64 decodeInstruction at h
  obtain ⟨data, hdata, h₁⟩ := bind_eq_ok.mp h
  obtain ⟨accounts, -, h₂⟩ := bind_eq_ok.mp h₁
  obtain ⟨program, hprogram, h₃⟩ := bind_eq_ok.mp h₂
  rw [mapError_eq_ok] at hdata hprogram
  rw [← pure_eq_ok.mp h₃, apiRequest?, hdata, hprogram]
  rfl

/-- Jupiter's instructions are used as they are. -/
theorem Jupiter.budgetRequests_response {response : Aggregators.Jupiter.BuildResponse}
    {wallet : Pubkey} {payer : Option Pubkey} {ixs : List Instruction}
    (h : Jupiter.responseInstructions response wallet payer = .ok ixs) :
    budgetRequests ixs = apiRequests (sentInstructions response) := by
  refine (filterMap_eq_of_forall₂ (fun api ix hix => ?_) (mapM_eq_ok.mp h)).symm
  exact (request?_decodeBase64 hix).symm

/-- One round of DFlow's loop keeps an instruction unless the executor sets its request. -/
theorem DFlow.budgetRequests_keepInstruction {wallet : Pubkey} {payer : Option Pubkey}
    {kept kept' : List Instruction} {api : ApiInstruction}
    (h : DFlow.keepInstruction wallet payer kept api = .ok kept') :
    budgetRequests kept' = budgetRequests kept ++ (apiRequests [api]).filter RetainedKind := by
  obtain ⟨ix, hix, h₁⟩ := bind_eq_ok.mp h
  obtain ⟨retained, hretained, h₂⟩ := bind_eq_ok.mp h₁
  have happ : budgetRequests (kept ++ [ix]) = budgetRequests kept ++ ix.request?.toList := by
    rw [budgetRequests_append]
    cases hrequest : ix.request? <;> simp [budgetRequests, hrequest]
  have hrequest := request?_decodeBase64 hix
  rw [← pure_eq_ok.mp h₂]
  rcases retainComputeBudget_eq_ok hretained with ⟨hnone, rfl⟩ | ⟨hsome, rfl⟩
  · rw [if_pos rfl, happ, hnone]
    simp [apiRequests, ← hrequest, hnone]
  · by_cases hkind : RetainedKind ix.data
    · rw [decide_eq_true hkind, if_pos rfl, happ, hsome]
      simp [apiRequests, ← hrequest, hsome, hkind]
    · rw [decide_eq_false hkind, if_neg Bool.false_ne_true]
      simp [apiRequests, ← hrequest, hsome, hkind]

theorem DFlow.budgetRequests_foldlM {wallet : Pubkey} {payer : Option Pubkey}
    {apis : List ApiInstruction} {kept kept' : List Instruction}
    (h : apis.foldlM (DFlow.keepInstruction wallet payer) kept = .ok kept') :
    budgetRequests kept' = budgetRequests kept ++ (apiRequests apis).filter RetainedKind := by
  induction apis generalizing kept with
  | nil =>
    rw [← pure_eq_ok.mp h]
    exact (List.append_nil _).symm
  | cons api apis ih =>
    rw [List.foldlM_cons] at h
    obtain ⟨next, hnext, hrest⟩ := bind_eq_ok.mp h
    have hsplit : apiRequests ([api] ++ apis) = apiRequests [api] ++ apiRequests apis :=
      List.filterMap_append ..
    rw [List.singleton_append] at hsplit
    rw [ih hrest, DFlow.budgetRequests_keepInstruction hnext, hsplit, List.filter_append,
      List.append_assoc]

theorem DFlow.budgetRequests_response {response : Aggregators.DFlow.InstructionsResponse}
    {wallet : Pubkey} {payer : Option Pubkey} {ixs : List Instruction}
    (h : DFlow.responseInstructions response wallet payer = .ok ixs) :
    budgetRequests ixs = (apiRequests (sentInstructions response)).filter RetainedKind := by
  obtain ⟨-, -, h₁⟩ := bind_eq_ok.mp h
  obtain ⟨kept, hkept, h₂⟩ := bind_eq_ok.mp h₁
  obtain ⟨-, -, h₃⟩ := bind_eq_ok.mp h₂
  rw [← pure_eq_ok.mp h₃]
  exact DFlow.budgetRequests_foldlM hkept

/-! ### Runs of the adapters -/

/-- A provider's answer that leaves the budget to the executor, as far as its adapter does not
see to it. -/
def WellBudgeted : Event Answer → Prop
  | ⟨.jupiterBuild _, .ok response⟩ =>
      LeavesBudget (apiRequests (Jupiter.sentInstructions response))
  | ⟨.dflowInstructions _, .ok response⟩ =>
      (ofKind requestHeapFrame (apiRequests (DFlow.sentInstructions response))).length ≤ 1 ∧
        (ofKind setLoadedAccountsDataSizeLimitTag
          (apiRequests (DFlow.sentInstructions response))).length ≤ 1
  | _ => True

/-- A route needs nothing of the executor's budget exactly when the answers it came from were
well budgeted. -/
def BudgetRun (tr : Trace Answer) (route : PreparedSwap) : Prop :=
  (route.format = .v1 ∨ LeavesBudget (budgetRequests route.instructions)) ↔
    ∀ e ∈ tr, WellBudgeted e

/-- A question whose answer is well budgeted whatever it is. -/
def Query.Unbudgeted (q : Query) : Prop :=
  ∀ answer, WellBudgeted ⟨q, answer⟩

theorem Query.ReadsChain.unbudgeted {q : Query} (h : q.ReadsChain) : q.Unbudgeted := by
  intro answer
  cases q <;> trivial

theorem wellBudgeted_of_unbudgeted {tr : Trace Answer} (h : ∀ e ∈ tr, e.query.Unbudgeted) :
    ∀ e ∈ tr, WellBudgeted e :=
  fun e he => h e he e.answer

theorem Jupiter.budgetRun {trade : Trade} {payer : Option Pubkey} {tr : Trace Answer}
    {route : PreparedSwap}
    (h : (Jupiter.prepareWithPayer trade payer).Runs () tr (.ok route) ()) :
    BudgetRun tr route := by
  unfold Jupiter.prepareWithPayer at h
  obtain ⟨response, s₁, tr₁, tr₂, rfl, hbuild, h₁⟩ := Proc.runs_bind_ok.mp h
  obtain ⟨-, -, h₂⟩ := Proc.runs_ofResult_bind_ok.mp hbuild
  obtain ⟨answer, tr₃, rfl, h₃⟩ := Proc.runs_ask_bind.mp h₂
  obtain ⟨rfl, hanswer, -⟩ := Proc.runs_ofResult.mp h₃
  rw [eq_comm, apiResult_eq_ok] at hanswer
  subst hanswer
  obtain ⟨quote, -, h₄⟩ := Proc.runs_ofResult_bind_ok.mp h₁
  obtain ⟨ixs, hixs, h₅⟩ := Proc.runs_ofResult_bind_ok.mp h₄
  obtain ⟨tables, -, h₆⟩ := Proc.runs_ofResult_bind_ok.mp h₅
  obtain ⟨rfl, hroute, -⟩ := Proc.runs_pure.mp h₆
  cases hroute
  show (_ = TransactionFormat.v1 ∨ LeavesBudget (budgetRequests ixs)) ↔ _
  rw [Jupiter.budgetRequests_response hixs]
  simp [WellBudgeted]

theorem DFlow.budgetRun {trade : Trade} {payer : Option Pubkey} {fee : Option ProviderFee}
    {tr : Trace Answer} {route : PreparedSwap}
    (h : (DFlow.prepareWithFee trade payer fee).Runs () tr (.ok route) ()) :
    BudgetRun tr route := by
  unfold DFlow.prepareWithFee at h
  obtain ⟨⟨raw, quote⟩, s₁, tr₁, tr₂, rfl, hquote, h₁⟩ := Proc.runs_bind_ok.mp h
  have hfetch : (DFlow.fetchQuote trade payer fee).Asks Query.Unbudgeted :=
    (Proc.asks_ofResult _).bind fun _ => (Proc.asks_ask fun _ => trivial).bind fun _ =>
      (Proc.asks_ofResult _).bind fun _ => (Proc.asks_ofResult _).bind fun _ => Proc.asks_pure _
  have hquoted := wellBudgeted_of_unbudgeted (hfetch.runs hquote)
  obtain ⟨answer, tr₃, rfl, h₂⟩ := Proc.runs_ask_bind.mp h₁
  obtain ⟨response, hanswer, h₃⟩ := Proc.runs_ofResult_bind_ok.mp h₂
  rw [apiResult_eq_ok] at hanswer
  subst hanswer
  obtain ⟨ixs, hixs, h₄⟩ := Proc.runs_ofResult_bind_ok.mp h₃
  obtain ⟨addresses, -, h₅⟩ := Proc.runs_ofResult_bind_ok.mp h₄
  obtain ⟨tables, s₂, tr₄, tr₅, rfl, htables, h₆⟩ := Proc.runs_bind_ok.mp h₅
  obtain ⟨rfl, hroute, -⟩ := Proc.runs_pure.mp h₆
  have hloaded := wellBudgeted_of_unbudgeted fun e he =>
    ((asks_loadUnseen _ _).runs htables e he).unbudgeted
  have hformat : route.format = .v0 := by rw [Except.ok.inj hroute]
  have hrequests : budgetRequests route.instructions =
      (apiRequests (DFlow.sentInstructions response)).filter RetainedKind := by
    rw [Except.ok.inj hroute, ← DFlow.budgetRequests_response hixs]
    cases fee with
    | none => rfl
    | some fee =>
      exact List.filterMap_cons_none (request?_eq_none computeBudgetProgram_ne.2.2)
  rw [BudgetRun, hformat, hrequests, leavesBudget_retained]
  constructor
  · rintro (hv1 | hleaves) e he
    · exact nomatch hv1
    rcases List.mem_append.mp he with he | he
    · exact hquoted e he
    rcases List.mem_cons.mp he with rfl | he
    · exact hleaves
    · rw [List.append_nil] at he
      exact hloaded e he
  · intro hall
    exact Or.inr (hall ⟨.dflowInstructions _, .ok response⟩
      (List.mem_append_right _ List.mem_cons_self))

/-- A run that asks neither Jupiter nor DFlow, and ends with a V1 route or with one that
requests nothing. -/
theorem budgetRun_of_unbudgeted {tr : Trace Answer} {route : PreparedSwap}
    (hasks : ∀ e ∈ tr, e.query.Unbudgeted)
    (hroute : route.format = .v1 ∨ budgetRequests route.instructions = []) :
    BudgetRun tr route := by
  have hall := wellBudgeted_of_unbudgeted hasks
  refine ⟨fun _ => hall, fun _ => hroute.imp id fun hnil => ?_⟩
  rw [hnil]
  exact .nil

theorem Bloxroute.budgetRun {trade : Trade} {payer : Option Pubkey} {fee : Option ProviderFee}
    {tr : Trace Answer} {route : PreparedSwap}
    (h : (Bloxroute.prepareWithFee trade payer fee).Runs () tr (.ok route) ()) :
    BudgetRun tr route := by
  refine budgetRun_of_unbudgeted
    ((Bloxroute.asks_prepareWithFee (fun _ _ => trivial) _ _ _).runs h) (Or.inl ?_)
  obtain ⟨request, response, -, -, hroute⟩ := Bloxroute.runs_prepareWithFee h
  obtain ⟨config, setup, swap, -, -, -, -, hformat, -⟩ := Bloxroute.responsePrepare_eq_ok hroute
  exact hformat

theorem Relay.budgetRun {trade : Trade} {payer : Option Pubkey} {fee : Option ProviderFee}
    {tr : Trace Answer} {route : PreparedSwap}
    (h : (Relay.prepareWithFee trade payer fee).Runs () tr (.ok route) ()) :
    BudgetRun tr route := by
  refine budgetRun_of_unbudgeted
    ((Relay.asks_prepareWithFee (fun _ _ => trivial) _ _ _).runs h) (Or.inl ?_)
  obtain ⟨data, -, hformat⟩ := Relay.runs_prepareWithFee h
  exact hformat

section Native

theorem PumpFun.budgetRequests_swapInstructions (p : Trade) (curve : PumpFun.Curve)
    (fees : PumpFun.FeeSettings) (quote : Quote) :
    budgetRequests (PumpFun.swapInstructions p curve fees quote) = [] := by
  obtain ⟨-, -, -, hprogram⟩ := PumpFun.programId_ne
  refine budgetRequests_eq_nil fun ix hix => ?_
  unfold PumpFun.swapInstructions at hix
  cases hside : p.side with
  | buy =>
    simp only [hside, List.mem_cons, List.not_mem_nil, or_false] at hix
    rcases hix with rfl | rfl
    · exact computeBudgetProgram_ne.2.2
    · exact hprogram
  | sell =>
    simp only [hside, List.mem_cons, List.not_mem_nil, or_false] at hix
    rw [hix]
    exact hprogram

theorem PumpSwap.budgetRequests_swapInstructions (p : Trade) (address : Pubkey)
    (pool : PumpSwap.PoolState) (fees : PumpSwap.FeeSettings) (quote : Quote) :
    budgetRequests (PumpSwap.swapInstructions p address pool fees quote) = [] := by
  obtain ⟨-, -, -, hprogram⟩ := PumpSwap.programId_ne
  obtain ⟨hsystem, htoken, hata⟩ := computeBudgetProgram_ne
  refine budgetRequests_eq_nil fun ix hix => ?_
  unfold PumpSwap.swapInstructions PumpSwap.buyInstructions PumpSwap.sellInstructions at hix
  cases hside : p.side with
  | buy =>
    simp only [hside, List.mem_cons, List.not_mem_nil, or_false] at hix
    rcases hix with rfl | rfl | rfl | rfl | rfl | rfl
    · exact hata
    · exact hata
    · exact hsystem
    · exact htoken
    · exact hprogram
    · exact htoken
  | sell =>
    simp only [hside, List.mem_cons, List.not_mem_nil, or_false] at hix
    rcases hix with rfl | rfl | rfl
    · exact hata
    · exact hprogram
    · exact htoken

variable [Profile]

theorem PumpFun.budgetRun {cached : Option PumpFun.FeeSettings} {trade : Trade}
    {tr : Trace Answer} {route : PreparedSwap}
    (h : (PumpFun.prepareSwap cached trade).Runs () tr (.ok route) ()) : BudgetRun tr route := by
  have hasks := (PumpFun.asks_prepareSwap cached trade).runs h
  have hnil : budgetRequests route.instructions = [] := by
    obtain ⟨curve, fees, -, hixs⟩ := PumpFun.runs_prepareSwap h
    rw [hixs]
    exact PumpFun.budgetRequests_swapInstructions _ _ _ _
  exact budgetRun_of_unbudgeted (fun e he => (hasks e he).unbudgeted) (Or.inr hnil)

theorem PumpSwap.budgetRun {cached : Option PumpSwap.FeeSettings} {trade : Trade}
    {tr : Trace Answer} {route : PreparedSwap}
    (h : (PumpSwap.prepareSwap cached trade).Runs () tr (.ok route) ()) :
    BudgetRun tr route := by
  have hasks := (PumpSwap.asks_prepareSwap cached trade).runs h
  have hnil : budgetRequests route.instructions = [] := by
    obtain ⟨pool, fees, -, -, hixs⟩ := PumpSwap.runs_prepareSwap h
    rw [hixs]
    exact PumpSwap.budgetRequests_swapInstructions _ _ _ _ _
  exact budgetRun_of_unbudgeted (fun e he => (hasks e he).unbudgeted) (Or.inr hnil)

end Native

/-! ## 4.  Whole runs -/

theorem FeeInstruction.programId_ne {trade : Trade} {ix : Instruction}
    (h : FeeInstruction trade ix) : ix.programId ≠ computeBudgetProgram := by
  cases h with
  | lamports recipient amount _ => exact computeBudgetProgram_ne.1
  | usdcAccount payer recipient _ => exact computeBudgetProgram_ne.2.2
  | usdc recipient amount _ => exact computeBudgetProgram_ne.2.1

/-- The fees ask for no compute budget. -/
theorem AppendsFees.budgetRequests {trade : Trade} {amount : ℕ} {ixs ixs' : List Instruction}
    (h : AppendsFees trade amount ixs ixs') : budgetRequests ixs' = budgetRequests ixs := by
  obtain ⟨fees, rfl, hfees, -⟩ := h
  rw [budgetRequests_append, budgetRequests_eq_nil fun ix hix => (hfees ix hix).programId_ne,
    List.append_nil]

theorem applyToSwap_format {sponsor : GasSponsor} {trade : Trade}
    {route prepared : PreparedSwap} (h : sponsor.applyToSwap trade route = .ok prepared) :
    prepared.format = route.format := by
  unfold GasSponsor.applyToSwap at h
  cases hside : trade.side with
  | buy =>
    simp only [hside, appendUsdcFee_eq, pure_bind, ok_bind, pure_eq_ok] at h
    rw [← h]
  | sell =>
    simp only [hside, appendUsdcFee_eq, ok_bind, pure_bind] at h
    obtain ⟨m, -, h₁⟩ := bind_eq_ok.mp h
    obtain ⟨e, -, h₂⟩ := bind_eq_ok.mp h₁
    rw [← pure_eq_ok.mp h₂]

section Runs

variable [Profile]

/-- An adapter asked without a provider fee, with a sponsor or without. -/
theorem budgetRun_sourceAdapter {client : TradingClient} {source : QuoteSource} {trade : Trade}
    {tr : Trace Answer} {route : PreparedSwap} :
    (((client.sourceAdapter source).prepareSwap trade).Runs () tr (.ok route) () →
        BudgetRun tr route) ∧
      ∀ sponsor, ((client.sourceAdapter source).prepareSponsoredSwap trade sponsor).Runs () tr
        (.ok route) () → BudgetRun tr route := by
  cases source with
  | jupiter =>
    exact ⟨fun h => Jupiter.budgetRun (runs_anyhowTask_ok h),
      fun _ h => Jupiter.budgetRun (runs_anyhowTask_ok h)⟩
  | dflow =>
    exact ⟨fun h => DFlow.budgetRun (runs_anyhowTask_ok h),
      fun _ h => DFlow.budgetRun (runs_anyhowTask_ok h)⟩
  | bloxroute =>
    exact ⟨fun h => Bloxroute.budgetRun (runs_anyhowTask_ok h),
      fun _ h => Bloxroute.budgetRun (runs_anyhowTask_ok h)⟩
  | relay =>
    exact ⟨fun h => Relay.budgetRun (runs_anyhowTask_ok h),
      fun _ h => Relay.budgetRun (runs_anyhowTask_ok h)⟩
  | pumpFun =>
    exact ⟨PumpFun.budgetRun, fun _ h => nomatch (Proc.runs_throw.mp h).2.1⟩
  | pumpSwap =>
    exact ⟨PumpSwap.budgetRun, fun _ h => nomatch (Proc.runs_throw.mp h).2.1⟩

theorem budgetRun_prepareRoute {client : TradingClient} {source : QuoteSource} {trade : Trade}
    {providerFee : Option ProviderFee} {tr : Trace Answer} {route : PreparedSwap}
    (h : (client.prepareRoute source trade providerFee).Runs () tr (.ok route) ()) :
    BudgetRun tr route := by
  cases providerFee with
  | some fee =>
    cases source with
    | bloxroute => exact Bloxroute.budgetRun h
    | dflow => exact DFlow.budgetRun h
    | relay => exact Relay.budgetRun h
    | jupiter => exact nomatch (Proc.runs_throw.mp h).2.1
    | pumpFun => exact nomatch (Proc.runs_throw.mp h).2.1
    | pumpSwap => exact nomatch (Proc.runs_throw.mp h).2.1
  | none =>
    have hadapter := runs_dexErr_ok h
    cases hsponsor : client.sponsorFor trade with
    | some sponsor =>
      rw [hsponsor] at hadapter
      exact budgetRun_sourceAdapter.2 _ hadapter
    | none =>
      rw [hsponsor] at hadapter
      exact budgetRun_sourceAdapter.1 hadapter

theorem applyWithPayer_format {fee : SdkFee} {trade : Trade} {route prepared : PreparedSwap}
    {payer : Pubkey} (h : fee.applyWithPayer trade route payer = .ok prepared) :
    prepared.format = route.format := by
  unfold SdkFee.applyWithPayer at h
  obtain ⟨quote, -, h₁⟩ := bind_eq_ok.mp h
  by_cases hfee : quote.applicationFee > 0
  · cases hsettlement : trade.settlement with
    | sol =>
      simp only [hfee, if_true, hsettlement, pure_eq_ok] at h₁
      rw [← h₁]
    | usdc =>
      simp only [hfee, if_true, hsettlement, appendUsdcFee_eq, ok_bind, pure_eq_ok] at h₁
      rw [← h₁]
  · simp only [hfee, if_false, pure_eq_ok] at h₁
    rw [← h₁]

/-- Fees do not change the layout of a route. -/
theorem appendFees_format {client : TradingClient} {trade : Trade} {transferFee : Option SdkFee}
    {route charged : PreparedSwap}
    (h : client.appendFees trade route transferFee = .ok charged) :
    charged.format = route.format := by
  rw [TradingClient.appendFees_eq] at h
  obtain ⟨paid, hpaid, h₁⟩ := bind_eq_ok.mp h
  have hformat : paid.format = route.format := by
    cases transferFee with
    | none => rw [← Except.ok.inj hpaid]
    | some fee => exact applyWithPayer_format hpaid
  cases hsponsor : client.sponsorFor trade with
  | none =>
    rw [hsponsor] at h₁
    rw [← Except.ok.inj h₁]
    exact hformat
  | some sponsor =>
    rw [hsponsor] at h₁
    exact (applyToSwap_format h₁).trans hformat

/-- **The executor alone sets the compute budget, exactly when the provider's answers were
well budgeted.**  Whatever the source, the fees, the sponsorship and the tip are. -/
theorem budgetSetByExecutor_iff_answers (keeps : KeepsInstructions) {client : TradingClient}
    {trade : Trade} {tr : Trace Answer} {prepared : PreparedSwap}
    (hprepared : (client.prepareSelectedSwap trade).Runs () tr (.ok prepared) ())
    {payer : Pubkey} {lookupTables : List AddressLookupTableAccount} {fee : UInt64}
    {submitter : Submitter} {s s' : σ} {tr' : Trace Answer} {tx : VersionedTransaction}
    (hbuilt : (buildTransaction payer ⟨prepared.instructions, lookupTables, prepared.format⟩ fee
      submitter).Runs s tr' (.ok tx) s') :
    BudgetSetByExecutor fee tx.message ↔ ∀ e ∈ tr, WellBudgeted e := by
  obtain ⟨budget, limit, hfrom⟩ := runs_buildTransaction hbuilt
  obtain ⟨providerFee, routed, route, charged, hpreparing⟩ := runs_prepareSelectedSwap hprepared
  obtain ⟨trRoute, hinside, hbeside, hroute⟩ := hpreparing.answered
  obtain ⟨-, -, -, hpos, -⟩ := validateCandidate_eq_ok hpreparing.candidate
  have hcharged := TradingClient.appendFees_eq_ok hpreparing.appended hpos
  have hformat : prepared.format = route.format := by
    obtain ⟨usdValue, rfl⟩ := hpreparing.shown
    show charged.format = route.format
    exact appendFees_format hpreparing.appended
  have hrequests : budgetRequests prepared.instructions = budgetRequests route.instructions := by
    obtain ⟨usdValue, rfl⟩ := hpreparing.shown
    exact hcharged.instructions.budgetRequests
  have hanswers : _ ↔ ∀ e ∈ trRoute, WellBudgeted e := budgetRun_prepareRoute hroute
  rw [budgetSetByExecutor_iff keeps hfrom, hformat, hrequests, hanswers]
  constructor
  · intro hwell e he
    rcases hbeside e he with hrouted | hreads
    · exact hwell e hrouted
    · exact hreads.unbudgeted e.answer
  · intro hwell e he
    exact hwell e (hinside e he)

end Runs
end Adapters

/-! ### A response that sets a price -/

/-- A Jupiter response whose setup contains a compute-unit price of its own. -/
def pricedResponse : Aggregators.Jupiter.BuildResponse where
  inputMint := keyText usdcMint
  outputMint := keyText sampleMint
  swapMode := Jupiter.exactInputMode
  inAmount := "10000000"
  outAmount := "500"
  otherAmountThreshold := "495"
  setupInstructions := [⟨keyText computeBudgetProgram, [], "AwEAAAAAAAAA"⟩]
  swapInstruction := ⟨keyText sampleMint, [⟨keyText sampleUser, true, true⟩], "Bw=="⟩
  cleanupInstruction := none
  otherInstructions := []
  addressesByLookupTableAddress := none

def jupiterBackend (response : Aggregators.Jupiter.BuildResponse) (i : ℕ) (q : Query) :
    Answer q :=
  match q with
  | .jupiterBuild _ => .ok response
  | q => sampleNode i q

/-- Preparing a trade and building its transaction, as a submission does. -/
def prepareAndBuild [Sdk] [Profile] (client : TradingClient) (trade : Trade) (fee : UInt64) :
    Task Unit VersionedTransaction := do
  let prepared ← client.prepareSelectedSwap trade
  buildTransaction trade.wallet ⟨prepared.instructions, [], prepared.format⟩ fee ⟨none⟩

theorem budgetSetByExecutor_iff_answers_sample :
    let := sampleSdk
    let : Profile := ⟨true⟩
    ∃ tr prepared tr' tx,
      (TradingClient.new.withoutUsdValue.prepareSelectedSwap sampleTrade).Runs () tr
        (.ok prepared) () ∧
      (buildTransaction sampleUser ⟨prepared.instructions, [], prepared.format⟩ 5000 ⟨none⟩ :
        Task Unit _).Runs () tr' (.ok tx) () ∧
      (BudgetSetByExecutor 5000 tx.message ↔ ∀ e ∈ tr, WellBudgeted e) := by
  intro sdk profile
  obtain ⟨_, tx, _, hrun⟩ := Proc.runs_ok_of_exec
    (jupiterBackend { pricedResponse with setupInstructions := [] }) (fun _ => 1)
    (prepareAndBuild TradingClient.new.withoutUsdValue sampleTrade 5000) () (by decide +kernel)
  obtain ⟨prepared, _, tr, tr', -, hprepared, hbuilt⟩ := Proc.runs_bind_ok.mp hrun
  exact ⟨tr, prepared, tr', tx, hprepared, hbuilt,
    budgetSetByExecutor_iff_answers (referenceSdk_keepsInstructions sampleDerived) hprepared hbuilt⟩

/-- How many prices a built message carries. -/
def builtPrices : TradeResult VersionedTransaction → ℕ
  | .ok tx => (ofKind setComputeUnitPriceTag (messageRequests tx.message)).length
  | .error _ => 0

/-- **A provider overrides the priority fee**: the price of a Jupiter response reaches the
message beside the executor's own. -/
theorem jupiter_overrides_price :
    let := sampleSdk
    let : Profile := ⟨true⟩
    ∃ tr prepared tr' tx,
      (TradingClient.new.withoutUsdValue.prepareSelectedSwap sampleTrade).Runs () tr
        (.ok prepared) () ∧
      (buildTransaction sampleUser ⟨prepared.instructions, [], prepared.format⟩ 5000 ⟨none⟩ :
        Task Unit _).Runs () tr' (.ok tx) () ∧
      ¬ BudgetSetByExecutor 5000 tx.message := by
  intro sdk profile
  obtain ⟨_, r, _, hrun, htwo⟩ := Proc.runs_of_exec_prop (jupiterBackend pricedResponse)
    (fun _ => 1) (prepareAndBuild TradingClient.new.withoutUsdValue sampleTrade 5000) ()
    (fun _ r => builtPrices r = 2) (by decide +kernel)
  cases r with
  | error e => exact nomatch htwo
  | ok tx =>
    obtain ⟨prepared, _, tr, tr', -, hprepared, hbuilt⟩ := Proc.runs_bind_ok.mp hrun
    refine ⟨tr, prepared, tr', tx, hprepared, hbuilt, fun hset => ?_⟩
    have hlength : (ofKind setComputeUnitPriceTag (messageRequests tx.message)).length = 2 := htwo
    unfold BudgetSetByExecutor at hset
    split at hset
    · next m hm =>
      obtain ⟨⟨limit, -, hone⟩, -⟩ := hset
      rw [hone] at hlength
      exact nomatch hlength
    · next m hm =>
      rw [hset] at hlength
      exact nomatch hlength
    · exact hset

end Solana
end TradingAggregators
