import Mathlib.Data.List.Permutation
import TradingAggregators.Solana.ComputeBudget
import TradingAggregators.Solana.SponsoredSetup

/-!
# The compute budget that a provider asks for

A provider states its compute budget as a configuration, or as instructions among its own.  The
configuration is written as compute-budget instructions, which `RequestedBudget.take` reads back
and a V1 message carries in its header.

## 1.  Reading requests

`record_foldlM` and `take_v1_eq_ok`: what is read are the requests among the instructions.

## 2.  A configuration survives

`take_config`: the instructions of a configuration are read back as they were written, wherever
they stand.  `budget_settings_survive` carries this to the header of a bloXroute transaction.

## 3.  Limits

A configuration is within its limits.  A provider's own instructions need not be
(`relay_limits_checked_iff`).
-/

namespace TradingAggregators
namespace Solana

open Aggregators (TransactionConfig)
open Interaction Interaction.Program Rust Wire

variable {σ : Type}

/-! ## 1.  Reading requests -/

theorem readU32_eq_some {bytes : Bytes} {v : UInt32} : readU32 bytes = some v ↔ bytes = le32 v := by
  unfold readU32 le32
  constructor
  · intro h
    split_ifs at h with hlength
    obtain rfl := Option.some.inj h
    have hlt : ofLeBytes bytes < 2 ^ 32 := by
      simpa [hlength] using ofLeBytes_lt bytes
    rw [UInt32.toNat_ofNat_of_lt' hlt, ← hlength, leBytes_ofLeBytes]
  · rintro rfl
    rw [if_pos (length_leBytes 4 v.toNat), ofLeBytes_leBytes (by exact v.toNat_lt),
      UInt32.ofNat_toNat]

theorem le32_inj {v w : UInt32} : le32 v = le32 w ↔ v = w := by
  rw [← readU32_eq_some, readU32_eq_some.mpr rfl, Option.some.injEq]

theorem budgetValue_eq_ok {ix : Instruction} {tag : UInt8} {v : UInt32} :
    budgetValue ix = .ok (tag, v) ↔ ix.data = tag :: le32 v := by
  unfold budgetValue
  cases hdata : ix.data with
  | nil => exact ⟨fun h => (nomatch h), fun h => (nomatch h)⟩
  | cons tag' value =>
    simp only [bind_eq_ok, okOr_eq_ok, pure_eq_ok, Prod.mk.injEq, List.cons.injEq]
    constructor
    · rintro ⟨v', hv, rfl, rfl⟩
      exact ⟨rfl, readU32_eq_some.mp hv⟩
    · rintro ⟨rfl, hvalue⟩
      exact ⟨v, readU32_eq_some.mpr hvalue, rfl, rfl⟩

namespace RequestedBudget

/-- One round fills one of the two fields, which was empty. -/
theorem record_eq_ok {budget budget' : RequestedBudget} {ix : Instruction}
    (h : budget.record ix = .ok budget') :
    ∃ v, (ix.data = requestHeapFrame :: le32 v ∧ budget.heapSize = none ∧
        budget' = { budget with heapSize := some v }) ∨
      (ix.data = setLoadedAccountsDataSizeLimitTag :: le32 v ∧
        budget.loadedAccountsDataSizeLimit = none ∧
        budget' = { budget with loadedAccountsDataSizeLimit := some v }) := by
  obtain ⟨⟨tag, v⟩, hvalue, h₁⟩ := bind_eq_ok.mp h
  rw [budgetValue_eq_ok] at hvalue
  dsimp only at h₁
  refine ⟨v, ?_⟩
  split_ifs at h₁ with hheap hloaded
  · obtain ⟨_, hnone, h₂⟩ := bind_eq_ok.mp h₁
    rw [failIf_eq_ok, Option.not_isSome_iff_eq_none] at hnone
    exact Or.inl ⟨hheap ▸ hvalue, hnone, (pure_eq_ok.mp h₂).symm⟩
  · obtain ⟨_, hnone, h₂⟩ := bind_eq_ok.mp h₁
    rw [failIf_eq_ok, Option.not_isSome_iff_eq_none] at hnone
    exact Or.inr ⟨hloaded ▸ hvalue, hnone, (pure_eq_ok.mp h₂).symm⟩

/-- What a pass over compute-budget instructions has read. -/
theorem record_foldlM {ixs : List Instruction} {budget budget' : RequestedBudget}
    (h : ixs.foldlM record budget = .ok budget') (v : UInt32) :
    (budget'.heapSize = some v ↔
        budget.heapSize = some v ∨ requestHeapFrame :: le32 v ∈ ixs.map Instruction.data) ∧
      (budget'.loadedAccountsDataSizeLimit = some v ↔
        budget.loadedAccountsDataSizeLimit = some v ∨
          setLoadedAccountsDataSizeLimitTag :: le32 v ∈ ixs.map Instruction.data) := by
  induction ixs generalizing budget with
  | nil =>
    obtain rfl := pure_eq_ok.mp h
    simp
  | cons ix ixs ih =>
    rw [List.foldlM_cons] at h
    obtain ⟨next, hnext, hrest⟩ := bind_eq_ok.mp h
    obtain ⟨hheap, hloaded⟩ := ih hrest
    rw [hheap, hloaded]
    have hne : requestHeapFrame ≠ setLoadedAccountsDataSizeLimitTag := by
      decide
    obtain ⟨v', ⟨hdata, hnone, rfl⟩ | ⟨hdata, hnone, rfl⟩⟩ := record_eq_ok hnext
    · simp [hdata, hnone, le32_inj, hne.symm, eq_comm (a := v')]
    · simp [hdata, hnone, le32_inj, hne, eq_comm (a := v')]

/-- The requests that a V1 route is read for. -/
theorem take_v1_eq_ok {ixs kept : List Instruction} {budget : RequestedBudget}
    (h : take ixs .v1 = .ok (budget, kept)) (v : UInt32) :
    (budget.heapSize = some v ↔ requestHeapFrame :: le32 v ∈ budgetRequests ixs) ∧
      (budget.loadedAccountsDataSizeLimit = some v ↔
        setLoadedAccountsDataSizeLimitTag :: le32 v ∈ budgetRequests ixs) := by
  obtain ⟨⟨limit, rest⟩, hlimit, h₁⟩ := bind_eq_ok.mp h
  obtain ⟨-, rfl⟩ := takeComputeUnitLimit_eq_ok hlimit
  obtain ⟨budget', hfold, hpair⟩ := bind_eq_ok.mp h₁
  obtain ⟨rfl, -⟩ := Prod.mk.inj (pure_eq_ok.mp hpair)
  have hmem : ∀ tag, tag ≠ setComputeUnitLimitTag →
      (tag :: le32 v ∈ ((ixs.filter (keeps .v0)).filter fun ix =>
          ix.programId = computeBudgetProgram).map Instruction.data ↔
        tag :: le32 v ∈ budgetRequests ixs) := by
    intro tag htag
    simp only [budgetRequests, List.mem_map, List.mem_filter, List.mem_filterMap]
    refine exists_congr fun ix => ?_
    by_cases hprogram : ix.programId = computeBudgetProgram
    · simp only [keeps, isComputeUnitLimit, Instruction.request?, hprogram, and_assoc]
      refine and_congr_right fun _ => ⟨fun hdata => by simpa using hdata.2.2, fun hdata => ?_⟩
      have hdata : ix.data = tag :: le32 v := by simpa using hdata
      simp [hdata, htag]
    · simp [Instruction.request?, hprogram]
  have hfields := record_foldlM hfold v
  rw [hmem requestHeapFrame (by decide), hmem setLoadedAccountsDataSizeLimitTag (by decide)]
    at hfields
  simpa using hfields

end RequestedBudget

/-! ## 2.  A configuration survives -/

/-- The budget that a configuration asks for. -/
def requestedBy (config : TransactionConfig) : RequestedBudget where
  computeUnitLimit := config.computeUnitLimit
  loadedAccountsDataSizeLimit := config.loadedAccountsDataSizeLimit
  heapSize := config.heapSize

/-- Rearranging at most one element changes nothing. -/
theorem eq_of_perm_toList {α : Type} {l : List α} {o : Option α} (h : l.Perm o.toList) :
    l = o.toList := by
  cases o with
  | none => exact List.perm_nil.mp h
  | some a => exact List.perm_singleton.mp h

section Config

variable {config : TransactionConfig} {ixs : List Instruction}

theorem takeLimit_config (h : ConfigInstructions config ixs) :
    (config.computeUnitLimit.map setComputeUnitLimit).toList.foldlM takeLimit none =
      .ok config.computeUnitLimit := by
  cases hlimit : config.computeUnitLimit with
  | none => rfl
  | some limit =>
    have hbounds := h.limit limit hlimit
    have htake : takeLimit none (setComputeUnitLimit limit) = .ok (some limit) := by
      refine bind_eq_ok.mpr ⟨limit, okOr_eq_ok.mpr (readU32_eq_some.mpr rfl), ?_⟩
      refine bind_eq_ok.mpr ⟨(), failIf_eq_ok.mpr ?_, rfl⟩
      simpa [setComputeUnitLimit, cuLimitMax] using hbounds
    exact bind_eq_ok.mpr ⟨_, htake, rfl⟩

namespace RequestedBudget

theorem record_heap {requested : RequestedBudget} (h : requested.heapSize = none) (v : UInt32) :
    requested.record (budget requestHeapFrame v) = .ok { requested with heapSize := some v } := by
  refine bind_eq_ok.mpr ⟨(requestHeapFrame, v), budgetValue_eq_ok.mpr rfl, ?_⟩
  simp [h, failIf]

theorem record_loaded {requested : RequestedBudget}
    (h : requested.loadedAccountsDataSizeLimit = none) (v : UInt32) :
    requested.record (budget setLoadedAccountsDataSizeLimitTag v) =
      .ok { requested with loadedAccountsDataSizeLimit := some v } := by
  refine bind_eq_ok.mpr
    ⟨(setLoadedAccountsDataSizeLimitTag, v), budgetValue_eq_ok.mpr rfl, ?_⟩
  simp [h, failIf, setLoadedAccountsDataSizeLimitTag, requestHeapFrame]

/-- The two requests that are left of a configuration are read in either order. -/
theorem record_config (limit : Option UInt32) {l : List Instruction}
    (h : l.Perm ((config.loadedAccountsDataSizeLimit.map
        (budget setLoadedAccountsDataSizeLimitTag)).toList ++
      (config.heapSize.map (budget requestHeapFrame)).toList)) :
    l.foldlM record ⟨limit, none, none⟩ =
      .ok ⟨limit, config.loadedAccountsDataSizeLimit, config.heapSize⟩ := by
  cases hloaded : config.loadedAccountsDataSizeLimit with
  | none =>
    rw [hloaded, Option.map_none, Option.toList_none, List.nil_append] at h
    rw [eq_of_perm_toList h]
    cases config.heapSize with
    | none => rfl
    | some heap => exact bind_eq_ok.mpr ⟨_, record_heap rfl heap, rfl⟩
  | some size =>
    rw [hloaded] at h
    cases hheap : config.heapSize with
    | none =>
      rw [hheap] at h
      rw [List.perm_singleton.mp h]
      exact bind_eq_ok.mpr ⟨_, record_loaded rfl size, rfl⟩
    | some heap =>
      rw [hheap] at h
      rcases List.perm_pair.mp h with rfl | rfl
      · exact bind_eq_ok.mpr ⟨_, record_loaded rfl size,
          bind_eq_ok.mpr ⟨_, record_heap rfl heap, rfl⟩⟩
      · exact bind_eq_ok.mpr ⟨_, record_heap rfl heap,
          bind_eq_ok.mpr ⟨_, record_loaded rfl size, rfl⟩⟩

end RequestedBudget

theorem ConfigInstructions.filter_limit (h : ConfigInstructions config ixs) :
    ixs.filter isComputeUnitLimit =
      (config.computeUnitLimit.map setComputeUnitLimit).toList := by
  have hkinds : ∀ v, isComputeUnitLimit (setComputeUnitLimit v) = true ∧
      isComputeUnitLimit (budget setLoadedAccountsDataSizeLimitTag v) = false ∧
      isComputeUnitLimit (budget requestHeapFrame v) = false :=
    fun v => ⟨rfl, rfl, rfl⟩
  rw [h.instructions]
  cases config.computeUnitLimit <;> cases config.loadedAccountsDataSizeLimit <;>
    cases config.heapSize <;> simp [hkinds]

theorem ConfigInstructions.filter_kept (h : ConfigInstructions config ixs) :
    ixs.filter (keeps .v0) = (config.loadedAccountsDataSizeLimit.map
        (budget setLoadedAccountsDataSizeLimitTag)).toList ++
      (config.heapSize.map (budget requestHeapFrame)).toList := by
  have hkinds : ∀ v, keeps .v0 (setComputeUnitLimit v) = false ∧
      keeps .v0 (budget setLoadedAccountsDataSizeLimitTag v) = true ∧
      keeps .v0 (budget requestHeapFrame v) = true :=
    fun v => ⟨rfl, rfl, rfl⟩
  rw [h.instructions]
  cases config.computeUnitLimit <;> cases config.loadedAccountsDataSizeLimit <;>
    cases config.heapSize <;> simp [hkinds]

/-- **The budget of a configuration is read back**, wherever its instructions stand among others:
V0 takes the unit limit out and keeps the rest, V1 takes everything. -/
theorem take_config (h : ConfigInstructions config ixs) {l : List Instruction}
    (hperm : (l.filter fun ix => ix.programId = computeBudgetProgram).Perm ixs) :
    RequestedBudget.take l .v0 =
        .ok ({ requestedBy config with loadedAccountsDataSizeLimit := none, heapSize := none },
          l.filter (keeps .v0)) ∧
      RequestedBudget.take l .v1 = .ok (requestedBy config, l.filter (keeps .v1)) := by
  have hlimits : l.filter isComputeUnitLimit =
      (config.computeUnitLimit.map setComputeUnitLimit).toList := by
    have hsplit : l.filter isComputeUnitLimit =
        (l.filter fun ix => ix.programId = computeBudgetProgram).filter isComputeUnitLimit := by
      rw [List.filter_filter]
      refine List.filter_congr fun ix _ => ?_
      by_cases hprogram : ix.programId = computeBudgetProgram <;>
        simp [isComputeUnitLimit, hprogram]
    rw [hsplit]
    refine eq_of_perm_toList ?_
    rw [← h.filter_limit]
    exact hperm.filter _
  have htake : takeComputeUnitLimit l = .ok (config.computeUnitLimit, l.filter (keeps .v0)) := by
    refine bind_eq_ok.mpr ⟨config.computeUnitLimit, ?_, rfl⟩
    rw [hlimits, takeLimit_config h]
  constructor
  · exact bind_eq_ok.mpr ⟨_, htake, rfl⟩
  · refine bind_eq_ok.mpr ⟨_, htake, bind_eq_ok.mpr ⟨requestedBy config, ?_, ?_⟩⟩
    · refine RequestedBudget.record_config _ ?_
      rw [← h.filter_kept, List.filter_comm]
      exact hperm.filter _
    · rw [pure_eq_ok, Prod.mk.injEq]
      exact ⟨rfl, filter_keeps_v1 l⟩

theorem take_config_between (h : ConfigInstructions config ixs) {xs ys : List Instruction}
    (hothers : ∀ ix ∈ xs ++ ys, ix.programId ≠ computeBudgetProgram) :
    RequestedBudget.take (xs ++ ixs ++ ys) .v1 = .ok (requestedBy config, xs ++ ys) := by
  have hnone : ∀ zs, zs ⊆ xs ++ ys →
      zs.filter (fun ix => ix.programId = computeBudgetProgram) = [] ∧
        zs.filter (keeps .v1) = zs := by
    intro zs hsub
    constructor
    · exact List.filter_eq_nil_iff.mpr fun ix hix => by simpa using hothers ix (hsub hix)
    · exact List.filter_eq_self.mpr fun ix hix => keeps_of_programId_ne (hothers ix (hsub hix))
  obtain ⟨hxs, hxs'⟩ := hnone xs (List.subset_append_left _ _)
  obtain ⟨hys, hys'⟩ := hnone ys (List.subset_append_right _ _)
  have hixs : ixs.filter (fun ix => ix.programId = computeBudgetProgram) = ixs :=
    List.filter_eq_self.mpr fun ix hix => decide_eq_true (h.programId ix hix)
  have hixs' : ixs.filter (keeps .v1) = [] :=
    List.filter_eq_nil_iff.mpr fun ix hix => by simp [keeps, h.programId ix hix]
  have htake := (take_config h (l := xs ++ ixs ++ ys) (by
    rw [List.filter_append, List.filter_append, hxs, hys, hixs, List.nil_append,
      List.append_nil])).2
  rw [htake, List.filter_append, List.filter_append, hxs', hys', hixs', List.append_nil]

end Config

/-! ### The header of a transaction -/

section Header

variable [Sdk]

/-- A V1 header with the budget that a configuration asks for. -/
structure CarriesBudget (config : TransactionConfig) (priorityFeeLamports : UInt64)
    (header : V1TransactionConfig) : Prop where
  heap : header.heapSize = config.heapSize
  loaded : header.loadedAccountsDataSizeLimit =
    some (config.loadedAccountsDataSizeLimit.getD maxLoadedAccountsDataSize)
  limit : ∃ limit, header.computeUnitLimit = some limit ∧
    ∀ requested ∈ config.computeUnitLimit, requested ≤ limit
  fee : header.priorityFee =
    if priorityFeeLamports > 0 then some priorityFeeLamports else none

omit [Sdk] in
theorem carriesBudget_v1Config (config : TransactionConfig) (simulated : Option UInt64)
    (fee : UInt64) :
    CarriesBudget config fee
      ((requestedBy config).v1Config (cuLimit simulated (requestedBy config)) fee) := by
  refine ⟨rfl, rfl, ⟨_, rfl, ?_⟩, rfl⟩
  intro requested hrequested
  have hget : (requestedBy config).computeUnitLimit.getD 0 = requested := by
    rw [requestedBy, Option.mem_def.mp hrequested]
    rfl
  rw [UInt32.le_iff_toNat_le, toNat_cuLimit, hget]
  exact le_max_right _ _

/-- **The header of a built V1 transaction** is made of the budget that was taken out of its
route. -/
theorem runs_buildTransaction_v1 {payer : Pubkey} {route : Route} {fee : UInt64}
    {submitter : Submitter} {s s' : σ} {tr : Trace Answer} {tx : VersionedTransaction}
    (hformat : route.format = .v1)
    (h : (buildTransaction payer route fee submitter).Runs s tr (.ok tx) s') :
    ∃ requested kept simulated blockhash m,
      RequestedBudget.take route.instructions .v1 = .ok (requested, kept) ∧
      Sdk.compileV1 payer (kept ++ tipInstructions payer submitter) blockhash
        (requested.v1Config (cuLimit simulated requested) fee) = .ok m ∧
      tx.message = .v1 m ∧ Simulated tr simulated := by
  obtain ⟨requested, kept, simulated, blockhash, message, _, _, htake, hmerge, hunits, hhash,
    hmessage, rfl⟩ := runs_buildTransaction_steps h
  unfold compileRoute at hmessage
  simp only [hformat] at hmessage htake
  obtain ⟨m, hm, rfl⟩ := compileV1_eq_ok hmessage
  exact ⟨requested, kept, simulated, blockhash, m, htake, hm, rfl,
    simulated_of_runs hmerge hunits hhash⟩

/-! ### bloXroute -/

namespace Bloxroute

theorem setupInstruction_programId {trade : Trade} {payer : Option Pubkey}
    {api : Aggregators.ApiInstruction} {ix : Instruction}
    (h : setupInstruction trade payer api = .ok ix) : ix.programId ≠ computeBudgetProgram := by
  obtain ⟨decoded, -, h₁⟩ := bind_eq_ok.mp h
  obtain ⟨_, hprogram, h₂⟩ := bind_eq_ok.mp h₁
  rw [failIf_eq_ok] at hprogram
  cases payer with
  | none => exact pure_eq_ok.mp h₂ ▸ hprogram
  | some payer =>
    obtain ⟨-, rfl⟩ := moveRentToSponsor_eq_ok.mp h₂
    rwa [withAtaPayer_programId]

/-- The requests of a bloXroute route are those of the response's configuration. -/
theorem responsePrepare_config {response : Aggregators.Bloxroute.InstructionsResponse}
    {trade : Trade} {payer : Option Pubkey} {fee : Option ProviderFee} {prepared : PreparedSwap}
    (h : responsePrepare response trade payer fee = .ok prepared) :
    prepared.format = .v1 ∧ ∃ config rest, ConfigInstructions response.transactionConfig config ∧
      prepared.instructions = config ++ rest ∧
      ∀ ix ∈ rest, ix.programId ≠ computeBudgetProgram := by
  obtain ⟨config, setup, swap, hconfig, hsetup, -, hswap, hformat, hixs⟩ :=
    responsePrepare_eq_ok h
  rw [List.append_assoc, List.append_assoc] at hixs
  refine ⟨hformat, config, _, configInstructions_eq_ok hconfig, hixs, fun ix hix => ?_⟩
  simp only [List.mem_append, Option.mem_toList, Option.map_eq_some_iff, List.mem_singleton] at hix
  rcases hix with ⟨fee, -, rfl⟩ | hix | rfl
  · exact computeBudgetProgram_ne.2.2
  · obtain ⟨api, -, hapi⟩ := exists_of_forall₂ (mapM_eq_ok.mp hsetup) hix
    exact setupInstruction_programId hapi
  · exact hswap ▸ program_ne.2.2

end Bloxroute

/-- **The budget settings of a provider survive the trip through instructions.** -/
theorem budget_settings_survive :
    (∀ (venue : String) (config : TransactionConfig) (ixs : List Instruction),
      configInstructions venue config = .ok ixs →
      (∀ xs ys : List Instruction, (∀ ix ∈ xs ++ ys, ix.programId ≠ computeBudgetProgram) →
        RequestedBudget.take (xs ++ ixs ++ ys) .v1 = .ok (requestedBy config, xs ++ ys)) ∧
      ∀ l : List Instruction,
        (l.filter fun ix => ix.programId = computeBudgetProgram).Perm ixs →
        RequestedBudget.take l .v1 =
          .ok (requestedBy config, l.filter fun ix => ix.programId ≠ computeBudgetProgram)) ∧
    (∀ (response : Aggregators.Bloxroute.InstructionsResponse) (trade : Trade)
      (payer : Option Pubkey) (fee : Option ProviderFee) (prepared : PreparedSwap),
      Bloxroute.responsePrepare response trade payer fee = .ok prepared →
      ∀ (appended : List Instruction) (tables : List AddressLookupTableAccount)
        (feePayer : Pubkey) (priorityFeeLamports : UInt64) (submitter : Submitter) (s s' : σ)
        (tr : Trace Answer) (tx : VersionedTransaction),
        (∀ ix ∈ appended, ix.programId ≠ computeBudgetProgram) →
        (buildTransaction feePayer ⟨prepared.instructions ++ appended, tables, prepared.format⟩
          priorityFeeLamports submitter).Runs s tr (.ok tx) s' →
        ∃ ixs blockhash header m, tx.message = .v1 m ∧
          Sdk.compileV1 feePayer ixs blockhash header = .ok m ∧
          CarriesBudget response.transactionConfig priorityFeeLamports header) ∧
    ∀ (ixs kept : List Instruction) (requested : RequestedBudget),
      RequestedBudget.take ixs .v0 = .ok (requested, kept) →
      kept = ixs.filter fun ix => !isComputeUnitLimit ix := by
  refine ⟨?_, ?_, ?_⟩
  · intro venue config ixs h
    have hconfig := configInstructions_eq_ok h
    exact ⟨fun xs ys hothers => take_config_between hconfig hothers,
      fun l hperm => (take_config hconfig hperm).2⟩
  · intro response trade payer fee prepared h appended tables feePayer priorityFeeLamports
      submitter s s' tr tx happended hrun
    obtain ⟨hformat, config, rest, hconfig, hixs, hrest⟩ := Bloxroute.responsePrepare_config h
    obtain ⟨requested, kept, simulated, blockhash, m, htake, hcompile, hmessage, -⟩ :=
      runs_buildTransaction_v1 hformat hrun
    have hothers : ∀ ix ∈ [] ++ (rest ++ appended), ix.programId ≠ computeBudgetProgram := by
      intro ix hix
      rw [List.nil_append] at hix
      rcases List.mem_append.mp hix with hix | hix
      · exact hrest ix hix
      · exact happended ix hix
    have htaken := take_config_between hconfig hothers
    simp only [hixs, List.append_assoc] at htake
    rw [List.nil_append, htake] at htaken
    obtain ⟨rfl, -⟩ := Prod.mk.inj (Except.ok.inj htaken)
    exact ⟨_, blockhash, _, m, hmessage, hcompile, carriesBudget_v1Config _ _ _⟩
  · intro ixs kept requested h
    exact take_eq_ok h

end Header

/-! ### A configuration with every setting -/

def fullConfig : TransactionConfig where
  computeUnitLimit := some 900000
  loadedAccountsDataSizeLimit := some 1048576
  heapSize := some 65536
  priorityFee := none

def fullConfigResponse : Aggregators.Bloxroute.InstructionsResponse where
  inputMint := keyText usdcMint
  outputMint := keyText sampleMint
  inputAmount := 10000000
  outputAmount := 500
  outputAmountMin := 495
  inputValueUsd := none
  outputValueUsd := none
  platformFee := none
  transactionConfig := fullConfig
  setupInstructions := []
  swapInstruction :=
    ⟨keyText Bloxroute.program, [⟨keyText sampleUser, true, true⟩], "Bw=="⟩

theorem budget_settings_survive_sample :
    let := sampleSdk
    let swap : Instruction := ⟨Bloxroute.program, [], [7]⟩
    (∃ ixs, configInstructions Aggregators.Bloxroute.venue fullConfig = .ok ixs ∧
      RequestedBudget.take ([swap] ++ ixs ++ []) .v1 = .ok (requestedBy fullConfig, [swap])) ∧
    ∃ prepared tr tx, Bloxroute.responsePrepare fullConfigResponse sampleTrade none none =
        .ok prepared ∧
      (buildTransaction sampleUser ⟨prepared.instructions ++ [], [], prepared.format⟩ 5000 ⟨none⟩ :
        Task Unit _).Runs () tr (.ok tx) () ∧
      ∃ ixs blockhash header m, tx.message = .v1 m ∧
        Sdk.compileV1 sampleUser ixs blockhash header = .ok m ∧
        CarriesBudget fullConfig 5000 header := by
  intro sdk swap
  constructor
  · obtain ⟨ixs, hixs⟩ := isOk_iff.mp (show (configInstructions Aggregators.Bloxroute.venue
      fullConfig).isOk = true by decide +kernel)
    refine ⟨ixs, hixs, ?_⟩
    exact ((budget_settings_survive (σ := Unit)).1 _ _ _ hixs).1 [swap] [] (by decide +kernel)
  · obtain ⟨_, tx, _, hrun⟩ := Proc.runs_ok_of_exec sampleNode (fun _ => 1)
      (do
        let prepared ← Proc.ofResult
          (Bloxroute.responsePrepare fullConfigResponse sampleTrade none none)
        buildTransaction sampleUser ⟨prepared.instructions ++ [], [], prepared.format⟩ 5000
          ⟨none⟩ : Task Unit VersionedTransaction) () (by decide +kernel)
    obtain ⟨prepared, hprepared, hbuilt⟩ := Proc.runs_ofResult_bind_ok.mp hrun
    exact ⟨prepared, _, tx, hprepared, hbuilt, (budget_settings_survive (σ := Unit)).2.1 _ _ _ _ _
      hprepared [] _ _ _ _ _ _ _ tx (by simp) hbuilt⟩

/-! ## 3.  Limits -/

section Limits

variable [Sdk]

/-- A compute-budget request among the instructions of a Relay response. -/
def Relay.Requests (data : TransactionData) (trade : Trade) (payer : Option Pubkey)
    (request : Bytes) : Prop :=
  ∃ api ∈ data.instructions, ∃ ix,
    decodeHex Aggregators.Relay.venue trade.wallet payer api = .ok ix ∧ ix.request? = some request

namespace Relay

variable {trade : Trade} {payer : Option Pubkey}

/-- One round of Relay's loop decodes an instruction and may keep it. -/
theorem keepInstruction_eq_ok {kept kept' : List Instruction} {api : Aggregators.ApiInstruction}
    (h : keepInstruction trade payer kept api = .ok kept') :
    ∃ ix moved retained, decodeHex Aggregators.Relay.venue trade.wallet payer api = .ok ix ∧
      moved.request? = ix.request? ∧
      retainComputeBudget Aggregators.Relay.venue moved = .ok retained ∧
      kept' = if retained then kept ++ [moved] else kept := by
  obtain ⟨ix, hix, h₁⟩ := bind_eq_ok.mp h
  cases payer with
  | none =>
    obtain ⟨_, hsame, h₂⟩ := bind_eq_ok.mp h₁
    obtain rfl := pure_eq_ok.mp hsame
    obtain ⟨retained, hretained, h₃⟩ := bind_eq_ok.mp h₂
    exact ⟨ix, ix, retained, hix, rfl, hretained, (pure_eq_ok.mp h₃).symm⟩
  | some payer =>
    obtain ⟨moved, hmoved, h₂⟩ := bind_eq_ok.mp h₁
    obtain ⟨-, rfl⟩ := moveRentToSponsor_eq_ok.mp hmoved
    obtain ⟨retained, hretained, h₃⟩ := bind_eq_ok.mp h₂
    refine ⟨ix, _, retained, hix, ?_, hretained, (pure_eq_ok.mp h₃).symm⟩
    simp [Instruction.request?]

/-- One round of Relay's loop keeps the requests of the kinds that are retained. -/
theorem mem_keepInstruction {kept kept' : List Instruction} {api : Aggregators.ApiInstruction}
    (h : keepInstruction trade payer kept api = .ok kept') {request : Bytes}
    (hkind : RetainedKind request) :
    request ∈ budgetRequests kept' ↔ request ∈ budgetRequests kept ∨
      ∃ ix, decodeHex Aggregators.Relay.venue trade.wallet payer api = .ok ix ∧
        ix.request? = some request := by
  obtain ⟨ix, moved, retained, hix, hsame, hretained, rfl⟩ := keepInstruction_eq_ok h
  have hdecoded : (∃ ix, decodeHex Aggregators.Relay.venue trade.wallet payer api = .ok ix ∧
      ix.request? = some request) ↔ ix.request? = some request := by
    rw [hix]
    simp
  have happended : request ∈ budgetRequests (kept ++ [moved]) ↔
      request ∈ budgetRequests kept ∨ ix.request? = some request := by
    rw [budgetRequests_append, List.mem_append, ← hsame]
    cases hrequest : moved.request? <;> simp [budgetRequests, hrequest, eq_comm]
  rw [hdecoded]
  rcases retainComputeBudget_eq_ok hretained with ⟨hnone, rfl⟩ | ⟨hsome, rfl⟩
  · rw [if_pos rfl, happended]
  · by_cases hmovedKind : RetainedKind moved.data
    · rw [decide_eq_true hmovedKind, if_pos rfl, happended]
    · rw [decide_eq_false hmovedKind, if_neg Bool.false_ne_true, ← hsame, hsome]
      refine ⟨Or.inl, fun hmem => hmem.resolve_right fun hdata => ?_⟩
      exact hmovedKind (Option.some.inj hdata ▸ hkind)

theorem mem_foldlM {apis : List Aggregators.ApiInstruction} {kept kept' : List Instruction}
    (h : apis.foldlM (keepInstruction trade payer) kept = .ok kept') {request : Bytes}
    (hkind : RetainedKind request) :
    request ∈ budgetRequests kept' ↔ request ∈ budgetRequests kept ∨ ∃ api ∈ apis, ∃ ix,
      decodeHex Aggregators.Relay.venue trade.wallet payer api = .ok ix ∧
        ix.request? = some request := by
  induction apis generalizing kept with
  | nil =>
    rw [← pure_eq_ok.mp h]
    simp
  | cons api apis ih =>
    rw [List.foldlM_cons] at h
    obtain ⟨next, hnext, hrest⟩ := bind_eq_ok.mp h
    rw [ih hrest, mem_keepInstruction hnext hkind, or_assoc, List.exists_mem_cons_iff]

/-- The requests of a Relay route: those among the response's instructions, and those of its
configuration, which is within its limits. -/
theorem mem_dataInstructions {data : TransactionData} {ixs : List Instruction}
    (h : dataInstructions data trade payer = .ok ixs) :
    ∃ config, ConfigInstructions data.transactionConfig config ∧
      ∀ request, RetainedKind request → (request ∈ budgetRequests ixs ↔
        Requests data trade payer request ∨ request ∈ budgetRequests config) := by
  obtain ⟨_, -, h₁⟩ := bind_eq_ok.mp h
  obtain ⟨_, -, h₂⟩ := bind_eq_ok.mp h₁
  obtain ⟨kept, hkept, h₃⟩ := bind_eq_ok.mp h₂
  obtain ⟨_, -, h₄⟩ := bind_eq_ok.mp h₃
  obtain ⟨config, hconfig, h₅⟩ := bind_eq_ok.mp h₄
  refine ⟨config, configInstructions_eq_ok hconfig, fun request hkind => ?_⟩
  rw [← pure_eq_ok.mp h₅, budgetRequests_append, List.mem_append, mem_foldlM hkept hkind]
  simp [budgetRequests, Requests]

end Relay

omit [Sdk] in
/-- The requests of a configuration are its settings. -/
theorem ConfigInstructions.mem_requests {config : TransactionConfig} {ixs : List Instruction}
    (h : ConfigInstructions config ixs) (v : UInt32) :
    (requestHeapFrame :: le32 v ∈ budgetRequests ixs ↔ config.heapSize = some v) ∧
      (setLoadedAccountsDataSizeLimitTag :: le32 v ∈ budgetRequests ixs ↔
        config.loadedAccountsDataSizeLimit = some v) := by
  have htake : RequestedBudget.take ([] ++ ixs ++ []) .v1 = .ok (requestedBy config, [] ++ []) :=
    take_config_between h (by simp)
  rw [List.nil_append, List.append_nil] at htake
  obtain ⟨hheap, hloaded⟩ := RequestedBudget.take_v1_eq_ok htake v
  exact ⟨hheap.symm, hloaded.symm⟩

/-- **When the limits of a Relay route are checked**: the budget that is read from an accepted
response is within the limits of a configuration exactly when the requests among the response's
own instructions are. -/
theorem relay_limits_checked_iff {data : TransactionData} {trade : Trade}
    {payer : Option Pubkey} {ixs kept : List Instruction} {requested : RequestedBudget}
    (hixs : Relay.dataInstructions data trade payer = .ok ixs)
    (htake : RequestedBudget.take ixs .v1 = .ok (requested, kept)) :
    ((∀ heap ∈ requested.heapSize, HeapInBounds heap) ∧
      ∀ size ∈ requested.loadedAccountsDataSizeLimit, LoadedInBounds size) ↔
    (∀ heap, Relay.Requests data trade payer (requestHeapFrame :: le32 heap) →
        HeapInBounds heap) ∧
      ∀ size, Relay.Requests data trade payer (setLoadedAccountsDataSizeLimitTag :: le32 size) →
        LoadedInBounds size := by
  obtain ⟨config, hconfig, hmem⟩ := Relay.mem_dataInstructions hixs
  have hheap : ∀ heap, heap ∈ requested.heapSize ↔
      Relay.Requests data trade payer (requestHeapFrame :: le32 heap) ∨
        heap ∈ data.transactionConfig.heapSize := by
    intro heap
    rw [Option.mem_def, (RequestedBudget.take_v1_eq_ok htake heap).1, hmem _ (Or.inl rfl),
      (hconfig.mem_requests heap).1, Option.mem_def]
  have hloaded : ∀ size, size ∈ requested.loadedAccountsDataSizeLimit ↔
      Relay.Requests data trade payer (setLoadedAccountsDataSizeLimitTag :: le32 size) ∨
        size ∈ data.transactionConfig.loadedAccountsDataSizeLimit := by
    intro size
    rw [Option.mem_def, (RequestedBudget.take_v1_eq_ok htake size).2, hmem _ (Or.inr rfl),
      (hconfig.mem_requests size).2, Option.mem_def]
  simp only [hheap, hloaded]
  constructor
  · rintro ⟨hheaps, hsizes⟩
    exact ⟨fun heap h => hheaps heap (Or.inl h), fun size h => hsizes size (Or.inl h)⟩
  · rintro ⟨hheaps, hsizes⟩
    constructor
    · rintro heap (h | h)
      · exact hheaps heap h
      · exact hconfig.heap heap h
    · rintro size (h | h)
      · exact hsizes size h
      · exact hconfig.loaded size h

end Limits

/-! ### A heap frame of one mebibyte -/

deriving instance DecidableEq for RequestedBudget

/-- A swap behind a heap request, `01` and the size in little-endian bytes. -/
def heapResponse (request : String) : TransactionData where
  chainId := some Relay.solanaChainId
  instructions :=
    [⟨keyText computeBudgetProgram, [], request⟩,
      ⟨keyText sampleMint, [⟨keyText sampleUser, true, true⟩], "07"⟩]
  transactionVersion := some Relay.v1Version
  transactionConfig := ⟨none, none, none, none⟩

/-- **A provider's heap request is not checked**: four times the largest heap reaches the budget. -/
theorem relay_heap_unchecked :
    let := sampleSdk
    ¬ ∀ (data : TransactionData) (trade : Trade) (payer : Option Pubkey)
      (ixs kept : List Instruction) (requested : RequestedBudget),
      Relay.dataInstructions data trade payer = .ok ixs →
      RequestedBudget.take ixs .v1 = .ok (requested, kept) →
      (∀ heap ∈ requested.heapSize, HeapInBounds heap) ∧
        ∀ size ∈ requested.loadedAccountsDataSizeLimit, LoadedInBounds size := by
  intro sdk hall
  have hread : (Relay.dataInstructions (heapResponse "0100001000") sampleTrade none >>= fun ixs =>
      RequestedBudget.take ixs .v1).toOption.map Prod.fst = some ⟨none, none, some 1048576⟩ := by
    decide +kernel
  obtain ⟨⟨requested, kept⟩, hok, rfl⟩ := toOption_map_eq_some.mp hread
  obtain ⟨ixs, hixs, htake⟩ := bind_eq_ok.mp hok
  have hheap := (hall _ _ _ ixs kept _ hixs htake).1 1048576 rfl
  exact absurd hheap.1.2 (by decide)

theorem relay_limits_checked_iff_sample :
    let := sampleSdk
    ∃ ixs kept requested,
      Relay.dataInstructions (heapResponse "0100800000") sampleTrade none = .ok ixs ∧
      RequestedBudget.take ixs .v1 = .ok (requested, kept) ∧
      ∀ heap, Relay.Requests (heapResponse "0100800000") sampleTrade none
        (requestHeapFrame :: le32 heap) → HeapInBounds heap := by
  intro sdk
  have hread : (Relay.dataInstructions (heapResponse "0100800000") sampleTrade none >>= fun ixs =>
      RequestedBudget.take ixs .v1).toOption.map Prod.fst = some ⟨none, none, some 32768⟩ := by
    decide +kernel
  obtain ⟨⟨requested, kept⟩, hok, rfl⟩ := toOption_map_eq_some.mp hread
  obtain ⟨ixs, hixs, htake⟩ := bind_eq_ok.mp hok
  refine ⟨ixs, kept, _, hixs, htake, ((relay_limits_checked_iff hixs htake).mp ⟨?_, ?_⟩).1⟩
  · intro heap hheap
    obtain rfl := Option.some.inj hheap
    unfold HeapInBounds
    decide
  · exact fun size hsize => nomatch hsize

end Solana
end TradingAggregators
