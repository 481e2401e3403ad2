import Mathlib.Data.List.Forall2
import TradingAggregators.Rust.Exact
import TradingAggregators.Solana.Executor

/-!
# What `build_transaction` compiles

* `take_eq_ok`: the two stripping passes of `RequestedBudget.take` together keep exactly the
  instructions of which `keeps` holds, in order.
* `lastCompiledIndex_append`: the predicted index counts the same instructions.
* `runs_buildTransaction`: a run that builds a transaction compiled the executor's budget
  instructions, the kept route and the tip, in this order, and nothing else
  (`BuiltFrom.compiled`).
* `Simulated`: the estimate that the limit of a V0 transaction is made of.
-/

namespace TradingAggregators
namespace Solana

open Interaction Interaction.Program Rust Wire

/-! ## The stripping passes -/

/-- Whether an instruction of a route stays in the compiled message of a format. -/
def keeps (format : TransactionFormat) (instruction : Instruction) : Bool :=
  match format with
  | .v0 => !isComputeUnitLimit instruction
  | .v1 => instruction.programId ≠ computeBudgetProgram

theorem keeps_of_programId_ne {format : TransactionFormat} {instruction : Instruction}
    (h : instruction.programId ≠ computeBudgetProgram) : keeps format instruction = true := by
  cases format <;> simp [keeps, isComputeUnitLimit, h]

/-- The V1 pass also drops what the compute-unit-limit pass dropped before it. -/
theorem filter_keeps_v1 (instructions : List Instruction) :
    (instructions.filter fun ix => !isComputeUnitLimit ix).filter
        (fun ix => decide (ix.programId ≠ computeBudgetProgram)) =
      instructions.filter (keeps .v1) := by
  rw [List.filter_filter]
  apply List.filter_congr
  intro ix _
  by_cases h : ix.programId = computeBudgetProgram <;> simp [keeps, isComputeUnitLimit, h]

theorem takeComputeUnitLimit_eq_ok {instructions kept : List Instruction}
    {limit : Option UInt32} (h : takeComputeUnitLimit instructions = .ok (limit, kept)) :
    (instructions.filter isComputeUnitLimit).foldlM takeLimit none = .ok limit ∧
      kept = instructions.filter (keeps .v0) := by
  obtain ⟨limit', hfold, hpair⟩ := bind_eq_ok.mp h
  rw [pure_eq_ok, Prod.mk.injEq] at hpair
  obtain ⟨rfl, rfl⟩ := hpair
  exact ⟨hfold, rfl⟩

/-- What is left after the budget was taken out of a route. -/
theorem take_eq_ok {instructions kept : List Instruction} {format : TransactionFormat}
    {budget : RequestedBudget}
    (h : RequestedBudget.take instructions format = .ok (budget, kept)) :
    kept = instructions.filter (keeps format) := by
  obtain ⟨⟨limit, rest⟩, hlimit, hrest⟩ := bind_eq_ok.mp h
  obtain ⟨-, rfl⟩ := takeComputeUnitLimit_eq_ok hlimit
  cases format with
  | v0 =>
    rw [pure_eq_ok, Prod.mk.injEq] at hrest
    exact hrest.2.symm
  | v1 =>
    obtain ⟨budget', -, hpair⟩ := bind_eq_ok.mp hrest
    rw [pure_eq_ok, Prod.mk.injEq] at hpair
    rw [← hpair.2]
    exact filter_keeps_v1 instructions

/-! ## The predicted index -/

/-- How many instructions the executor puts in front of the route. -/
def prepended : TransactionFormat → ℕ
  | .v0 => prependedBudgetInstructions
  | .v1 => 0

/-- An instruction that is kept and stands last lands behind the prepended instructions and
the kept ones before it. -/
theorem lastCompiledIndex_append {instructions : List Instruction} {last : Instruction}
    {format : TransactionFormat} (hlast : keeps format last = true) :
    lastCompiledIndex (instructions ++ [last]) format =
      some (prepended format + (instructions.filter (keeps format)).length) := by
  have hcount : ((instructions ++ [last]).filter (keeps format)).length =
      (instructions.filter (keeps format)).length + 1 := by
    rw [List.filter_append, List.filter_cons_of_pos hlast, List.filter_nil, List.length_append,
      List.length_singleton]
  have hindex : lastCompiledIndex (instructions ++ [last]) format =
      if ((instructions ++ [last]).filter (keeps format)).length = 0 then none
      else some (((instructions ++ [last]).filter (keeps format)).length - 1 +
        prepended format) := by
    cases format <;> rfl
  rw [hindex, hcount, if_neg (Nat.succ_ne_zero _), Nat.add_sub_cancel, Nat.add_comm]

/-! ## The compute-unit limit -/

/-- The limit that the simulation suggests, before a provider's request raises it. -/
def suggestedLimit : Option UInt64 → ℕ
  | some units => min (max (units.toFloat * cuHeadroom).toUInt32.toNat 1) 1400000
  | none => 350000

theorem toNat_cuLimit (simulated : Option UInt64) (budget : RequestedBudget) :
    (cuLimit simulated budget).toNat =
      max (suggestedLimit simulated) (budget.computeUnitLimit.getD 0).toNat := by
  unfold cuLimit
  cases simulated with
  | none => exact Exact.toNat_max _ _
  | some units =>
    rw [Exact.toNat_max, Exact.toNat_min, Exact.toNat_max]
    rfl

/-! ## The compiled instructions -/

variable {σ : Type}

/-- The instructions a submitter's tip adds. -/
def tipInstructions (payer : Pubkey) (submitter : Submitter) : List Instruction :=
  match submitter.defaultTip with
  | some t => [tip payer t.account t.lamports]
  | none => []

theorem Route.withTip_eq (route : Route) (payer : Pubkey) (submitter : Submitter) :
    route.withTip payer submitter =
      { route with instructions := route.instructions ++ tipInstructions payer submitter } := by
  unfold Route.withTip tipInstructions
  cases submitter.defaultTip <;> simp

/-- A submitter adds nothing but tips of the payer. -/
theorem mem_tipInstructions {payer : Pubkey} {submitter : Submitter} {ix : Instruction}
    (h : ix ∈ tipInstructions payer submitter) :
    ∃ account lamports, ix = tip payer account lamports := by
  unfold tipInstructions at h
  cases htip : submitter.defaultTip with
  | none =>
    rw [htip] at h
    exact absurd h List.not_mem_nil
  | some t =>
    rw [htip] at h
    exact ⟨t.account, t.lamports, List.mem_singleton.mp h⟩

/-- The executor's own compute-budget instructions. -/
def budgetInstructions (format : TransactionFormat) (priorityFeeLamports : UInt64)
    (cuLimit : UInt32) : List Instruction :=
  match format with
  | .v0 => [setComputeUnitLimit cuLimit,
      setComputeUnitPrice (unitPrice priorityFeeLamports cuLimit)]
  | .v1 => []

theorem length_budgetInstructions (format : TransactionFormat) (fee : UInt64)
    (limit : UInt32) : (budgetInstructions format fee limit).length = prepended format := by
  cases format <;> rfl

/-- The messages `build_transaction` can produce for a format. -/
def IsFormat : TransactionFormat → VersionedMessage → Prop
  | .v0, m => ∃ m', m = .v0 m'
  | .v1, m => ∃ m', m = .v1 m'

/-- An answer that lets a build go on. -/
def BuildEvent (e : Event Answer) : Prop :=
  (∃ tx sim, e = ⟨.simulateTransaction tx true, .ok sim⟩ ∧ sim.err = none) ∨
    ∃ hash, e = ⟨.getLatestBlockhash, .ok hash⟩

theorem asks_latestBlockhash : (latestBlockhash : Task σ _).Asks Query.Harmless :=
  (asks_harmless rfl).bind fun _ => Proc.asks_ofResult _

theorem runs_latestBlockhash {s s' : σ} {tr : Trace Answer} {hash : Hash}
    (h : latestBlockhash.Runs s tr (.ok hash) s') :
    tr = [⟨.getLatestBlockhash, .ok hash⟩] := by
  obtain ⟨response, tr', htr, h₁⟩ := Proc.runs_ask_bind.mp h
  obtain ⟨hnil, hhash, -⟩ := Proc.runs_ofResult.mp h₁
  have hresponse : response = .ok hash := rpcResult_eq_ok.mp hhash.symm
  rw [htr, hnil, hresponse]

section Compile

variable [Sdk]

theorem compileV0_eq_ok {payer : Pubkey} {ixs : List Instruction}
    {tables : List AddressLookupTableAccount} {blockhash : Hash} {message : VersionedMessage}
    (h : compileV0 payer ixs tables blockhash = .ok message) :
    ∃ m, Sdk.compileV0 payer ixs tables blockhash = .ok m ∧ message = .v0 m := by
  obtain ⟨m, hm, hpure⟩ := bind_eq_ok.mp h
  exact ⟨m, mapError_eq_ok.mp hm, (pure_eq_ok.mp hpure).symm⟩

theorem compileV1_eq_ok {payer : Pubkey} {ixs : List Instruction} {config : V1TransactionConfig}
    {blockhash : Hash} {message : VersionedMessage}
    (h : compileV1 payer ixs config blockhash = .ok message) :
    ∃ m, Sdk.compileV1 payer ixs blockhash config = .ok m ∧ message = .v1 m := by
  obtain ⟨m, hm, hrest⟩ := bind_eq_ok.mp h
  obtain ⟨-, -, hpure⟩ := bind_eq_ok.mp hrest
  exact ⟨m, mapError_eq_ok.mp hm, (pure_eq_ok.mp hpure).symm⟩

theorem compileRoute_eq_ok {payer : Pubkey} {route : Route} {budget : RequestedBudget}
    {fee : UInt64} {limit : UInt32} {blockhash : Hash} {message : VersionedMessage}
    (h : compileRoute payer route budget fee limit blockhash = .ok message) :
    IsFormat route.format message ∧
      (KeepsInstructions → List.Forall₂ (CompiledFrom message.staticAccountKeys)
        (budgetInstructions route.format fee limit ++ route.instructions)
        message.instructions) := by
  unfold compileRoute at h
  cases hformat : route.format with
  | v0 =>
    rw [hformat] at h
    obtain ⟨m, hm, rfl⟩ := compileV0_eq_ok h
    exact ⟨⟨m, rfl⟩, fun keeps => keeps.v0 _ _ _ _ m hm⟩
  | v1 =>
    rw [hformat] at h
    obtain ⟨m, hm, rfl⟩ := compileV1_eq_ok h
    exact ⟨⟨m, rfl⟩, fun keeps => keeps.v1 _ _ _ _ m hm⟩

/-- **What a built transaction consists of**: the unsigned compilation of the executor's
budget instructions, the kept route and the tip. -/
structure BuiltFrom (payer : Pubkey) (route : Route) (fee : UInt64) (submitter : Submitter)
    (budget : RequestedBudget) (limit : UInt32) (tx : VersionedTransaction) : Prop where
  taken : RequestedBudget.take route.instructions route.format =
    .ok (budget, route.instructions.filter (keeps route.format))
  signatures : tx.signatures =
    List.replicate tx.message.header.numRequiredSignatures.toNat (.zero 64)
  format : IsFormat route.format tx.message
  compiled : KeepsInstructions → List.Forall₂ (CompiledFrom tx.message.staticAccountKeys)
    (budgetInstructions route.format fee limit ++
      (route.instructions.filter (keeps route.format) ++
        tipInstructions payer submitter))
    tx.message.instructions
  limit : ∃ simulated, limit = cuLimit simulated budget

/-- **The steps of a build that succeeds**: the budget is taken out of the route, the
simulation and the block hash are read at the same time, and what is left of the route is
compiled with the tip behind it. -/
theorem runs_buildTransaction_steps {payer : Pubkey} {route : Route} {fee : UInt64}
    {submitter : Submitter} {s s' : σ} {tr : Trace Answer} {tx : VersionedTransaction}
    (h : (buildTransaction payer route fee submitter).Runs s tr (.ok tx) s') :
    ∃ budget kept simulated blockhash message tr₁ tr₂,
      RequestedBudget.take route.instructions route.format = .ok (budget, kept) ∧
      Program.Interleaving tr₁ tr₂ tr ∧
      (simulateUnits payer ({ route with instructions := kept }.withTip payer submitter)
        budget).Runs () tr₁ (.ok simulated) () ∧
      latestBlockhash.Runs () tr₂ (.ok blockhash) () ∧
      compileRoute payer
          { route with instructions := kept ++ tipInstructions payer submitter } budget fee
          (cuLimit simulated budget) blockhash = .ok message ∧
      tx = unsigned message := by
  unfold buildTransaction at h
  obtain ⟨⟨budget, kept⟩, htake, h₁⟩ := Proc.runs_ofResult_bind_ok.mp h
  obtain ⟨c, _, trBoth, _, htr, hboth, h₂⟩ := Proc.runs_bind_ok.mp h₁
  obtain ⟨units, hunits, h₃⟩ := Proc.runs_ofResult_bind_ok.mp h₂
  obtain ⟨hash, hhash, h₄⟩ := Proc.runs_ofResult_bind_ok.mp h₃
  obtain ⟨message, hmessage, h₅⟩ := Proc.runs_ofResult_bind_ok.mp h₄
  obtain ⟨-, -, h₆⟩ := Proc.runs_ofResult_bind_ok.mp h₅
  obtain ⟨rfl, htx, -⟩ := Proc.runs_pure.mp h₆
  obtain ⟨c', tr₁, tr₂, hc, -, hmerge, hsimulate, hread⟩ := Proc.runs_both hboth
  obtain rfl := Except.ok.inj hc
  rw [Route.withTip_eq] at hmessage
  rw [hunits] at hsimulate
  rw [hhash] at hread
  rw [List.append_nil] at htr
  exact ⟨budget, kept, units, hash, message, tr₁, tr₂, htake, htr ▸ hmerge, hsimulate, hread,
    hmessage, Except.ok.inj htx⟩

/-! ## What building asks -/

theorem asks_simulateUnits {payer : Pubkey} {route : Route} {budget : RequestedBudget} :
    (simulateUnits payer route budget : Task σ _).Asks Query.Harmless := by
  refine (Proc.asks_ofResult _).bind fun tx => (asks_harmless rfl).bind fun response =>
    (Proc.asks_ofResult _).bind fun sim => ?_
  cases sim.err with
  | some error => exact Proc.asks_throw _
  | none => exact Proc.asks_pure _

/-- Building a transaction hands nothing to a key or to the network. -/
theorem asks_buildTransaction {payer : Pubkey} {route : Route} {fee : UInt64}
    {submitter : Submitter} :
    (buildTransaction payer route fee submitter : Task σ _).Asks Query.Harmless := by
  refine (Proc.asks_ofResult _).bind fun taken => ?_
  refine (Proc.Asks.both asks_simulateUnits asks_latestBlockhash).bind fun c => ?_
  refine (Proc.asks_ofResult _).bind fun simulated => (Proc.asks_ofResult _).bind fun _ => ?_
  exact (Proc.asks_ofResult _).bind fun message => (Proc.asks_ofResult _).bind fun _ =>
    Proc.asks_pure _

theorem runs_simulateUnits {payer : Pubkey} {route : Route} {budget : RequestedBudget}
    {s s' : σ} {tr : Trace Answer} {units : Option UInt64}
    (h : (simulateUnits payer route budget).Runs s tr (.ok units) s') :
    ∃ tx sim, tr = [⟨.simulateTransaction tx true, .ok sim⟩] ∧ sim.err = none ∧
      sim.unitsConsumed = units := by
  obtain ⟨tx, -, h₁⟩ := Proc.runs_ofResult_bind_ok.mp h
  obtain ⟨response, tr', htr, h₂⟩ := Proc.runs_ask_bind.mp h₁
  obtain ⟨sim, hsim, h₃⟩ := Proc.runs_ofResult_bind_ok.mp h₂
  rw [rpcResult_eq_ok] at hsim
  cases herr : sim.err with
  | some error =>
    rw [herr] at h₃
    exact nomatch (Proc.runs_throw.mp h₃).2.1
  | none =>
    rw [herr] at h₃
    obtain ⟨hnil, hunits, -⟩ := Proc.runs_pure.mp h₃
    exact ⟨tx, sim, by rw [htr, hnil, hsim], herr, (Except.ok.inj hunits).symm⟩

/-- A build that succeeds was answered well throughout. -/
theorem events_buildTransaction {payer : Pubkey} {route : Route} {fee : UInt64}
    {submitter : Submitter} {s s' : σ} {tr : Trace Answer} {tx : VersionedTransaction}
    (h : (buildTransaction payer route fee submitter).Runs s tr (.ok tx) s') :
    ∀ e ∈ tr, BuildEvent e := by
  obtain ⟨budget, kept, units, hash, message, _, _, -, hmerge, hunits, hhash, -, -⟩ :=
    runs_buildTransaction_steps h
  obtain ⟨tx, sim, rfl, herr, -⟩ := runs_simulateUnits hunits
  have hread := runs_latestBlockhash hhash
  intro e he
  rw [hmerge.mem_iff, hread, List.mem_singleton, List.mem_singleton] at he
  rcases he with rfl | rfl
  · exact Or.inl ⟨tx, sim, rfl, herr⟩
  · exact Or.inr ⟨hash, rfl⟩

/-- The estimate that the simulation in a trace told, and no other. -/
structure Simulated (tr : Trace Answer) (units : Option UInt64) : Prop where
  told : ∃ tx sim, (⟨.simulateTransaction tx true, .ok sim⟩ : Event Answer) ∈ tr ∧
    sim.unitsConsumed = units
  once : ∀ tx sim, (⟨.simulateTransaction tx true, .ok sim⟩ : Event Answer) ∈ tr →
    sim.unitsConsumed = units

theorem simulated_of_runs {payer : Pubkey} {route : Route} {budget : RequestedBudget}
    {units : Option UInt64} {hash : Hash} {tr tr₁ tr₂ : Trace Answer}
    (hmerge : Program.Interleaving tr₁ tr₂ tr)
    (hunits : (simulateUnits payer route budget).Runs () tr₁ (.ok units) ())
    (hhash : latestBlockhash.Runs () tr₂ (.ok hash) ()) : Simulated tr units := by
  obtain ⟨tx, sim, rfl, -, hsim⟩ := runs_simulateUnits hunits
  obtain rfl := runs_latestBlockhash hhash
  refine ⟨⟨tx, sim, (hmerge.mem_iff _).mpr (Or.inl List.mem_cons_self), hsim⟩, ?_⟩
  intro tx' sim' hmem
  rcases (hmerge.mem_iff _).mp hmem with hmem | hmem
  · cases List.mem_singleton.mp hmem
    exact hsim
  · cases List.mem_singleton.mp hmem

/-- What a build compiled, with the limit for the estimate it was told. -/
theorem runs_buildTransaction_simulated {payer : Pubkey} {route : Route} {fee : UInt64}
    {submitter : Submitter} {s s' : σ} {tr : Trace Answer} {tx : VersionedTransaction}
    (h : (buildTransaction payer route fee submitter).Runs s tr (.ok tx) s') :
    ∃ budget simulated, Simulated tr simulated ∧
      BuiltFrom payer route fee submitter budget (cuLimit simulated budget) tx := by
  obtain ⟨budget, kept, simulated, blockhash, message, _, _, htake, hmerge, hunits, hhash,
    hmessage, rfl⟩ := runs_buildTransaction_steps h
  obtain ⟨hformat, hcompiled⟩ := compileRoute_eq_ok hmessage
  have hkept := take_eq_ok htake
  rw [hkept] at htake hcompiled
  exact ⟨budget, simulated, simulated_of_runs hmerge hunits hhash, htake, rfl, hformat, hcompiled,
    simulated, rfl⟩

theorem runs_buildTransaction {payer : Pubkey} {route : Route} {fee : UInt64}
    {submitter : Submitter} {s s' : σ} {tr : Trace Answer} {tx : VersionedTransaction}
    (h : (buildTransaction payer route fee submitter).Runs s tr (.ok tx) s') :
    ∃ budget limit, BuiltFrom payer route fee submitter budget limit tx := by
  obtain ⟨budget, simulated, -, hbuilt⟩ := runs_buildTransaction_simulated h
  exact ⟨budget, _, hbuilt⟩

end Compile

/-! ## Positions in a compiled list -/

/-- The instruction that stands behind `before` is compiled to the one at that position. -/
theorem getElem?_of_forall₂_append {α β : Type} {R : α → β → Prop} {before after : List α}
    {x : α} {ys : List β} (h : List.Forall₂ R (before ++ x :: after) ys) :
    ∃ y, ys[before.length]? = some y ∧ R x y := by
  induction before generalizing ys with
  | nil =>
    obtain ⟨y, ys, hxy, -, rfl⟩ := List.forall₂_cons_left_iff.mp h
    exact ⟨y, rfl, hxy⟩
  | cons a before ih =>
    obtain ⟨b, ys, -, hrest, rfl⟩ := List.forall₂_cons_left_iff.mp h
    exact ih hrest

end Solana
end TradingAggregators
