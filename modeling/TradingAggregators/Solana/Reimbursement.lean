import TradingAggregators.Solana.Building
import TradingAggregators.Solana.ReferenceSdk

/-!
# The reimbursement transfer

* `applyToSwap_eq_ok`: what a sponsor makes of a prepared swap.
* `runs_replaceReimbursement`: rewriting succeeds on a transfer of the reserved amount and
  changes nothing but its amount.
* `failed_replace_unchanged`: a rewriting that fails leaves the transaction as it was.
* `reimbursement_rewritten`: the index predicted before the build is the appended
  transfer's, and lowering it to a charge touches the eight amount bytes only.
-/

namespace TradingAggregators
namespace Solana

open Interaction Interaction.Program Rust Wire

/-! ## What a sponsor appends -/

section Apply

variable [Sdk]

/-- Both instructions that a sponsor appends, the transfer last. -/
theorem GasSponsor.applyToSwap_eq_ok {sponsor : GasSponsor} {trade : Trade}
    {route prepared : PreparedSwap} (h : sponsor.applyToSwap trade route = .ok prepared) :
    prepared.instructions = route.instructions ++
        [createAtaIdempotent sponsor.wallet sponsor.feeRecipient usdcMint tokenProgram] ++
        [usdcTransfer trade.wallet sponsor.feeRecipient sponsor.costPolicy.maxFeeUsdc] ∧
      prepared.format = route.format ∧
      prepared.quote.sponsorshipFee = sponsor.costPolicy.maxFeeUsdc := by
  unfold GasSponsor.applyToSwap at h
  cases hside : trade.side with
  | buy =>
    simp only [hside, appendUsdcFee_eq, pure_bind, ok_bind, pure_eq_ok] at h
    rw [← h]
    exact ⟨rfl, rfl, rfl⟩
  | sell =>
    simp only [hside, appendUsdcFee_eq, ok_bind] at h
    obtain ⟨_, -, h⟩ := bind_eq_ok.mp h
    obtain ⟨_, -, h⟩ := bind_eq_ok.mp h
    rw [pure_bind, pure_eq_ok] at h
    rw [← h]
    exact ⟨rfl, rfl, rfl⟩

end Apply

/-! ## Reading a transfer -/

/-- The amount and the decimals of an SPL `TransferChecked`. -/
def unpackTransferChecked (data : Bytes) : Option (UInt64 × UInt8) :=
  match data with
  | 12 :: rest =>
      match (Codec.u64.seq Codec.u8).decode rest with
      | .ok (p, _) => some p
      | .error _ => none
  | _ => none

theorem unpackTransferChecked_data (amount : UInt64) (decimals : UInt8) :
    unpackTransferChecked (transferCheckedData amount decimals) = some (amount, decimals) := by
  have henc : (Codec.u64.seq Codec.u8).encode (amount, decimals) ++ [] =
      le64 amount ++ [decimals] := by
    rw [List.append_nil]
    show le64 amount ++ [UInt8.ofNat decimals.toNat] = _
    rw [UInt8.ofNat_toNat]
  have hdec := (Codec.u64.seq Codec.u8).decode_encode (amount, decimals) []
  rw [henc] at hdec
  unfold transferCheckedData unpackTransferChecked
  simp only [hdec]

/-! ## Rewriting -/

/-- Overwriting the amount of a transfer gives the transfer of the new amount. -/
theorem patch_transferCheckedData (amount charge : UInt64) (decimals : UInt8) :
    patch 1 (le64 charge) (transferCheckedData amount decimals) =
      transferCheckedData charge decimals := by
  have htail : (transferCheckedData amount decimals).drop (1 + (le64 charge).length) =
      [decimals] := by
    rw [length_le64, ← length_le64 amount, Nat.add_comm]
    exact List.drop_left
  rw [patch, htail]
  rfl

/-- The message kinds that a reimbursement can be rewritten in. -/
theorem replaceable_of_isFormat {format : TransactionFormat} {m : VersionedMessage}
    (h : IsFormat format m) : m.replaceable = .ok m.instructions := by
  cases format with
  | v0 =>
    obtain ⟨m', rfl⟩ := h
    rfl
  | v1 =>
    obtain ⟨m', rfl⟩ := h
    rfl

theorem replaceable_eq_ok {m : VersionedMessage} {ixs : List CompiledInstruction}
    (h : m.replaceable = .ok ixs) : ixs = m.instructions := by
  cases m with
  | legacy m => exact nomatch h
  | v0 m => exact (Except.ok.inj h).symm
  | v1 m => exact (Except.ok.inj h).symm

/-- Every way a rewriting can go: a check fails and nothing changes, or the transfer of the
reserved amount stands at the index and its amount is overwritten. -/
theorem runs_replaceReimbursement {index : ℕ} {reserved charge : UInt64}
    {tx tx' : VersionedTransaction} {tr : Trace Answer} {r : Except (Fault TradeError) Unit}
    (h : (replaceReimbursement index reserved charge).Runs tx tr r tx') :
    tr = [] ∧ ((∃ e, r = .error e ∧ tx' = tx) ∨
      (r = .ok () ∧ tx' = tx.setAmount index charge ∧ charge ≤ reserved ∧
        ∃ c, tx.message.instructions[index]? = some c ∧
          c.data = transferCheckedData reserved usdcDecimals)) := by
  unfold replaceReimbursement at h
  rw [Proc.runs_read_bind, Proc.runs_ofResult_bind] at h
  rcases h with ⟨e, -, htr, hr, htx⟩ | ⟨ixs, hixs, h⟩
  · exact ⟨htr, Or.inl ⟨e, hr, htx⟩⟩
  rw [Proc.runs_ofResult_bind] at h
  rcases h with ⟨e, -, htr, hr, htx⟩ | ⟨c, hc, h⟩
  · exact ⟨htr, Or.inl ⟨e, hr, htx⟩⟩
  rw [Proc.runs_failIf_bind] at h
  rcases h with ⟨-, htr, hr, htx⟩ | ⟨hgood, h⟩
  · exact ⟨htr, Or.inl ⟨_, hr, htx⟩⟩
  obtain ⟨htr, hr, htx⟩ := Proc.runs_update.mp h
  rw [not_or, not_not, gt_iff_lt, UInt64.not_lt] at hgood
  rw [okOr_eq_ok, replaceable_eq_ok hixs] at hc
  exact ⟨htr, Or.inr ⟨hr, htx, hgood.2, c, hc, hgood.1⟩⟩

/-- A rewriting that fails leaves the transaction as it was. -/
theorem failed_replace_unchanged {index : ℕ} {reserved charge : UInt64}
    {tx tx' : VersionedTransaction} {tr : Trace Answer} {e : Fault TradeError}
    (h : (replaceReimbursement index reserved charge).Runs tx tr (.error e) tx') : tx' = tx := by
  obtain ⟨-, ⟨_, -, htx⟩ | ⟨hok, -⟩⟩ := runs_replaceReimbursement h
  · exact htx
  · exact nomatch hok

/-- A transfer of the reserved amount can be lowered to any charge below it. -/
theorem replaceReimbursement_succeeds {index : ℕ} {reserved charge : UInt64}
    {tx : VersionedTransaction} {c : CompiledInstruction}
    (hmessage : tx.message.replaceable = .ok tx.message.instructions)
    (hindex : tx.message.instructions[index]? = some c)
    (hdata : c.data = transferCheckedData reserved usdcDecimals) (hle : charge ≤ reserved)
    {tr : Trace Answer} {r : Except (Fault TradeError) Unit} {tx' : VersionedTransaction} :
    (replaceReimbursement index reserved charge).Runs tx tr r tx' ↔
      tr = [] ∧ r = .ok () ∧ tx' = tx.setAmount index charge := by
  unfold replaceReimbursement
  have hgood : ¬ (c.data ≠ [12] ++ le64 reserved ++ [6] ∨ charge > reserved) := by
    rintro (hbad | hbad)
    · exact hbad hdata
    · exact UInt64.not_lt.mpr hle hbad
  rw [Proc.runs_read_bind, hmessage, Proc.runs_ofResult_bind]
  simp only [reduceCtorEq, false_and, exists_false, false_or, Except.ok.injEq,
    exists_eq_left', hindex, okOr, Proc.runs_ofResult_bind, Proc.runs_failIf_bind, hgood,
    not_false_eq_true, true_and, Proc.runs_update]

/-! ## What a rewriting changes -/

/-- `tx'` is `tx` with the amount of the transfer at `index` replaced by `charge`: every
other byte, of this instruction and of the rest of the transaction, is the same. -/
structure OnlyAmountChanged (index : ℕ) (charge : UInt64) (tx tx' : VersionedTransaction) :
    Prop where
  signatures : tx'.signatures = tx.signatures
  message : tx'.message = tx.message.setInstructions tx'.message.instructions
  others : ∀ i, i ≠ index → tx'.message.instructions[i]? = tx.message.instructions[i]?
  target : ∃ c data, tx.message.instructions[index]? = some c ∧
    tx'.message.instructions[index]? = some { c with data := data } ∧
    data.length = c.data.length ∧ data.take 1 = c.data.take 1 ∧ data.drop 9 = c.data.drop 9 ∧
    unpackTransferChecked data = some (charge, usdcDecimals)

@[simp] theorem instructions_setInstructions (m : VersionedMessage)
    (ixs : List CompiledInstruction) : (m.setInstructions ixs).instructions = ixs := by
  cases m <;> rfl

theorem onlyAmountChanged_setAmount {index : ℕ} {reserved : UInt64} (charge : UInt64)
    {tx : VersionedTransaction} {c : CompiledInstruction}
    (hindex : tx.message.instructions[index]? = some c)
    (hdata : c.data = transferCheckedData reserved usdcDecimals) :
    OnlyAmountChanged index charge tx (tx.setAmount index charge) := by
  have hixs : (tx.setAmount index charge).message.instructions =
      tx.message.instructions.modify index fun c =>
        { c with data := patch 1 (le64 charge) c.data } :=
    instructions_setInstructions _ _
  have hroom : 1 + (le64 charge).length ≤ c.data.length := by
    rw [hdata, length_transferCheckedData, length_le64]
    omega
  refine ⟨rfl, ?_, ?_, c, patch 1 (le64 charge) c.data, hindex, ?_, length_patch hroom,
    take_patch hroom, drop_patch hroom, ?_⟩
  · rw [hixs]
    rfl
  · intro i hi
    rw [hixs, List.getElem?_modify_ne _ _ (Ne.symm hi)]
  · rw [hixs, List.getElem?_modify_eq, hindex]
    rfl
  · rw [hdata, patch_transferCheckedData, unpackTransferChecked_data]

/-! ## The claim of the executor's comment -/

section Build

variable [Sdk] {σ : Type}

/-- The instructions in front of the reimbursement in the compiled message: the executor's
budget, what is kept of the route, and the creation of the recipient's token account. -/
def beforeReimbursement (sponsor : GasSponsor) (route : PreparedSwap) (fee : UInt64)
    (limit : UInt32) : List Instruction :=
  budgetInstructions route.format fee limit ++
    (route.instructions ++
      [createAtaIdempotent sponsor.wallet sponsor.feeRecipient usdcMint tokenProgram]).filter
      (keeps route.format)

/-- **The reimbursement is the instruction that gets rewritten, and nothing else is.**
Compilation is assumed to keep the order and the data of the instructions. -/
theorem reimbursement_rewritten (hcompile : KeepsInstructions) {sponsor : GasSponsor}
    {trade : Trade} {route prepared : PreparedSwap}
    (happly : sponsor.applyToSwap trade route = .ok prepared) {payer : Pubkey}
    {tables : List AddressLookupTableAccount} {fee : UInt64} {submitter : Submitter}
    {s s' : σ} {tr : Trace Answer} {tx : VersionedTransaction}
    (hbuild : (buildTransaction payer ⟨prepared.instructions, tables, prepared.format⟩ fee
      submitter).Runs s tr (.ok tx) s') :
    ∃ index limit transfer,
      lastCompiledIndex prepared.instructions prepared.format = some index ∧
      transferChecked tokenProgram (ata trade.wallet usdcMint tokenProgram) usdcMint
        (ata sponsor.feeRecipient usdcMint tokenProgram) trade.wallet
        sponsor.costPolicy.maxFeeUsdc 6 = .ok transfer ∧
      List.Forall₂ (CompiledFrom tx.message.staticAccountKeys)
        (beforeReimbursement sponsor route fee limit ++
          transfer :: tipInstructions payer submitter) tx.message.instructions ∧
      index = (beforeReimbursement sponsor route fee limit).length ∧
      (∀ charge ≤ sponsor.costPolicy.maxFeeUsdc,
        (∀ tr r tx', (replaceReimbursement index sponsor.costPolicy.maxFeeUsdc charge).Runs
            tx tr r tx' ↔ tr = [] ∧ r = .ok () ∧ tx' = tx.setAmount index charge) ∧
        OnlyAmountChanged index charge tx (tx.setAmount index charge)) ∧
      (∀ i reserved charge e t tr t',
        (replaceReimbursement i reserved charge).Runs t tr (.error e) t' → t' = t) := by
  obtain ⟨hixs, hformat, -⟩ := GasSponsor.applyToSwap_eq_ok happly
  obtain ⟨budget, limit, built⟩ := runs_buildTransaction hbuild
  have hkept : keeps route.format
      (usdcTransfer trade.wallet sponsor.feeRecipient sponsor.costPolicy.maxFeeUsdc) = true :=
    keeps_of_programId_ne computeBudgetProgram_ne.2.1
  -- The route as compiled: what stands before the transfer, the transfer, the tip.
  have hlist : budgetInstructions prepared.format fee limit ++
      (prepared.instructions.filter (keeps prepared.format) ++ tipInstructions payer submitter) =
      beforeReimbursement sponsor route fee limit ++
        usdcTransfer trade.wallet sponsor.feeRecipient sponsor.costPolicy.maxFeeUsdc ::
          tipInstructions payer submitter := by
    rw [hixs, hformat, List.filter_append, List.filter_cons_of_pos hkept, List.filter_nil,
      beforeReimbursement]
    simp only [List.append_assoc, List.singleton_append]
  have hcompiled := built.compiled hcompile
  rw [hlist] at hcompiled
  have hindex : lastCompiledIndex prepared.instructions prepared.format =
      some (beforeReimbursement sponsor route fee limit).length := by
    rw [hixs, hformat, lastCompiledIndex_append hkept, beforeReimbursement, List.length_append,
      length_budgetInstructions]
  obtain ⟨c, hc, hfrom⟩ := getElem?_of_forall₂_append hcompiled
  have hdata : c.data = transferCheckedData sponsor.costPolicy.maxFeeUsdc usdcDecimals :=
    hfrom.data
  refine ⟨_, limit, _, hindex, transferChecked_usdc _ _ _, hcompiled, rfl, ?_, ?_⟩
  · intro charge hle
    refine ⟨fun tr r tx' => ?_, onlyAmountChanged_setAmount charge hc hdata⟩
    exact replaceReimbursement_succeeds (replaceable_of_isFormat built.format) hc hdata hle
  · intro i reserved charge e t tr t' h
    exact failed_replace_unchanged h

end Build

/-! ## A sponsored route -/

def sampleSponsor : GasSponsor where
  wallet := sampleSponsorWallet
  feeRecipient := sampleSponsorWallet
  costPolicy :=
    { maxCostLamports := defaultMaxCostLamports
      maxFeeUsdc := defaultMaxFeeUsdc
      serviceFeeUsdc := oneUsdc
      maxCost_pos := by decide
      serviceFee_lt := by decide }
  wallet_ne_default := by decide
  feeRecipient_ne_default := by decide

def sampleTrade : Trade where
  settlement := .usdc
  wallet := sampleUser
  mint := sampleMint
  side := .buy
  amount := 10000000
  slippageBps := 100
  venue := none
  pool := none
  quoteSource := some .jupiter

/-- A route that asks for a compute-unit limit and a heap frame around its swap. -/
def sampleRoute : PreparedSwap where
  venue := Aggregators.Jupiter.venue
  quote :=
    { inAmount := 7000000
      usdValue := none
      expectedOut := 500
      minOut := 495
      fee := 0
      applicationFee := 0
      sponsorshipFee := 0 }
  instructions :=
    [⟨computeBudgetProgram, [], setComputeUnitLimitTag :: le32 200000⟩,
      ⟨sampleMint, [.writable sampleUser true], [7]⟩,
      ⟨computeBudgetProgram, [], requestHeapFrame :: le32 65536⟩]
  lookupTables := []
  format := .v0

/-- A node that simulates everything without an error and knows a blockhash. -/
def sampleNode (_ : ℕ) (q : Query) : Answer q :=
  match q with
  | .getLatestBlockhash => .ok (.zero 32)
  | .simulateTransaction _ _ => .ok ⟨none, none, none, none, none, none⟩
  | q => silent q

theorem reimbursement_rewritten_sample :
    let := sampleSdk
    ∃ prepared tr tx s', sampleSponsor.applyToSwap sampleTrade sampleRoute = .ok prepared ∧
      (buildTransaction sampleSponsorWallet ⟨prepared.instructions, [], prepared.format⟩ 5000
        ⟨none⟩ : Task Unit _).Runs () tr (.ok tx) s' ∧
      ∃ index, lastCompiledIndex prepared.instructions prepared.format = some index ∧
        OnlyAmountChanged index 1500000 tx (tx.setAmount index 1500000) := by
  let := sampleSdk
  obtain ⟨prepared, happly⟩ :
      ∃ prepared, sampleSponsor.applyToSwap sampleTrade sampleRoute = .ok prepared := ⟨_, rfl⟩
  obtain ⟨hixs, hformat, -⟩ := GasSponsor.applyToSwap_eq_ok happly
  obtain ⟨tr, tx, s', hrun⟩ : ∃ tr tx s', (buildTransaction sampleSponsorWallet
      ⟨prepared.instructions, [], prepared.format⟩ 5000 ⟨none⟩ : Task Unit _).Runs () tr
        (.ok tx) s' := by
    rw [hixs, hformat]
    exact Proc.runs_ok_of_exec sampleNode (fun _ => 0) _ () (by decide +kernel)
  obtain ⟨index, -, -, hindex, -, -, -, hchange, -⟩ := reimbursement_rewritten
    (referenceSdk_keepsInstructions sampleDerived) happly hrun
  exact ⟨prepared, tr, tx, s', happly, hrun, index, hindex, (hchange 1500000 (by decide)).2⟩

end Solana
end TradingAggregators
