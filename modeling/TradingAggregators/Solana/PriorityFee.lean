import TradingAggregators.Market.Rounding
import TradingAggregators.Solana.BudgetSettings

/-!
# The priority fee of both layouts

A V1 header holds the caller's priority fee as it is.  A V0 message holds a price for each
compute unit, in micro-lamports, from which the cluster derives a fee again.  The price is
rounded down and the fee up, and between the two the price is cut to 64 bits.

* `cuLimit_bounds`: the limit lies within the cluster's bounds and above the provider's request.
* `v0Fee_iff`: what the price is derived for comes back within one lamport, exactly when nothing
  is cut.
* `priority_fees_agree_iff`: the same as a condition on what the executor was given, and that
  these are the numbers of every transaction that is built.
-/

namespace TradingAggregators
namespace Solana

open Interaction Interaction.Program Rust Wire Rounding

variable {σ : Type}

/-! ## The limit -/

/-- A limit that a provider may ask for. -/
def LimitInBounds (limit : UInt32) : Prop :=
  1 ≤ limit.toNat ∧ limit.toNat ≤ 1400000

/-- One round of the loop lets through a limit within its bounds. -/
theorem takeLimit_inBounds {requested requested' : Option UInt32} {ix : Instruction}
    (h : takeLimit requested ix = .ok requested') : ∀ limit ∈ requested', LimitInBounds limit := by
  obtain ⟨limit, -, h₁⟩ := bind_eq_ok.mp h
  obtain ⟨_, hchecks, h₂⟩ := bind_eq_ok.mp h₁
  rw [failIf_eq_ok, not_or, not_or, not_not] at hchecks
  obtain rfl := pure_eq_ok.mp h₂
  intro limit' hlimit'
  obtain rfl := Option.some.inj hlimit'
  obtain ⟨-, ⟨hpos, hle⟩, -⟩ := hchecks
  exact ⟨UInt32.le_iff_toNat_le.mp hpos, UInt32.le_iff_toNat_le.mp hle⟩

theorem takeLimits_inBounds {ixs : List Instruction} {requested requested' : Option UInt32}
    (h : ixs.foldlM takeLimit requested = .ok requested')
    (hrequested : ∀ limit ∈ requested, LimitInBounds limit) :
    ∀ limit ∈ requested', LimitInBounds limit := by
  induction ixs generalizing requested with
  | nil => exact pure_eq_ok.mp h ▸ hrequested
  | cons ix ixs ih =>
    rw [List.foldlM_cons] at h
    obtain ⟨next, hnext, hrest⟩ := bind_eq_ok.mp h
    exact ih hrest (takeLimit_inBounds hnext)

/-- Reading the other requests leaves the limit alone. -/
theorem RequestedBudget.record_foldlM_limit {ixs : List Instruction}
    {budget budget' : RequestedBudget} (h : ixs.foldlM record budget = .ok budget') :
    budget'.computeUnitLimit = budget.computeUnitLimit := by
  induction ixs generalizing budget with
  | nil => rw [← pure_eq_ok.mp h]
  | cons ix ixs ih =>
    rw [List.foldlM_cons] at h
    obtain ⟨next, hnext, hrest⟩ := bind_eq_ok.mp h
    rw [ih hrest]
    obtain ⟨v, ⟨-, -, rfl⟩ | ⟨-, -, rfl⟩⟩ := record_eq_ok hnext
    · rfl
    · rfl

/-- The request that is taken out of a route is within its bounds. -/
theorem RequestedBudget.take_inBounds {ixs kept : List Instruction} {format : TransactionFormat}
    {requested : RequestedBudget} (h : take ixs format = .ok (requested, kept)) :
    ∀ limit ∈ requested.computeUnitLimit, LimitInBounds limit := by
  obtain ⟨⟨limit, rest⟩, hlimit, h₁⟩ := bind_eq_ok.mp h
  obtain ⟨hfold, -⟩ := takeComputeUnitLimit_eq_ok hlimit
  have hbounds := takeLimits_inBounds hfold (by simp)
  cases format with
  | v0 =>
    obtain ⟨rfl, -⟩ := Prod.mk.inj (pure_eq_ok.mp h₁)
    exact hbounds
  | v1 =>
    obtain ⟨budget, hrecord, h₂⟩ := bind_eq_ok.mp h₁
    obtain ⟨rfl, -⟩ := Prod.mk.inj (pure_eq_ok.mp h₂)
    rw [record_foldlM_limit hrecord]
    exact hbounds

theorem suggestedLimit_bounds (simulated : Option UInt64) :
    1 ≤ suggestedLimit simulated ∧ suggestedLimit simulated ≤ 1400000 := by
  cases simulated with
  | none => exact ⟨by decide, by decide⟩
  | some units =>
    show 1 ≤ min (max _ 1) 1400000 ∧ min (max _ 1) 1400000 ≤ 1400000
    omega

/-- **The limit of a transaction**, whatever the simulation says. -/
theorem cuLimit_bounds {requested : RequestedBudget}
    (h : ∀ limit ∈ requested.computeUnitLimit, LimitInBounds limit) (simulated : Option UInt64) :
    LimitInBounds (cuLimit simulated requested) ∧
      ∀ limit ∈ requested.computeUnitLimit, limit ≤ cuLimit simulated requested := by
  have hsuggested := suggestedLimit_bounds simulated
  have hlimit := toNat_cuLimit simulated requested
  unfold LimitInBounds
  cases hrequest : requested.computeUnitLimit with
  | none =>
    rw [hrequest, Option.getD_none, UInt32.toNat_zero, Nat.max_zero] at hlimit
    exact ⟨by omega, by simp⟩
  | some limit =>
    rw [hrequest, Option.getD_some] at hlimit
    have hbounds := h limit hrequest
    unfold LimitInBounds at hbounds
    refine ⟨by omega, fun limit' hlimit' => ?_⟩
    obtain rfl := Option.some.inj hlimit'
    rw [UInt32.le_iff_toNat_le]
    omega

/-! ## The price -/

/-- The fee that the cluster derives from the limit and the price of a V0 message. -/
def derivedFee (limit price : Instruction) : ℕ :=
  shareUp microLamportsPerLamport (ofLeBytes (price.data.drop 1)) (ofLeBytes (limit.data.drop 1))

/-- The fee that a V1 header asks for. -/
def V1TransactionConfig.fee (header : V1TransactionConfig) : ℕ :=
  (header.priorityFee.getD 0).toNat

/-- The fee that comes out of the executor's two V0 instructions. -/
def v0Fee (fee : UInt64) (limit : UInt32) : ℕ :=
  derivedFee (setComputeUnitLimit limit) (setComputeUnitPrice (unitPrice fee limit))

theorem v0Fee_eq (fee : UInt64) (limit : UInt32) :
    v0Fee fee limit =
      shareUp 1000000 (fee.toNat * 1000000 / limit.toNat % 2 ^ 64) limit.toNat := by
  have hprice : ofLeBytes (le64 (unitPrice fee limit)) =
      fee.toNat * 1000000 / limit.toNat % 2 ^ 64 := by
    rw [ofLeBytes_le64]
    exact UInt64.toNat_ofNat'
  have hlimit : ofLeBytes (le32 limit) = limit.toNat :=
    ofLeBytes_leBytes (by exact limit.toNat_lt)
  show shareUp 1000000 (ofLeBytes (le64 (unitPrice fee limit))) (ofLeBytes (le32 limit)) = _
  rw [hprice, hlimit]

/-- **When the price keeps the fee**: within one lamport, exactly when it fits in 64 bits. -/
theorem v0Fee_iff {fee : UInt64} {limit : UInt32} (h : LimitInBounds limit) :
    (v0Fee fee limit ≤ fee.toNat ∧ fee.toNat ≤ v0Fee fee limit + 1) ↔
      fee.toNat * 1000000 < 2 ^ 64 * limit.toNat := by
  obtain ⟨hpos, hle⟩ := h
  have hfloor := Nat.div_mul_le_self (fee.toNat * 1000000) limit.toNat
  rw [v0Fee_eq]
  by_cases hfits : fee.toNat * 1000000 < 2 ^ 64 * limit.toNat
  · have hprice : fee.toNat * 1000000 / limit.toNat < 2 ^ 64 := by
      rwa [Nat.div_lt_iff_lt_mul hpos]
    have hceil := Nat.lt_div_mul_add hpos (a := fee.toNat * 1000000)
    rw [Nat.mod_eq_of_lt hprice]
    refine iff_of_true ⟨?_, ?_⟩ hfits
    · exact shareUp_le_of_mul_le (by decide) hfloor
    · exact le_shareUp_of_lt_mul (by decide) hceil (by omega)
  · -- What is cut off is worth more than the two lamports by which rounding can err.
    have hquotient : 2 ^ 64 ≤ fee.toNat * 1000000 / limit.toNat := by
      rw [Nat.le_div_iff_mul_le hpos]
      exact Nat.le_of_not_lt hfits
    have hcut : fee.toNat * 1000000 / limit.toNat % 2 ^ 64 + 2 ^ 64 ≤
        fee.toNat * 1000000 / limit.toNat := by
      have hmod := Nat.mod_le (fee.toNat * 1000000 / limit.toNat - 2 ^ 64) (2 ^ 64)
      rw [Nat.mod_eq_sub_mod hquotient]
      omega
    have hless := (Nat.mul_le_mul_right limit.toNat hcut).trans hfloor
    rw [Nat.add_mul] at hless
    have hcharged := shareUp_mul_lt (d := 1000000) (r := limit.toNat)
      (n := fee.toNat * 1000000 / limit.toNat % 2 ^ 64) (by decide)
    refine iff_of_false (fun hwithin => ?_) hfits
    obtain ⟨-, hback⟩ := hwithin
    omega

/-! ## Both layouts -/

/-- **Both layouts charge the caller's fee**: V1 as it is, V0 within one lamport, under a limit
within the bounds and above the provider's request. -/
structure FeesAgree (fee : UInt64) (simulated : Option UInt64) (requested : RequestedBudget) :
    Prop where
  limit : LimitInBounds (cuLimit simulated requested)
  floor : ∀ limit ∈ requested.computeUnitLimit, limit ≤ cuLimit simulated requested
  v0_le : v0Fee fee (cuLimit simulated requested) ≤ fee.toNat
  le_v0 : fee.toNat ≤ v0Fee fee (cuLimit simulated requested) + 1
  v1 : (requested.v1Config (cuLimit simulated requested) fee).fee = fee.toNat

/-- A fee whose price for each unit fits in 64 bits, at the limit that the simulation suggests
or at the one that the provider requests. -/
def PriceFits (fee : UInt64) (simulated : Option UInt64) (request : Option UInt32) : Prop :=
  fee.toNat * 1000000 < 2 ^ 64 * suggestedLimit simulated ∨
    ∃ limit ∈ request, fee.toNat * 1000000 < 2 ^ 64 * limit.toNat

theorem fee_v1Config (requested : RequestedBudget) (limit : UInt32) (fee : UInt64) :
    (requested.v1Config limit fee).fee = fee.toNat := by
  unfold V1TransactionConfig.fee
  show ((if fee > 0 then some fee else none).getD 0).toNat = _
  by_cases hfee : fee > 0
  · rw [if_pos hfee, Option.getD_some]
  · rw [if_neg hfee, Option.getD_none]
    rw [gt_iff_lt, UInt64.lt_iff_toNat_lt] at hfee
    exact (Nat.eq_zero_of_not_pos hfee).symm

theorem priceFits_iff (fee : UInt64) (simulated : Option UInt64) (requested : RequestedBudget) :
    PriceFits fee simulated requested.computeUnitLimit ↔
      fee.toNat * 1000000 < 2 ^ 64 * (cuLimit simulated requested).toNat := by
  unfold PriceFits
  rw [toNat_cuLimit]
  cases requested.computeUnitLimit with
  | none => simp
  | some limit =>
    simp only [Option.mem_some_iff, exists_eq_left', Option.getD_some]
    omega

/-- A message with the executor's limit and price in front of its requests, or in its header. -/
def HoldsBudget [Sdk] (payer : Pubkey) (requested : RequestedBudget) (limit : UInt32)
    (fee : UInt64) : VersionedMessage → Prop
  | .v0 m => ∃ rest, messageRequests (.v0 m) =
      (setComputeUnitLimit limit).data :: (setComputeUnitPrice (unitPrice fee limit)).data :: rest
  | .v1 m => ∃ ixs blockhash,
      Sdk.compileV1 payer ixs blockhash (requested.v1Config limit fee) = .ok m
  | .legacy _ => False

/-- What a built transaction charges is what the executor computed. -/
theorem runs_buildTransaction_budget [Sdk] (hkeeps : KeepsInstructions) {payer : Pubkey}
    {route : Route} {fee : UInt64} {submitter : Submitter} {s s' : σ} {tr : Trace Answer}
    {tx : VersionedTransaction}
    (h : (buildTransaction payer route fee submitter).Runs s tr (.ok tx) s') :
    ∃ requested kept simulated, Simulated tr simulated ∧
      RequestedBudget.take route.instructions route.format = .ok (requested, kept) ∧
      HoldsBudget payer requested (cuLimit simulated requested) fee tx.message := by
  cases hformat : route.format with
  | v0 =>
    obtain ⟨requested, simulated, hsimulated, hbuilt⟩ := runs_buildTransaction_simulated h
    have hrequests := messageRequests_v0 hkeeps hbuilt hformat
    have htake := hbuilt.taken
    have hmessage := hbuilt.format
    rw [hformat] at htake hmessage
    obtain ⟨m, hm⟩ := hmessage
    rw [hm] at hrequests ⊢
    exact ⟨requested, _, simulated, hsimulated, htake, _, hrequests⟩
  | v1 =>
    obtain ⟨requested, kept, simulated, blockhash, m, htake, hm, hmessage, hsimulated⟩ :=
      runs_buildTransaction_v1 hformat h
    rw [hmessage]
    exact ⟨requested, kept, simulated, hsimulated, htake, _, blockhash, hm⟩

/-- **When both layouts charge the same priority fee**: exactly when the price that a V0 message
holds for each unit fits in its 64 bits.  These are the limit, the price and the header of what
is built, for the estimate that its simulation told. -/
theorem priority_fees_agree_iff [Sdk] :
    (∀ (ixs kept : List Instruction) (format : TransactionFormat) (requested : RequestedBudget),
      RequestedBudget.take ixs format = .ok (requested, kept) →
      ∀ (fee : UInt64) (simulated : Option UInt64),
        FeesAgree fee simulated requested ↔
          PriceFits fee simulated requested.computeUnitLimit) ∧
    (KeepsInstructions → ∀ (payer : Pubkey) (route : Route) (fee : UInt64)
      (submitter : Submitter) (s s' : σ) (tr : Trace Answer) (tx : VersionedTransaction),
      (buildTransaction payer route fee submitter).Runs s tr (.ok tx) s' →
      ∃ requested kept simulated, Simulated tr simulated ∧
        RequestedBudget.take route.instructions route.format = .ok (requested, kept) ∧
        HoldsBudget payer requested (cuLimit simulated requested) fee tx.message) := by
  refine ⟨?_, fun hkeeps _ _ _ _ _ _ _ _ hrun => runs_buildTransaction_budget hkeeps hrun⟩
  intro ixs kept format requested htake fee simulated
  obtain ⟨hlimit, hfloor⟩ := cuLimit_bounds (RequestedBudget.take_inBounds htake) simulated
  rw [priceFits_iff, ← v0Fee_iff hlimit]
  constructor
  · intro h
    exact ⟨h.v0_le, h.le_v0⟩
  · rintro ⟨hle, hback⟩
    exact ⟨hlimit, hfloor, hle, hback, fee_v1Config _ _ _⟩

theorem priority_fees_agree_iff_sample :
    let := sampleSdk
    (∃ kept, RequestedBudget.take [setComputeUnitLimit 900000] .v0 =
      .ok (⟨some 900000, none, none⟩, kept)) ∧
    FeesAgree 5000 none ⟨some 900000, none, none⟩ ∧
    ∃ tr tx, (buildTransaction sampleUser ⟨sampleRoute.instructions, [], .v0⟩ 5000 ⟨none⟩ :
        Task Unit _).Runs () tr (.ok tx) () ∧
      ∃ requested simulated, Simulated tr simulated ∧
        HoldsBudget sampleUser requested (cuLimit simulated requested) 5000 tx.message := by
  intro sdk
  obtain ⟨hagree, hbuilt⟩ := priority_fees_agree_iff (σ := Unit)
  have htake : RequestedBudget.take [setComputeUnitLimit 900000] .v0 =
      .ok (⟨some 900000, none, none⟩, []) := rfl
  refine ⟨⟨_, htake⟩, (hagree _ _ _ _ htake 5000 none).mpr (Or.inl (by decide)), ?_⟩
  obtain ⟨tr, tx, _, hrun⟩ := Proc.runs_ok_of_exec sampleNode (fun _ => 1)
    (buildTransaction sampleUser ⟨sampleRoute.instructions, [], .v0⟩ 5000 ⟨none⟩ :
      Task Unit VersionedTransaction) () (by decide +kernel)
  obtain ⟨requested, kept, simulated, hsimulated, -, hholds⟩ :=
    hbuilt (referenceSdk_keepsInstructions _) _ _ _ _ _ _ _ _ hrun
  exact ⟨tr, tx, hrun, requested, simulated, hsimulated, hholds⟩

/-- **The largest fees are cut**: without an estimate and without a request, a price for
`u64::MAX` lamports loses its upper bits. -/
theorem largest_fee_cut :
    ¬ ∀ (ixs kept : List Instruction) (format : TransactionFormat) (requested : RequestedBudget),
      RequestedBudget.take ixs format = .ok (requested, kept) →
      ∀ (fee : UInt64) (simulated : Option UInt64), FeesAgree fee simulated requested := by
  intro hall
  have hback := (hall [] [] .v0 ⟨none, none, none⟩ rfl 18446744073709551615 none).le_v0
  have hcharged : v0Fee 18446744073709551615 350000 < 10000000000000000000 := by
    rw [v0Fee_eq]
    decide
  have hlimit : cuLimit none ⟨none, none, none⟩ = 350000 := by
    decide
  rw [hlimit] at hback
  have hfee : (18446744073709551615 : UInt64).toNat = 18446744073709551615 := rfl
  omega

end Solana
end TradingAggregators
