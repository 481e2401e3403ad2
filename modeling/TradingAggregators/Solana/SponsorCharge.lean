import TradingAggregators.Rust.Exact
import TradingAggregators.Solana.SponsoredRun

/-!
# What a sponsor charges

## 1.  Configured sponsors

`GasSponsor.configured` is `GasSponsor::new` followed by any sequence of the builder's calls,
each of which checks its arguments against what the calls before it have set.
`exists_configured` says that every pair of limits with the policy's two invariants is reached.

## 2.  The arithmetic on machine words

`chargeExact_eq`: written with the `u128` and `u64` steps of the code, none of which may lose
anything, the charge is the one computed on naturals.

## 3.  The least charge that recovers the cost

`charge_isLeast`, `charge_mono`, `least_exceeds_of_error`, and with the rest
`sponsor_charge_sound`.
-/

namespace TradingAggregators
namespace Solana

open Interaction Rust Rust.Exact

/-! ## 1.  Configured sponsors -/

/-- A call of the builder. -/
inductive Setting where
  | feeRecipient (recipient : Pubkey)
  | limits (maxCostLamports maxFeeUsdc : UInt64)
  | serviceFeeUsdc (amount : UInt64)

namespace GasSponsor

def set (sponsor : GasSponsor) : Setting → TradeResult GasSponsor
  | .feeRecipient recipient => sponsor.withFeeRecipient recipient
  | .limits maxCostLamports maxFeeUsdc => sponsor.withLimits maxCostLamports maxFeeUsdc
  | .serviceFeeUsdc amount => sponsor.withServiceFeeUsdc amount

/-- A new sponsor and the calls made on it; a call that fails leaves no sponsor. -/
def configured (wallet : Pubkey) (settings : List Setting) : TradeResult GasSponsor := do
  settings.foldlM set (← new wallet)

/-- Every pair of limits is reached that a policy can hold: the cap is raised above both the
present service fee and the wanted one, then the fee is set, then the cap. -/
theorem exists_configured {wallet : Pubkey} (hwallet : wallet ≠ .zero 32)
    {maxCost maxFee service : UInt64} (hcost : 0 < maxCost) (hfee : service < maxFee) :
    ∃ settings sponsor, configured wallet settings = .ok sponsor ∧
      sponsor.costPolicy.maxCostLamports = maxCost ∧ sponsor.costPolicy.maxFeeUsdc = maxFee ∧
      sponsor.costPolicy.serviceFeeUsdc = service := by
  have hcost0 : maxCost ≠ 0 := UInt64.pos_iff_ne_zero.mp hcost
  have hhigh : ∃ high : UInt64, oneUsdc < high ∧ service < high := by
    by_cases h : oneUsdc < maxFee
    · exact ⟨maxFee, h, hfee⟩
    · refine ⟨oneUsdc + 1, by decide, ?_⟩
      exact UInt64.lt_of_lt_of_le hfee (UInt64.le_trans (UInt64.not_lt.mp h) (by decide))
  obtain ⟨high, hone, hservice⟩ := hhigh
  refine ⟨[.limits maxCost high, .serviceFeeUsdc service, .limits maxCost maxFee], {
    wallet := wallet
    feeRecipient := wallet
    costPolicy := {
      maxCostLamports := maxCost
      maxFeeUsdc := maxFee
      serviceFeeUsdc := service
      maxCost_pos := hcost
      serviceFee_lt := hfee }
    wallet_ne_default := hwallet
    feeRecipient_ne_default := hwallet }, ?_, rfl, rfl, rfl⟩
  have hnew : SponsorCostPolicy.new defaultMaxCostLamports defaultMaxFeeUsdc =
      .ok ⟨defaultMaxCostLamports, defaultMaxFeeUsdc, oneUsdc, by decide, by decide⟩ := rfl
  have hraise : ¬ (maxCost = 0 ∨ high ≤ oneUsdc) := by
    rintro (h | h)
    · exact hcost0 h
    · exact absurd hone (UInt64.not_lt.mpr h)
  have hset : ¬ service ≥ high := UInt64.not_le.mpr hservice
  have hlower : ¬ (maxCost = 0 ∨ maxFee ≤ service) := by
    rintro (h | h)
    · exact hcost0 h
    · exact absurd hfee (UInt64.not_lt.mpr h)
  simp only [configured, new, dif_neg hwallet, hnew, ok_bind, List.foldlM_cons,
    List.foldlM_nil, set, withLimits, withServiceFeeUsdc, SponsorCostPolicy.withLimits,
    SponsorCostPolicy.withServiceFeeUsdc, dif_neg hraise, dif_neg hset, dif_neg hlower,
    pure, Except.pure]

end GasSponsor

/-! ## 2.  The arithmetic on machine words -/

namespace SponsorCostPolicy

/-- `charge` on machine words, every step exact. -/
def chargeExact (p : SponsorCostPolicy) (cost : UInt64) (price : SolUsdcPrice)
    (now : SystemTime) : TradeResult UInt64 := do
  failIf (now < price.observedAt) (.err (.build "SOL/USDC price timestamp is in the future"))
  let age := now - price.observedAt
  failIf (price.usdcUnitsPerSol = 0 ∨ age > maxPriceAge)
    (.err (.build "SOL/USDC price must be positive and no older than 30 seconds"))
  failIf (cost > p.maxCostLamports)
    (.err (.build "simulated sponsor SOL cost exceeds the configured cap"))
  let product ← mul128 (widen cost) (widen price.usdcUnitsPerSol)
  let reimbursement ← divCeil128 product (BitVec.ofNat 128 lamportsPerSol)
  let charge ← add128 reimbursement (widen p.serviceFeeUsdc)
  failIf (charge > widen p.maxFeeUsdc)
    (.err (.build "sponsor reimbursement exceeds the configured USDC cap"))
  narrow charge

/-- The cost in USDC units, rounded up. -/
def reimbursement (cost : UInt64) (price : SolUsdcPrice) : ℕ :=
  (cost.toNat * price.usdcUnitsPerSol.toNat + (lamportsPerSol - 1)) / lamportsPerSol

theorem reimbursement_lt (cost : UInt64) (price : SolUsdcPrice) :
    reimbursement cost price < 2 ^ 127 := by
  have hlt : cost.toNat * price.usdcUnitsPerSol.toNat < 2 ^ 64 * 2 ^ 64 :=
    Nat.mul_lt_mul'' cost.toNat_lt price.usdcUnitsPerSol.toNat_lt
  have hlam : lamportsPerSol = 1000000000 := rfl
  rw [reimbursement, hlam, Nat.div_lt_iff_lt_mul (by omega)]
  omega

/-- The last step of a charge: the cap on the result. -/
def capped (p : SponsorCostPolicy) (n : ℕ) : TradeResult UInt64 := do
  failIf (n > p.maxFeeUsdc.toNat)
    (.err (.build "sponsor reimbursement exceeds the configured USDC cap"))
  pure (UInt64.ofNat n)

theorem charge_eq (p : SponsorCostPolicy) (cost : UInt64) (price : SolUsdcPrice)
    (now : SystemTime) : p.charge cost price now = (do
      failIf (now < price.observedAt)
        (.err (.build "SOL/USDC price timestamp is in the future"))
      failIf (price.usdcUnitsPerSol = 0 ∨ now - price.observedAt > maxPriceAge)
        (.err (.build "SOL/USDC price must be positive and no older than 30 seconds"))
      failIf (cost > p.maxCostLamports)
        (.err (.build "simulated sponsor SOL cost exceeds the configured cap"))
      p.capped (reimbursement cost price + p.serviceFeeUsdc.toNat)) :=
  rfl

/-- On a word of 128 bits the cap compares the same numbers, and what passes it fits the
cast. -/
theorem capped_word (p : SponsorCostPolicy) {n : ℕ} (hn : n < 2 ^ 128) :
    (do
      failIf (BitVec.ofNat 128 n > widen p.maxFeeUsdc)
        (.err (.build "sponsor reimbursement exceeds the configured USDC cap"))
      narrow (BitVec.ofNat 128 n)) = p.capped n := by
  have hmax := p.maxFeeUsdc.toNat_lt
  have hcap : BitVec.ofNat 128 n > widen p.maxFeeUsdc ↔ n > p.maxFeeUsdc.toNat := by
    rw [gt_iff_lt, BitVec.lt_def, toNat_widen, toNat_word hn]
  rw [capped]
  by_cases hover : n > p.maxFeeUsdc.toNat
  · rw [failIf_pos (hcap.mpr hover), failIf_pos hover]
    rfl
  · rw [failIf_neg (mt hcap.mp hover), failIf_neg hover, ok_bind, ok_bind,
      narrow_eq_ok (toNat_word hn) (by omega)]
    rfl

/-- **No step of the charge overflows and its cast loses nothing.** -/
theorem chargeExact_eq (p : SponsorCostPolicy) (cost : UInt64) (price : SolUsdcPrice)
    (now : SystemTime) : p.chargeExact cost price now = p.charge cost price now := by
  have hprod : cost.toNat * price.usdcUnitsPerSol.toNat < 2 ^ 64 * 2 ^ 64 :=
    Nat.mul_lt_mul'' cost.toNat_lt price.usdcUnitsPerSol.toNat_lt
  have hceil : reimbursement cost price < 2 ^ 127 := reimbursement_lt cost price
  have hservice := p.serviceFeeUsdc.toNat_lt
  have hsum : reimbursement cost price + p.serviceFeeUsdc.toNat < 2 ^ 128 := by omega
  have hdiv : (divCeil128 (BitVec.ofNat 128 (cost.toNat * price.usdcUnitsPerSol.toNat))
      (BitVec.ofNat 128 lamportsPerSol) : TradeResult Word128) =
      .ok (BitVec.ofNat 128 (reimbursement cost price)) :=
    divCeil128_eq_ok (toNat_word (by omega)) (toNat_word (by decide)) (by decide)
      (show reimbursement cost price < 2 ^ 128 by omega)
  have hadd : (add128 (BitVec.ofNat 128 (reimbursement cost price))
      (widen p.serviceFeeUsdc) : TradeResult Word128) =
      .ok (BitVec.ofNat 128 (reimbursement cost price + p.serviceFeeUsdc.toNat)) :=
    add128_eq_ok (toNat_word (by omega)) (toNat_widen _) hsum
  rw [charge_eq, ← capped_word p hsum]
  unfold chargeExact
  rw [mul128_widen, ok_bind, hdiv, ok_bind, hadd, ok_bind]

/-! ## 3.  The least charge that recovers the cost -/

/-- The charges that, less the service fee, pay the cost at the price. -/
def recovering (p : SponsorCostPolicy) (cost : UInt64) (price : SolUsdcPrice) : Set ℤ :=
  {c | (c - p.serviceFeeUsdc.toNat) * 1000000000 ≥ cost.toNat * price.usdcUnitsPerSol.toNat}

theorem reimbursement_isLeast (p : SponsorCostPolicy) (cost : UInt64) (price : SolUsdcPrice) :
    IsLeast (p.recovering cost price)
      ((reimbursement cost price + p.serviceFeeUsdc.toNat : ℕ) : ℤ) := by
  have hlam : lamportsPerSol = 1000000000 := rfl
  have hsplit := Nat.div_add_mod (cost.toNat * price.usdcUnitsPerSol.toNat +
    (lamportsPerSol - 1)) lamportsPerSol
  have hrem := Nat.mod_lt (cost.toNat * price.usdcUnitsPerSol.toNat + (lamportsPerSol - 1))
    (show 0 < lamportsPerSol by decide)
  rw [← reimbursement, hlam] at hsplit
  rw [hlam] at hrem
  have hprod : ((cost.toNat * price.usdcUnitsPerSol.toNat : ℕ) : ℤ) =
      cost.toNat * price.usdcUnitsPerSol.toNat := Nat.cast_mul _ _
  constructor
  · show (((_ : ℕ) : ℤ) - _) * 1000000000 ≥ _
    omega
  · intro c hc
    have hc' : (c - p.serviceFeeUsdc.toNat) * 1000000000 ≥
        cost.toNat * price.usdcUnitsPerSol.toNat := hc
    omega

variable {p : SponsorCostPolicy} {cost charge : UInt64} {price : SolUsdcPrice}
  {now : SystemTime}

/-- **A charge is the least integer that recovers the cost above the service fee.** -/
theorem charge_isLeast (h : p.charge cost price now = .ok charge) :
    IsLeast (p.recovering cost price) charge.toNat := by
  have hcharge : charge.toNat = reimbursement cost price + p.serviceFeeUsdc.toNat :=
    (charge_eq_ok h).charge_eq
  rw [hcharge]
  exact reimbursement_isLeast p cost price

theorem serviceFee_le_charge (h : p.charge cost price now = .ok charge) :
    p.serviceFeeUsdc ≤ charge := by
  rw [UInt64.le_iff_toNat_le, (charge_eq_ok h).charge_eq]
  exact Nat.le_add_left _ _

/-- A higher cost or price never lowers the charge, whenever the two are computed. -/
theorem charge_mono {cost' charge' : UInt64} {price' : SolUsdcPrice} {now' : SystemTime}
    (h : p.charge cost price now = .ok charge) (h' : p.charge cost' price' now' = .ok charge')
    (hcost : cost ≤ cost') (hprice : price.usdcUnitsPerSol ≤ price'.usdcUnitsPerSol) :
    charge ≤ charge' := by
  have hprod : cost.toNat * price.usdcUnitsPerSol.toNat ≤
      cost'.toNat * price'.usdcUnitsPerSol.toNat :=
    Nat.mul_le_mul (UInt64.le_iff_toNat_le.mp hcost) (UInt64.le_iff_toNat_le.mp hprice)
  rw [UInt64.le_iff_toNat_le, (charge_eq_ok h).charge_eq, (charge_eq_ok h').charge_eq]
  refine Nat.add_le_add_right (Nat.div_le_div_right ?_) _
  exact Nat.add_le_add_right hprod _

/-- A positive price that is neither from the future nor too old. -/
structure Fresh (price : SolUsdcPrice) (now : SystemTime) : Prop where
  notFuture : price.observedAt ≤ now
  notStale : now - price.observedAt ≤ maxPriceAge
  price_pos : 0 < price.usdcUnitsPerSol

/-- What a fresh price leaves of a charge: the cap on the result. -/
theorem charge_of_fresh (hfresh : Fresh price now) (hcost : cost ≤ p.maxCostLamports) :
    p.charge cost price now =
      p.capped (reimbursement cost price + p.serviceFeeUsdc.toNat) := by
  have hprice : ¬ (price.usdcUnitsPerSol = 0 ∨ now - price.observedAt > maxPriceAge) := by
    rintro (h | h)
    · exact UInt64.pos_iff_ne_zero.mp hfresh.price_pos h
    · exact absurd hfresh.notStale (not_le.mpr h)
  rw [charge_eq, failIf_neg (not_lt.mpr hfresh.notFuture), failIf_neg hprice,
    failIf_neg (UInt64.not_lt.mpr hcost), ok_bind, ok_bind, ok_bind]

/-- A fresh price and a cost within its cap fail only on the cap of the charge. -/
theorem least_exceeds_of_error {e : Fault TradeError} (hfresh : Fresh price now)
    (hcost : cost ≤ p.maxCostLamports) (h : p.charge cost price now = .error e) :
    ∃ c, IsLeast (p.recovering cost price) c ∧ p.maxFeeUsdc.toNat < c := by
  refine ⟨_, reimbursement_isLeast p cost price, ?_⟩
  rw [charge_of_fresh hfresh hcost] at h
  rcases bind_eq_error.mp h with hcap | ⟨_, -, h⟩
  · exact Int.ofNat_lt.mpr (failIf_eq_error.mp hcap).1
  · exact nomatch h

/-- What a policy's charges are. -/
structure SoundCharges (p : SponsorCostPolicy) : Prop where
  /-- Every step on machine words is exact, and nothing panics. -/
  exact_steps : ∀ cost price now,
    p.chargeExact cost price now = p.charge cost price now ∧ Safe (p.charge cost price now)
  least : ∀ cost price now charge, p.charge cost price now = .ok charge →
    IsLeast (p.recovering cost price) charge.toNat
  bounded : ∀ cost price now charge, p.charge cost price now = .ok charge →
    p.serviceFeeUsdc ≤ charge ∧ charge ≤ p.maxFeeUsdc
  mono : ∀ cost cost' price price' now now' charge charge',
    p.charge cost price now = .ok charge → p.charge cost' price' now' = .ok charge' →
    cost ≤ cost' → price.usdcUnitsPerSol ≤ price'.usdcUnitsPerSol → charge ≤ charge'
  fails_only : ∀ cost price now e, Fresh price now → cost ≤ p.maxCostLamports →
    p.charge cost price now = .error e →
    ∃ c, IsLeast (p.recovering cost price) c ∧ p.maxFeeUsdc.toNat < c

theorem charge_safe (p : SponsorCostPolicy) (cost : UInt64) (price : SolUsdcPrice)
    (now : SystemTime) : Safe (p.charge cost price now) := by
  unfold SponsorCostPolicy.charge
  refine Safe.bind (Safe.failIf _ _) fun _ _ => Safe.bind (Safe.failIf _ _) fun _ _ =>
    Safe.bind (Safe.failIf _ _) fun _ _ => Safe.bind (Safe.failIf _ _) fun _ _ => ?_
  exact Safe.ok _

theorem soundCharges (p : SponsorCostPolicy) : p.SoundCharges where
  exact_steps cost price now := ⟨chargeExact_eq p cost price now, charge_safe p cost price now⟩
  least _ _ _ _ h := charge_isLeast h
  bounded _ _ _ _ h := ⟨serviceFee_le_charge h, (charge_eq_ok h).charge_le⟩
  mono _ _ _ _ _ _ _ _ h h' := charge_mono h h'
  fails_only _ _ _ _ hfresh hcost h := least_exceeds_of_error hfresh hcost h

end SponsorCostPolicy

/-- **Sponsor charges are sound**: whatever calls have configured the sponsor, its limits stand
in order, and each charge is the least that recovers the cost, within them. -/
theorem sponsor_charge_sound {wallet : Pubkey} {settings : List Setting}
    {sponsor : GasSponsor} (_h : GasSponsor.configured wallet settings = .ok sponsor) :
    0 < sponsor.costPolicy.maxCostLamports ∧
      sponsor.costPolicy.serviceFeeUsdc < sponsor.costPolicy.maxFeeUsdc ∧
      sponsor.costPolicy.SoundCharges :=
  ⟨sponsor.costPolicy.maxCost_pos, sponsor.costPolicy.serviceFee_lt,
    sponsor.costPolicy.soundCharges⟩

/-- A sponsor without a service fee, and what it charges for 5000 lamports at 150 USDC. -/
theorem sponsor_charge_sound_sample : ∃ sponsor,
    GasSponsor.configured usdcMint [.serviceFeeUsdc 0, .limits 6000 1000] = .ok sponsor ∧
      sponsor.costPolicy.SoundCharges ∧
      sponsor.costPolicy.charge 5000 ⟨150000000, 0⟩ 1 = .ok 750 := by
  obtain ⟨sponsor, h, hcharge⟩ : ∃ sponsor,
      GasSponsor.configured usdcMint [.serviceFeeUsdc 0, .limits 6000 1000] = .ok sponsor ∧
        sponsor.costPolicy.charge 5000 ⟨150000000, 0⟩ 1 = .ok 750 := by
    have hne : usdcMint ≠ .zero 32 := by decide +kernel
    have hcharge : SponsorCostPolicy.charge ⟨6000, 1000, 0, by decide, by decide⟩ 5000
        ⟨150000000, 0⟩ 1 = .ok 750 := by decide +kernel
    unfold GasSponsor.configured GasSponsor.new
    rw [dif_neg hne]
    exact ⟨_, rfl, hcharge⟩
  exact ⟨sponsor, h, (sponsor_charge_sound h).2.2, hcharge⟩

end Solana
end TradingAggregators
