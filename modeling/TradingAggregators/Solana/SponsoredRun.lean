import TradingAggregators.Solana.Reimbursement
import TradingAggregators.Solana.Submitting

/-!
# Runs with a sponsor

* `charge_eq_ok`, `simulationCost_eq_ok`: the arithmetic of a successful charge.
* `runs_finalizeFee`: a priced transaction was simulated, priced, rewritten, simulated again
  and checked again, in this order.
* `LastCheck`: the order of the last simulation, the check behind it and what is released.
* `only_priced_released`: whatever reaches a key or the network had been priced as it
  stands, and a simulation, a price or a check that fails keeps everything back.
-/

namespace TradingAggregators
namespace Solana

open Interaction Interaction.Program Rust Wire

variable {σ : Type}

/-! ## The arithmetic of a charge -/

/-- What the checks of `charge` leave. -/
structure SponsorCostPolicy.Charges (p : SponsorCostPolicy) (cost : UInt64)
    (price : SolUsdcPrice) (now : SystemTime) (charge : UInt64) : Prop where
  notFuture : price.observedAt ≤ now
  notStale : now - price.observedAt ≤ maxPriceAge
  price_pos : 0 < price.usdcUnitsPerSol
  cost_le : cost ≤ p.maxCostLamports
  charge_le : charge ≤ p.maxFeeUsdc
  charge_eq : charge.toNat =
    (cost.toNat * price.usdcUnitsPerSol.toNat + (lamportsPerSol - 1)) / lamportsPerSol +
      p.serviceFeeUsdc.toNat

theorem charge_eq_ok {p : SponsorCostPolicy} {cost charge : UInt64} {price : SolUsdcPrice}
    {now : SystemTime} (h : p.charge cost price now = .ok charge) :
    p.Charges cost price now charge := by
  unfold SponsorCostPolicy.charge at h
  obtain ⟨_, hfuture, h⟩ := bind_eq_ok.mp h
  obtain ⟨_, hprice, h⟩ := bind_eq_ok.mp h
  obtain ⟨_, hcost, h⟩ := bind_eq_ok.mp h
  obtain ⟨_, hcap, h⟩ := bind_eq_ok.mp h
  rw [failIf_eq_ok] at hfuture hprice hcost hcap
  rw [not_or] at hprice
  have hfits : (cost.toNat * price.usdcUnitsPerSol.toNat + (lamportsPerSol - 1)) /
      lamportsPerSol + p.serviceFeeUsdc.toNat < 2 ^ 64 :=
    lt_of_le_of_lt (Nat.le_of_not_lt hcap) p.maxFeeUsdc.toNat_lt
  have hcharge : charge.toNat =
      (cost.toNat * price.usdcUnitsPerSol.toNat + (lamportsPerSol - 1)) / lamportsPerSol +
        p.serviceFeeUsdc.toNat := by
    rw [← pure_eq_ok.mp h, UInt64.toNat_ofNat', Nat.mod_eq_of_lt hfits]
  exact {
    notFuture := not_lt.mp hfuture
    notStale := not_lt.mp hprice.2
    price_pos := UInt64.pos_iff_ne_zero.mpr hprice.1
    cost_le := UInt64.not_lt.mp hcost
    charge_le := UInt64.le_iff_toNat_le.mpr (hcharge ▸ Nat.le_of_not_lt hcap)
    charge_eq := hcharge }

/-- What a simulation has to report: no error, and a debit of the first account that covers
the network fee. -/
structure SimulationResult.Reports (simulation : SimulationResult) (cost : UInt64) : Prop where
  noError : simulation.err = none
  debit : ∃ before after fee, simulation.preBalances.bind List.head? = some before ∧
    simulation.postBalances.bind List.head? = some after ∧ simulation.fee = some fee ∧
    cost.toNat + after.toNat = before.toNat ∧ fee ≤ cost

theorem simulationCost_eq_ok {simulation : SimulationResult} {cost : UInt64}
    (h : simulationCost simulation = .ok cost) : simulation.Reports cost := by
  unfold simulationCost at h
  cases herr : simulation.err with
  | some error =>
    rw [herr] at h
    exact nomatch h
  | none =>
    rw [herr] at h
    obtain ⟨fee, hfee, h⟩ := bind_eq_ok.mp h
    obtain ⟨cost', hcost, h⟩ := bind_eq_ok.mp h
    obtain ⟨_, hmin, h⟩ := bind_eq_ok.mp h
    rw [pure_eq_ok] at h
    subst h
    rw [okOr_eq_ok] at hfee hcost
    obtain ⟨before, hbefore, hcost⟩ := Option.bind_eq_some_iff.mp hcost
    obtain ⟨after, hafter, hsub⟩ := Option.bind_eq_some_iff.mp hcost
    rw [failIf_eq_ok] at hmin
    exact ⟨herr, before, after, fee, hbefore, hafter, hfee, checkedSub64_eq_some hsub,
      UInt64.not_lt.mp hmin⟩

/-! ## Pricing -/

theorem runs_simulatedCost {tx : VersionedTransaction} {s s' : σ} {tr : Trace Answer}
    {cost : UInt64} (h : (simulatedCost tx).Runs s tr (.ok cost) s') :
    s' = s ∧ ∃ sim, tr = [⟨.simulateTransaction tx false, .ok sim⟩] ∧
      simulationCost sim = .ok cost := by
  obtain ⟨response, tr', htr, h⟩ := Proc.runs_ask_bind.mp h
  obtain ⟨sim, hsim, h⟩ := Proc.runs_ofResult_bind_ok.mp h
  obtain ⟨hnil, hcost, hs⟩ := Proc.runs_ofResult.mp h
  rw [rpcResult_eq_ok] at hsim
  exact ⟨hs, sim, by rw [htr, hnil, hsim], hcost.symm⟩

theorem runs_requestPrice {s s' : σ} {tr : Trace Answer} {price : SolUsdcPrice}
    (h : requestPrice.Runs s tr (.ok price) s') :
    s' = s ∧ tr = [⟨.solUsdcPrice, .ok price⟩] := by
  obtain ⟨hs, h⟩ := Proc.runs_within_ok h
  obtain ⟨response, tr', htr, h⟩ := Proc.runs_ask_bind.mp h
  obtain ⟨hnil, hprice, -⟩ := Proc.runs_ofResult.mp h
  have hresponse : response = .ok price := mapError_eq_ok.mp hprice.symm
  exact ⟨hs, by rw [htr, hnil, hresponse]⟩

/-- The interactions that price the transaction `tx` and turn it into `tx'`. -/
structure Priced (p : SponsorCostPolicy) (index : ℕ) (tx tx' : VersionedTransaction)
    (charge cost : UInt64) (sim : SimulationResult) (price : SolUsdcPrice) (now : SystemTime)
    (tr : Trace Answer) : Prop where
  trace : ∃ sim₀ now₀, simulationCost sim₀ = .ok cost ∧ p.charge cost price now₀ = .ok charge ∧
    tr = [⟨.simulateTransaction tx false, .ok sim₀⟩, ⟨.solUsdcPrice, .ok price⟩, ⟨.now, now₀⟩,
      ⟨.simulateTransaction tx' false, .ok sim⟩, ⟨.now, now⟩]
  reported : simulationCost sim = .ok cost
  charged : p.charge cost price now = .ok charge
  rewritten : tx' = tx.setAmount index charge
  transfer : ∃ c, tx.message.instructions[index]? = some c ∧
    c.data = transferCheckedData p.maxFeeUsdc usdcDecimals

theorem runs_finalizeFee {p : SponsorCostPolicy} {index : ℕ} {tx tx' : VersionedTransaction}
    {tr : Trace Answer} {charge : UInt64}
    (h : (p.finalizeFee index).Runs tx tr (.ok charge) tx') :
    ∃ cost sim price now, Priced p index tx tx' charge cost sim price now tr := by
  unfold SponsorCostPolicy.finalizeFee at h
  rw [Proc.runs_read_bind] at h
  obtain ⟨cost, _, _, _, htr, hcost, h₁⟩ := Proc.runs_bind_ok.mp h
  obtain ⟨rfl, sim₀, rfl, hsim₀⟩ := runs_simulatedCost hcost
  obtain ⟨price, _, _, _, htr₁, hprice, h₂⟩ := Proc.runs_bind_ok.mp h₁
  obtain ⟨rfl, rfl⟩ := runs_requestPrice hprice
  obtain ⟨now₀, _, htr₂, h₃⟩ := Proc.runs_ask_bind.mp h₂
  obtain ⟨charge', hcharge, h₄⟩ := Proc.runs_ofResult_bind_ok.mp h₃
  obtain ⟨_, _, _, _, htr₃, hreplace, h₅⟩ := Proc.runs_bind_ok.mp h₄
  obtain ⟨rfl, hreplaced⟩ := runs_replaceReimbursement hreplace
  rcases hreplaced with ⟨e, he, -⟩ | ⟨-, hset, -, c, hc, hdata⟩
  · exact nomatch he
  rw [Proc.runs_read_bind] at h₅
  obtain ⟨again, _, _, _, htr₄, hagain, h₆⟩ := Proc.runs_bind_ok.mp h₅
  obtain ⟨rfl, sim, rfl, hsim⟩ := runs_simulatedCost hagain
  rcases Proc.runs_failIf_bind.mp h₆ with ⟨-, -, hr, -⟩ | ⟨hsame, h₇⟩
  · exact nomatch hr
  obtain ⟨now, _, htr₅, h₈⟩ := Proc.runs_ask_bind.mp h₇
  obtain ⟨charge'', hcharge', h₉⟩ := Proc.runs_ofResult_bind_ok.mp h₈
  obtain ⟨rfl, hpure, rfl⟩ := Proc.runs_pure.mp h₉
  cases hpure
  rw [not_not] at hsame
  subst hsame
  -- The charge depends on the clock only through its checks.
  have hequal : charge'' = charge := by
    apply UInt64.toNat_inj.mp
    rw [(charge_eq_ok hcharge').charge_eq, (charge_eq_ok hcharge).charge_eq]
  subst hequal
  refine ⟨again, sim, price, now, ⟨sim₀, now₀, hsim₀, hcharge, ?_⟩, hsim, hcharge', hset, c, hc,
    hdata⟩
  rw [htr, htr₁, htr₂, htr₃, htr₄, htr₅]
  rfl

/-- The reimbursement of a priced transaction is the charge. -/
theorem Priced.transfer_charge {p : SponsorCostPolicy} {index : ℕ}
    {tx tx' : VersionedTransaction} {charge cost : UInt64} {sim : SimulationResult}
    {price : SolUsdcPrice} {now : SystemTime} {tr : Trace Answer}
    (h : Priced p index tx tx' charge cost sim price now tr) :
    ∃ c, tx'.message.instructions[index]? = some c ∧
      c.data = transferCheckedData charge usdcDecimals := by
  obtain ⟨c, hc, hdata⟩ := h.transfer
  refine ⟨{ c with data := patch 1 (le64 charge) c.data }, ?_, ?_⟩
  · rw [h.rewritten, VersionedTransaction.setAmount, instructions_setInstructions,
      List.getElem?_modify_eq, hc]
    rfl
  · rw [hdata, patch_transferCheckedData]

/-! ## Reading a history -/

def simulationOf : Event Answer →
    Option (VersionedTransaction × Except ClientError SimulationResult)
  | ⟨.simulateTransaction tx _, answer⟩ => some (tx, answer)
  | _ => none

def priceOf : Event Answer → Option (Except String SolUsdcPrice)
  | ⟨.solUsdcPrice, answer⟩ => some answer
  | _ => none

def clockOf : Event Answer → Option SystemTime
  | ⟨.now, now⟩ => some now
  | _ => none

/-- A simulation, a price or a check of the clock that let the run go on. -/
def Passed (p : SponsorCostPolicy) (cost : UInt64) (price : SolUsdcPrice) (charge : UInt64) :
    Event Answer → Prop
  | ⟨.simulateTransaction _ true, answer⟩ => ∃ sim, answer = .ok sim ∧ sim.err = none
  | ⟨.simulateTransaction _ false, answer⟩ => ∃ sim, answer = .ok sim ∧ sim.Reports cost
  | ⟨.solUsdcPrice, answer⟩ => answer = .ok price
  | ⟨.now, now⟩ => p.Charges cost price now charge
  | _ => True

/-- An event that is neither a simulation nor a price nor a reading of the clock. -/
def ReadsNothing (e : Event Answer) : Prop :=
  simulationOf e = none ∧ priceOf e = none ∧ clockOf e = none

/-- **The last check.**  Behind the price the message was simulated, behind that simulation the
clock was read, and nothing was simulated, priced or read since. -/
structure LastCheck (simulated : VersionedTransaction) (sim : SimulationResult)
    (price : SolUsdcPrice) (now : SystemTime) (before : Trace Answer) : Prop where
  order : ∃ earlier later,
    before = earlier ++ ⟨.simulateTransaction simulated false, .ok sim⟩ :: ⟨.now, now⟩ :: later ∧
      latest priceOf earlier = some (.ok price) ∧ ∀ e ∈ later, ReadsNothing e

/-- A release is none of the readings. -/
theorem readsNothing_of_released {e : Event Answer} {tx : VersionedTransaction}
    (h : e.query.released = some tx) : ReadsNothing e := by
  obtain ⟨q, answer⟩ := e
  cases q <;> first | exact ⟨rfl, rfl, rfl⟩ | exact nomatch h

theorem Passed.of_released {p : SponsorCostPolicy} {cost charge : UInt64} {price : SolUsdcPrice}
    {e : Event Answer} {tx : VersionedTransaction} (h : e.query.released = some tx) :
    Passed p cost price charge e := by
  obtain ⟨q, answer⟩ := e
  cases q <;> trivial

theorem Passed.of_buildEvent {p : SponsorCostPolicy} {cost charge : UInt64}
    {price : SolUsdcPrice} {e : Event Answer} (h : BuildEvent e) :
    Passed p cost price charge e := by
  rcases h with ⟨tx, sim, rfl, herr⟩ | ⟨hash, rfl⟩
  · exact ⟨sim, rfl, herr⟩
  · trivial

theorem Priced.passed {p : SponsorCostPolicy} {index : ℕ} {tx tx' : VersionedTransaction}
    {charge cost : UInt64} {sim : SimulationResult} {price : SolUsdcPrice} {now : SystemTime}
    {tr : Trace Answer} (h : Priced p index tx tx' charge cost sim price now tr) :
    ∀ e ∈ tr, Passed p cost price charge e := by
  obtain ⟨sim₀, now₀, hsim₀, hcharge₀, rfl⟩ := h.trace
  simp only [List.forall_mem_cons, List.not_mem_nil, false_imp_iff, implies_true, and_true]
  exact ⟨⟨sim₀, rfl, simulationCost_eq_ok hsim₀⟩, rfl, charge_eq_ok hcharge₀,
    ⟨sim, rfl, simulationCost_eq_ok h.reported⟩, charge_eq_ok h.charged⟩

/-- Pricing ends with the last check. -/
theorem Priced.lastCheck {p : SponsorCostPolicy} {index : ℕ} {tx tx' : VersionedTransaction}
    {charge cost : UInt64} {sim : SimulationResult} {price : SolUsdcPrice} {now : SystemTime}
    {tr built released : Trace Answer}
    (h : Priced p index tx tx' charge cost sim price now tr)
    (hreleased : ∀ e ∈ released, ReadsNothing e) :
    LastCheck tx' sim price now (built ++ tr ++ released) := by
  obtain ⟨sim₀, now₀, -, -, rfl⟩ := h.trace
  refine ⟨built ++ [⟨.simulateTransaction tx false, .ok sim₀⟩, ⟨.solUsdcPrice, .ok price⟩,
    ⟨.now, now₀⟩], released, by simp, latest_append_of_some rfl, hreleased⟩

/-! ## No key signs an unpriced transaction -/

section Submit

variable [Sdk]

/-- A sponsored run that reached signing had priced what it signs. -/
theorem ReachedSigning.priced_of_sponsor {prepared : PreparedSwap} {signers : SwapSigners}
    {sponsor : GasSponsor} {submitter : Submitter} {params : Trade} {fee : UInt64}
    {tables : List AddressLookupTableAccount} {tx₀ tx₁ tx₂ : VersionedTransaction}
    {charge : UInt64} {built priced signed submitted : Trace Answer}
    {r : TradeResult SwapResult} (hsponsor : signers.sponsor = some sponsor)
    (h : ReachedSigning prepared signers submitter params fee tables tx₀ tx₁ tx₂ charge built
      priced signed submitted r) :
    ∃ index cost sim price now,
      lastCompiledIndex prepared.instructions prepared.format = some index ∧
      Priced sponsor.costPolicy index tx₀ tx₁ charge cost sim price now priced := by
  have hprice := h.price
  unfold priceSponsorship at hprice
  rw [hsponsor] at hprice
  obtain ⟨index, hindex, hscope⟩ := Proc.runs_ofResult_bind_ok.mp hprice
  obtain ⟨-, c, tx', hrun, hc⟩ := Proc.runs_scope.mp hscope
  cases c with
  | error e => exact nomatch hc
  | ok charge' =>
    cases hc
    obtain ⟨cost, sim, price, now, hpriced⟩ := runs_finalizeFee hrun
    exact ⟨index, cost, sim, price, now, okOr_eq_ok.mp hindex, hpriced⟩

/-- What is released behind pricing carries the message that was priced. -/
theorem ReachedSigning.releases {prepared : PreparedSwap} {signers : SwapSigners}
    {submitter : Submitter} {params : Trade} {fee : UInt64}
    {tables : List AddressLookupTableAccount} {tx₀ tx₁ tx₂ : VersionedTransaction}
    {charge : UInt64} {built priced signed submitted : Trace Answer}
    {r : TradeResult SwapResult}
    (h : ReachedSigning prepared signers submitter params fee tables tx₀ tx₁ tx₂ charge built
      priced signed submitted r) :
    ∀ e ∈ signed ++ submitted, ReleasesMessage tx₁.message e.query := by
  obtain ⟨c, hsign, hrest⟩ := h.sign
  obtain ⟨hmessage, hsigned⟩ := maintains_sign _ _ _ _ rfl hsign
  intro e he
  rcases List.mem_append.mp he with he | he
  · exact hsigned e he
  · rcases hrest with ⟨_, -, -, hnil⟩ | ⟨-, answer, hsub, -⟩
    · rw [hnil] at he
      exact absurd he List.not_mem_nil
    · rw [hsub, List.mem_singleton] at he
      rw [he]
      exact ⟨tx₂, rfl, hmessage⟩

/-- A run that reached signing and succeeds ends with a submission. -/
theorem ReachedSigning.submits {prepared : PreparedSwap} {signers : SwapSigners}
    {submitter : Submitter} {params : Trade} {fee : UInt64}
    {tables : List AddressLookupTableAccount} {tx₀ tx₁ tx₂ : VersionedTransaction}
    {charge : UInt64} {built priced signed submitted : Trace Answer} {result : SwapResult}
    (h : ReachedSigning prepared signers submitter params fee tables tx₀ tx₁ tx₂ charge built
      priced signed submitted (.ok result)) :
    result.sponsorshipFee = charge ∧ ∃ e ∈ submitted, ∃ tx, e.query = .submit tx := by
  obtain ⟨c, -, ⟨e, -, hr, -⟩ | ⟨-, answer, hsub, hr⟩⟩ := h.sign
  · exact nomatch hr
  · cases answer with
    | error text => exact nomatch hr
    | ok sig =>
      have hres := Except.ok.inj hr
      refine ⟨by rw [hres], ⟨.submit tx₂, .ok sig⟩, ?_, tx₂, rfl⟩
      rw [hsub]
      exact List.mem_singleton_self _

/-- Everything passed in a sponsored run that reached signing. -/
theorem ReachedSigning.passed {prepared : PreparedSwap} {signers : SwapSigners}
    {sponsor : GasSponsor} {submitter : Submitter} {params : Trade} {fee : UInt64}
    {tables : List AddressLookupTableAccount} {tx₀ tx₁ tx₂ : VersionedTransaction}
    {charge cost : UInt64} {built priced signed submitted : Trace Answer}
    {r : TradeResult SwapResult} {index : ℕ} {sim : SimulationResult} {price : SolUsdcPrice}
    {now : SystemTime}
    (h : ReachedSigning prepared signers submitter params fee tables tx₀ tx₁ tx₂ charge built
      priced signed submitted r)
    (hpriced : Priced sponsor.costPolicy index tx₀ tx₁ charge cost sim price now priced) :
    ∀ e ∈ built ++ (priced ++ (signed ++ submitted)),
      Passed sponsor.costPolicy cost price charge e := by
  intro e he
  rcases List.mem_append.mp he with he | he
  · exact .of_buildEvent (events_buildTransaction h.build e he)
  rcases List.mem_append.mp he with he | he
  · exact hpriced.passed e he
  · obtain ⟨tx, htx, -⟩ := h.releases e he
    exact .of_released htx

/-- What is released stands behind pricing, with releases only in between. -/
theorem ReachedSigning.behind_pricing {prepared : PreparedSwap} {signers : SwapSigners}
    {submitter : Submitter} {params : Trade} {fee : UInt64}
    {tables : List AddressLookupTableAccount} {tx₀ tx₁ tx₂ tx : VersionedTransaction}
    {charge : UInt64} {built priced signed submitted before after : Trace Answer}
    {r : TradeResult SwapResult} {e : Event Answer}
    (h : ReachedSigning prepared signers submitter params fee tables tx₀ tx₁ tx₂ charge built
      priced signed submitted r)
    (hsplit : built ++ (priced ++ (signed ++ submitted)) = before ++ e :: after)
    (hrel : e.query.released = some tx) :
    tx.message = tx₁.message ∧
      ∃ m, before = built ++ priced ++ m ∧ ∀ e' ∈ m, ReadsNothing e' := by
  have hahead : e ∉ built ++ priced := by
    intro he
    have hnone : e.query.released = none := by
      rcases List.mem_append.mp he with he | he
      · exact asks_buildTransaction.runs h.build e he
      · exact asks_priceSponsorship.runs h.price e he
    exact nomatch hnone.symm.trans hrel
  rw [← List.append_assoc] at hsplit
  obtain ⟨m, hbefore, htail⟩ := split_behind hsplit hahead
  obtain ⟨tx', htx', hmessage⟩ := h.releases e (by rw [htail]; simp)
  obtain rfl : tx' = tx := Option.some.inj (htx'.symm.trans hrel)
  refine ⟨hmessage, m, hbefore, fun e' he' => ?_⟩
  obtain ⟨tx', htx', -⟩ := h.releases e' (by rw [htail]; exact List.mem_append_left _ he')
  exact readsNothing_of_released htx'

/-- **No key signs an unpriced sponsored transaction.**  Whatever a sponsored run hands to a
signer or to the submitter carries a reimbursement equal to the charge for the cost that the
latest simulation, of this very message, reported, at the price that was checked again behind that
simulation; and when a simulation, a price or a check does not pass, the run hands out nothing at
all. -/
theorem only_priced_released {prepared : PreparedSwap} {signers : SwapSigners}
    {sponsor : GasSponsor} (hsponsor : signers.sponsor = some sponsor) {submitter : Submitter}
    {params : Trade} {fee : UInt64} {tables : List AddressLookupTableAccount}
    {tr : Trace Answer} {r : TradeResult SwapResult}
    (h : (submitSwap prepared signers submitter params fee tables).Runs () tr r ()) :
    (∀ before e after tx, tr = before ++ e :: after → e.query.released = some tx →
      ∃ index simulated sim price now cost charge,
        lastCompiledIndex prepared.instructions prepared.format = some index ∧
        LastCheck simulated sim price now before ∧
        simulated.message = tx.message ∧ sim.Reports cost ∧
        sponsor.costPolicy.Charges cost price now charge ∧
        (∃ c, tx.message.instructions[index]? = some c ∧
          c.data = transferCheckedData charge usdcDecimals) ∧
        ∀ result, r = .ok result → result.sponsorshipFee = charge) ∧
    (∀ result, r = .ok result → ∃ e ∈ tr, ∃ tx, e.query = .submit tx) ∧
    ((∀ cost price charge, ∃ e ∈ tr, ¬ Passed sponsor.costPolicy cost price charge e) →
      ∀ e ∈ tr, e.query.Harmless) := by
  rcases runs_submitSwap h with ⟨⟨f, hr⟩, hharmless⟩ |
    ⟨tx₀, tx₁, tx₂, charge, built, priced, signed, submitted, htr, hreached⟩
  · refine ⟨?_, ?_, fun _ => hharmless⟩
    · intro before e after tx htr hrel
      have hnone := hharmless e (by rw [htr]; simp)
      exact nomatch hnone.symm.trans hrel
    · intro result hok
      exact nomatch hr.symm.trans hok
  obtain ⟨index, cost, sim, price, now, hindex, hpriced⟩ := hreached.priced_of_sponsor hsponsor
  refine ⟨?_, ?_, fun hfailed => ?_⟩
  · intro before e after tx hsplit hrel
    obtain ⟨hmessage, m, rfl, hm⟩ := hreached.behind_pricing (htr.symm.trans hsplit) hrel
    have hcharge : ∀ result, r = .ok result → result.sponsorshipFee = charge := by
      rintro result rfl
      exact hreached.submits.1
    refine ⟨index, tx₁, sim, price, now, cost, charge, hindex, hpriced.lastCheck hm,
      hmessage.symm, simulationCost_eq_ok hpriced.reported, charge_eq_ok hpriced.charged, ?_,
      hcharge⟩
    rw [hmessage]
    exact hpriced.transfer_charge
  · rintro result rfl
    obtain ⟨-, e, he, htx⟩ := hreached.submits
    refine ⟨e, ?_, htx⟩
    rw [htr]
    exact List.mem_append_right _ (List.mem_append_right _ (List.mem_append_right _ he))
  · obtain ⟨e, he, hnot⟩ := hfailed cost price charge
    rw [htr] at he
    exact absurd (hreached.passed hpriced e he) hnot

end Submit

/-! ## A sponsored run -/

/-- A node that charges 5000 lamports, a price of 150 USDC and signers that answer. -/
def sampleBackend (i : ℕ) (q : Query) : Answer q :=
  match q with
  | .simulateTransaction _ false =>
      .ok ⟨none, none, none, some [1000000], some [995000], some 5000⟩
  | .solUsdcPrice => .ok ⟨150000000, 0⟩
  | .userSign _ _ => .ok ⟨List.replicate 64 1, rfl⟩
  | .sponsorSign _ _ => .ok sampleSignature
  | .submit _ => .ok sampleSignature
  | q => sampleNode i q

/-- The sample route with the sponsor's instructions behind it. -/
def samplePrepared : PreparedSwap :=
  let := sampleSdk
  match sampleSponsor.applyToSwap sampleTrade sampleRoute with
  | .ok prepared => prepared
  | .error _ => sampleRoute

theorem only_priced_released_sample :
    let := sampleSdk
    ∃ tr result, (submitSwap samplePrepared ⟨some sampleSponsor⟩ ⟨none⟩ sampleTrade 5000 []).Runs
        () tr (.ok result) () ∧ ∃ before e after tx simulated sim price now,
          tr = before ++ e :: after ∧ e.query = .submit tx ∧
          LastCheck simulated sim price now before ∧ simulated.message = tx.message := by
  intro sdk
  obtain ⟨tr, result, _, hrun⟩ := Proc.runs_ok_of_exec sampleBackend (fun _ => 1)
    (submitSwap samplePrepared ⟨some sampleSponsor⟩ ⟨none⟩ sampleTrade 5000 []) ()
    (by decide +kernel)
  obtain ⟨hreleased, hsubmits, -⟩ := only_priced_released rfl hrun
  obtain ⟨e, he, tx, htx⟩ := hsubmits result rfl
  obtain ⟨before, after, hsplit⟩ := List.append_of_mem he
  obtain ⟨-, simulated, sim, price, now, -, -, -, hcheck, hmessage, -⟩ :=
    hreleased before e after tx hsplit (by rw [htx]; rfl)
  exact ⟨tr, result, hrun, before, e, after, tx, simulated, sim, price, now, hsplit, htx, hcheck,
    hmessage⟩

end Solana
end TradingAggregators
