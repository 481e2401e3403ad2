import TradingAggregators.Evm.ExecutionSafety
import TradingAggregators.Interaction.Timed

/-!
# How old a quote is when its transactions are sent

The age of a quote is tested once in every round, before the transaction is filled and signed.
What passes between that test and the call of the submitter is not tested again.

## 1.  The clock

A run on a clock is a list of timed events; the answers to `Instant::now` are what the clock
shows.

## 2.  Rounds

`Rounds.tested`: every submission stands behind an age test of its own round that passed.
`sent_fresh_iff`: no transaction is sent from an expired quote exactly when the lookups and the
signer of every such round take less than what its test left of the 60 seconds; and what they
take is all that a quote can be too old by.

## 3.  A slow signer

`expired_quote_sent`: a signer that takes 61 seconds has its transaction sent all the same.
-/

namespace TradingAggregators
namespace Evm

open Interaction Interaction.Program Rust Wire

/-! ## 1.  The clock -/

/-- What the answer to a question says about the clock. -/
def reading : Event Answer → Option Instant
  | ⟨.instant, now⟩ => some now
  | _ => none

/-- The run on a clock that starts at `start`. -/
abbrev Clocked (start : Instant) (timed : List (Timed (Event Answer))) : Prop :=
  Timed.Clocked reading start timed

/-- The event hands a payload to the submitter. -/
def Submits (e : Event Answer) : Prop :=
  e.query.submitted.isSome

instance : DecidablePred Submits := fun e =>
  inferInstanceAs (Decidable (e.query.submitted.isSome = true))

/-- **No transaction is sent from an expired quote**: less than 60 seconds have elapsed since it
was prepared whenever the submitter is called. -/
def SentFresh (createdAt start : Instant) (timed : List (Timed (Event Answer))) : Prop :=
  ∀ p ∈ Timed.stamped start timed, Submits p.1.event → elapsed p.2 createdAt < maxQuoteAge

instance (createdAt start : Instant) (timed : List (Timed (Event Answer))) :
    Decidable (SentFresh createdAt start timed) :=
  inferInstanceAs (Decidable (∀ p ∈ Timed.stamped start timed, Submits p.1.event →
    elapsed p.2 createdAt < maxQuoteAge))

/-- Everything is sent less than `limit` after the quote was prepared. -/
def SentWithin (limit : ℕ) (createdAt start : Instant) (timed : List (Timed (Event Answer))) :
    Prop :=
  ∀ p ∈ Timed.stamped start timed, Submits p.1.event → elapsed p.2 createdAt < limit

/-- A round whose age test, which reads `now`, passes, and that takes `passed` from the test to
the submitter: for the test, the lookups behind it and the signer. -/
def RoundTakes (createdAt : Instant) (timed : List (Timed (Event Answer))) (now passed : ℕ) :
    Prop :=
  ∃ before check between submit after,
    timed = before ++ check :: (between ++ submit :: after) ∧
    reading check.event = some now ∧ elapsed now createdAt < maxQuoteAge ∧
    (∀ e ∈ between, reading e.event = none) ∧ Submits submit.event ∧
    passed = check.duration + Timed.total between

/-- Every round that passes its age test takes less than what the test has left of the 60
seconds. -/
def RoundsInTime (createdAt : Instant) (timed : List (Timed (Event Answer))) : Prop :=
  ∀ now passed, RoundTakes createdAt timed now passed →
    passed < maxQuoteAge - elapsed now createdAt

/-! ## 2.  Rounds -/

/-- What passes after a reading makes a quote expire exactly when it is no less than what the
reading has left. -/
theorem elapsed_add_lt_iff {createdAt now : ℕ} (h : createdAt ≤ now) (passed : ℕ) :
    elapsed (now + passed) createdAt < maxQuoteAge ↔
      passed < maxQuoteAge - elapsed now createdAt := by
  unfold elapsed
  omega

theorem Query.Silent.not_submits {e : Event Answer} (h : e.query.Silent) : ¬ Submits e := by
  rw [Submits, h]
  exact Bool.false_ne_true

theorem Query.IsLookup.reading {e : Event Answer} (h : e.query.IsLookup) : reading e = none := by
  obtain ⟨q, answer⟩ := e
  cases q <;> first | rfl | exact h.elim

/-- The last reading of a trace is an age test that passed. -/
def Tested (createdAt : Instant) (tr : Trace Answer) : Prop :=
  ∃ front now between, tr = front ++ ⟨.instant, now⟩ :: between ∧
    elapsed now createdAt < maxQuoteAge ∧ ∀ e ∈ between, reading e = none

theorem Tested.prepend {createdAt : Instant} {tr : Trace Answer} (h : Tested createdAt tr)
    (pre : Trace Answer) : Tested createdAt (pre ++ tr) := by
  obtain ⟨front, now, between, rfl, hage, hnone⟩ := h
  exact ⟨pre ++ front, now, between, by simp, hage, hnone⟩

section Rounds

variable [Alloy] [Profile] {n : Network} {prepared : PreparedSwap}

/-- A round that signed tested the age of the quote before it looked anything up. -/
theorem Signs.tested {transaction : Transaction} {signing : Trace Answer} {signed : Bytes}
    {hash : TransactionHash} (h : Signs n prepared transaction signing signed hash) :
    Tested prepared.createdAt signing := by
  obtain ⟨now, filling, unsigned, -, rfl, hage, hlookups, -, -⟩ := h.form
  refine ⟨[], now, _, rfl, hage, fun d hd => ?_⟩
  rcases List.mem_append.mp hd with hd | hd
  · exact (hlookups d hd).reading
  · rw [List.mem_singleton.mp hd]
    rfl

/-- Every submission stands behind an age test of its own round that passed. -/
theorem Rounds.tested {transactions : List Transaction} {tr : Trace Answer}
    {hashes : List TransactionHash} {r : TradeResult Unit}
    (h : Rounds n prepared transactions tr hashes r) {before after : Trace Answer}
    {e : Event Answer} (hsplit : tr = before ++ e :: after) (hsubmits : Submits e) :
    Tested prepared.createdAt before := by
  have hnotMem : ∀ {part : Trace Answer}, (∀ d ∈ part, d.query.Silent) → e ∉ part :=
    fun hsilent hmem => (hsilent e hmem).not_submits hsubmits
  induction h generalizing before with
  | done => simp at hsplit
  | stopped hsilent _ =>
    refine absurd ?_ (hnotMem hsilent)
    rw [hsplit]
    simp
  | failed hsigns hpolls _ =>
    -- The first event behind a signature is its submission, and no other is left.
    obtain ⟨m, rfl, hrest⟩ := split_behind hsplit (hnotMem hsigns.silent)
    cases m with
    | nil => simpa using hsigns.tested
    | cons d m =>
      obtain ⟨-, hpolls'⟩ := List.cons.inj hrest
      refine absurd ?_ (hnotMem (silent_of_receipts hpolls))
      rw [hpolls']
      simp
  | @next transaction transactions signing polls tr signed hash answer hashes r hsigns hpolls
      _ _ ih =>
    obtain ⟨m, rfl, hrest⟩ := split_behind hsplit (hnotMem hsigns.silent)
    cases m with
    | nil => simpa using hsigns.tested
    | cons d m =>
      obtain ⟨-, hpolls'⟩ := List.cons.inj hrest
      obtain ⟨m', rfl, htr⟩ := split_behind hpolls' (hnotMem (silent_of_receipts hpolls))
      have htested := (ih htr).prepend (signing ++ d :: polls)
      simpa using htested

theorem tested_of_runs {client : Client} {hashes : List TransactionHash} {tr : Trace Answer}
    {r : TradeResult Unit} (h : (executeTransactions n client prepared).Runs [] tr r hashes)
    {before after : Trace Answer} {e : Event Answer} (hsplit : tr = before ++ e :: after)
    (hsubmits : Submits e) : Tested prepared.createdAt before := by
  obtain ⟨pre, rest, rfl, hlookups, hrounds, -⟩ := runs_executeTransactions h
  have hnotMem : e ∉ pre := fun hmem => (hlookups e hmem).silent.not_submits hsubmits
  obtain ⟨m, rfl, hrest⟩ := split_behind hsplit hnotMem
  exact (hrounds.tested hrest hsubmits).prepend pre

variable {start : Instant} {timed : List (Timed (Event Answer))}

/-- The age at a submission is the age at the test of its round and what the round takes. -/
theorem elapsed_of_submits {client : Client} {hashes : List TransactionHash} {r : TradeResult Unit}
    (hcreated : prepared.createdAt ≤ start) (hclock : Clocked start timed)
    (hrun : (executeTransactions n client prepared).Runs [] (timed.map Timed.event) r hashes)
    {p : Timed (Event Answer) × ℕ} (hp : p ∈ Timed.stamped start timed)
    (hsubmits : Submits p.1.event) :
    ∃ now passed, RoundTakes prepared.createdAt timed now passed ∧
      prepared.createdAt ≤ now ∧ elapsed now prepared.createdAt < maxQuoteAge ∧
      p.2 = now + passed := by
  obtain ⟨submit, t⟩ := p
  obtain ⟨before, after, rfl, rfl⟩ := Timed.mem_stamped_iff.mp hp
  have hsplit : (before ++ submit :: after).map Timed.event =
      before.map Timed.event ++ submit.event :: after.map Timed.event := by
    rw [List.map_append, List.map_cons]
  obtain ⟨front, now, between, hbefore, hage, hnone⟩ := tested_of_runs hrun hsplit hsubmits
  obtain ⟨front, rest, rfl, rfl, hrest⟩ := List.map_eq_append_iff.mp hbefore
  obtain ⟨check, between, rfl, hcheck, rfl⟩ := List.map_eq_cons_iff.mp hrest
  have hnow : reading check.event = some now := by rw [hcheck]; rfl
  rw [List.append_assoc, List.cons_append] at hclock ⊢
  refine ⟨now, check.duration + Timed.total between, ⟨front, check, between, submit, after, rfl,
    hnow, hage, fun e he => hnone e.event (List.mem_map_of_mem he), hsubmits, rfl⟩,
    hcreated.trans (hclock.report_eq hnow ▸ Nat.le_add_right _ _), hage, ?_⟩
  exact hclock.stamp_eq hnow

/-- **When a run sends nothing from an expired quote**, for any number of transactions and any
delays: exactly when the rounds that pass their age test are in time; and rounds that take at
most `late` send everything less than 60 seconds and `late` after the quote was prepared. -/
theorem sent_fresh_iff {client : Client} {hashes : List TransactionHash} {r : TradeResult Unit}
    (hcreated : prepared.createdAt ≤ start) (hclock : Clocked start timed)
    (hrun : (executeTransactions n client prepared).Runs [] (timed.map Timed.event) r hashes) :
    (SentFresh prepared.createdAt start timed ↔ RoundsInTime prepared.createdAt timed) ∧
      ∀ late, (∀ now passed, RoundTakes prepared.createdAt timed now passed → passed ≤ late) →
        SentWithin (maxQuoteAge + late) prepared.createdAt start timed := by
  refine ⟨⟨?_, ?_⟩, ?_⟩
  · rintro hfresh now _ ⟨before, check, between, submit, after, rfl, hnow, -, -, hsubmits, rfl⟩
    have hstamp := hclock.stamp_eq hnow
    have hstart : prepared.createdAt ≤ now :=
      hcreated.trans (hclock.report_eq hnow ▸ Nat.le_add_right _ _)
    refine (elapsed_add_lt_iff hstart _).mp ?_
    exact hfresh (submit, _) (Timed.mem_stamped_iff.mpr
      ⟨before ++ check :: between, after, by simp, hstamp.symm⟩) hsubmits
  · intro hrounds p hp hsubmits
    obtain ⟨now, passed, htakes, hstart, -, hage⟩ := elapsed_of_submits hcreated hclock hrun hp
      hsubmits
    rw [hage]
    exact (elapsed_add_lt_iff hstart passed).mpr (hrounds now passed htakes)
  · intro late hlate p hp hsubmits
    obtain ⟨now, passed, htakes, hstart, htest, hage⟩ := elapsed_of_submits hcreated hclock hrun hp
      hsubmits
    have hpassed := hlate now passed htakes
    rw [hage]
    unfold elapsed at htest ⊢
    omega

end Rounds

/-! ## 3.  A slow signer -/

/-- The sample's answers, on a clock that the first signature takes a minute on. -/
def slowAnswers (i : ℕ) : (q : Query) → Answer q
  | .instant => if i < 9 then 10 ^ 9 else 62 * 10 ^ 9
  | q => sampleAnswers i q

/-- Nothing takes time but the signer: 61 seconds. -/
def slowSigner (e : Event Answer) : Timed (Event Answer) where
  event := e
  duration := match e.query with
    | .sign _ _ => 61 * 10 ^ 9
    | _ => 0

theorem map_event_slowSigner (tr : Trace Answer) :
    (tr.map slowSigner).map Timed.event = tr := by
  rw [List.map_map]
  exact List.map_id tr

/-- **A transaction is sent from an expired quote** when the signer is slow. -/
theorem expired_quote_sent :
    let := sampleAlloy
    let : Profile := ⟨true⟩
    ¬ ∀ start timed hashes r, samplePrepared.createdAt ≤ start → Clocked start timed →
      (executeTransactions robinhood .new samplePrepared).Runs [] (timed.map Timed.event) r
        hashes → SentFresh samplePrepared.createdAt start timed := by
  intro alloy profile hall
  obtain ⟨tr, r, hashes, hrun, hclock, hexpired⟩ := Proc.runs_of_exec_prop slowAnswers
    (fun _ => 60) (executeTransactions robinhood .new samplePrepared) []
    (fun tr _ => Clocked (10 ^ 9) (tr.map slowSigner) ∧
      ¬ SentFresh samplePrepared.createdAt (10 ^ 9) (tr.map slowSigner))
    (by decide +kernel)
  rw [← map_event_slowSigner tr] at hrun
  exact hexpired (hall _ _ _ _ (Nat.zero_le _) hclock hrun)

/-- With a quick signer the rounds are in time. -/
theorem sent_fresh_iff_sample :
    let := sampleAlloy
    let : Profile := ⟨true⟩
    ∃ tr hashes r, (executeTransactions robinhood .new samplePrepared).Runs [] tr r hashes ∧
      payloads tr = [samplePayload, samplePayload'] ∧
      RoundsInTime samplePrepared.createdAt (tr.map fun e => ⟨e, 0⟩) := by
  intro alloy profile
  obtain ⟨tr, r, hashes, hrun, hpayloads, hclock, hfresh⟩ := Proc.runs_of_exec_prop sampleAnswers
    (fun _ => 60) (executeTransactions robinhood .new samplePrepared) []
    (fun tr _ => payloads tr = [samplePayload, samplePayload'] ∧
      Clocked (10 ^ 9) (tr.map fun e => ⟨e, 0⟩) ∧
      SentFresh samplePrepared.createdAt (10 ^ 9) (tr.map fun e => ⟨e, 0⟩))
    (by decide +kernel)
  have hevents : (tr.map fun e => (⟨e, 0⟩ : Timed (Event Answer))).map Timed.event = tr := by
    rw [List.map_map]
    exact List.map_id tr
  have hrun' := hrun
  rw [← hevents] at hrun'
  exact ⟨tr, hashes, r, hrun, hpayloads,
    (sent_fresh_iff (Nat.zero_le _) hclock hrun').1.mp hfresh⟩

end Evm
end TradingAggregators
