import TradingAggregators.Interaction.Protocol
import TradingAggregators.Solana.Identification
import TradingAggregators.Solana.SignatureSlots

/-!
# The protocol of a swap

A swap talks to its user's key, to the sponsor's key, to the submitter and to the node, and
what it may do next depends on what they answered.

## 1.  The protocol

`SwapStep` is the exchange as a step relation on a few phases (`Phase`): a key is shown one
unsigned transaction, each further party is handed what the one before made of it, and
whoever refuses ends the exchange.  `Phase.Ends` says what is returned in which phase.

## 2.  The code follows it

`swap_follows_protocol`: every run of `swap_with_lookup_tables` is a path of the protocol.
-/

namespace TradingAggregators
namespace Solana

open Interaction Interaction.Program Rust Wire

/-! ## 1.  The protocol -/

/-- Where a swap stands. -/
inductive Phase where
  /-- Nothing was released. -/
  | preparing
  /-- The user signed; the sponsor with this wallet has not. -/
  | awaiting (sponsor : Pubkey) (tx : VersionedTransaction)
  /-- Every signer signed. -/
  | signed (tx : VersionedTransaction)
  /-- The submitter reported this signature, and this is its status so far. -/
  | submitted (sig : Signature) (status : SwapStatus)
  /-- A party refused. -/
  | failed (error : TradeError)

/-- The transaction with one more signature. -/
def VersionedTransaction.fill (tx : VersionedTransaction) (slot : ℕ) (signature : Signature) :
    VersionedTransaction :=
  { tx with signatures := tx.signatures.set slot signature }

/-- The user's signature completes a transaction that nobody sponsors. -/
def SwapSigners.afterUser (signers : SwapSigners) (tx : VersionedTransaction) : Phase :=
  match signers.sponsor with
  | none => .signed tx
  | some sponsor => .awaiting sponsor.wallet tx

/-- The status that a poll tells. -/
def polledStatus : Option (Except String Unit) → SwapStatus
  | some (.ok ()) => .confirmed
  | some (.error _) => .failed
  | none => .pending

/-- One event of a swap: who is asked what, and where the answer leads. -/
inductive SwapStep (signers : SwapSigners) (wallet : Pubkey) : Protocol Answer Phase where
  | prepare {e : Event Answer} : e.query.Harmless → SwapStep signers wallet .preparing e .preparing
  -- The user is shown an unsigned transaction that asks for no other signers.
  | userSigns {tx : VersionedTransaction} {slot : ℕ} {sig : Signature} :
      tx = unsigned tx.message → signers.userSignerIndex wallet tx = .ok slot →
      SwapStep signers wallet .preparing ⟨.userSign wallet tx, .ok sig⟩
        (signers.afterUser (tx.fill slot sig))
  | userRefuses {tx : VersionedTransaction} {slot : ℕ} {text : String} :
      tx = unsigned tx.message → signers.userSignerIndex wallet tx = .ok slot →
      SwapStep signers wallet .preparing ⟨.userSign wallet tx, .error text⟩
        (.failed (.sign ("user: " ++ text)))
  | sponsorSigns {key : Pubkey} {tx : VersionedTransaction} {sig : Signature} :
      SwapStep signers wallet (.awaiting key tx) ⟨.sponsorSign key tx, .ok sig⟩
        (.signed (tx.fill 0 sig))
  | sponsorRefuses {key : Pubkey} {tx : VersionedTransaction} {text : String} :
      SwapStep signers wallet (.awaiting key tx) ⟨.sponsorSign key tx, .error text⟩
        (.failed (.sign ("sponsor: " ++ text)))
  | submits {tx : VersionedTransaction} {sig : Signature} :
      SwapStep signers wallet (.signed tx) ⟨.submit tx, .ok sig⟩ (.submitted sig .pending)
  | submitRefused {tx : VersionedTransaction} {text : String} :
      SwapStep signers wallet (.signed tx) ⟨.submit tx, .error text⟩ (.failed (.submit text))
  | polls {sig : Signature} {answer : Option (Except String Unit)} :
      SwapStep signers wallet (.submitted sig .pending) ⟨.getSignatureStatus sig, .ok answer⟩
        (.submitted sig (polledStatus answer))
  | pollFails {sig : Signature} {text : String} :
      SwapStep signers wallet (.submitted sig .pending) ⟨.getSignatureStatus sig, .error text⟩
        (.failed (.rpc "signature status" text))
  | measures {sig : Signature} {e : Event Answer} : e.query.IsRead →
      SwapStep signers wallet (.submitted sig .confirmed) e (.submitted sig .confirmed)

/-- The phases in which a swap can fail: before anything was released with any error, later
with the error of the party that refused. -/
inductive Phase.Fails : Phase → Fault TradeError → Prop where
  | unreleased (f : Fault TradeError) : Fails .preparing f
  | refused (e : TradeError) : Fails (.failed e) (.err e)

/-- What a swap returns in which phase. -/
inductive Phase.Ends : Phase → TradeResult SwapResult → Prop where
  | failed {p : Phase} {f : Fault TradeError} : p.Fails f → Ends p (.error f)
  | landed {sig : Signature} (result : SwapResult) : result.hash = keyText sig →
      (result.status ≠ .confirmed → result.amountReceived = none) →
      Ends (.submitted sig result.status) (.ok result)

/-! ### What a swap releases -/

/-- The questions of a trace that hand a transaction to a key or to the network. -/
def releases (tr : Trace Answer) : List Query :=
  (tr.map Event.query).filter fun q => q.released.isSome

/-- Who is handed what in a complete swap: the user's key the unsigned transaction, the
sponsor's key what the user signed, the submitter what everyone signed. -/
def SwapSigners.chain (signers : SwapSigners) (wallet : Pubkey) (tx : VersionedTransaction)
    (slot : ℕ) (byUser bySponsor : Signature) : List Query :=
  let signed := tx.fill slot byUser
  match signers.sponsor with
  | none => [.userSign wallet tx, .submit signed]
  | some sponsor =>
      [.userSign wallet tx, .sponsorSign sponsor.wallet signed, .submit (signed.fill 0 bySponsor)]

section Path

variable {signers : SwapSigners} {wallet : Pubkey} {p p' : Phase} {tr : Trace Answer}

theorem releases_cons_of_none {e : Event Answer} (h : e.query.released = none) :
    releases (e :: tr) = releases tr := by
  simp [releases, h]

theorem releases_cons_of_some {e : Event Answer} {tx : VersionedTransaction}
    (h : e.query.released = some tx) : releases (e :: tr) = e.query :: releases tr := by
  simp [releases, h]

/-- Behind the submission or a refusal nothing is released. -/
theorem releases_of_over (h : Protocol.Path (SwapStep signers wallet) p tr p')
    (hp : (∃ sig status, p = .submitted sig status) ∨ ∃ e, p = .failed e) : releases tr = [] := by
  induction h with
  | nil p => rfl
  | cons hstep _ ih =>
    rcases hp with ⟨sig, status, rfl⟩ | ⟨e, rfl⟩
    · cases hstep with
      | polls =>
        rw [releases_cons_of_none rfl]
        exact ih (Or.inl ⟨_, _, rfl⟩)
      | pollFails =>
        rw [releases_cons_of_none rfl]
        exact ih (Or.inr ⟨_, rfl⟩)
      | measures hread =>
        rw [releases_cons_of_none hread.1]
        exact ih (Or.inl ⟨_, _, rfl⟩)
    · cases hstep

theorem releases_of_signed {tx : VersionedTransaction}
    (h : Protocol.Path (SwapStep signers wallet) (.signed tx) tr p') :
    releases tr <+: [.submit tx] := by
  cases h with
  | nil => exact List.nil_prefix
  | cons hstep hrest =>
    cases hstep with
    | submits => rw [releases_cons_of_some rfl, releases_of_over hrest (Or.inl ⟨_, _, rfl⟩)]
    | submitRefused => rw [releases_cons_of_some rfl, releases_of_over hrest (Or.inr ⟨_, rfl⟩)]

theorem releases_of_awaiting {key : Pubkey} {tx : VersionedTransaction}
    (h : Protocol.Path (SwapStep signers wallet) (.awaiting key tx) tr p') :
    ∃ bySponsor, releases tr <+: [.sponsorSign key tx, .submit (tx.fill 0 bySponsor)] := by
  cases h with
  | nil => exact ⟨.zero 64, List.nil_prefix⟩
  | cons hstep hrest =>
    cases hstep with
    | @sponsorSigns _ _ bySponsor =>
      refine ⟨bySponsor, ?_⟩
      rw [releases_cons_of_some rfl, List.cons_prefix_cons]
      exact ⟨rfl, releases_of_signed hrest⟩
    | sponsorRefuses =>
      refine ⟨.zero 64, ?_⟩
      rw [releases_cons_of_some rfl, releases_of_over hrest (Or.inr ⟨_, rfl⟩)]
      simp

/-- **One transaction, one order, one submission**: whatever a path of the protocol releases
is an initial part of one chain. -/
theorem releases_of_preparing (h : Protocol.Path (SwapStep signers wallet) p tr p')
    (hp : p = .preparing) :
    releases tr = [] ∨ ∃ tx slot byUser bySponsor,
      releases tr <+: signers.chain wallet tx slot byUser bySponsor := by
  induction h with
  | nil => exact Or.inl rfl
  | cons hstep hrest ih =>
    subst hp
    cases hstep with
    | prepare hquiet =>
      rw [releases_cons_of_none hquiet]
      exact ih rfl
    | @userRefuses tx slot text htx hslot =>
      refine Or.inr ⟨tx, 0, .zero 64, .zero 64, ?_⟩
      rw [releases_cons_of_some rfl, releases_of_over hrest (Or.inr ⟨_, rfl⟩), SwapSigners.chain]
      cases signers.sponsor <;> simp
    | @userSigns tx slot byUser htx hslot =>
      unfold SwapSigners.afterUser at hrest
      unfold SwapSigners.chain
      cases hs : signers.sponsor with
      | none =>
        rw [hs] at hrest
        refine Or.inr ⟨tx, slot, byUser, .zero 64, ?_⟩
        rw [releases_cons_of_some rfl, List.cons_prefix_cons]
        exact ⟨rfl, releases_of_signed hrest⟩
      | some sponsor =>
        rw [hs] at hrest
        obtain ⟨bySponsor, hprefix⟩ := releases_of_awaiting hrest
        refine Or.inr ⟨tx, slot, byUser, bySponsor, ?_⟩
        rw [releases_cons_of_some rfl, List.cons_prefix_cons]
        exact ⟨rfl, hprefix⟩

end Path

/-! ## 2.  The code follows it -/

variable {signers : SwapSigners} {wallet : Pubkey} {sig : Signature}

/-- Everything that an asking procedure asks is a step that stays where it is. -/
theorem follows_harmless {σ α ε : Type} {x : Proc Answer σ ε α} {s : σ}
    (h : x.Asks Query.Harmless) :
    Proc.Follows (SwapStep signers wallet) (fun p _ _ => p = .preparing) .preparing s x :=
  .of_asks h fun _ he => .prepare he

/-! ### Signing -/

/-- The user's slot is one of the slots of an unsigned transaction. -/
theorem userSlot_lt {tx : VersionedTransaction} {slot : ℕ} (htx : tx = unsigned tx.message)
    (h : signers.userSignerIndex wallet tx = .ok slot) : slot < tx.signatures.length := by
  unfold SwapSigners.userSignerIndex at h
  obtain ⟨_, hlength, h₁⟩ := bind_eq_ok.mp h
  obtain ⟨_, -, h₂⟩ := bind_eq_ok.mp h₁
  rw [failIf_eq_ok, not_lt] at hlength
  have hslots : tx.signatures.length = tx.message.header.numRequiredSignatures.toNat := by
    rw [htx]
    exact length_unsigned _
  cases hindex : (tx.message.staticAccountKeys.take
      tx.message.header.numRequiredSignatures.toNat).idxOf? wallet with
  | none =>
    rw [hindex] at h₂
    exact nomatch h₂
  | some index =>
    rw [hindex] at h₂
    have hfound := List.findIdx?_eq_some_iff_getElem.mp hindex
    obtain ⟨hlt, -⟩ := hfound
    rw [List.length_take, Nat.min_eq_left hlength] at hlt
    rw [hslots, ← pure_eq_ok.mp h₂]
    exact hlt

/-- Putting a signature into a slot that exists never fails. -/
theorem follows_putSignature {slot : ℕ} {tx : VersionedTransaction} {p : Phase}
    (h : slot < tx.signatures.length) :
    Proc.Follows (SwapStep signers wallet)
      (fun p' r tx' => p' = p ∧ r = .ok () ∧ tx' = tx.fill slot sig) p tx
      (SwapSigners.putSignature slot sig) := by
  refine .read_bind (.failIf_bind (fun hbad => ?_) fun _ => ?_)
  · exact absurd h (not_lt.mpr hbad)
  · exact .update ⟨rfl, rfl, rfl⟩

/-- Where signing leaves a swap. -/
def Signing (p : Phase) (r : TradeResult (Unit × VersionedTransaction)) : Prop :=
  match r with
  | .error f => p.Fails f
  | .ok c => p = .signed c.2

theorem follows_sign {tx : VersionedTransaction} (htx : tx = unsigned tx.message) :
    Proc.Follows (SwapStep signers wallet) (fun p r tx' => Signing p (r.map fun u => (u, tx')))
      .preparing tx (signers.sign wallet) := by
  unfold SwapSigners.sign
  refine .read_bind (.ofResult_bind (fun f _ => .unreleased f) fun slot hslot => ?_)
  have hlt := userSlot_lt htx hslot
  refine .read_bind (.ask_bind fun answer => ?_)
  cases answer with
  | error text =>
    refine ⟨_, .userRefuses htx hslot, .ofResult_bind (fun f hf => ?_) fun _ h => nomatch h⟩
    rw [← Except.error.inj hf]
    exact .refused _
  | ok byUser =>
    refine ⟨_, .userSigns htx hslot, .ofResult_bind (fun _ h => nomatch h) fun sig hsig => ?_⟩
    cases hsig
    refine .bind (follows_putSignature hlt) (fun p' e tx' h => nomatch h.2.1) ?_
    rintro p' u tx' ⟨rfl, -, rfl⟩
    unfold SwapSigners.afterUser
    cases hs : signers.sponsor with
    | none => exact Proc.Follows.pure rfl
    | some sponsor =>
      refine .read_bind (.ask_bind fun answer => ?_)
      cases answer with
      | error text =>
        refine ⟨_, .sponsorRefuses, .ofResult_bind (fun f hf => ?_) fun _ h => nomatch h⟩
        rw [← Except.error.inj hf]
        exact .refused _
      | ok bySponsor =>
        refine ⟨_, .sponsorSigns, .ofResult_bind (fun _ h => nomatch h) fun sig hsig => ?_⟩
        cases hsig
        have hzero : 0 < (tx.fill slot byUser).signatures.length := by
          rw [VersionedTransaction.fill, List.length_set]
          omega
        exact (follows_putSignature hzero).mono fun p' r tx' ⟨hp, hr, htx'⟩ => by
          rw [hp, hr, htx']
          exact rfl

/-! ### Submitting -/

/-- Pricing rewrites an amount and fills no slot. -/
theorem unsigned_of_price {prepared : PreparedSwap} {tx tx' : VersionedTransaction}
    {tr : Trace Answer} {charge : UInt64} (htx : tx = unsigned tx.message)
    (h : (priceSponsorship signers prepared tx).Runs () tr (.ok (charge, tx')) ()) :
    tx' = unsigned tx'.message := by
  unfold priceSponsorship at h
  cases hsponsor : signers.sponsor with
  | none =>
    simp only [hsponsor] at h
    obtain ⟨-, hpair, -⟩ := Proc.runs_pure.mp h
    cases hpair
    exact htx
  | some sponsor =>
    simp only [hsponsor] at h
    obtain ⟨index, -, h₁⟩ := Proc.runs_ofResult_bind_ok.mp h
    obtain ⟨-, c, t', hfinal, hc⟩ := Proc.runs_scope.mp h₁
    cases c with
    | error e => exact nomatch hc
    | ok charge' =>
      cases hc
      obtain ⟨cost, sim, price, now, hpriced⟩ := runs_finalizeFee hfinal
      rw [hpriced.rewritten, htx]
      cases tx.message <;> rfl

section Submit

variable [Sdk]

/-- What is built has an empty slot for each required signer. -/
theorem unsigned_of_build {payer : Pubkey} {route : Route} {fee : UInt64} {submitter : Submitter}
    {s s' : Unit} {tr : Trace Answer} {tx : VersionedTransaction}
    (h : (buildTransaction payer route fee submitter).Runs s tr (.ok tx) s') :
    tx = unsigned tx.message := by
  obtain ⟨_, _, _, _, message, _, _, -, -, -, -, -, rfl⟩ := runs_buildTransaction_steps h
  rfl

/-- Where submitting leaves a swap. -/
def Submitting (p : Phase) (r : TradeResult SwapResult) : Prop :=
  match r with
  | .error f => p.Fails f
  | .ok pending => ∃ sig, p = .submitted sig .pending ∧ pending.hash = keyText sig

theorem follows_submitSwap {prepared : PreparedSwap} {submitter : Submitter} {params : Trade}
    {fee : UInt64} {tables : List AddressLookupTableAccount} :
    Proc.Follows (SwapStep signers params.wallet) (fun p r _ => Submitting p r) .preparing ()
      (submitSwap prepared signers submitter params fee tables) := by
  unfold submitSwap
  refine .bind ((follows_harmless asks_buildTransaction).of_runs fun p r s tr hp hrun =>
    And.intro hp fun tx (hr : r = .ok tx) => unsigned_of_build (hr ▸ hrun)) ?_ ?_
  · rintro p f s ⟨rfl, -⟩
    exact .unreleased f
  rintro p tx s ⟨rfl, hbuilt⟩
  have htx := hbuilt tx rfl
  refine .ofResult_bind (fun f _ => .unreleased f) fun _ _ => ?_
  refine .bind ((follows_harmless asks_priceSponsorship).of_runs fun p r s tr hp hrun =>
    And.intro hp fun charge tx' (hr : r = .ok (charge, tx')) =>
      unsigned_of_price htx (hr ▸ hrun)) ?_ ?_
  · rintro p f s ⟨rfl, -⟩
    exact .unreleased f
  rintro p ⟨charge, tx₁⟩ s ⟨rfl, hpriced⟩
  have htx₁ := hpriced charge tx₁ rfl
  have hsign : Proc.Follows (SwapStep signers params.wallet) (fun p r _ => Signing p r) .preparing
      () (Proc.scope (signers.sign params.wallet) tx₁) := .scope (follows_sign htx₁)
  refine .bind hsign (fun p f s hp => hp) ?_
  rintro p ⟨u, tx₂⟩ s (rfl : p = .signed tx₂)
  refine .ask_bind fun answer => ?_
  cases answer with
  | error text =>
    refine ⟨_, .submitRefused, .ofResult_bind (fun f hf => ?_) fun _ h => nomatch h⟩
    rw [← Except.error.inj hf]
    exact .refused _
  | ok sig =>
    refine ⟨_, .submits, .ofResult_bind (fun _ h => nomatch h) fun sig' hsig => ?_⟩
    cases hsig
    exact Proc.Follows.pure ⟨sig, rfl, rfl⟩

end Submit

/-! ### Confirming -/

/-- Where polling leaves a swap. -/
def Polling (sig : Signature) (p : Phase) (r : TradeResult SwapStatus) : Prop :=
  match r with
  | .error f => p.Fails f
  | .ok status => p = .submitted sig status

variable {σ : Type} {s : σ}

theorem follows_checkStatus :
    Proc.Follows (SwapStep signers wallet) (fun p r _ => Polling sig p r)
      (.submitted sig .pending) s (checkStatus sig) := by
  refine .ask_bind fun answer => ?_
  cases answer with
  | error text =>
    refine ⟨_, .pollFails, .ofResult_bind (fun f hf => ?_) fun _ h => nomatch h⟩
    rw [← Except.error.inj hf]
    exact .refused _
  | ok answer =>
    refine ⟨_, .polls, .ofResult_bind (fun _ h => nomatch h) fun status hstatus => ?_⟩
    cases hstatus
    exact Proc.Follows.pure (congrArg (Phase.submitted sig) rfl)

/-- The loop polls the reported signature until it is settled. -/
theorem follows_poll (rounds : ℕ) :
    Proc.Follows (SwapStep signers wallet) (fun p r _ => Polling sig p r)
      (.submitted sig .pending) s (poll sig rounds) := by
  induction rounds generalizing s with
  | zero => exact follows_checkStatus
  | succ rounds ih =>
    refine .bind follows_checkStatus (fun _ _ _ hp => hp) ?_
    rintro p status s (rfl : p = .submitted sig status)
    cases status with
    | pending => exact ih
    | confirmed => exact Proc.Follows.pure rfl
    | failed => exact Proc.Follows.pure rfl

theorem follows_confirm {deadline : ℕ} :
    Proc.Follows (SwapStep signers wallet) (fun p r _ => Polling sig p r)
      (.submitted sig .pending) s (confirm sig deadline) := by
  have hrounds : Proc.Follows (SwapStep signers wallet)
      (fun p (r : TradeResult ℕ) _ => p = .submitted sig .pending ∧ ∃ n, r = .ok n)
      (.submitted sig .pending) s (Proc.perform (.choose .pure)) :=
    .perform fun n => ⟨rfl, n, rfl⟩
  refine .bind hrounds (fun p f s hp => nomatch hp.2.choose_spec) ?_
  rintro p rounds s ⟨rfl, -⟩
  exact follows_poll _

section Swap

variable [Sdk]

/-- What the wallet received is measured only once the swap is confirmed. -/
theorem follows_amountReceived {trade : Trade} {before : Option UInt64} {status : SwapStatus} :
    Proc.Follows (SwapStep signers wallet)
      (fun p r _ => p = .submitted sig status ∧ ∃ amount, r = .ok amount ∧
        (status ≠ .confirmed → amount = none))
      (.submitted sig status) () (TradingClient.amountReceived trade before status) := by
  cases status with
  | confirmed =>
    refine (Proc.Follows.of_asks (asks_amountReceived trade before .confirmed) fun e he =>
      .measures he).of_runs fun p r s tr hp hrun => ⟨hp, ?_⟩
    obtain ⟨amount, rfl⟩ := returns_amountReceived trade before .confirmed _ _ _ _ hrun
    exact ⟨amount, rfl, fun h => absurd rfl h⟩
  | failed => exact Proc.Follows.pure ⟨rfl, none, rfl, fun _ => rfl⟩
  | pending => exact Proc.Follows.pure ⟨rfl, none, rfl, fun _ => rfl⟩

theorem follows_confirmPending {client : TradingClient} {trade : Trade} {before : Option UInt64}
    {pending : SwapResult} (hash : pending.hash = keyText sig) :
    Proc.Follows (SwapStep signers wallet) (fun p r _ => p.Ends r) (.submitted sig .pending) ()
      (client.confirmPending trade before pending) := by
  have hparse : TradingClient.parseHash pending.hash pending.hash = .ok sig := by
    rw [TradingClient.parseHash, hash, parseKey_keyText]
    rfl
  unfold TradingClient.confirmPending
  rw [hparse]
  refine .ofResult_bind (fun f hf => ?_) fun sig' hsig => ?_
  · cases hf
  cases hsig
  refine .bind follows_confirm (fun p f s hp => .failed hp) ?_
  rintro p status s (rfl : p = .submitted sig status)
  refine .bind follows_amountReceived (fun p f s hp => ?_) ?_
  · obtain ⟨-, amount, hamount, -⟩ := hp
    cases hamount
  rintro p amount s ⟨rfl, amount', hamount, hnone⟩
  cases hamount
  exact Proc.Follows.pure
    (.landed { pending with status := status, amountReceived := amount } hash hnone)

variable [Profile]

theorem follows_swapWithLookupTables {client : TradingClient} {trade : Trade}
    {submitter : Submitter} {fee : UInt64} {tables : List AddressLookupTableAccount} :
    Proc.Follows (SwapStep ⟨client.sponsorFor trade⟩ trade.wallet) (fun p r _ => p.Ends r)
      .preparing () (client.swapWithLookupTables trade submitter fee tables) := by
  have hasks : (Proc.both (outputBalance trade) (client.prepareSwap trade) :
      Task Unit _).Asks Query.Harmless :=
    .both ((asks_outputBalance trade).mono fun q hq => hq.1)
      (asks_prepareSelectedSwap client trade)
  refine .bind (follows_harmless hasks) (fun p f s hp => ?_) ?_
  · rw [hp]
    exact .failed (.unreleased f)
  rintro p c s rfl
  refine .ofResult_bind (fun f _ => .failed (.unreleased f)) fun before _ => ?_
  refine .ofResult_bind (fun f _ => .failed (.unreleased f)) fun prepared _ => ?_
  refine .bind follows_submitSwap (fun p f s hp => .failed hp) ?_
  rintro p pending s ⟨sig, rfl, hash⟩
  exact follows_confirmPending hash

/-- **A swap follows its protocol**, from the first read to the result, whatever the keys, the
submitter and the node answer: its trace is a path from `preparing`, what is returned is what
the phase it ends in permits, and what is released is an initial part of one chain. -/
theorem swap_follows_protocol {client : TradingClient} {trade : Trade} {submitter : Submitter}
    {fee : UInt64} {tables : List AddressLookupTableAccount} {tr : Trace Answer}
    {r : TradeResult SwapResult}
    (h : (client.swapWithLookupTables trade submitter fee tables).Runs () tr r ()) :
    (∃ p, Protocol.Path (SwapStep ⟨client.sponsorFor trade⟩ trade.wallet) .preparing tr p ∧
      p.Ends r) ∧
    (releases tr = [] ∨ ∃ tx slot byUser bySponsor, releases tr <+:
      SwapSigners.chain ⟨client.sponsorFor trade⟩ trade.wallet tx slot byUser bySponsor) := by
  obtain ⟨p, hpath, hends⟩ := follows_swapWithLookupTables.runs h
  exact ⟨⟨p, hpath, hends⟩, releases_of_preparing hpath rfl⟩

end Swap

theorem swap_follows_protocol_sample :
    let := sampleSdk
    let : Profile := ⟨true⟩
    ∃ tr result, Submitted tr ∧
      (∃ p, Protocol.Path (SwapStep ⟨sampleClient.sponsorFor relayTrade⟩ relayTrade.wallet)
        .preparing tr p ∧ p.Ends (.ok result)) := by
  intro sdk profile
  obtain ⟨tr, r, _, hrun, hsubmitted, hok⟩ := Proc.runs_of_exec_prop
    (swapBackend (.ok sampleSignature)) (fun _ => 1)
    (sampleClient.swapWithLookupTables relayTrade ⟨none⟩ 5000 []) ()
    (fun tr r => Submitted tr ∧ r.isOk = true) (by decide +kernel)
  obtain ⟨result, rfl⟩ := isOk_iff.mp hok
  exact ⟨tr, result, hsubmitted, (swap_follows_protocol hrun).1⟩

end Solana
end TradingAggregators
