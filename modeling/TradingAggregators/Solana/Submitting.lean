import TradingAggregators.Solana.Building

/-!
# How a run of `submit_swap` goes

* `asks_finalizeFee`: nothing is released while a transaction is priced.
* `maintains_sign`: signing shows the keys one message only, the one it was given.
* `runs_submitSwap`: a run fails before anything is released, or it reaches signing
  (`ReachedSigning`) and hands at most one transaction to the submitter, last.
-/

namespace TradingAggregators
namespace Solana

open Interaction Interaction.Program Rust Wire

variable {σ : Type}

/-! ## Pricing -/

theorem asks_simulatedCost {tx : VersionedTransaction} :
    (simulatedCost tx : Task σ _).Asks Query.Harmless :=
  (asks_harmless rfl).bind fun _ => (Proc.asks_ofResult _).bind fun _ => Proc.asks_ofResult _

theorem asks_requestPrice : (requestPrice : Task σ _).Asks Query.Harmless :=
  Proc.Asks.within ((asks_harmless rfl).bind fun _ => Proc.asks_ofResult _) _

/-- Pricing hands nothing to a key or to the network, also when it fails. -/
theorem asks_finalizeFee {p : SponsorCostPolicy} {index : ℕ} :
    (p.finalizeFee index).Asks Query.Harmless := by
  refine Proc.asks_read.bind fun tx => asks_simulatedCost.bind fun cost => ?_
  refine asks_requestPrice.bind fun price => (asks_harmless rfl).bind fun now => ?_
  refine (Proc.asks_ofResult _).bind fun charge => Proc.Asks.bind ?_ fun _ => ?_
  · exact Proc.asks_read.bind fun _ => (Proc.asks_ofResult _).bind fun _ =>
      (Proc.asks_ofResult _).bind fun _ => (Proc.asks_failIf _ _).bind fun _ =>
        Proc.asks_update _
  · exact Proc.asks_read.bind fun _ => asks_simulatedCost.bind fun _ =>
      (Proc.asks_failIf _ _).bind fun _ => (asks_harmless rfl).bind fun _ =>
        (Proc.asks_ofResult _).bind fun _ => Proc.asks_pure _

/-! ## Signing -/

/-- A question that releases a transaction with this message. -/
def ReleasesMessage (m : VersionedMessage) (q : Query) : Prop :=
  ∃ tx, q.released = some tx ∧ tx.message = m

theorem maintains_putSignature {m : VersionedMessage} {index : ℕ} {signature : Signature} :
    Proc.Maintains (fun tx : VersionedTransaction => tx.message = m) (ReleasesMessage m)
      (SwapSigners.putSignature index signature) :=
  .readBind fun _ _ => .bind (.failIf _ _) fun _ => .update fun _ hm => hm

/-- Signing changes signatures only and shows the keys nothing but this message. -/
theorem maintains_sign {m : VersionedMessage} {signers : SwapSigners} {wallet : Pubkey} :
    Proc.Maintains (fun tx : VersionedTransaction => tx.message = m) (ReleasesMessage m)
      (signers.sign wallet) := by
  refine .readBind fun tx _ => .bind (.ofResult _) fun index => ?_
  refine .readBind fun tx hm => .bind (.ask ⟨tx, rfl, hm⟩) fun response => ?_
  refine .bind (.ofResult _) fun signature => .bind maintains_putSignature fun _ => ?_
  cases signers.sponsor with
  | none => exact .pure ()
  | some sponsor =>
    refine .readBind fun tx hm => .bind (.ask ⟨tx, rfl, hm⟩) fun response => ?_
    exact .bind (.ofResult _) fun signature => maintains_putSignature

/-! ## A run of `submit_swap` -/

theorem asks_priceSponsorship {signers : SwapSigners} {prepared : PreparedSwap}
    {tx : VersionedTransaction} :
    (priceSponsorship signers prepared tx).Asks Query.Harmless := by
  unfold priceSponsorship
  cases signers.sponsor with
  | none => exact Proc.asks_pure _
  | some sponsor =>
    exact (Proc.asks_ofResult _).bind fun index => Proc.asks_scope asks_finalizeFee tx

section Submit

variable [Sdk]

/-- What `submit_swap` returns for the submitter's answer. -/
def submitOutcome (prepared : PreparedSwap) (sponsorshipFee : UInt64) :
    Except String Signature → TradeResult SwapResult
  | .ok sig => .ok
      { hash := keyText sig
        dex := prepared.venue
        status := .pending
        amountReceived := none
        applicationFee := prepared.quote.applicationFee
        sponsorshipFee := sponsorshipFee }
  | .error e => .error (.err (.submit e))

/-- A run that got as far as signing: the transaction `tx₀` was built, became `tx₁` when it was
priced and `tx₂` when it was signed, and was submitted unless signing failed. -/
structure ReachedSigning (prepared : PreparedSwap) (signers : SwapSigners)
    (submitter : Submitter) (params : Trade) (fee : UInt64)
    (tables : List AddressLookupTableAccount) (tx₀ tx₁ tx₂ : VersionedTransaction)
    (sponsorshipFee : UInt64) (built priced signed submitted : Trace Answer)
    (r : TradeResult SwapResult) : Prop where
  build : (buildTransaction (signers.payer params.wallet)
    ⟨prepared.instructions, mergeLookupTables prepared.lookupTables tables, prepared.format⟩ fee
    submitter).Runs () built (.ok tx₀) ()
  signer : ∃ i, signers.userSignerIndex params.wallet tx₀ = .ok i
  price : (priceSponsorship signers prepared tx₀).Runs () priced (.ok (sponsorshipFee, tx₁)) ()
  sign : ∃ c, (signers.sign params.wallet).Runs tx₁ signed c tx₂ ∧
    ((∃ e, c = .error e ∧ r = .error e ∧ submitted = []) ∨
      (c = .ok () ∧ ∃ answer, submitted = [⟨.submit tx₂, answer⟩] ∧
        r = submitOutcome prepared sponsorshipFee answer))

/-- **How a run of `submit_swap` goes**: it fails before anything is released, or it reaches
signing. -/
theorem runs_submitSwap {prepared : PreparedSwap} {signers : SwapSigners}
    {submitter : Submitter} {params : Trade} {fee : UInt64}
    {tables : List AddressLookupTableAccount} {tr : Trace Answer} {r : TradeResult SwapResult}
    (h : (submitSwap prepared signers submitter params fee tables).Runs () tr r ()) :
    ((∃ e, r = .error e) ∧ ∀ e ∈ tr, e.query.Harmless) ∨
      ∃ tx₀ tx₁ tx₂ sponsorshipFee built priced signed submitted,
        tr = built ++ (priced ++ (signed ++ submitted)) ∧
        ReachedSigning prepared signers submitter params fee tables tx₀ tx₁ tx₂ sponsorshipFee
          built priced signed submitted r := by
  unfold submitSwap at h
  rcases Proc.runs_bind.mp h with ⟨e, hr, h₁⟩ | ⟨tx₀, _, built, _, htr, hbuild, h₁⟩
  · exact Or.inl ⟨⟨e, hr⟩, asks_buildTransaction.runs h₁⟩
  have hbuilt := asks_buildTransaction.runs hbuild
  rcases Proc.runs_ofResult_bind.mp h₁ with ⟨e, -, hnil, hr, -⟩ | ⟨i, hi, h₂⟩
  · refine Or.inl ⟨⟨e, hr⟩, ?_⟩
    rwa [htr, hnil, List.append_nil]
  rcases Proc.runs_bind.mp h₂ with ⟨e, hr, h₃⟩ | ⟨⟨charge, tx₁⟩, _, priced, _, htr₁, hprice, h₃⟩
  · refine Or.inl ⟨⟨e, hr⟩, fun ev hev => ?_⟩
    rw [htr] at hev
    rcases List.mem_append.mp hev with hev | hev
    · exact hbuilt ev hev
    · exact asks_priceSponsorship.runs h₃ ev hev
  refine Or.inr ?_
  rcases Proc.runs_bind.mp h₃ with ⟨e, hr, h₄⟩ | ⟨⟨u, tx₂⟩, _, signed, _, htr₂, hsign, h₄⟩
  · obtain ⟨-, c, tx₂, hc, hce⟩ := Proc.runs_scope.mp h₄
    cases c with
    | ok u => exact nomatch hce
    | error e' =>
      refine ⟨tx₀, tx₁, tx₂, charge, built, priced, _, [], ?_, hbuild, ⟨i, hi⟩, hprice, _, hc,
        Or.inl ⟨e', rfl, ?_, rfl⟩⟩
      · rw [htr, htr₁, List.append_nil]
      · rw [hr, Except.error.inj hce]
  · obtain ⟨-, c, tx₂', hc, hce⟩ := Proc.runs_scope.mp hsign
    cases c with
    | error e => exact nomatch hce
    | ok u' =>
      cases hce
      obtain ⟨answer, _, htr₃, h₅⟩ := Proc.runs_ask_bind.mp h₄
      refine ⟨tx₀, tx₁, tx₂, charge, built, priced, signed, [⟨.submit tx₂, answer⟩], ?_, hbuild,
        ⟨i, hi⟩, hprice, _, hc, Or.inr ⟨rfl, answer, rfl, ?_⟩⟩
      · rcases Proc.runs_ofResult_bind.mp h₅ with ⟨e, -, hnil, -⟩ | ⟨sig, -, h₆⟩
        · rw [htr, htr₁, htr₂, htr₃, hnil]
        · rw [htr, htr₁, htr₂, htr₃, (Proc.runs_pure.mp h₆).1]
      · rcases Proc.runs_ofResult_bind.mp h₅ with ⟨e, he, -, hr, -⟩ | ⟨sig, hsig, h₆⟩
        · cases answer with
          | ok sig => exact nomatch he
          | error text => rw [hr, ← Except.error.inj he]; rfl
        · have hanswer : answer = .ok sig := mapError_eq_ok.mp hsig
          rw [hanswer, (Proc.runs_pure.mp h₆).2.1]
          rfl

end Submit

end Solana
end TradingAggregators
