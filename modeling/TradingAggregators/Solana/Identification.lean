import Mathlib.Data.List.Infix
import TradingAggregators.Solana.Client
import TradingAggregators.Solana.Conservation
import TradingAggregators.Solana.Preparing
import TradingAggregators.Solana.SponsoredRun

/-!
# What identifies a submitted swap

Once a signed transaction was handed to the submitter, the caller of
`swap_with_lookup_tables` should learn its first signature, whatever the submitter and the RPC
node answer.  The code returns the signature that the submitter reported, and an error of the
submitter or of a status poll as it is.

## 1.  Confirming

`runs_confirm`: polling ends with an error exactly when a poll failed, and with that poll's
error (`PolledTo`).

## 2.  The shape of a run

`runs_swapWithLookupTables`: at most one transaction is submitted, it carries at least one
signature, and what is returned is decided by the answers that follow (`AfterSubmission`).

## 3.  When the caller learns the signature

`own_signature_iff`: in every run, if and only if the submitter's and the node's answers are
`Identified`.  `lost_signature` is a run in which they are not.
-/

namespace TradingAggregators
namespace Solana

open Interaction Interaction.Program Rust Wire

variable {σ : Type}

/-! ## 1.  Confirming -/

/-- A question other than a submission. -/
def Query.NotSubmit (q : Query) : Prop :=
  ∀ tx, q ≠ .submit tx

theorem Query.Harmless.notSubmit {q : Query} (h : q.Harmless) : q.NotSubmit := by
  rintro tx rfl
  exact nomatch h

/-- The text of a status poll that failed. -/
def statusError : Event Answer → Option String
  | ⟨.getSignatureStatus _, .error text⟩ => some text
  | _ => none

def statusErrors (tr : Trace Answer) : List String :=
  tr.filterMap statusError

theorem statusErrors_append (tr tr' : Trace Answer) :
    statusErrors (tr ++ tr') = statusErrors tr ++ statusErrors tr' :=
  List.filterMap_append

/-- What polls add up to: a value when none failed, the error of the one that failed. -/
def PolledTo {α : Type} (tr : Trace Answer) : TradeResult α → Prop
  | .ok _ => statusErrors tr = []
  | .error e => ∃ text, e = .err (.rpc "signature status" text) ∧ statusErrors tr = [text]

theorem runs_checkStatus {sig : Signature} {s s' : σ} {tr : Trace Answer}
    {r : TradeResult SwapStatus} (h : (checkStatus sig).Runs s tr r s') :
    PolledTo tr r ∧ ∀ e ∈ tr, e.query.NotSubmit := by
  obtain ⟨response, tr', rfl, h₁⟩ := Proc.runs_ask_bind.mp h
  cases response with
  | error text =>
    rcases Proc.runs_ofResult_bind.mp h₁ with ⟨e, he, rfl, rfl, -⟩ | ⟨a, ha, -⟩
    · rw [← Except.error.inj he]
      exact ⟨⟨text, rfl, rfl⟩, by simp [Query.NotSubmit]⟩
    · exact nomatch ha
  | ok status =>
    rcases Proc.runs_ofResult_bind.mp h₁ with ⟨e, he, -⟩ | ⟨a, -, h₂⟩
    · exact nomatch he
    · obtain ⟨rfl, rfl, -⟩ := Proc.runs_pure.mp h₂
      exact ⟨rfl, by simp [Query.NotSubmit]⟩

/-- Every round of the loop passes on what its poll came to. -/
theorem runs_poll {sig : Signature} {rounds : ℕ} {s s' : σ} {tr : Trace Answer}
    {r : TradeResult SwapStatus} (h : (poll sig rounds).Runs s tr r s') :
    PolledTo tr r ∧ ∀ e ∈ tr, e.query.NotSubmit := by
  induction rounds generalizing s tr with
  | zero => exact runs_checkStatus h
  | succ rounds ih =>
    rcases Proc.runs_bind.mp h with ⟨e, rfl, h₁⟩ | ⟨status, s₁, tr₁, tr₂, rfl, h₁, h₂⟩
    · exact runs_checkStatus h₁
    obtain ⟨hnone, hask⟩ := runs_checkStatus h₁
    have hnil : statusErrors tr₁ = [] := hnone
    cases status with
    | pending =>
      obtain ⟨hrest, hask'⟩ := ih h₂
      refine ⟨?_, fun e he => (List.mem_append.mp he).elim (hask e) (hask' e)⟩
      cases r with
      | ok status =>
        have hnil' : statusErrors tr₂ = [] := hrest
        show statusErrors (tr₁ ++ tr₂) = []
        rw [statusErrors_append, hnil, hnil']
        rfl
      | error e =>
        obtain ⟨text, he, htext⟩ := hrest
        exact ⟨text, he, by rw [statusErrors_append, hnil, htext]; rfl⟩
    | confirmed =>
      obtain ⟨rfl, rfl, -⟩ := Proc.runs_pure.mp h₂
      rw [List.append_nil]
      exact ⟨hnil, hask⟩
    | failed =>
      obtain ⟨rfl, rfl, -⟩ := Proc.runs_pure.mp h₂
      rw [List.append_nil]
      exact ⟨hnil, hask⟩

theorem runs_confirm {sig : Signature} {deadline : ℕ} {s s' : σ} {tr : Trace Answer}
    {r : TradeResult SwapStatus} (h : (confirm sig deadline).Runs s tr r s') :
    PolledTo tr r ∧ ∀ e ∈ tr, e.query.NotSubmit := by
  unfold confirm at h
  rcases Proc.runs_bind.mp h with ⟨e, -, h₁⟩ | ⟨rounds, s₁, tr₁, tr₂, rfl, h₁, h₂⟩
  · obtain ⟨_, -, he, -⟩ := Proc.runs_perform.mp h₁
    exact nomatch he
  · obtain ⟨n, ⟨_, rfl, -⟩, -, -⟩ := Proc.runs_perform.mp h₁
    exact runs_poll h₂

/-! ### The balance afterwards -/

/-- A question that neither releases anything nor polls a status. -/
def Query.IsRead (q : Query) : Prop :=
  q.released = none ∧ ∀ sig, q ≠ .getSignatureStatus sig

theorem asks_read {ε : Type} {q : Query} (h : q.IsRead) :
    (ask q : Proc Answer σ ε (Answer q)).Asks Query.IsRead :=
  Proc.asks_ask h

theorem statusErrors_of_isRead {tr : Trace Answer} (h : ∀ e ∈ tr, e.query.IsRead) :
    statusErrors tr = [] := by
  refine List.filterMap_eq_nil_iff.mpr fun e he => ?_
  obtain ⟨q, answer⟩ := e
  cases q with
  | getSignatureStatus sig => exact absurd rfl ((h _ he).2 sig)
  | _ => rfl

theorem asks_tokenBalance (account : Pubkey) :
    (tokenBalance account : Task σ _).Asks Query.IsRead := by
  refine (asks_read ⟨rfl, fun _ => by simp⟩).bind fun _ => (Proc.asks_ofResult _).bind
    fun response => ?_
  cases response.value with
  | none => exact Proc.asks_pure _
  | some account => exact Proc.asks_ofResult _

/-- Pricing leaves the signatures alone. -/
theorem signatures_of_price {signers : SwapSigners} {prepared : PreparedSwap}
    {tx tx' : VersionedTransaction} {tr : Trace Answer} {charge : UInt64}
    (h : (priceSponsorship signers prepared tx).Runs () tr (.ok (charge, tx')) ()) :
    tx'.signatures = tx.signatures := by
  unfold priceSponsorship at h
  cases hsponsor : signers.sponsor with
  | none =>
    simp only [hsponsor] at h
    obtain ⟨-, hpair, -⟩ := Proc.runs_pure.mp h
    cases hpair
    rfl
  | some sponsor =>
    simp only [hsponsor] at h
    obtain ⟨index, -, h₁⟩ := Proc.runs_ofResult_bind_ok.mp h
    obtain ⟨-, c, t', hfinal, hc⟩ := Proc.runs_scope.mp h₁
    cases c with
    | error e => exact nomatch hc
    | ok charge' =>
      cases hc
      obtain ⟨cost, sim, price, now, hpriced⟩ := runs_finalizeFee hfinal
      rw [hpriced.rewritten]
      rfl

/-- Signing keeps the number of signatures and submits nothing. -/
theorem maintains_signatures {signers : SwapSigners} {wallet : Pubkey} :
    Proc.Maintains (fun tx : VersionedTransaction => tx.signatures ≠ []) Query.NotSubmit
      (signers.sign wallet) := by
  have hput : ∀ index signature, Proc.Maintains
      (fun tx : VersionedTransaction => tx.signatures ≠ []) Query.NotSubmit
      (SwapSigners.putSignature index signature) := by
    intro index signature
    refine .readBind fun _ _ => .bind (.failIf _ _) fun _ => .update fun tx htx hset => ?_
    exact htx ((List.set_eq_nil_iff _ _).mp hset)
  refine .readBind fun tx _ => .bind (.ofResult _) fun index => ?_
  refine .readBind fun tx _ => .bind (.ask fun _ => by simp) fun response => ?_
  refine .bind (.ofResult _) fun signature => .bind (hput _ _) fun _ => ?_
  cases signers.sponsor with
  | none => exact .pure ()
  | some sponsor =>
    refine .readBind fun tx _ => .bind (.ask fun _ => by simp) fun response => ?_
    exact .bind (.ofResult _) fun signature => hput _ _

section Balance

variable [Sdk]

theorem asks_outputAccount (trade : Trade) :
    (outputAccount trade : Task σ _).Asks Query.IsRead := by
  have hmint : ∀ f : Answer (.getAccount trade.mint) → Task σ (Option OutputAccount),
      (∀ a, (f a).Asks Query.IsRead) → (ask (.getAccount trade.mint) >>= f).Asks Query.IsRead :=
    fun f hf => (asks_read ⟨rfl, fun _ => by simp⟩).bind hf
  unfold outputAccount
  split
  · exact Proc.asks_pure _
  · exact Proc.asks_pure _
  · refine hmint _ fun account => ?_
    cases account <;> exact Proc.asks_pure _

theorem returns_outputAccount (trade : Trade) :
    (outputAccount trade : Task σ _).Returns := by
  unfold outputAccount
  split
  · exact .pure _
  · exact .pure _
  · refine .bind (.ask _) fun account => ?_
    cases account <;> exact .pure _

theorem asks_outputBalance (trade : Trade) :
    (outputBalance trade : Task σ _).Asks Query.IsRead := by
  refine (asks_outputAccount trade).bind fun account => ?_
  cases account with
  | none => exact Proc.asks_pure _
  | some account =>
    cases account with
    | lamports =>
      refine (asks_read ⟨rfl, fun _ => by simp⟩).bind fun balance => ?_
      cases balance <;> exact Proc.asks_pure _
    | token account =>
      refine (Proc.Asks.attempt (asks_tokenBalance account)).bind fun balance => ?_
      cases balance <;> exact Proc.asks_pure _

/-- An unknown balance is not an error. -/
theorem returns_outputBalance (trade : Trade) :
    (outputBalance trade : Task σ _).Returns := by
  refine .bind (returns_outputAccount trade) fun account => ?_
  cases account with
  | none => exact .pure _
  | some account =>
    cases account with
    | lamports =>
      refine .bind (.ask _) fun balance => ?_
      cases balance <;> exact .pure _
    | token account =>
      refine .bind (.attempt _) fun balance => ?_
      cases balance <;> exact .pure _

theorem asks_amountReceived (trade : Trade) (before : Option UInt64) (status : SwapStatus) :
    (TradingClient.amountReceived trade before status).Asks Query.IsRead := by
  cases status with
  | confirmed => exact (asks_outputBalance trade).bind fun _ => Proc.asks_pure _
  | failed => exact Proc.asks_pure _
  | pending => exact Proc.asks_pure _

theorem returns_amountReceived (trade : Trade) (before : Option UInt64) (status : SwapStatus) :
    (TradingClient.amountReceived trade before status).Returns := by
  cases status with
  | confirmed => exact .bind (returns_outputBalance trade) fun _ => .pure _
  | failed => exact .pure _
  | pending => exact .pure _

/-- After a submission: the hash is kept, and only a failed poll is an error. -/
theorem runs_confirmPending {client : TradingClient} {trade : Trade} {before : Option UInt64}
    {pending : SwapResult} {sig : Signature} {tr : Trace Answer} {r : TradeResult SwapResult}
    (hash : pending.hash = keyText sig)
    (h : (client.confirmPending trade before pending).Runs () tr r ()) :
    PolledTo tr r ∧ (∀ result, r = .ok result → result.hash = keyText sig) ∧
      ∀ e ∈ tr, e.query.NotSubmit := by
  have hparse : TradingClient.parseHash pending.hash pending.hash = .ok sig := by
    rw [TradingClient.parseHash, hash, parseKey_keyText]
    rfl
  unfold TradingClient.confirmPending at h
  rw [hparse] at h
  rcases Proc.runs_ofResult_bind.mp h with ⟨e, he, -⟩ | ⟨sig', hsig', h₁⟩
  · exact nomatch he
  cases hsig'
  rcases Proc.runs_bind.mp h₁ with ⟨e, rfl, h₂⟩ | ⟨status, s₁, tr₁, tr₂, rfl, h₂, h₃⟩
  · obtain ⟨hpolled, hask⟩ := runs_confirm h₂
    exact ⟨hpolled, fun result hr => (nomatch hr), hask⟩
  obtain ⟨hpolled, hask⟩ := runs_confirm h₂
  rcases Proc.runs_bind.mp h₃ with ⟨e, -, h₄⟩ | ⟨received, s₂, tr₃, tr₄, rfl, h₄, h₅⟩
  · obtain ⟨_, he⟩ := returns_amountReceived trade before status _ _ _ _ h₄
    exact nomatch he
  obtain ⟨rfl, rfl, -⟩ := Proc.runs_pure.mp h₅
  have hread := (asks_amountReceived trade before status).runs h₄
  have hnil : statusErrors tr₁ = [] := hpolled
  refine ⟨?_, fun result hr => ?_, fun e he => ?_⟩
  · show statusErrors (tr₁ ++ (tr₃ ++ [])) = []
    rw [List.append_nil, statusErrors_append, hnil, statusErrors_of_isRead hread]
    rfl
  · rw [← Except.ok.inj hr]
    exact hash
  · rw [List.append_nil] at he
    rcases List.mem_append.mp he with he | he
    · exact hask e he
    · exact Query.Harmless.notSubmit (hread e he).1

/-! ## 2.  The shape of a run -/

/-- A built transaction that the wallet has to sign carries a signature. -/
theorem signatures_ne_nil {payer : Pubkey} {route : Route} {fee : UInt64}
    {submitter : Submitter} {budget : RequestedBudget} {limit : UInt32}
    {tx : VersionedTransaction} {signers : SwapSigners} {wallet : Pubkey} {i : ℕ}
    (hbuilt : BuiltFrom payer route fee submitter budget limit tx)
    (hsigner : signers.userSignerIndex wallet tx = .ok i) : tx.signatures ≠ [] := by
  unfold SwapSigners.userSignerIndex at hsigner
  obtain ⟨-, -, h₁⟩ := bind_eq_ok.mp hsigner
  obtain ⟨_, hkeys, -⟩ := bind_eq_ok.mp h₁
  rw [failIf_eq_ok, not_or] at hkeys
  intro hnil
  have hzero : tx.message.header.numRequiredSignatures.toNat = 0 := by
    have hlen := congrArg List.length hbuilt.signatures
    rw [hnil, List.length_replicate] at hlen
    exact hlen.symm
  rw [hzero, List.take_zero] at hkeys
  exact hkeys.1 (fun h => nomatch h)

/-- What follows the submission of a transaction: the submitter's answer decides, and after a
success the status polls. -/
inductive AfterSubmission : Except String Signature → Trace Answer → TradeResult SwapResult →
    Prop where
  | refused (text : String) : AfterSubmission (.error text) [] (.error (.err (.submit text)))
  | reported {reported : Signature} {after : Trace Answer} {r : TradeResult SwapResult} :
      PolledTo after r → (∀ result, r = .ok result → result.hash = keyText reported) →
      AfterSubmission (.ok reported) after r

/-- A run that submits nothing, or exactly one transaction. -/
def SubmitsOnce (tr : Trace Answer) (r : TradeResult SwapResult) : Prop :=
  (∀ e ∈ tr, e.query.NotSubmit) ∨
    ∃ front tx answer after sig, tr = front ++ ⟨.submit tx, answer⟩ :: after ∧
      (∀ e ∈ front, e.query.NotSubmit) ∧ (∀ e ∈ after, e.query.NotSubmit) ∧
      tx.signatures.head? = some sig ∧ AfterSubmission answer after r

/-- The submission inside `submit_swap`. -/
theorem runs_submitSwap_once {prepared : PreparedSwap} {signers : SwapSigners}
    {submitter : Submitter} {params : Trade} {fee : UInt64}
    {tables : List AddressLookupTableAccount} {tr : Trace Answer} {r : TradeResult SwapResult}
    (h : (submitSwap prepared signers submitter params fee tables).Runs () tr r ()) :
    ((∃ e, r = .error e) ∧ ∀ e ∈ tr, e.query.NotSubmit) ∨
      ∃ front tx answer sig sponsorshipFee, tr = front ++ [⟨.submit tx, answer⟩] ∧
        (∀ e ∈ front, e.query.NotSubmit) ∧ tx.signatures.head? = some sig ∧
        r = submitOutcome prepared sponsorshipFee answer := by
  rcases runs_submitSwap h with ⟨herr, hharmless⟩ |
    ⟨tx₀, tx₁, tx₂, charge, built, priced, signed, submitted, rfl, hreached⟩
  · exact Or.inl ⟨herr, fun e he => (hharmless e he).notSubmit⟩
  obtain ⟨c, hsign, hend⟩ := hreached.sign
  obtain ⟨i, hi⟩ := hreached.signer
  obtain ⟨budget, limit, hbuilt⟩ := runs_buildTransaction hreached.build
  have hne : tx₁.signatures ≠ [] := by
    rw [signatures_of_price hreached.price]
    exact signatures_ne_nil hbuilt hi
  obtain ⟨hne₂, hsigned⟩ := maintains_signatures _ _ _ _ hne hsign
  have hfront : ∀ e ∈ built ++ (priced ++ signed), e.query.NotSubmit := by
    intro e he
    rcases List.mem_append.mp he with he | he
    · exact (asks_buildTransaction.runs hreached.build e he).notSubmit
    rcases List.mem_append.mp he with he | he
    · exact (asks_priceSponsorship.runs hreached.price e he).notSubmit
    · exact hsigned e he
  rcases hend with ⟨e, -, hr, rfl⟩ | ⟨-, answer, rfl, hr⟩
  · refine Or.inl ⟨⟨e, hr⟩, ?_⟩
    rwa [List.append_nil]
  · obtain ⟨sig, hsig⟩ : ∃ sig, tx₂.signatures.head? = some sig :=
      Option.isSome_iff_exists.mp (List.isSome_head?.mpr hne₂)
    refine Or.inr ⟨_, tx₂, answer, sig, charge, ?_, hfront, hsig, hr⟩
    simp only [List.append_assoc]

variable [Profile]

/-- **At most one transaction is submitted**, and what is returned depends on the answers
that follow it. -/
theorem runs_swapWithLookupTables {client : TradingClient} {trade : Trade}
    {submitter : Submitter} {fee : UInt64} {tables : List AddressLookupTableAccount}
    {tr : Trace Answer} {r : TradeResult SwapResult}
    (h : (client.swapWithLookupTables trade submitter fee tables).Runs () tr r ()) :
    SubmitsOnce tr r := by
  unfold TradingClient.swapWithLookupTables at h
  have hasks : (Proc.both (outputBalance trade) (client.prepareSwap trade) :
      Task Unit _).Asks Query.NotSubmit := by
    refine Proc.Asks.both ?_ ?_
    · exact (asks_outputBalance trade).mono fun q hq => Query.Harmless.notSubmit hq.1
    · exact (asks_prepareSelectedSwap client trade).mono fun q hq => hq.notSubmit
  rcases Proc.runs_bind.mp h with ⟨e, -, h₁⟩ | ⟨c, s₁, tr₁, tr₂, rfl, h₁, h₂⟩
  · exact Or.inl (hasks.runs h₁)
  have hbefore := hasks.runs h₁
  rcases Proc.runs_ofResult_bind.mp h₂ with ⟨e, -, rfl, -⟩ | ⟨before, -, h₃⟩
  · rw [List.append_nil]
    exact Or.inl hbefore
  rcases Proc.runs_ofResult_bind.mp h₃ with ⟨e, -, rfl, -⟩ | ⟨prepared, -, h₄⟩
  · rw [List.append_nil]
    exact Or.inl hbefore
  have hjoin : ∀ {xs : Trace Answer}, (∀ e ∈ xs, e.query.NotSubmit) →
      ∀ e ∈ tr₁ ++ xs, e.query.NotSubmit :=
    fun hxs e he => (List.mem_append.mp he).elim (hbefore e) (hxs e)
  rcases Proc.runs_bind.mp h₄ with ⟨e, rfl, h₅⟩ | ⟨pending, s₂, tr₃, tr₄, rfl, h₅, h₆⟩
  · rcases runs_submitSwap_once h₅ with ⟨-, hnone⟩ |
      ⟨front, tx, answer, sig, charge, rfl, hfront, hsig, hr⟩
    · exact Or.inl (hjoin hnone)
    · cases answer with
      | ok reported => exact nomatch hr
      | error text =>
        rw [hr]
        refine Or.inr ⟨tr₁ ++ front, tx, _, [], sig, ?_, hjoin hfront, by simp, hsig,
          .refused text⟩
        rw [List.append_assoc]
  · rcases runs_submitSwap_once h₅ with ⟨⟨e, he⟩, -⟩ |
      ⟨front, tx, answer, sig, charge, rfl, hfront, hsig, hr⟩
    · exact nomatch he
    · cases answer with
      | error text => exact nomatch hr
      | ok reported =>
        have hash : pending.hash = keyText reported := by
          rw [Except.ok.inj hr]
        obtain ⟨hpolled, hkept, hafter⟩ := runs_confirmPending hash h₆
        refine Or.inr ⟨tr₁ ++ front, tx, _, tr₄, sig, ?_, hjoin hfront, hafter, hsig,
          .reported hpolled hkept⟩
        simp only [List.append_assoc, List.singleton_append]

end Balance

/-! ## 3.  When the caller learns the signature -/

/-- A text in which the signature can be read. -/
def Mentions (sig : Signature) (text : String) : Prop :=
  (keyText sig).toList <:+: text.toList

/-- The returned value names the signature: a result as its hash, an error in a text. -/
def Carries (sig : Signature) : TradeResult SwapResult → Prop
  | .ok result => result.hash = keyText sig
  | .error (.err e) => ∃ text ∈ e.texts, Mentions sig text
  | .error .panicked => False

/-- The answers from the submission on that name the signature by themselves: an error's own
text does, or no poll failed and the submitter reported the signature. -/
def Identified (sig : Signature) (answer : Except String Signature) (after : Trace Answer) :
    Prop :=
  match answer with
  | .error text => Mentions sig text
  | .ok reported =>
      (statusErrors after = [] ∧ reported = sig) ∨ ∃ text ∈ statusErrors after, Mentions sig text

/-- A short text names no signature: each of its 64 bytes takes a character. -/
theorem not_mentions_of_length {sig : Signature} {text : String}
    (h : text.toList.length < 64) : ¬ Mentions sig text := by
  intro hmentions
  have hkey : sig.bytes.length ≤ (keyText sig).toList.length :=
    Base58.length_le_encode sig.bytes
  have htext := hmentions.length_le
  rw [show sig.bytes.length = 64 from sig.2] at hkey
  omega

/-- What follows the submission names the signature when the answers do. -/
theorem AfterSubmission.carries_iff {sig : Signature} {answer : Except String Signature}
    {after : Trace Answer} {r : TradeResult SwapResult} (h : AfterSubmission answer after r) :
    Carries sig r ↔ Identified sig answer after := by
  cases h with
  | refused text =>
    show (∃ t ∈ [text], Mentions sig t) ↔ Mentions sig text
    simp
  | @reported reported after r hpolled hkept =>
    cases r with
    | ok result =>
      have hnil : statusErrors after = [] := hpolled
      show result.hash = keyText sig ↔ _
      rw [hkept result rfl, Identified, hnil]
      constructor
      · intro hkey
        exact Or.inl ⟨rfl, keyText_injective hkey⟩
      · rintro (⟨-, rfl⟩ | ⟨text, htext, -⟩)
        · rfl
        · exact absurd htext List.not_mem_nil
    | error e =>
      obtain ⟨text, rfl, htext⟩ := hpolled
      show (∃ t ∈ ["signature status", text], Mentions sig t) ↔ _
      have hcontext : ¬ Mentions sig "signature status" := not_mentions_of_length (by decide)
      rw [Identified, htext]
      simp [hcontext]

/-- The submission of a run is the only one in its trace. -/
theorem split_unique {front front' after after' : Trace Answer}
    {tx tx' : VersionedTransaction} {answer answer' : Except String Signature}
    (hfront : ∀ e ∈ front, e.query.NotSubmit) (hafter : ∀ e ∈ after, e.query.NotSubmit)
    (h : front ++ ⟨.submit tx, answer⟩ :: after = front' ++ ⟨.submit tx', answer'⟩ :: after') :
    tx = tx' ∧ answer = answer' ∧ after = after' := by
  have hahead : (⟨.submit tx', answer'⟩ : Event Answer) ∉ front :=
    fun he => hfront _ he tx' rfl
  obtain ⟨m, -, htail⟩ := split_behind h hahead
  cases m with
  | nil =>
    obtain ⟨hevent, hafter'⟩ := List.cons.inj htail
    cases hevent
    exact ⟨rfl, rfl, hafter'⟩
  | cons e m =>
    have hbehind : (⟨.submit tx', answer'⟩ : Event Answer) ∈ after := by
      rw [(List.cons.inj htail).2]
      exact List.mem_append_right m List.mem_cons_self
    exact absurd rfl (hafter _ hbehind tx')

section Swap

variable [Sdk] [Profile]

/-- **The caller learns the signature of a submitted swap exactly when the answers name it.**
In every run that handed a transaction to the submitter, the returned value carries that
transaction's first signature if and only if the submitter reported it and no poll failed, or
the error that came back names it. -/
theorem own_signature_iff {client : TradingClient} {trade : Trade} {submitter : Submitter}
    {fee : UInt64} {tables : List AddressLookupTableAccount} {tr : Trace Answer}
    {r : TradeResult SwapResult}
    (h : (client.swapWithLookupTables trade submitter fee tables).Runs () tr r ())
    {front after : Trace Answer} {tx : VersionedTransaction} {answer : Except String Signature}
    (hsubmit : tr = front ++ ⟨.submit tx, answer⟩ :: after) :
    ∃ sig, tx.signatures.head? = some sig ∧ (Carries sig r ↔ Identified sig answer after) := by
  rcases runs_swapWithLookupTables h with hnone |
    ⟨front', tx', answer', after', sig, htr, hfront, hafter, hsig, hend⟩
  · refine absurd rfl (hnone ⟨.submit tx, answer⟩ ?_ tx)
    rw [hsubmit]
    exact List.mem_append_right front List.mem_cons_self
  · obtain ⟨rfl, rfl, rfl⟩ := split_unique hfront hafter (htr.symm.trans hsubmit)
    exact ⟨sig, hsig, hend.carries_iff⟩

end Swap

/-! ### Two runs of one swap -/

/-- The first signature of a submitted transaction. -/
def submittedSignature : Event Answer → Option Signature
  | ⟨.submit tx, _⟩ => tx.signatures.head?
  | _ => none

theorem submission_of_signature {tr : Trace Answer} {sig : Signature}
    (h : sig ∈ tr.filterMap submittedSignature) :
    ∃ front tx answer after, tr = front ++ ⟨.submit tx, answer⟩ :: after ∧
      tx.signatures.head? = some sig := by
  obtain ⟨⟨q, answer⟩, he, hsig⟩ := List.mem_filterMap.mp h
  obtain ⟨front, after, htr⟩ := List.append_of_mem he
  cases q with
  | submit tx => exact ⟨front, tx, answer, after, htr, hsig⟩
  | _ => exact nomatch hsig

/-- The relayed swap of the sample client, against a submitter that answers `answer`. -/
def swapBackend (answer : Except String Signature) (i : ℕ) (q : Query) : Answer q :=
  match q with
  | .relayQuote _ => .ok relayAnswer
  | .submit _ => answer
  | .getSignatureStatus _ => .ok (some (.ok ()))
  | q => sampleBackend i q

/-- A run that submitted a transaction with the sample signature in front. -/
def Submitted (tr : Trace Answer) : Prop :=
  sampleSignature ∈ tr.filterMap submittedSignature

instance (tr : Trace Answer) : Decidable (Submitted tr) :=
  inferInstanceAs (Decidable (_ ∈ _))

/-- The text of an error that the submitter answered. -/
def submitError : TradeResult SwapResult → Option String
  | .error (.err (.submit text)) => some text
  | _ => none

theorem eq_of_submitError {r : TradeResult SwapResult} {text : String}
    (h : submitError r = some text) : r = .error (.err (.submit text)) := by
  unfold submitError at h
  split at h
  · rw [Option.some.inj h]
  · exact nomatch h

theorem own_signature_iff_sample :
    let := sampleSdk
    let : Profile := ⟨true⟩
    ∃ tr r, (sampleClient.swapWithLookupTables relayTrade ⟨none⟩ 5000 []).Runs () tr r () ∧
      ∃ front tx answer after sig, tr = front ++ ⟨.submit tx, answer⟩ :: after ∧
        tx.signatures.head? = some sig ∧ (Carries sig r ↔ Identified sig answer after) := by
  intro sdk profile
  obtain ⟨tr, r, _, hrun, hsubmitted⟩ := Proc.runs_of_exec_prop
    (swapBackend (.ok sampleSignature)) (fun _ => 1)
    (sampleClient.swapWithLookupTables relayTrade ⟨none⟩ 5000 []) ()
    (fun tr _ => Submitted tr) (by decide +kernel)
  obtain ⟨front, tx, answer, after, htr, -⟩ := submission_of_signature hsubmitted
  obtain ⟨sig, hsig, hiff⟩ := own_signature_iff hrun htr
  exact ⟨tr, r, hrun, front, tx, answer, after, sig, htr, hsig, hiff⟩

/-- **A submitted swap whose signature is lost**: the submitter's connection breaks after the
transaction left, and the error that comes back does not name it. -/
theorem lost_signature :
    let := sampleSdk
    let : Profile := ⟨true⟩
    ∃ tr r, (sampleClient.swapWithLookupTables relayTrade ⟨none⟩ 5000 []).Runs () tr r () ∧
      ∃ front tx answer after sig, tr = front ++ ⟨.submit tx, answer⟩ :: after ∧
        tx.signatures.head? = some sig ∧ ¬ Carries sig r := by
  intro sdk profile
  obtain ⟨tr, r, _, hrun, hsubmitted, hr⟩ := Proc.runs_of_exec_prop
    (swapBackend (.error "connection reset")) (fun _ => 1)
    (sampleClient.swapWithLookupTables relayTrade ⟨none⟩ 5000 []) ()
    (fun tr r => Submitted tr ∧ submitError r = some "connection reset") (by decide +kernel)
  obtain ⟨front, tx, answer, after, htr, hsig⟩ := submission_of_signature hsubmitted
  refine ⟨tr, r, hrun, front, tx, answer, after, sampleSignature, htr, hsig, ?_⟩
  rw [eq_of_submitError hr]
  rintro ⟨text, htext, hmentions⟩
  rw [List.mem_singleton.mp htext] at hmentions
  exact not_mentions_of_length (by decide) hmentions

end Solana
end TradingAggregators
