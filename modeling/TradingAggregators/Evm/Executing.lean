import TradingAggregators.Evm.Execution

/-!
# How a run of `execute_swap` goes

* `runs_confirm`: confirming asks for one receipt only, and succeeds exactly when the node
  reports it as succeeded.
* `Rounds`: the ways in which the loop over the transactions can go, and `runs_executeEach`:
  every run of the loop is one of them.
* `HandsOn`: what a signer signed is handed to the submitter before anything else is asked.
-/

namespace TradingAggregators
namespace Evm

open Interaction Interaction.Program Rust Wire

variable {σ : Type}

/-! ## Events -/

/-- The payload of a question that hands one to the submitter. -/
def Query.submitted : Query → Option Bytes
  | .submit signed => some signed
  | _ => none

/-- A question for a receipt. -/
def Query.IsReceipt (q : Query) : Prop :=
  ∃ hash, q = .receipt hash

/-- A question for a signature. -/
def Query.IsSign : Query → Prop
  | .sign _ _ => True
  | _ => False

/-- A question that only looks something up on the node. -/
def Query.IsLookup : Query → Prop
  | .chainId | .pendingNonce _ | .estimateGas _ _ _ _ | .eip1559Fees => True
  | _ => False

/-- The payloads a run handed to the submitter, in order. -/
def payloads (tr : Trace Answer) : List Bytes :=
  tr.filterMap fun e => e.query.submitted

@[simp] theorem payloads_append (tr tr' : Trace Answer) :
    payloads (tr ++ tr') = payloads tr ++ payloads tr' :=
  List.filterMap_append

@[simp] theorem payloads_submit (signed : Bytes) (answer : Answer (.submit signed))
    (tr : Trace Answer) : payloads (⟨.submit signed, answer⟩ :: tr) = signed :: payloads tr :=
  rfl

/-- Nothing is handed to the submitter. -/
def Query.Silent (q : Query) : Prop :=
  q.submitted = none

theorem payloads_of_silent {tr : Trace Answer} (h : ∀ e ∈ tr, e.query.Silent) :
    payloads tr = [] :=
  List.filterMap_eq_nil_iff.mpr h

theorem submit_notMem {tr : Trace Answer} (h : ∀ e ∈ tr, e.query.Silent) (signed : Bytes)
    (answer : Answer (.submit signed)) : (⟨.submit signed, answer⟩ : Event Answer) ∉ tr :=
  fun hmem => nomatch (h _ hmem : some signed = none)

theorem Query.IsLookup.silent {q : Query} (h : q.IsLookup) : q.Silent := by
  cases q <;> first | rfl | exact h.elim

theorem Query.IsLookup.not_isSign {q : Query} (h : q.IsLookup) : ¬ q.IsSign := by
  cases q <;> first | exact fun hs => hs | exact h.elim

/-- What a signer signed is handed to the submitter next. -/
def HandsOn (tr : Trace Answer) : Prop :=
  ∀ before wallet unsigned answer e after,
    tr = before ++ ⟨.sign wallet unsigned, answer⟩ :: e :: after →
    ∃ signed, answer = .ok signed ∧ e.query = .submit signed

theorem HandsOn.prepend {pre tr : Trace Answer} (hpre : ∀ e ∈ pre, ¬ e.query.IsSign)
    (h : HandsOn tr) : HandsOn (pre ++ tr) := by
  intro before wallet unsigned answer e after hsplit
  obtain ⟨m, -, htr⟩ := split_behind hsplit fun hmem => hpre _ hmem trivial
  exact h m wallet unsigned answer e after htr

theorem handsOn_nil : HandsOn [] := by
  intro before wallet unsigned answer e after hsplit
  simp at hsplit

theorem handsOn_of_not_isSign {tr : Trace Answer} (h : ∀ e ∈ tr, ¬ e.query.IsSign) :
    HandsOn tr := by
  rw [← List.append_nil tr]
  exact .prepend h handsOn_nil

/-- A signature that ends a trace. -/
theorem handsOn_singleton (e : Event Answer) : HandsOn [e] := by
  intro before wallet unsigned answer e after hsplit
  have hlength := congrArg List.length hsplit
  simp at hlength
  omega

/-- A signature and the submission of what was signed. -/
theorem HandsOn.handed {wallet : Address} {unsigned : TxEip1559} {signed : Bytes}
    {answer : Answer (.submit signed)} {tr : Trace Answer} (h : HandsOn tr) :
    HandsOn (⟨.sign wallet unsigned, .ok signed⟩ :: ⟨.submit signed, answer⟩ :: tr) := by
  intro before wallet' unsigned' answer' e after hsplit
  cases before with
  | nil =>
    obtain ⟨hfirst, hrest⟩ := List.cons.inj hsplit
    obtain ⟨rfl, -⟩ := List.cons.inj hrest
    cases hfirst
    exact ⟨signed, rfl, rfl⟩
  | cons d before =>
    have hrest := (List.cons.inj hsplit).2
    have hsubmit : HandsOn ([⟨.submit signed, answer⟩] ++ tr) :=
      .prepend (fun e he hsign => by rw [List.mem_singleton.mp he] at hsign; exact hsign) h
    exact hsubmit before wallet' unsigned' answer' e after hrest

/-- The node reports that the transaction with this hash succeeded. -/
def succeeded (hash : TransactionHash) : Event Answer :=
  ⟨.receipt hash, .ok (some true)⟩

/-! ## Filling and confirming -/

/-! Filling a transaction leaves the recorded hashes alone and only looks things up. -/

variable {I : σ → Prop}

theorem maintains_request {α : Type} {q : Query} {f : Answer q → TradeResult α}
    (h : q.IsLookup) :
    Proc.Maintains I Query.IsLookup
      (ask q >>= fun response => Proc.ofResult (f response) : Task σ α) :=
  .bind (.ask h) fun _ => .ofResult _

theorem maintains_fees {transaction : Transaction} :
    Proc.Maintains I Query.IsLookup (fees transaction) := by
  unfold fees
  split
  · exact .ofResult _
  · exact .ofResult _
  · exact .bind (maintains_request trivial) fun _ => .ofResult _

section Fill

variable [Profile]

theorem maintains_gasLimit {transaction : Transaction} :
    Proc.Maintains I Query.IsLookup (gasLimit transaction) := by
  unfold gasLimit
  split
  · exact .ofResult _
  · exact .bind (maintains_request trivial) fun _ => .ofResult _

theorem maintains_fill {n : Network} {transaction : Transaction} :
    Proc.Maintains I Query.IsLookup (fill n transaction) :=
  .bind maintains_gasLimit fun _ => .bind maintains_fees fun _ =>
    .bind (maintains_request trivial) fun _ => .pure _

/-- What a filled transaction keeps of the prepared one. -/
theorem runs_fill {n : Network} {transaction : Transaction} {s s' : σ} {tr : Trace Answer}
    {unsigned : TxEip1559} (h : (fill n transaction).Runs s tr (.ok unsigned) s') :
    ∃ gasLimit fees nonce, unsigned = filled n transaction gasLimit fees nonce := by
  unfold fill at h
  obtain ⟨gasLimit, _, _, _, -, -, h₁⟩ := Proc.runs_bind_ok.mp h
  obtain ⟨fees, _, _, _, -, -, h₂⟩ := Proc.runs_bind_ok.mp h₁
  obtain ⟨nonce, _, _, _, -, -, h₃⟩ := Proc.runs_bind_ok.mp h₂
  exact ⟨gasLimit, fees, nonce, Except.ok.inj (Proc.runs_pure.mp h₃).2.1⟩

end Fill

theorem runs_receiptStatus {hash : TransactionHash} {s s' : σ} {tr : Trace Answer}
    {r : TradeResult Node.ReceiptStatus} (h : (Node.receiptStatus hash).Runs s tr r s') :
    s' = s ∧ ∃ response, tr = [⟨.receipt hash, response⟩] ∧
      r = (Node.rpcResult "eth_getTransactionReceipt" response).map Node.statusOf := by
  unfold Node.receiptStatus at h
  obtain ⟨response, tr', rfl, h₁⟩ := Proc.runs_ask_bind.mp h
  rcases Proc.runs_ofResult_bind.mp h₁ with ⟨e, he, rfl, hr, hs⟩ | ⟨receipt, hok, h₂⟩
  · exact ⟨hs, response, rfl, by rw [hr, he]; rfl⟩
  · obtain ⟨rfl, hr, hs⟩ := Proc.runs_pure.mp h₂
    exact ⟨hs, response, rfl, by rw [hr, hok]; rfl⟩

/-- Polling asks for one receipt only, and succeeds when that receipt is a success. -/
theorem runs_poll {hash : TransactionHash} {rounds : ℕ} {s s' : σ} {tr : Trace Answer}
    {r : TradeResult Unit} (h : (poll hash rounds).Runs s tr r s') :
    s' = s ∧ (∀ e ∈ tr, e.query = .receipt hash) ∧ (r = .ok () ↔ succeeded hash ∈ tr) := by
  induction rounds generalizing tr with
  | zero =>
    obtain ⟨rfl, rfl, rfl⟩ := Proc.runs_throw.mp h
    exact ⟨rfl, by simp, by simp⟩
  | succ rounds ih =>
    unfold poll at h
    rcases Proc.runs_bind.mp h with ⟨e, rfl, h₁⟩ | ⟨status, s₁, tr₁, tr₂, rfl, h₁, h₂⟩
    · obtain ⟨hs, response, rfl, hr⟩ := runs_receiptStatus h₁
      refine ⟨hs, by simp, ?_⟩
      cases response with
      | error text => simp [succeeded]
      | ok receipt => exact nomatch hr
    · obtain ⟨rfl, response, rfl, hr⟩ := runs_receiptStatus h₁
      cases response with
      | error text => exact nomatch hr
      | ok receipt =>
        have hstatus : status = Node.statusOf receipt := Except.ok.inj hr
        subst hstatus
        rcases receipt with _ | _ | _
        · obtain ⟨hs, hall, hiff⟩ := ih h₂
          refine ⟨hs, by simpa using hall, ?_⟩
          rw [hiff]
          simp [succeeded]
        · obtain ⟨rfl, rfl, rfl⟩ := Proc.runs_throw.mp h₂
          exact ⟨rfl, by simp, by simp [succeeded]⟩
        · obtain ⟨rfl, rfl, rfl⟩ := Proc.runs_pure.mp h₂
          exact ⟨rfl, by simp, by simp [succeeded]⟩

theorem runs_confirm {client : Client} {hash : TransactionHash} {s s' : σ} {tr : Trace Answer}
    {r : TradeResult Unit} (h : (confirm client hash).Runs s tr r s') :
    s' = s ∧ (∀ e ∈ tr, e.query = .receipt hash) ∧ (r = .ok () ↔ succeeded hash ∈ tr) := by
  unfold confirm at h
  rcases Proc.runs_bind.mp h with ⟨e, -, h₁⟩ | ⟨rounds, s₁, tr₁, tr₂, rfl, h₁, h₂⟩
  · obtain ⟨a, -, hr, -⟩ := Proc.runs_perform.mp h₁
    exact nomatch hr
  · obtain ⟨a, ⟨m, rfl, -⟩, -, rfl⟩ := Proc.runs_perform.mp h₁
    exact runs_poll h₂

/-! ## The rounds of the loop -/

section Rounds

variable [Alloy] [Profile]

/-- What a round asks before it calls the submitter: its age test passes, the transaction is
filled, and what the signer returned is a signed form of it. -/
structure Signs (n : Network) (prepared : PreparedSwap) (transaction : Transaction)
    (tr : Trace Answer) (signed : Bytes) (hash : TransactionHash) : Prop where
  form : ∃ now filling unsigned submitted,
    tr = ⟨.instant, now⟩ :: (filling ++ [⟨.sign prepared.wallet unsigned, .ok signed⟩]) ∧
    elapsed now prepared.createdAt < maxQuoteAge ∧ (∀ e ∈ filling, e.query.IsLookup) ∧
    (fill n transaction : Task (List TransactionHash) _).Runs submitted filling (.ok unsigned)
      submitted ∧
    SignedForm unsigned prepared.wallet signed hash

theorem Signs.silent {n : Network} {prepared : PreparedSwap} {transaction : Transaction}
    {tr : Trace Answer} {signed : Bytes} {hash : TransactionHash}
    (h : Signs n prepared transaction tr signed hash) : ∀ e ∈ tr, e.query.Silent := by
  obtain ⟨now, filling, unsigned, _, rfl, -, hlookups, -, -⟩ := h.form
  intro e he
  rcases List.mem_cons.mp he with rfl | he
  · rfl
  rcases List.mem_append.mp he with he | he
  · exact (hlookups e he).silent
  · rw [List.mem_singleton.mp he]
    rfl

/-- A round that reaches the submitter hands on what was signed, and nothing else. -/
theorem Signs.handsOn {n : Network} {prepared : PreparedSwap} {transaction : Transaction}
    {signing tr : Trace Answer} {signed : Bytes} {hash : TransactionHash}
    {answer : Answer (.submit signed)} (h : Signs n prepared transaction signing signed hash)
    (htr : HandsOn tr) : HandsOn (signing ++ ⟨.submit signed, answer⟩ :: tr) := by
  obtain ⟨now, filling, unsigned, _, rfl, -, hlookups, -, -⟩ := h.form
  have hplain : ∀ e ∈ (⟨.instant, now⟩ : Event Answer) :: filling, ¬ e.query.IsSign := by
    intro e he
    rcases List.mem_cons.mp he with rfl | he
    · exact fun hsign => hsign
    · exact (hlookups e he).not_isSign
  rw [List.cons_append, List.append_assoc, List.singleton_append, ← List.cons_append]
  exact .prepend hplain htr.handed

/-- What a submission has to bring for the loop to go on: the submitter reports the hash of the
payload, and the node reports its success. -/
def Lands (hash : TransactionHash) (answer : Except String TransactionHash)
    (polls : Trace Answer) : Prop :=
  answer = .ok hash ∧ succeeded hash ∈ polls

omit [Alloy] [Profile] in
/-- After the submitter's answer only receipts of the hash are asked for, and the round succeeds
exactly when the payload lands. -/
theorem runs_landing {client : Client} {hash : TransactionHash}
    {answer : Except String TransactionHash} {failed : String → Fault TradeError}
    {mismatch : TransactionHash → Fault TradeError} {s s' : σ} {tr : Trace Answer}
    {r : TradeResult Unit}
    (h : (Proc.ofResult (answer.mapError failed) >>= fun reported =>
      Proc.failIf (reported ≠ hash) (mismatch reported) >>= fun _ =>
        (confirm client hash : Task σ Unit)).Runs s tr r s') :
    s' = s ∧ (∀ e ∈ tr, e.query = .receipt hash) ∧ (r = .ok () ↔ Lands hash answer tr) := by
  cases answer with
  | error text =>
    rcases Proc.runs_ofResult_bind.mp h with ⟨e, -, rfl, hr, hs⟩ | ⟨reported, hreported, -⟩
    · exact ⟨hs, by simp, by simp [hr, Lands]⟩
    · exact nomatch hreported
  | ok reported =>
    rcases Proc.runs_ofResult_bind.mp h with ⟨e, he, -⟩ | ⟨reported', hreported, h₁⟩
    · exact nomatch he
    obtain rfl : reported = reported' := Except.ok.inj hreported
    rcases Proc.runs_failIf_bind.mp h₁ with ⟨hne, rfl, hr, hs⟩ | ⟨heq, h₂⟩
    · exact ⟨hs, by simp, by simp [hr, Lands]⟩
    · have hsame : reported = hash := not_not.mp heq
      obtain ⟨hs, hpolls, hiff⟩ := runs_confirm h₂
      refine ⟨hs, hpolls, ?_⟩
      rw [hiff, Lands, hsame]
      simp

/-- A round fails before it calls the submitter, or it hands one signed payload over, asks for
no receipt but that payload's, and succeeds exactly when the payload lands. -/
theorem runs_executeTransaction {n : Network} {client : Client} {prepared : PreparedSwap}
    {transaction : Transaction} {submitted submitted' : List TransactionHash}
    {tr : Trace Answer} {r : TradeResult Unit}
    (h : (executeTransaction n client prepared transaction).Runs submitted tr r submitted') :
    (submitted' = submitted ∧ (∃ e, r = .error e) ∧ (∀ e ∈ tr, e.query.Silent) ∧ HandsOn tr) ∨
    ∃ signing signed hash answer polls, submitted' = submitted ++ [hash] ∧
      tr = signing ++ ⟨.submit signed, answer⟩ :: polls ∧
      Signs n prepared transaction signing signed hash ∧
      (∀ e ∈ polls, e.query = .receipt hash) ∧ (r = .ok () ↔ Lands hash answer polls) := by
  unfold executeTransaction at h
  obtain ⟨now, _, rfl, h₁⟩ := Proc.runs_ask_bind.mp h
  have hnow : (⟨.instant, now⟩ : Event Answer).query.Silent := rfl
  have hplain : ∀ {filling : Trace Answer}, (∀ e ∈ filling, e.query.IsLookup) →
      ∀ e ∈ (⟨.instant, now⟩ : Event Answer) :: filling, ¬ e.query.IsSign := by
    intro filling hlookups e he
    rcases List.mem_cons.mp he with rfl | he
    · exact fun hsign => hsign
    · exact (hlookups e he).not_isSign
  rcases Proc.runs_failIf_bind.mp h₁ with ⟨-, rfl, hr, hs⟩ | ⟨hage, h₂⟩
  · exact Or.inl ⟨hs, ⟨_, hr⟩, by simpa using hnow, handsOn_singleton _⟩
  rcases Proc.runs_bind.mp h₂ with ⟨e, hr, h₃⟩ | ⟨unsigned, s₁, filling, _, rfl, hfill, h₃⟩
  · obtain ⟨hs, hlookups⟩ := maintains_fill (I := (· = submitted)) _ _ _ _ rfl h₃
    exact Or.inl ⟨hs, ⟨e, hr⟩, List.forall_mem_cons.mpr
      ⟨hnow, fun e he => (hlookups e he).silent⟩, handsOn_of_not_isSign (hplain hlookups)⟩
  obtain ⟨rfl, hlookups⟩ := maintains_fill (I := (· = submitted)) _ _ _ _ rfl hfill
  obtain ⟨response, _, rfl, h₄⟩ := Proc.runs_ask_bind.mp h₃
  have hbefore : ∀ e ∈ (⟨.instant, now⟩ : Event Answer) ::
      (filling ++ [⟨.sign prepared.wallet unsigned, response⟩]), e.query.Silent := by
    intro e he
    rcases List.mem_cons.mp he with rfl | he
    · exact hnow
    rcases List.mem_append.mp he with he | he
    · exact (hlookups e he).silent
    · rw [List.mem_singleton.mp he]
      rfl
  have hunsent : HandsOn (((⟨.instant, now⟩ : Event Answer) :: filling) ++
      [⟨.sign prepared.wallet unsigned, response⟩]) :=
    .prepend (hplain hlookups) (handsOn_singleton _)
  rcases Proc.runs_ofResult_bind.mp h₄ with ⟨e, -, rfl, hr, hs⟩ | ⟨signed, hsigned, h₅⟩
  · exact Or.inl ⟨hs, ⟨e, hr⟩, hbefore, hunsent⟩
  rcases Proc.runs_ofResult_bind.mp h₅ with ⟨e, -, rfl, hr, hs⟩ | ⟨hash, hverified, h₆⟩
  · exact Or.inl ⟨hs, ⟨e, hr⟩, hbefore, hunsent⟩
  have hresponse : response = .ok signed := mapError_eq_ok.mp hsigned
  subst hresponse
  rw [Proc.runs_update_bind] at h₆
  obtain ⟨answer, polls, rfl, h₇⟩ := Proc.runs_ask_bind.mp h₆
  have hsigns : Signs n prepared transaction (⟨.instant, now⟩ ::
      (filling ++ [⟨.sign prepared.wallet unsigned, .ok signed⟩])) signed hash :=
    ⟨now, filling, unsigned, _, rfl, Nat.lt_of_not_le hage, hlookups, hfill,
      verifySigned_eq_ok hverified⟩
  refine Or.inr ⟨⟨.instant, now⟩ :: (filling ++ [⟨.sign prepared.wallet unsigned, .ok signed⟩]),
    signed, hash, answer, polls, ?_⟩
  obtain ⟨hs, hpolls, hiff⟩ := runs_landing h₇
  exact ⟨hs, by simp, hsigns, hpolls, hiff⟩

/-- **How the loop over the transactions can go**: the trace, the hashes it records and the
result. -/
inductive Rounds (n : Network) (prepared : PreparedSwap) :
    List Transaction → Trace Answer → List TransactionHash → TradeResult Unit → Prop where
  /-- No transaction is left. -/
  | done : Rounds n prepared [] [] [] (.ok ())
  /-- The round fails before the submitter is called. -/
  | stopped {transaction : Transaction} {transactions : List Transaction} {tr : Trace Answer}
      {e : Fault TradeError} :
      (∀ ev ∈ tr, ev.query.Silent) → HandsOn tr →
      Rounds n prepared (transaction :: transactions) tr [] (.error e)
  /-- The round fails after the submitter was called. -/
  | failed {transaction : Transaction} {transactions : List Transaction}
      {signing polls : Trace Answer} {signed : Bytes} {hash : TransactionHash}
      {answer : Answer (.submit signed)} {e : Fault TradeError} :
      Signs n prepared transaction signing signed hash →
      (∀ ev ∈ polls, ev.query = .receipt hash) → ¬ Lands hash answer polls →
      Rounds n prepared (transaction :: transactions)
        (signing ++ ⟨.submit signed, answer⟩ :: polls) [hash] (.error e)
  /-- The round succeeds, and the next one begins. -/
  | next {transaction : Transaction} {transactions : List Transaction}
      {signing polls tr : Trace Answer} {signed : Bytes} {hash : TransactionHash}
      {answer : Answer (.submit signed)} {hashes : List TransactionHash}
      {r : TradeResult Unit} :
      Signs n prepared transaction signing signed hash →
      (∀ ev ∈ polls, ev.query = .receipt hash) → Lands hash answer polls →
      Rounds n prepared transactions tr hashes r →
      Rounds n prepared (transaction :: transactions)
        (signing ++ ⟨.submit signed, answer⟩ :: (polls ++ tr)) (hash :: hashes) r

/-- Every run of the loop goes this way. -/
theorem runs_executeEach {n : Network} {client : Client} {prepared : PreparedSwap}
    {transactions : List Transaction} {submitted submitted' : List TransactionHash}
    {tr : Trace Answer} {r : TradeResult Unit}
    (h : (executeEach n client prepared transactions).Runs submitted tr r submitted') :
    ∃ hashes, submitted' = submitted ++ hashes ∧
      Rounds n prepared transactions tr hashes r := by
  induction transactions generalizing submitted tr with
  | nil =>
    obtain ⟨rfl, rfl, rfl⟩ := Proc.runs_pure.mp h
    exact ⟨[], (List.append_nil _).symm, .done⟩
  | cons transaction transactions ih =>
    unfold executeEach at h
    rcases Proc.runs_bind.mp h with ⟨e, rfl, h₁⟩ | ⟨u, s₁, tr₁, tr₂, rfl, h₁, h₂⟩
    · rcases runs_executeTransaction h₁ with
        ⟨hs, -, hsilent, hunsent⟩ |
        ⟨signing, signed, hash, answer, polls, hs, rfl, hsigns, hpolls, hiff⟩
      · exact ⟨[], by rw [hs, List.append_nil], .stopped hsilent hunsent⟩
      · have hlands : ¬ Lands hash answer polls := fun hl => nomatch hiff.mpr hl
        exact ⟨[hash], hs, .failed hsigns hpolls hlands⟩
    · rcases runs_executeTransaction h₁ with
        ⟨-, ⟨e, he⟩, -⟩ | ⟨signing, signed, hash, answer, polls, rfl, rfl, hsigns, hpolls, hiff⟩
      · exact nomatch he
      · obtain ⟨hashes, rfl, hrounds⟩ := ih h₂
        refine ⟨hash :: hashes, by simp, ?_⟩
        rw [List.append_assoc, List.cons_append]
        exact .next hsigns hpolls (hiff.mp rfl) hrounds

end Rounds
end Evm
end TradingAggregators
