import TradingAggregators.Evm.Executing

/-!
# What `execute_swap` guarantees

* `Confirmed`: a submission was reported under its own hash and its receipt is a success.
* `Carries`: a payload is a signed form of a prepared transaction.  `InTurn`: it was filled and
  signed where its turn was, behind the confirmation of every payload before it.
* `SafeRun`: the guarantees of one run, and `execution_safe`: every run has them, whatever
  the node, the signer and the submitter answer.
-/

namespace TradingAggregators
namespace Evm

open Interaction Interaction.Program Rust Wire

/-! ## Submissions -/

/-- Receipts hand nothing to the submitter. -/
theorem silent_of_receipts {polls : Trace Answer} {hash : TransactionHash}
    (h : ∀ e ∈ polls, e.query = .receipt hash) : ∀ e ∈ polls, e.query.Silent := by
  intro e he
  rw [h e he]
  rfl

/-- A question that is no receipt stands behind the receipts of a round. -/
theorem split_behind_receipts {polls tr between after : Trace Answer} {e : Event Answer}
    {hash : TransactionHash} (hpolls : ∀ ev ∈ polls, ev.query = .receipt hash)
    (hsplit : polls ++ tr = between ++ e :: after) (hne : ¬ e.query.IsReceipt) :
    ∃ m, between = polls ++ m ∧ tr = m ++ e :: after :=
  split_behind hsplit fun hmem => hne ⟨hash, hpolls e hmem⟩

section Guarantees

variable [Alloy]

/-- The submitter reported the hash of the payload, and behind that the node reported the
payload's success. -/
def Confirmed (signed : Bytes) (answer : Except String TransactionHash) (after : Trace Answer) :
    Prop :=
  ∃ hash, payloadHash signed = some hash ∧ answer = .ok hash ∧ succeeded hash ∈ after

theorem Confirmed.append {signed : Bytes} {answer : Except String TransactionHash}
    {after : Trace Answer} (h : Confirmed signed answer after) (tr : Trace Answer) :
    Confirmed signed answer (after ++ tr) := by
  obtain ⟨hash, hhash, hanswer, hmem⟩ := h
  exact ⟨hash, hhash, hanswer, List.mem_append_left _ hmem⟩

/-- Every submission of the run was confirmed behind it. -/
def AllConfirmed (tr : Trace Answer) : Prop :=
  ∀ before signed answer after, tr = before ++ ⟨.submit signed, answer⟩ :: after →
    Confirmed signed answer after

/-- After a submission nothing but receipts is asked until it is confirmed. -/
def Ordered (tr : Trace Answer) : Prop :=
  ∀ before signed answer between e after,
    tr = before ++ ⟨.submit signed, answer⟩ :: (between ++ e :: after) →
    ¬ e.query.IsReceipt → Confirmed signed answer between

theorem Ordered.prepend {pre tr : Trace Answer} (hpre : ∀ e ∈ pre, e.query.Silent)
    (h : Ordered tr) : Ordered (pre ++ tr) := by
  intro before signed answer between e after hsplit hne
  obtain ⟨m, -, htr⟩ := split_behind hsplit (submit_notMem hpre signed answer)
  exact h m signed answer between e after htr hne

theorem allConfirmed_prepend {pre tr : Trace Answer} (hpre : ∀ e ∈ pre, e.query.Silent) :
    AllConfirmed (pre ++ tr) ↔ AllConfirmed tr := by
  constructor
  · intro h before signed answer after hsplit
    exact h (pre ++ before) signed answer after (by rw [hsplit, List.append_assoc])
  · intro h before signed answer after hsplit
    obtain ⟨m, -, htr⟩ := split_behind hsplit (submit_notMem hpre signed answer)
    exact h m signed answer after htr

variable [Profile]

/-- The payload decodes, with nothing behind it, to exactly the transaction that was filled
from the prepared one, and its signer is the wallet. -/
structure Carries (prepared : PreparedSwap) (transaction : Transaction) (unsigned : TxEip1559)
    (signed : Bytes) : Prop where
  decodes : ∃ decoded, Alloy.eip2718Decode signed = .ok (decoded, []) ∧ decoded.tx = unsigned ∧
    Alloy.recoverSigner decoded = .ok prepared.wallet
  target : unsigned.target = .call transaction.target
  value : unsigned.value = transaction.value
  input : unsigned.input = transaction.data
  chainId : unsigned.chainId = transaction.chainId

/-- The `k`-th payload is submitted right behind the signing and the filling of its transaction,
and these stand behind the confirmation of every payload before it. -/
def InTurn (n : Network) (prepared : PreparedSwap) (tr : Trace Answer) (k : ℕ)
    (transaction : Transaction) (signed : Bytes) : Prop :=
  ∃ earlier filling unsigned answer after submitted,
    tr = earlier ++ (filling ++
      ⟨.sign prepared.wallet unsigned, .ok signed⟩ :: ⟨.submit signed, answer⟩ :: after) ∧
    (payloads earlier).length = k ∧ AllConfirmed earlier ∧
    (fill n transaction : Task (List TransactionHash) _).Runs submitted filling (.ok unsigned)
      submitted ∧
    Carries prepared transaction unsigned signed

/-- Behind a confirmed beginning every turn comes that much later. -/
theorem InTurn.behind {n : Network} {prepared : PreparedSwap} {front tr : Trace Answer} {k : ℕ}
    {transaction : Transaction} {signed : Bytes}
    (hfront : ∀ earlier, AllConfirmed earlier → AllConfirmed (front ++ earlier))
    (h : InTurn n prepared tr k transaction signed) :
    InTurn n prepared (front ++ tr) ((payloads front).length + k) transaction signed := by
  obtain ⟨earlier, filling, unsigned, answer, after, submitted, rfl, rfl, hearlier, hrest⟩ := h
  refine ⟨front ++ earlier, filling, unsigned, answer, after, submitted, ?_, ?_,
    hfront earlier hearlier, hrest⟩
  · rw [List.append_assoc]
  · rw [payloads_append, List.length_append]

theorem Signs.inTurn {n : Network} {prepared : PreparedSwap} {transaction : Transaction}
    {signing after : Trace Answer} {signed : Bytes} {hash : TransactionHash}
    {answer : Answer (.submit signed)} (h : Signs n prepared transaction signing signed hash)
    (hchain : transaction.chainId = n.chainId) :
    InTurn n prepared (signing ++ ⟨.submit signed, answer⟩ :: after) 0 transaction signed := by
  obtain ⟨now, filling, unsigned, submitted, rfl, -, -, hfill, hform⟩ := h.form
  obtain ⟨decoded, hdecode, htx, hsigner, -⟩ := hform.decodes
  obtain ⟨gasLimit, fees, nonce, hfilled⟩ := runs_fill hfill
  refine ⟨[⟨.instant, now⟩], filling, unsigned, answer, after, submitted, by simp, rfl, ?_, hfill,
    ⟨decoded, hdecode, htx, hsigner⟩, ?_, ?_, ?_, ?_⟩
  · intro before signed' answer' after' hsplit
    have hlength := congrArg List.length hsplit
    cases before with
    | nil => cases (List.cons.inj hsplit).1
    | cons d before => simp at hlength
  all_goals rw [hfilled]
  · rfl
  · rfl
  · rfl
  · rw [hchain]
    rfl

theorem Signs.payloadHash_eq {n : Network} {prepared : PreparedSwap} {transaction : Transaction}
    {signing : Trace Answer} {signed : Bytes} {hash : TransactionHash}
    (h : Signs n prepared transaction signing signed hash) : payloadHash signed = some hash := by
  obtain ⟨_, _, _, _, -, -, -, -, hform⟩ := h.form
  exact hform.payloadHash_eq

/-- A round that lands leaves every submission confirmed that was. -/
theorem allConfirmed_round {n : Network} {prepared : PreparedSwap} {transaction : Transaction}
    {signing polls tr : Trace Answer} {signed : Bytes} {hash : TransactionHash}
    {answer : Answer (.submit signed)} (hsigns : Signs n prepared transaction signing signed hash)
    (hpolls : ∀ e ∈ polls, e.query = .receipt hash) (hlands : Lands hash answer polls) :
    AllConfirmed (signing ++ ⟨.submit signed, answer⟩ :: (polls ++ tr)) ↔ AllConfirmed tr := by
  have hsilent := silent_of_receipts hpolls
  rw [allConfirmed_prepend hsigns.silent]
  constructor
  · intro hconf before signed' answer' after hsplit
    exact hconf (⟨.submit signed, answer⟩ :: (polls ++ before)) signed' answer' after
      (by simp [hsplit])
  · intro hconf before signed' answer' after hsplit
    cases before with
    | nil =>
      obtain ⟨hfirst, rfl⟩ := List.cons.inj hsplit
      cases hfirst
      refine Confirmed.append ?_ tr
      exact ⟨hash, hsigns.payloadHash_eq, hlands.1, hlands.2⟩
    | cons d before =>
      obtain ⟨-, hrest⟩ := List.cons.inj hsplit
      obtain ⟨m, -, htr⟩ := split_behind hrest (submit_notMem hsilent signed' answer')
      exact hconf m signed' answer' after htr

/-! ## The guarantees of the loop -/

section Loop

variable {n : Network} {prepared : PreparedSwap} {transactions : List Transaction}
  {tr : Trace Answer} {hashes : List TransactionHash} {r : TradeResult Unit}

/-- The payloads are, in order and each in its turn, for a prefix of the transactions. -/
theorem Rounds.carries (h : Rounds n prepared transactions tr hashes r)
    (hchain : ∀ t ∈ transactions, t.chainId = n.chainId) (k : ℕ) (signed : Bytes)
    (hk : (payloads tr)[k]? = some signed) :
    ∃ transaction, transactions[k]? = some transaction ∧
      InTurn n prepared tr k transaction signed := by
  induction h generalizing k with
  | done => simp [payloads] at hk
  | stopped hsilent =>
    rw [payloads_of_silent hsilent] at hk
    simp at hk
  | failed hsigns hpolls _ =>
    rw [payloads_append, payloads_of_silent hsigns.silent, payloads_submit,
      payloads_of_silent (silent_of_receipts hpolls), List.nil_append] at hk
    cases k with
    | zero =>
      cases hk
      exact ⟨_, rfl, hsigns.inTurn (hchain _ List.mem_cons_self)⟩
    | succ k => simp at hk
  | @next transaction transactions signing polls tr signed' hash answer hashes r hsigns hpolls
      hlands _ ih =>
    have hround : payloads (signing ++ ⟨.submit signed', answer⟩ :: polls) = [signed'] := by
      rw [payloads_append, payloads_of_silent hsigns.silent, payloads_submit,
        payloads_of_silent (silent_of_receipts hpolls), List.nil_append]
    have hassoc : ∀ tr : Trace Answer,
        signing ++ ⟨.submit signed', answer⟩ :: (polls ++ tr) =
          signing ++ ⟨.submit signed', answer⟩ :: polls ++ tr := by simp
    rw [hassoc, payloads_append, hround, List.singleton_append] at hk
    cases k with
    | zero =>
      cases hk
      exact ⟨_, rfl, hsigns.inTurn (hchain _ List.mem_cons_self)⟩
    | succ k =>
      obtain ⟨t, ht, hturn⟩ := ih (fun t ht => hchain t (List.mem_cons_of_mem _ ht)) k hk
      refine ⟨t, ht, ?_⟩
      have hlater := hturn.behind fun earlier hearlier =>
        hassoc earlier ▸ (allConfirmed_round hsigns hpolls hlands).mpr hearlier
      rw [hround] at hlater
      rw [hassoc, Nat.add_comm k 1]
      exact hlater

/-- What a signer signed is handed on at once. -/
theorem Rounds.handsOn (h : Rounds n prepared transactions tr hashes r) : HandsOn tr := by
  have hreceipts : ∀ {polls : Trace Answer} {hash : TransactionHash},
      (∀ e ∈ polls, e.query = .receipt hash) → ∀ e ∈ polls, ¬ e.query.IsSign := by
    intro polls hash hpolls e he hsign
    rw [hpolls e he] at hsign
    exact hsign
  induction h with
  | done => exact handsOn_nil
  | stopped _ hunsent => exact hunsent
  | failed hsigns hpolls _ => exact hsigns.handsOn (handsOn_of_not_isSign (hreceipts hpolls))
  | next hsigns hpolls _ _ ih => exact hsigns.handsOn (.prepend (hreceipts hpolls) ih)

/-- The recorded hashes are those of the payloads. -/
theorem Rounds.hashes_eq (h : Rounds n prepared transactions tr hashes r) :
    hashes.map some = (payloads tr).map payloadHash := by
  induction h with
  | done => rfl
  | stopped hsilent =>
    rw [payloads_of_silent hsilent]
    rfl
  | failed hsigns hpolls _ =>
    rw [payloads_append, payloads_of_silent hsigns.silent, payloads_submit,
      payloads_of_silent (silent_of_receipts hpolls)]
    simp [hsigns.payloadHash_eq]
  | next hsigns hpolls _ _ ih =>
    rw [payloads_append, payloads_of_silent hsigns.silent, payloads_submit, payloads_append,
      payloads_of_silent (silent_of_receipts hpolls)]
    simp [hsigns.payloadHash_eq, ih]

theorem Rounds.ordered (h : Rounds n prepared transactions tr hashes r) : Ordered tr := by
  induction h with
  | done =>
    intro before signed answer between e after hsplit
    simp at hsplit
  | stopped hsilent =>
    intro before signed answer between e after hsplit
    refine absurd ?_ (submit_notMem hsilent signed answer)
    rw [hsplit]
    simp
  | @failed transaction transactions signing polls signed hash answer e hsigns hpolls hlands =>
    refine Ordered.prepend hsigns.silent ?_
    intro before signed' answer' between e after hsplit hne
    cases before with
    | nil =>
      obtain ⟨-, hrest⟩ := List.cons.inj hsplit
      have hmem : e ∈ polls := by
        rw [hrest]
        simp
      exact absurd ⟨hash, hpolls e hmem⟩ hne
    | cons d before =>
      obtain ⟨-, hrest⟩ := List.cons.inj hsplit
      refine absurd ?_ (submit_notMem (silent_of_receipts hpolls) signed' answer')
      rw [hrest]
      simp
  | @next transaction transactions signing polls tr signed hash answer hashes r hsigns hpolls
      hlands _ ih =>
    refine Ordered.prepend hsigns.silent ?_
    intro before signed' answer' between e after hsplit hne
    cases before with
    | nil =>
      obtain ⟨hfirst, hrest⟩ := List.cons.inj hsplit
      obtain ⟨m, rfl, -⟩ := split_behind_receipts hpolls hrest hne
      cases hfirst
      refine Confirmed.append ?_ m
      exact ⟨hash, hsigns.payloadHash_eq, hlands.1, hlands.2⟩
    | cons d before =>
      obtain ⟨-, hrest⟩ := List.cons.inj hsplit
      have hsilent := silent_of_receipts hpolls
      obtain ⟨m, -, htr⟩ := split_behind hrest (submit_notMem hsilent signed' answer')
      exact ih m signed' answer' between e after htr hne

/-- The loop succeeds when every transaction was submitted and confirmed, and only then. -/
theorem Rounds.ok_iff (h : Rounds n prepared transactions tr hashes r) :
    r = .ok () ↔ (payloads tr).length = transactions.length ∧ AllConfirmed tr := by
  induction h with
  | done =>
    refine ⟨fun _ => ⟨rfl, ?_⟩, fun _ => rfl⟩
    intro before signed answer after hsplit
    simp at hsplit
  | stopped hsilent =>
    rw [payloads_of_silent hsilent]
    simp
  | @failed transaction transactions signing polls signed hash answer e hsigns hpolls hlands =>
    constructor
    · intro hr
      exact nomatch hr
    · rintro ⟨-, hall⟩
      obtain ⟨hash', hhash, hanswer, hmem⟩ := hall signing signed answer polls rfl
      rw [hsigns.payloadHash_eq] at hhash
      cases hhash
      exact absurd ⟨hanswer, hmem⟩ hlands
  | @next transaction transactions signing polls tr signed hash answer hashes r hsigns hpolls
      hlands _ ih =>
    have hsilent := silent_of_receipts hpolls
    have hlength : (payloads (signing ++ ⟨.submit signed, answer⟩ :: (polls ++ tr))).length =
        (payloads tr).length + 1 := by
      rw [payloads_append, payloads_of_silent hsigns.silent, payloads_submit, payloads_append,
        payloads_of_silent hsilent]
      simp
    have hall : AllConfirmed (signing ++ ⟨.submit signed, answer⟩ :: (polls ++ tr)) ↔
        AllConfirmed tr := allConfirmed_round hsigns hpolls hlands
    rw [ih, hlength, hall, List.length_cons, Nat.add_right_cancel_iff]

/-- Every submission but the last one succeeded. -/
theorem Rounds.dropLast_succeeded (h : Rounds n prepared transactions tr hashes r) :
    ∀ hash ∈ hashes.dropLast, succeeded hash ∈ tr := by
  induction h with
  | done => simp
  | stopped _ => simp
  | failed _ _ _ => simp
  | @next transaction transactions signing polls tr signed hash answer hashes r hsigns hpolls
      hlands _ ih =>
    intro hash' hmem
    cases hashes with
    | nil => simp at hmem
    | cons h hs =>
      rcases List.mem_cons.mp hmem with rfl | hmem
      · have hpoll := hlands.2
        simp [hpoll]
      · have htr := ih hash' hmem
        simp [htr]

end Loop

/-! ## The guarantees of a run -/

/-- Before the loop the node's chain is asked for; nothing else happens unless both chains
agree. -/
theorem runs_executeTransactions {n : Network} {client : Client} {prepared : PreparedSwap}
    {hashes : List TransactionHash} {tr : Trace Answer} {r : TradeResult Unit}
    (h : (executeTransactions n client prepared).Runs [] tr r hashes) :
    ∃ pre rest, tr = pre ++ rest ∧ (∀ e ∈ pre, e.query.IsLookup) ∧
      Rounds n prepared prepared.transactions rest hashes r ∧
      (payloads rest ≠ [] → prepared.quote.chainId = n.chainId) := by
  have hstopped : ∀ {tr : Trace Answer} {e : Fault TradeError},
      (∀ ev ∈ tr, ev.query.IsLookup) →
      Rounds n prepared prepared.transactions tr [] (.error e) := by
    intro tr e hlookups
    cases htransactions : prepared.transactions with
    | nil => exact absurd htransactions prepared.nonempty
    | cons transaction transactions =>
      exact .stopped (fun ev hev => (hlookups ev hev).silent)
        (handsOn_of_not_isSign fun ev hev => (hlookups ev hev).not_isSign)
  unfold executeTransactions at h
  rcases Proc.runs_failIf_bind.mp h with ⟨-, rfl, rfl, rfl⟩ | ⟨hchain, h₁⟩
  · exact ⟨[], [], rfl, by simp, hstopped (by simp), fun hne => absurd rfl hne⟩
  have hnode : Proc.Maintains (· = ([] : List TransactionHash)) Query.IsLookup
      (checkNodeChain n) :=
    .bind (maintains_request trivial) fun _ => .failIf _ _
  rcases Proc.runs_bind.mp h₁ with ⟨e, rfl, h₂⟩ | ⟨u, s₁, pre, rest, rfl, h₂, h₃⟩
  · obtain ⟨rfl, hlookups⟩ := hnode _ _ _ _ rfl h₂
    refine ⟨[], tr, rfl, by simp, hstopped hlookups, fun hne => ?_⟩
    exact absurd (payloads_of_silent fun ev hev => (hlookups ev hev).silent) hne
  · obtain ⟨rfl, hlookups⟩ := hnode _ _ _ _ rfl h₂
    obtain ⟨hashes', rfl, hrounds⟩ := runs_executeEach h₃
    exact ⟨pre, rest, rfl, hlookups, hrounds, fun _ => not_not.mp hchain⟩

/-- **What a run of `execute_swap` guarantees.** -/
structure SafeRun (n : Network) (prepared : PreparedSwap) (tr : Trace Answer)
    (r : Result SwapError SwapResult) : Prop where
  /-- What was handed to the submitter is, in order and once each, for a prefix of the
  prepared transactions, and it was filled and signed where its turn was. -/
  carries : ∀ k signed, (payloads tr)[k]? = some signed →
    ∃ transaction, prepared.transactions[k]? = some transaction ∧
      InTurn n prepared tr k transaction signed
  /-- No signature is kept for later. -/
  handsOn : HandsOn tr
  /-- Behind a submission nothing but receipts is asked until it is confirmed. -/
  ordered : Ordered tr
  result_hashes : ∀ result, r = .ok result → result.quote = prepared.quote ∧
    result.transactionHashes.map some = (payloads tr).map payloadHash
  error_hashes : ∀ error, r = .error (.err error) →
    error.submitted.map some = (payloads tr).map payloadHash
  ok_iff : (∃ result, r = .ok result) ↔
    (payloads tr).length = prepared.transactions.length ∧ AllConfirmed tr
  error_succeeded : ∀ error, r = .error (.err error) →
    ∀ hash ∈ error.submitted.dropLast, succeeded hash ∈ tr

/-- **Every run of `execute_swap` is safe**, for any number of prepared transactions and any
answers of the node, the signer and the submitter. -/
theorem execution_safe {n : Network} {client : Client} {prepared : PreparedSwap}
    {tr : Trace Answer} {r : Result SwapError SwapResult}
    (h : (executeSwap n client prepared).Runs () tr r ()) : SafeRun n prepared tr r := by
  unfold executeSwap at h
  obtain ⟨hfail, hrest⟩ | ⟨⟨c, hashes⟩, s₁, tr₁, tr₂, rfl, h₁, h₂⟩ := Proc.runs_bind.mp h
  · obtain ⟨-, hcapture⟩ := hrest
    obtain ⟨_, _, -, hr, -⟩ := Proc.runs_capture.mp hcapture
    exact nomatch hr
  obtain ⟨c', hashes', hloop, hc, -⟩ := Proc.runs_capture.mp h₁
  cases hc
  obtain ⟨rfl, hr, -⟩ := Proc.runs_ofResult.mp h₂
  obtain ⟨pre, rest, rfl, hlookups, hrounds, hchain⟩ := runs_executeTransactions hloop
  have hsilent : ∀ e ∈ pre, e.query.Silent := fun e he => (hlookups e he).silent
  rw [List.append_nil]
  have hpre : payloads pre = [] := payloads_of_silent hsilent
  have hpayloads : payloads (pre ++ rest) = payloads rest := by
    rw [payloads_append, hpre, List.nil_append]
  exact {
    carries := by
      intro k signed hk
      rw [hpayloads] at hk
      have hne : payloads rest ≠ [] := fun hnil => by simp [hnil] at hk
      obtain ⟨transaction, htransaction, hturn⟩ := hrounds.carries
        (fun t ht => (prepared.onChain t ht).trans (hchain hne)) k signed hk
      have hlater := hturn.behind fun earlier hearlier =>
        (allConfirmed_prepend hsilent).mpr hearlier
      rw [hpre, List.length_nil, Nat.zero_add] at hlater
      exact ⟨transaction, htransaction, hlater⟩
    handsOn := hrounds.handsOn.prepend fun e he => (hlookups e he).not_isSign
    ordered := hrounds.ordered.prepend hsilent
    result_hashes := by
      intro result hok
      obtain ⟨-, hresult⟩ := swapOutcome_eq_ok.mp (hr.symm.trans hok)
      rw [hpayloads, ← hrounds.hashes_eq, hresult]
      exact ⟨rfl, rfl⟩
    error_hashes := by
      intro error herror
      obtain ⟨source, -, hsource⟩ := swapOutcome_eq_err.mp (hr.symm.trans herror)
      rw [hpayloads, ← hrounds.hashes_eq, hsource]
    ok_iff := by
      rw [hpayloads, allConfirmed_prepend hsilent, ← hrounds.ok_iff, hr]
      simp only [swapOutcome_eq_ok]
      exact ⟨fun ⟨_, hok, _⟩ => hok, fun hok => ⟨_, hok, rfl⟩⟩
    error_succeeded := by
      intro error herror hash hmem
      obtain ⟨source, -, rfl⟩ := swapOutcome_eq_err.mp (hr.symm.trans herror)
      exact List.mem_append_right _ (hrounds.dropLast_succeeded hash hmem) }

end Guarantees

/-! ## A run of two transactions -/

/-- A wallet whose key signed the two payloads below. -/
def sampleWallet : Address :=
  .ofBytes 20 (beBytes 20 0x7e5f4552091a69125d5dfcb7b8c2659029395bdf)

def sampleToken : Address :=
  .ofBytes 20 (beBytes 20 0x5fc5360d0400a0fd4f2af552add042d716f1d168)

def sampleApproval : Transaction where
  chainId := 4663
  sender := sampleWallet
  target := sampleToken
  data := beBytes 34 0x095ea7b3000000000000000000000000b92fe925dc43a0ecde6c8b1a2709c170ec4f ++
    beBytes 34 0xff4f00000000000000000000000000000000000000000000000000000000000f4240
  value := 0
  gas := none
  gasPrice := none
  maxFeePerGas := none
  maxPriorityFeePerGas := none

def sampleSwap : Transaction where
  chainId := 4663
  sender := sampleWallet
  target := robinhood.router
  data := beBytes 4 0x4e71d92d
  value := 0
  gas := some 200000
  gasPrice := some 3000000000
  maxFeePerGas := none
  maxPriorityFeePerGas := none

def samplePrepared : PreparedSwap where
  quote :=
    { chainId := 4663
      source := "relay"
      input := .token sampleToken
      output := .native
      inAmount := 1000000
      expectedOut := 300
      minOut := 297
      applicationFee := none
      usdValue := none }
  wallet := sampleWallet
  transactions := [sampleApproval, sampleSwap]
  createdAt := 0
  nonempty := by simp
  onChain := by simp [sampleApproval, sampleSwap]
  fromWallet := by simp [sampleApproval, sampleSwap]

/-- The approval, signed with nonce 7. -/
def samplePayload : Bytes :=
  beBytes 40 0x02f8b182123707843b9aca00847735940082ea60945fc5360d0400a0fd4f2af552add042d716f1d1 ++
  beBytes 40 0x6880b844095ea7b3000000000000000000000000b92fe925dc43a0ecde6c8b1a2709c170ec4fff4f ++
  beBytes 40 0x00000000000000000000000000000000000000000000000000000000000f4240c001a0b36f5f8c86 ++
  beBytes 40 0x964225e71a1f85cfd119956663f41c418ee4f357b48640dfa8b5d9a01815b51cd068394d2690ed35 ++
  beBytes 20 0x14843f2a02c262c15163f7c8bb84f96f6fe1726f

def sampleSigned : SignedTx where
  tx := filled robinhood sampleApproval 60000 (2000000000, 1000000000) 7
  signature :=
    .ofBytes 65 (beBytes 33 0xb36f5f8c86964225e71a1f85cfd119956663f41c418ee4f357b48640dfa8b5d918 ++
      beBytes 32 0x15b51cd068394d2690ed3514843f2a02c262c15163f7c8bb84f96f6fe1726f1c)
  hash :=
    .ofBytes 32 (beBytes 32 0x0b3cbc8499c767c37ea5ade1b4f041667e785173d56e2305d28ec1ec9dde71df)

/-- The swap, signed with nonce 8. -/
def samplePayload' : Bytes :=
  beBytes 40 0x02f8718212370884b2d05e0084b2d05e0083030d4094b92fe925dc43a0ecde6c8b1a2709c170ec4f ++
  beBytes 40 0xff4f80844e71d92dc001a09c3f15795181979a24aac9c6f89b1852d98e57bca3b748bac57f6458c2 ++
  beBytes 36 0x8c5169a03769b9653fdebe8c2c214dd596188b19d671841eab9ec934e6c7e2a61cb0696d

def sampleSigned' : SignedTx where
  tx := filled robinhood sampleSwap 200000 (3000000000, 3000000000) 8
  signature :=
    .ofBytes 65 (beBytes 33 0x9c3f15795181979a24aac9c6f89b1852d98e57bca3b748bac57f6458c28c516937 ++
      beBytes 32 0x69b9653fdebe8c2c214dd596188b19d671841eab9ec934e6c7e2a61cb0696d1c)
  hash :=
    .ofBytes 32 (beBytes 32 0x2d615475ce0ec987244a65e117f8a16263a00d54be528757e2144b48bc54da66)

/-- The alloy codec on these two payloads; their digests do not occur. -/
@[reducible] def sampleAlloy : Alloy where
  keccak256 := fun _ => .zero 32
  eip2718Decode := fun signed =>
    if signed = samplePayload then .ok (sampleSigned, [])
    else if signed = samplePayload' then .ok (sampleSigned', [])
    else .error "unexpected string"
  recoverSigner := fun decoded =>
    if decoded = sampleSigned ∨ decoded = sampleSigned' then .ok sampleWallet
    else .error "signature error"

/-- A node that needs two polls for the first receipt, with an honest signer and submitter. -/
def sampleAnswers (i : ℕ) : (q : Query) → Answer q
  | .chainId => .ok 4663
  | .pendingNonce _ => .ok (if i < 9 then 7 else 8)
  | .call _ _ => .error ⟨none, "no call expected"⟩
  | .estimateGas _ _ _ _ => .ok 50000
  | .eip1559Fees => .ok (2000000000, 1000000000)
  | .receipt _ => .ok (if i = 7 then none else some true)
  | .relayQuote _ => .error (.build "no quote expected")
  | .instant => 10 ^ 9
  | .systemTime => 0
  | .sign _ tx => .ok (if tx.nonce = 7 then samplePayload else samplePayload')
  | .submit signed =>
      .ok (if signed = samplePayload then sampleSigned.hash else sampleSigned'.hash)

/-- Such an environment lets both transactions through, and the run is safe. -/
theorem execution_safe_sample :
    let := sampleAlloy
    let : Profile := ⟨true⟩
    ∃ tr r, (executeSwap robinhood .new samplePrepared).Runs () tr r () ∧
      r.isOk = true ∧ payloads tr = [samplePayload, samplePayload'] ∧
      SafeRun robinhood samplePrepared tr r := by
  intro alloy profile
  obtain ⟨tr, r, _, hrun, hok, hpayloads⟩ := Proc.runs_of_exec_prop sampleAnswers (fun _ => 60)
    (executeSwap robinhood .new samplePrepared) ()
    (fun tr r => r.isOk = true ∧ payloads tr = [samplePayload, samplePayload'])
    (by decide +kernel)
  exact ⟨tr, r, hrun, hok, hpayloads, execution_safe hrun⟩

end Evm
end TradingAggregators
