import TradingAggregators.Solana.Identification
import TradingAggregators.Solana.NativeQuotes

/-!
# What a swap reports as received

A confirmed swap reports by how much the balance of the account it pays into grew.  The account
depends on the trade: the wallet's lamports, its USDC account, or its account for the bought
mint, whose address is known only once the mint's owner was read.

* `Reading`: what the events of one balance reading tell.
* `runs_outputBalance`: `output_balance` reads the account the trade pays into, once.
* `amount_received_measured`: the first reading ends before anything is released, the second
  begins after the confirmation, and the report is their difference.
-/

namespace TradingAggregators
namespace Solana

open Interaction Rust Wire

/-! ## One reading -/

/-- The balance that an answer about a token account tells; a missing account holds zero. -/
def tokenReading : Except ClientError (RpcResponse (Option Account)) → Option UInt64
  | .error _ => none
  | .ok ⟨_, none⟩ => some 0
  | .ok ⟨_, some account⟩ => (tokenAccountAmount account.data).toOption

variable {σ : Type} {s s' : σ} {tr : Trace Answer}

theorem runs_attempt_tokenBalance {account : Pubkey}
    {f : TradeResult UInt64 → Task σ (Option UInt64)}
    (hf : ∀ r, f r = pure r.toOption) {b : Option UInt64}
    (h : (Proc.attempt (tokenBalance account) >>= f).Runs s tr (.ok b) s') :
    ∃ answer, tr = [⟨.getAccountWithCommitment account .confirmed, answer⟩] ∧
      b = tokenReading answer := by
  obtain ⟨r, s₁, tr₁, tr₂, rfl, h₁, h₂⟩ := Proc.runs_bind_ok.mp h
  obtain ⟨c, hrun, hr, rfl⟩ := Proc.runs_attempt.mp h₁
  cases hr
  rw [hf] at h₂
  obtain ⟨rfl, hb, -⟩ := Proc.runs_pure.mp h₂
  rw [Except.ok.inj hb, List.append_nil]
  obtain ⟨answer, tr', rfl, h₃⟩ := Proc.runs_ask_bind.mp hrun
  cases answer with
  | error text =>
    rcases Proc.runs_ofResult_bind.mp h₃ with ⟨e, -, rfl, rfl, -⟩ | ⟨a, ha, -⟩
    · exact ⟨_, rfl, rfl⟩
    · exact nomatch ha
  | ok response =>
    obtain ⟨slot, value⟩ := response
    rcases Proc.runs_ofResult_bind.mp h₃ with ⟨e, he, -⟩ | ⟨a, ha, h₄⟩
    · exact nomatch he
    cases ha
    cases value with
    | none =>
      obtain ⟨rfl, rfl, -⟩ := Proc.runs_pure.mp h₄
      exact ⟨_, rfl, rfl⟩
    | some account =>
      obtain ⟨rfl, rfl, -⟩ := Proc.runs_ofResult.mp h₄
      refine ⟨_, rfl, ?_⟩
      show _ = (tokenAccountAmount account.data).toOption
      cases tokenAccountAmount account.data <;> rfl

section Reading

variable [Sdk]

/-- What the events of one reading of the account a trade pays into tell. -/
inductive Reading (trade : Trade) : Trace Answer → Option UInt64 → Prop where
  | lamports (answer : Except ClientError UInt64) : trade.side = .sell → trade.settlement = .sol →
      Reading trade [⟨.getBalance trade.wallet .confirmed, answer⟩] answer.toOption
  | usdc (answer : Except ClientError (RpcResponse (Option Account))) :
      trade.side = .sell → trade.settlement = .usdc →
      Reading trade
        [⟨.getAccountWithCommitment (ata trade.wallet usdcMint tokenProgram) .confirmed, answer⟩]
        (tokenReading answer)
  | unknownMint (text : ClientError) : trade.side = .buy →
      Reading trade [⟨.getAccount trade.mint, .error text⟩] none
  | bought (mint : Account) (answer : Except ClientError (RpcResponse (Option Account))) :
      trade.side = .buy →
      Reading trade
        [⟨.getAccount trade.mint, .ok mint⟩,
          ⟨.getAccountWithCommitment (ata trade.wallet trade.mint mint.owner) .confirmed, answer⟩]
        (tokenReading answer)

/-- By how much a balance grew, if both readings told one. -/
def growth : Option UInt64 → Option UInt64 → Option ℕ
  | some before, some after => some (after.toNat - before.toNat)
  | _, _ => none

/-- **One reading of one account**: the one the trade pays into. -/
theorem runs_outputBalance {trade : Trade} {b : Option UInt64}
    (h : (outputBalance trade).Runs s tr (.ok b) s') : Reading trade tr b := by
  unfold outputBalance outputAccount at h
  cases hside : trade.side with
  | sell =>
    cases hsettlement : trade.settlement with
    | sol =>
      simp only [hside, hsettlement, pure_bind] at h
      obtain ⟨answer, tr', rfl, h₁⟩ := Proc.runs_ask_bind.mp h
      have hread : Reading trade [⟨.getBalance trade.wallet .confirmed, answer⟩]
        answer.toOption := .lamports answer hside hsettlement
      cases answer with
      | ok balance =>
        obtain ⟨rfl, hb, -⟩ := Proc.runs_pure.mp h₁
        rwa [Except.ok.inj hb]
      | error text =>
        obtain ⟨rfl, hb, -⟩ := Proc.runs_pure.mp h₁
        rwa [Except.ok.inj hb]
    | usdc =>
      simp only [hside, hsettlement, pure_bind] at h
      obtain ⟨answer, rfl, rfl⟩ := runs_attempt_tokenBalance (fun r => by cases r <;> rfl) h
      exact .usdc answer hside hsettlement
  | buy =>
    simp only [hside, bind_assoc] at h
    obtain ⟨mint, tr', rfl, h₁⟩ := Proc.runs_ask_bind.mp h
    cases mint with
    | error text =>
      obtain ⟨rfl, hb, -⟩ := Proc.runs_pure.mp h₁
      rw [Except.ok.inj hb]
      exact .unknownMint text hside
    | ok mint =>
      simp only [pure_bind] at h₁
      obtain ⟨answer, rfl, rfl⟩ := runs_attempt_tokenBalance (fun r => by cases r <;> rfl) h₁
      exact .bought mint answer hside

end Reading

/-! ## Both readings -/

/-- The poll that confirmed a signature. -/
def confirmation (sig : Signature) : Event Answer :=
  ⟨.getSignatureStatus sig, .ok (some (.ok ()))⟩

/-- A confirmed status was told by the last poll. -/
theorem runs_poll_confirmed {sig : Signature} {rounds : ℕ}
    (h : (poll sig rounds).Runs s tr (.ok .confirmed) s') :
    tr.getLast? = some (confirmation sig) := by
  have hcheck : ∀ {status : SwapStatus} {s s' : σ} {tr : Trace Answer},
      (checkStatus sig).Runs s tr (.ok status) s' →
        status = .confirmed → tr = [confirmation sig] := by
    intro status s s' tr h hstatus
    obtain ⟨answer, tr', rfl, h₁⟩ := Proc.runs_ask_bind.mp h
    obtain ⟨told, htold, h₂⟩ := Proc.runs_ofResult_bind_ok.mp h₁
    obtain ⟨rfl, hr, -⟩ := Proc.runs_pure.mp h₂
    rw [rpcResult_eq_ok] at htold
    rw [hstatus] at hr
    rcases told with _ | ⟨_ | _⟩
    · exact nomatch hr
    · exact nomatch hr
    · rw [htold]
      rfl
  induction rounds generalizing s tr with
  | zero =>
    rw [hcheck h rfl]
    rfl
  | succ rounds ih =>
    obtain ⟨status, s₁, tr₁, tr₂, rfl, h₁, h₂⟩ := Proc.runs_bind_ok.mp h
    cases status with
    | pending => rw [List.getLast?_append, ih h₂, Option.some_or]
    | confirmed =>
      obtain ⟨rfl, -⟩ := Proc.runs_pure.mp h₂
      rw [hcheck h₁ rfl, List.append_nil]
      rfl
    | failed => exact nomatch (Proc.runs_pure.mp h₂).2.1

section Swap

variable [Sdk]

/-- Behind the submission: the last poll told the status, and a confirmed swap is measured. -/
theorem runs_confirmPending_ok {client : TradingClient} {trade : Trade} {before : Option UInt64}
    {pending result : SwapResult} {sig : Signature} {tr : Trace Answer}
    (hash : pending.hash = keyText sig)
    (h : (client.confirmPending trade before pending).Runs () tr (.ok result) ()) :
    ∃ polls back, tr = polls ++ back ∧ result.hash = keyText sig ∧
      (result.status ≠ .confirmed → back = [] ∧ result.amountReceived = none) ∧
      (result.status = .confirmed → polls.getLast? = some (confirmation sig) ∧
        ∃ after, Reading trade back after ∧
          result.amountReceived.map UInt64.toNat = growth before after) := by
  have hparse : TradingClient.parseHash pending.hash pending.hash = .ok sig := by
    rw [TradingClient.parseHash, hash, parseKey_keyText]
    rfl
  unfold TradingClient.confirmPending at h
  rw [hparse] at h
  obtain ⟨sig', hsig, h₁⟩ := Proc.runs_ofResult_bind_ok.mp h
  cases hsig
  obtain ⟨status, s₁, polls, tr₂, rfl, hconfirm, h₂⟩ := Proc.runs_bind_ok.mp h₁
  obtain ⟨amount, s₂, back, tr₃, rfl, hamount, h₃⟩ := Proc.runs_bind_ok.mp h₂
  obtain ⟨rfl, hresult, -⟩ := Proc.runs_pure.mp h₃
  rw [Except.ok.inj hresult, List.append_nil]
  refine ⟨polls, back, rfl, hash, ?_, ?_⟩
  · intro hne
    cases status with
    | confirmed => exact absurd rfl hne
    | failed =>
      obtain ⟨rfl, hnone, -⟩ := Proc.runs_pure.mp hamount
      exact ⟨rfl, Except.ok.inj hnone⟩
    | pending =>
      obtain ⟨rfl, hnone, -⟩ := Proc.runs_pure.mp hamount
      exact ⟨rfl, Except.ok.inj hnone⟩
  · rintro (rfl : status = .confirmed)
    constructor
    · obtain ⟨rounds, s₃, trc, trp, rfl, hrounds, hpoll⟩ := Proc.runs_bind_ok.mp hconfirm
      obtain ⟨_, ⟨_, rfl, -⟩, -, -⟩ := Proc.runs_perform.mp hrounds
      exact runs_poll_confirmed hpoll
    · obtain ⟨after, s₃, tra, trn, rfl, hread, h₄⟩ := Proc.runs_bind_ok.mp hamount
      obtain ⟨rfl, hgrowth, -⟩ := Proc.runs_pure.mp h₄
      rw [List.append_nil]
      refine ⟨after, runs_outputBalance hread, ?_⟩
      rw [show amount = _ from Except.ok.inj hgrowth]
      rcases before with _ | before <;> rcases after with _ | after
      · rfl
      · rfl
      · rfl
      · exact congrArg some (toNat_saturatingSub64 after before)

variable [Profile]

/-- **What a swap reports as received is measured around it**, on the account the trade pays
into and at the commitment that confirms it: the first reading is over before anything is
released, the second begins behind the poll that confirmed the reported hash, and the report is
by how much the balance grew.  A swap that is not confirmed reports nothing. -/
theorem amount_received_measured {client : TradingClient} {trade : Trade} {submitter : Submitter}
    {fee : UInt64} {tables : List AddressLookupTableAccount} {tr : Trace Answer}
    {result : SwapResult}
    (h : (client.swapWithLookupTables trade submitter fee tables).Runs () tr (.ok result) ()) :
    ∃ front middle back reading before, tr = front ++ (middle ++ back) ∧
      (∀ e ∈ front, e.query.Harmless) ∧ reading.Sublist front ∧ Reading trade reading before ∧
      (result.status ≠ .confirmed → back = [] ∧ result.amountReceived = none) ∧
      (result.status = .confirmed →
        (∃ sig, middle.getLast? = some (confirmation sig) ∧ result.hash = keyText sig) ∧
        ∃ after, Reading trade back after ∧
          result.amountReceived.map UInt64.toNat = growth before after) := by
  unfold TradingClient.swapWithLookupTables at h
  obtain ⟨c, s₁, front, tr₁, rfl, hboth, h₁⟩ := Proc.runs_bind_ok.mp h
  obtain ⟨c', reading, prepare, hc, rfl, hmerge, hread, hprepare⟩ := Proc.runs_both hboth
  cases hc
  obtain ⟨before, hbefore, h₂⟩ := Proc.runs_ofResult_bind_ok.mp h₁
  obtain ⟨prepared, -, h₃⟩ := Proc.runs_ofResult_bind_ok.mp h₂
  obtain ⟨pending, s₂, sent, tr₂, rfl, hsubmit, h₄⟩ := Proc.runs_bind_ok.mp h₃
  have hharmless : ∀ e ∈ front, e.query.Harmless := by
    intro e he
    rcases (hmerge.mem_iff e).mp he with he | he
    · exact ((asks_outputBalance trade).runs hread e he).1
    · exact (asks_prepareSelectedSwap client trade).runs hprepare e he
  have hreading : Reading trade reading before :=
    runs_outputBalance (by rwa [hbefore] at hread)
  rcases runs_submitSwap_once hsubmit with ⟨⟨e, he⟩, -⟩ |
    ⟨_, tx, answer, _, charge, -, -, -, hr⟩
  · exact nomatch he
  cases answer with
  | error text => exact nomatch hr
  | ok sig =>
    have hash : pending.hash = keyText sig := by
      rw [Except.ok.inj hr]
    obtain ⟨polls, back, rfl, hkept, hnone, hconfirmed⟩ := runs_confirmPending_ok hash h₄
    refine ⟨front, sent ++ polls, back, reading, before, ?_, hharmless, hmerge.sublist_left,
      hreading, hnone, fun hstatus => ?_⟩
    · rw [List.append_assoc]
    · obtain ⟨hlast, hafter⟩ := hconfirmed hstatus
      refine ⟨⟨sig, ?_, hkept⟩, hafter⟩
      rw [List.getLast?_append, hlast, Option.some_or]

end Swap

/-! ### A sale that is paid in USDC -/

/-- A USDC account of the trading wallet. -/
def usdcAccount (amount : UInt64) : Account where
  owner := tokenProgram
  data := TokenAccountHead.codec.encode ⟨usdcMint, sampleUser, amount⟩

/-- The wallet holds 1 USDC at first, and 3.9 USDC once the sale is confirmed. -/
def paidBackend (i : ℕ) (q : Query) : Answer q :=
  match q with
  | .relayQuote _ => .ok saleAnswer
  | .getAccountWithCommitment _ _ =>
      .ok ⟨0, some (usdcAccount (if i < 5 then 1000000 else 3900000))⟩
  | q => swapBackend (.ok sampleSignature) i q

/-- The sale of the sample client reports the 2.9 USDC by which the two readings differ. -/
theorem amount_received_measured_sample :
    let := sampleSdk
    let : Profile := ⟨true⟩
    ∃ tr, ∃ result : SwapResult,
      (sampleClient.swapWithLookupTables relaySale ⟨none⟩ 5000 []).Runs () tr (.ok result) () ∧
      result.status = .confirmed ∧ result.amountReceived = some 2900000 ∧
      ∃ front back reading before after, tr = front ++ back ∧ reading.Sublist front ∧
        Reading relaySale reading (some before) ∧ Reading relaySale back (some after) ∧
        after.toNat - before.toNat = 2900000 := by
  intro sdk profile
  obtain ⟨tr, r, _, hrun, hok, hreceived⟩ := Proc.runs_of_exec_prop paidBackend (fun _ => 1)
    (sampleClient.swapWithLookupTables relaySale ⟨none⟩ 5000 []) ()
    (fun _ r => (r.toOption.map SwapResult.status) = some .confirmed ∧
      (r.toOption.map SwapResult.amountReceived) = some (some 2900000)) (by decide +kernel)
  obtain ⟨result, rfl, hstatus⟩ := toOption_map_eq_some.mp hok
  obtain ⟨front, middle, back, reading, before, htr, -, hsub, hbefore, -, hconfirmed⟩ :=
    amount_received_measured hrun
  obtain ⟨-, after, hafter, hgrowth⟩ := hconfirmed hstatus
  have hamount : result.amountReceived = some 2900000 := Option.some.inj hreceived
  rw [hamount] at hgrowth
  cases before with
  | none => cases hgrowth
  | some before =>
    cases after with
    | none => cases hgrowth
    | some after =>
      refine ⟨tr, result, hrun, hstatus, hamount, front ++ middle, back, reading, before, after,
        ?_, ?_, hbefore, hafter, (Option.some.inj hgrowth).symm⟩
      · rw [htr, List.append_assoc]
      · exact hsub.trans (List.sublist_append_left front _)

end Solana
end TradingAggregators
