import TradingAggregators.Market.Rounding
import TradingAggregators.Solana.ReferenceSdk
import TradingAggregators.Solana.Sources.Bloxroute
import TradingAggregators.Solana.Sources.DFlow
import TradingAggregators.Solana.Sources.Relay

/-!
# Fees that a provider collects

## 1.  The fee that is due

`validateAmount_eq_ok`: a reported amount passes exactly when it is the rounded share of its
basis, which on sells contains the amount itself (`ProviderFee.Due`).

## 2.  The fee step of the three adapters

`feeStep_some_iff`, `feeStep_none`: DFlow, bloXroute and Relay read the fee from different
fields of their responses, and each accepts exactly a due fee that it reports, or no fee.

## 3.  Accepted responses

`provider_fees_exact`: an accepted response charges what was requested, on sells the honest fee
is accepted, and up to 5000 bps no other one that differs by more than a unit.
-/

namespace TradingAggregators
namespace Solana

open Interaction Rounding Rust

/-! ## 1.  The fee that is due -/

namespace ProviderFee

/-- What the fee is a share of: the input of a buy, the gross output of a sell. -/
def basis (p : ProviderFee) (q : Quote) (amount : UInt64) : ℕ :=
  match p.side with
  | .buy => q.inAmount.toNat
  | .sell => q.expectedOut.toNat + amount.toNat

/-- The amount is the rounded share of its basis, and the basis is a `u64`. -/
structure Due (p : ProviderFee) (q : Quote) (amount : UInt64) : Prop where
  fits : p.basis q amount < 2 ^ 64
  share : amount.toNat = p.basis q amount * p.fee.basisPoints.toNat / 10000

theorem validateAmount_eq_ok {p : ProviderFee} {q : Quote} {amount bps : UInt64} {u : Unit} :
    p.validateAmount q amount bps = .ok u ↔
      bps = p.fee.basisPoints.toUInt64 ∧ p.Due q amount := by
  have hbps := p.fee.basisPoints_toNat_lt
  have hcheck : ∀ basis : UInt64, basis.toNat = p.basis q amount →
      ((failIf (bps ≠ p.fee.basisPoints.toUInt64 ∨ amount ≠
          UInt64.ofNat (basis.toNat * p.fee.basisPoints.toNat / Solana.basisPoints.toNat))
        (.err (.build "provider fee does not match the requested settlement fee")) :
          TradeResult Unit) = .ok u ↔
        bps = p.fee.basisPoints.toUInt64 ∧ p.Due q amount) := by
    intro basis hbasis
    have hlt := basis.toNat_lt
    have hle : basis.toNat * p.fee.basisPoints.toNat / 10000 ≤ basis.toNat :=
      shareDown_le hbps.le
    have hten : Solana.basisPoints.toNat = 10000 := rfl
    rw [failIf_eq_ok, not_or, not_not, not_not, hten]
    refine and_congr_right fun _ => ?_
    rw [← UInt64.toNat_inj, UInt64.toNat_ofNat', Nat.mod_eq_of_lt (by omega), hbasis]
    exact ⟨fun h => ⟨hbasis ▸ hlt, h⟩, fun h => h.share⟩
  unfold validateAmount
  cases hside : p.side with
  | buy =>
    have hbasis : q.inAmount.toNat = p.basis q amount := by rw [basis, hside]
    exact hcheck _ hbasis
  | sell =>
    have hbasis : p.basis q amount = q.expectedOut.toNat + amount.toNat := by rw [basis, hside]
    by_cases hfit : q.expectedOut.toNat + amount.toNat < 2 ^ 64
    · have hsum : (q.expectedOut + amount).toNat = p.basis q amount := by
        rw [UInt64.toNat_add, Nat.mod_eq_of_lt hfit, hbasis]
      rw [← hcheck _ hsum, checkedAdd64, if_pos hfit]
      rfl
    · rw [checkedAdd64, if_neg hfit]
      constructor
      · exact fun h => nomatch h
      · exact fun h => absurd (hbasis ▸ h.2.fits) hfit

variable {p : ProviderFee} {q q' : Quote} {amount amount' : UInt64}

theorem new_eq_ok [Profile] {fee : SdkFee} {trade : Trade}
    (h : ProviderFee.new fee trade = .ok p) : p.fee = fee ∧ p.side = trade.side := by
  obtain ⟨_, -, h⟩ := bind_eq_ok.mp h
  rw [← pure_eq_ok.mp h]
  exact ⟨rfl, rfl⟩

/-- The fee of a gross output is due on what it leaves of it. -/
theorem due_of_gross (hside : p.side = .sell) {gross : UInt64}
    (hq : q.expectedOut = gross - p.fee.amount gross) : p.Due q (p.fee.amount gross) := by
  have hle : p.fee.amount gross ≤ gross := p.fee.amount_le gross
  have hbasis : p.basis q (p.fee.amount gross) = gross.toNat := by
    have hnat := UInt64.le_iff_toNat_le.mp hle
    rw [basis, hside]
    show q.expectedOut.toNat + (p.fee.amount gross).toNat = gross.toNat
    rw [hq, UInt64.toNat_sub_of_le _ _ hle]
    omega
  constructor
  · rw [hbasis]
    exact gross.toNat_lt
  · rw [hbasis, SdkFee.toNat_amount]

/-- Two fees that are due on the same output differ by at most one, up to 5000 bps. -/
theorem due_unique (hside : p.side = .sell) (hbps : p.fee.basisPoints.toNat ≤ 5000)
    (h : p.Due q amount) (h' : p.Due q' amount') (hout : q.expectedOut = q'.expectedOut) :
    amount.toNat ≤ amount'.toNat + 1 := by
  have hshare := h.share
  have hshare' := h'.share
  unfold basis at hshare hshare'
  rw [hside] at hshare hshare'
  rw [hout] at hshare
  exact grossShare_unique (by omega) (by omega) hshare' hshare

end ProviderFee

/-! ## 2.  The fee step of the three adapters -/

section Steps

variable {p : ProviderFee} {trade : Trade} {q q' : Quote}

namespace DFlow

open Aggregators.DFlow (QuoteResponse)

/-- The response reports no fee, or one of zero. -/
def ReportsNoFee (response : QuoteResponse) : Prop :=
  ∀ fee ∈ response.platformFee, fee.feeBps = 0 ∧ parseU64 fee.amount = .ok 0

/-- The response reports the requested fee, in the given amount. -/
def Reports [Sdk] (response : QuoteResponse) (p : ProviderFee) (amount : UInt64) : Prop :=
  ∃ fee, response.platformFee = some fee ∧ parseU64 fee.amount = .ok amount ∧
    fee.feeBps = p.fee.basisPoints.toUInt64 ∧
    ¬ ∃ account ∈ fee.feeAccount, account ≠ keyText p.account

theorem quoteFee_none [Sdk] {response : QuoteResponse}
    (h : quoteFee response none q = .ok q') : ReportsNoFee response ∧ q' = q := by
  unfold quoteFee at h
  unfold ReportsNoFee
  cases hfee : response.platformFee with
  | none =>
    rw [hfee] at h
    exact ⟨fun _ hmem => (nomatch hmem), (Except.ok.inj h).symm⟩
  | some received =>
    rw [hfee] at h
    by_cases hbps : received.feeBps ≠ 0
    · have hfails := (if_pos hbps).symm.trans h
      exact nomatch hfails
    · have h₁ := (if_neg hbps).symm.trans h
      obtain ⟨amount, hamount, h₂⟩ := bind_eq_ok.mp h₁
      obtain ⟨unexpected, hunexpected, h₃⟩ := bind_eq_ok.mp h₂
      obtain ⟨_, hgood, h₄⟩ := bind_eq_ok.mp h₃
      rw [parseAmount, mapError_eq_ok] at hamount
      rw [← pure_eq_ok.mp hunexpected, failIf_eq_ok, decide_eq_true_iff, not_not] at hgood
      refine ⟨fun fee hmem => ?_, (pure_eq_ok.mp h₄).symm⟩
      cases hmem
      exact ⟨not_not.mp hbps, hgood ▸ hamount⟩

theorem quoteFee_some_iff [Sdk] {response : QuoteResponse} :
    quoteFee response (some p) q = .ok q' ↔
      ∃ amount, Reports response p amount ∧ p.Due q amount ∧
        q' = { q with applicationFee := amount } := by
  unfold quoteFee Reports
  cases hfee : response.platformFee with
  | none =>
    constructor
    · exact fun h => nomatch h
    · rintro ⟨_, ⟨_, h, -⟩, -⟩
      exact nomatch h
  | some received =>
    constructor
    · intro h
      obtain ⟨amount, hamount, h₁⟩ := bind_eq_ok.mp h
      obtain ⟨_, haccount, h₂⟩ := bind_eq_ok.mp h₁
      obtain ⟨_, hvalid, h₃⟩ := bind_eq_ok.mp h₂
      rw [parseAmount, mapError_eq_ok] at hamount
      rw [failIf_eq_ok] at haccount
      obtain ⟨hbps, hdue⟩ := ProviderFee.validateAmount_eq_ok.mp hvalid
      exact ⟨amount, ⟨received, rfl, hamount, hbps, haccount⟩, hdue, (pure_eq_ok.mp h₃).symm⟩
    · rintro ⟨amount, ⟨_, hsome, hamount, hbps, haccount⟩, hdue, rfl⟩
      cases hsome
      exact bind_eq_ok.mpr ⟨amount, mapError_eq_ok.mpr hamount,
        bind_eq_ok.mpr ⟨(), failIf_eq_ok.mpr haccount,
          bind_eq_ok.mpr ⟨(), ProviderFee.validateAmount_eq_ok.mpr ⟨hbps, hdue⟩, rfl⟩⟩⟩

end DFlow

namespace Bloxroute

open Aggregators.Bloxroute (InstructionsResponse)

/-- The response reports no fee, or one of zero. -/
def ReportsNoFee (response : InstructionsResponse) : Prop :=
  ∀ fee ∈ response.platformFee, fee.amount = 0 ∧ fee.bps = 0

/-- The response reports the requested fee, in the given amount. -/
def Reports (response : InstructionsResponse) (p : ProviderFee) (amount : UInt64) : Prop :=
  ∃ fee, response.platformFee = some fee ∧ fee.amount = amount ∧
    fee.bps.toUInt64 = p.fee.basisPoints.toUInt64 ∧
    fee.mint = some (keyText p.mint) ∧ fee.mode = some p.mode

theorem quoteFee_none {response : InstructionsResponse}
    (h : quoteFee response none q = .ok q') : ReportsNoFee response ∧ q' = q := by
  unfold quoteFee at h
  unfold ReportsNoFee
  cases hfee : response.platformFee with
  | none =>
    rw [hfee] at h
    exact ⟨fun _ hmem => (nomatch hmem), (Except.ok.inj h).symm⟩
  | some received =>
    rw [hfee] at h
    obtain ⟨_, hgood, h₁⟩ := bind_eq_ok.mp h
    rw [failIf_eq_ok, not_or, not_not, not_not] at hgood
    refine ⟨fun fee hmem => ?_, (pure_eq_ok.mp h₁).symm⟩
    cases hmem
    exact hgood

theorem quoteFee_some_iff {response : InstructionsResponse} :
    quoteFee response (some p) q = .ok q' ↔
      ∃ amount, Reports response p amount ∧ p.Due q amount ∧
        q' = { q with applicationFee := amount } := by
  unfold quoteFee Reports
  cases hfee : response.platformFee with
  | none =>
    constructor
    · exact fun h => nomatch h
    · rintro ⟨_, ⟨_, h, -⟩, -⟩
      exact nomatch h
  | some received =>
    constructor
    · intro h
      obtain ⟨_, hmint, h₁⟩ := bind_eq_ok.mp h
      obtain ⟨_, hvalid, h₂⟩ := bind_eq_ok.mp h₁
      rw [failIf_eq_ok, not_or, not_not, not_not] at hmint
      obtain ⟨hbps, hdue⟩ := ProviderFee.validateAmount_eq_ok.mp hvalid
      exact ⟨received.amount, ⟨received, rfl, rfl, hbps, hmint⟩, hdue,
        (pure_eq_ok.mp h₂).symm⟩
    · rintro ⟨_, ⟨_, hsome, rfl, hbps, hmint, hmode⟩, hdue, rfl⟩
      cases hsome
      have hmatch : ¬ (received.mint ≠ some (keyText p.mint) ∨ received.mode ≠ some p.mode) := by
        rintro (h | h)
        · exact h hmint
        · exact h hmode
      exact bind_eq_ok.mpr ⟨(), failIf_eq_ok.mpr hmatch,
        bind_eq_ok.mpr ⟨(), ProviderFee.validateAmount_eq_ok.mpr ⟨hbps, hdue⟩, rfl⟩⟩

end Bloxroute

namespace Relay

open Aggregators.Relay (Fees)

/-- The response reports no fee, or one of zero. -/
def ReportsNoFee (fees : Fees String) : Prop :=
  ∀ app ∈ fees.app, parseU64 app.amount = .ok 0

/-- The response reports the requested fee, in the given amount. -/
def Reports (fees : Fees String) (trade : Trade) (amount : UInt64) : Prop :=
  ∃ app, fees.app = some app ∧ parseU64 app.amount = .ok amount ∧
    app.currency.chainId = solanaChainId ∧ app.currency.address = (currencies trade).1

theorem apply_none {fees : Fees String} (h : AppFee.apply fees trade none q = .ok q') :
    ReportsNoFee fees ∧ q' = q := by
  unfold AppFee.apply at h
  cases hfee : fees.app with
  | none =>
    rw [hfee] at h
    refine ⟨fun app hmem => ?_, (pure_eq_ok.mp h).symm⟩
    rw [hfee] at hmem
    exact nomatch hmem
  | some received =>
    rw [hfee] at h
    obtain ⟨amount, hread, h₁⟩ := bind_eq_ok.mp h
    obtain ⟨_, hgood, h₂⟩ := bind_eq_ok.mp h₁
    rw [parseAmount, mapError_eq_ok] at hread
    rw [failIf_eq_ok, not_not] at hgood
    refine ⟨fun app hmem => ?_, (pure_eq_ok.mp h₂).symm⟩
    rw [hfee] at hmem
    cases hmem
    exact hgood ▸ hread

theorem apply_some_iff {fees : Fees String} :
    AppFee.apply fees trade (some p) q = .ok q' ↔
      ∃ amount, Reports fees trade amount ∧ p.Due q amount ∧
        q' = { q with applicationFee := amount } := by
  unfold AppFee.apply Reports
  cases hfee : fees.app with
  | none =>
    constructor
    · exact fun h => nomatch h
    · rintro ⟨_, ⟨_, h, -⟩, -⟩
      exact nomatch h
  | some received =>
    constructor
    · intro h
      obtain ⟨amount, hamount, h₁⟩ := bind_eq_ok.mp h
      obtain ⟨app, happ, h₂⟩ := bind_eq_ok.mp h₁
      obtain ⟨_, hcurrency, h₃⟩ := bind_eq_ok.mp h₂
      obtain ⟨_, hvalid, h₄⟩ := bind_eq_ok.mp h₃
      cases okOr_eq_ok.mp happ
      rw [parseAmount, mapError_eq_ok] at hamount
      rw [failIf_eq_ok, not_or, not_not, not_not] at hcurrency
      obtain ⟨-, hdue⟩ := ProviderFee.validateAmount_eq_ok.mp hvalid
      exact ⟨amount, ⟨received, rfl, hamount, hcurrency⟩, hdue, (pure_eq_ok.mp h₄).symm⟩
    · rintro ⟨amount, ⟨_, hsome, hamount, hchain, haddress⟩, hdue, rfl⟩
      cases hsome
      have hmatch : ¬ (received.currency.chainId ≠ solanaChainId ∨
          received.currency.address ≠ (currencies trade).1) := by
        rintro (h | h)
        · exact h hchain
        · exact h haddress
      exact bind_eq_ok.mpr ⟨amount, mapError_eq_ok.mpr hamount,
        bind_eq_ok.mpr ⟨received, rfl, bind_eq_ok.mpr ⟨(), failIf_eq_ok.mpr hmatch,
          bind_eq_ok.mpr ⟨(), ProviderFee.validateAmount_eq_ok.mpr ⟨rfl, hdue⟩, rfl⟩⟩⟩⟩

end Relay

end Steps

/-! ## 3.  Accepted responses -/

theorem validatedQuote_applicationFee {venue : String} {trade : Trade}
    {input expected minimum : UInt64} {q : Quote}
    (h : validatedQuote venue trade input expected minimum = .ok q) : q.applicationFee = 0 := by
  obtain ⟨_, -, h₁⟩ := bind_eq_ok.mp h
  obtain ⟨_, -, h₂⟩ := bind_eq_ok.mp h₁
  rw [← pure_eq_ok.mp h₂]

/-- A response of one of the providers that collect fees. -/
inductive ProviderResponse where
  | dflow (response : Aggregators.DFlow.QuoteResponse)
  | bloxroute (response : Aggregators.Bloxroute.InstructionsResponse)
  | relay (response : Aggregators.Relay.QuoteResponse String TransactionData)

namespace ProviderResponse

variable [Sdk]

def ReportsNoFee : ProviderResponse → Prop
  | dflow r => DFlow.ReportsNoFee r
  | bloxroute r => Bloxroute.ReportsNoFee r
  | relay r => Relay.ReportsNoFee r.fees

def Reports (r : ProviderResponse) (trade : Trade) (p : ProviderFee) (amount : UInt64) : Prop :=
  match r with
  | dflow r => DFlow.Reports r p amount
  | bloxroute r => Bloxroute.Reports r p amount
  | relay r => Relay.Reports r.fees trade amount

/-- What the adapter does about a fee once it has a valid quote. -/
def feeStep (r : ProviderResponse) (trade : Trade) (fee : Option ProviderFee) (q : Quote) :
    TradeResult Quote :=
  match r with
  | dflow r => DFlow.quoteFee r fee q
  | bloxroute r => Bloxroute.quoteFee r fee q
  | relay r => Relay.AppFee.apply r.fees trade fee q

/-- The adapter makes this quote of the response.  Relay's refuses some requests before it has
a response. -/
def Accepts (r : ProviderResponse) (trade : Trade) (payer : Option Pubkey)
    (fee : Option ProviderFee) (q : Quote) : Prop :=
  match r with
  | dflow r => DFlow.responseQuote r trade fee = .ok q
  | bloxroute r => ∃ prepared, Bloxroute.responsePrepare r trade payer fee = .ok prepared ∧
      prepared.quote = q
  | relay r => (∃ appFees, Relay.appFees trade fee = .ok appFees) ∧
      ∃ quoted, Relay.quote r.details (Relay.swap trade) trade = .ok quoted ∧
        Relay.AppFee.apply r.fees trade fee quoted = .ok q

/-- **Without a requested fee, an adapter's fee step accepts no fee.** -/
theorem feeStep_none {r : ProviderResponse} {trade : Trade} {q q' : Quote}
    (h : r.feeStep trade none q = .ok q') : r.ReportsNoFee ∧ q' = q := by
  cases r with
  | dflow r => exact DFlow.quoteFee_none h
  | bloxroute r => exact Bloxroute.quoteFee_none h
  | relay r =>
    have happly : Relay.AppFee.apply r.fees trade none q = .ok q' := h
    exact Relay.apply_none happly

/-- **With a requested fee, it accepts exactly a due fee that the response reports.** -/
theorem feeStep_some_iff {r : ProviderResponse} {trade : Trade} {p : ProviderFee}
    {q q' : Quote} : r.feeStep trade (some p) q = .ok q' ↔
      ∃ amount, r.Reports trade p amount ∧ p.Due q amount ∧
        q' = { q with applicationFee := amount } := by
  cases r with
  | dflow r => exact DFlow.quoteFee_some_iff
  | bloxroute r => exact Bloxroute.quoteFee_some_iff
  | relay r => exact Relay.apply_some_iff

/-- An accepted quote comes from the fee step, of a quote without a fee. -/
theorem feeStep_of_accepts {r : ProviderResponse} {trade : Trade} {payer : Option Pubkey}
    {fee : Option ProviderFee} {q : Quote} (h : r.Accepts trade payer fee q) :
    ∃ q₀, q₀.applicationFee = 0 ∧ r.feeStep trade fee q₀ = .ok q := by
  cases r with
  | dflow r =>
    obtain ⟨_, -, h₁⟩ := bind_eq_ok.mp h
    obtain ⟨_, -, h₂⟩ := bind_eq_ok.mp h₁
    obtain ⟨_, -, h₃⟩ := bind_eq_ok.mp h₂
    obtain ⟨_, -, h₄⟩ := bind_eq_ok.mp h₃
    obtain ⟨_, -, h₅⟩ := bind_eq_ok.mp h₄
    obtain ⟨_, -, h₆⟩ := bind_eq_ok.mp h₅
    obtain ⟨q₀, hquote, h₇⟩ := bind_eq_ok.mp h₆
    exact ⟨q₀, validatedQuote_applicationFee hquote, h₇⟩
  | bloxroute r =>
    obtain ⟨prepared, hprepared, rfl⟩ := h
    obtain ⟨_, -, h₁⟩ := bind_eq_ok.mp hprepared
    obtain ⟨q₀, hquote, h₂⟩ := bind_eq_ok.mp h₁
    obtain ⟨q', hfee, h₃⟩ := bind_eq_ok.mp h₂
    obtain ⟨_, -, h₄⟩ := bind_eq_ok.mp h₃
    obtain ⟨_, -, h₅⟩ := bind_eq_ok.mp h₄
    obtain ⟨_, -, h₆⟩ := bind_eq_ok.mp h₅
    obtain ⟨_, -, h₇⟩ := bind_eq_ok.mp h₆
    refine ⟨_, ?_, hfee.trans ?_⟩
    · show q₀.applicationFee = 0
      exact validatedQuote_applicationFee hquote
    · rw [← pure_eq_ok.mp h₇]
  | relay r =>
    obtain ⟨-, quoted, hquoted, happly⟩ := h
    obtain ⟨_, -, h₁⟩ := bind_eq_ok.mp hquoted
    obtain ⟨_, -, h₂⟩ := bind_eq_ok.mp h₁
    obtain ⟨_, -, h₃⟩ := bind_eq_ok.mp h₂
    obtain ⟨_, -, h₄⟩ := bind_eq_ok.mp h₃
    obtain ⟨q₀, hquote, h₅⟩ := bind_eq_ok.mp h₄
    refine ⟨quoted, ?_, happly⟩
    rw [← pure_eq_ok.mp h₅]
    show q₀.applicationFee = 0
    exact validatedQuote_applicationFee hquote

/-- An accepted quote charges an amount that is due on it. -/
theorem due_of_accepts {r : ProviderResponse} {trade : Trade} {payer : Option Pubkey}
    {p : ProviderFee} {q : Quote} (h : r.Accepts trade payer (some p) q) :
    p.Due q q.applicationFee := by
  obtain ⟨q₀, -, hstep⟩ := feeStep_of_accepts h
  obtain ⟨amount, -, hdue, rfl⟩ := feeStep_some_iff.mp hstep
  exact ⟨hdue.fits, hdue.share⟩

/-- DFlow and bloXroute take a fee out of the output of a sell, Relay does not. -/
def CollectsOnSells : ProviderResponse → Prop
  | relay _ => False
  | _ => True

/-- The response as it would be without a fee. -/
def withoutFee : ProviderResponse → ProviderResponse
  | dflow r => dflow { r with platformFee := none }
  | bloxroute r => bloxroute { r with platformFee := none }
  | relay r => relay { r with fees := { r.fees with app := none } }

/-- A due fee that the response reports is all that it takes. -/
theorem accepts_of_due {r : ProviderResponse} {trade : Trade} {payer : Option Pubkey}
    {p : ProviderFee} {q : Quote} {amount : UInt64} (hcollects : r.CollectsOnSells)
    (h : r.withoutFee.Accepts trade payer none q) (hreports : r.Reports trade p amount)
    (hdue : p.Due q amount) :
    r.Accepts trade payer (some p) { q with applicationFee := amount } := by
  cases r with
  | relay r => exact hcollects.elim
  | dflow r =>
    obtain ⟨minOut, hmin, h₁⟩ := bind_eq_ok.mp h
    obtain ⟨_, hmatches, h₂⟩ := bind_eq_ok.mp h₁
    obtain ⟨minOutAmount, hminOut, h₃⟩ := bind_eq_ok.mp h₂
    obtain ⟨_, hsame, h₄⟩ := bind_eq_ok.mp h₃
    obtain ⟨inAmount, hin, h₅⟩ := bind_eq_ok.mp h₄
    obtain ⟨outAmount, hout, h₆⟩ := bind_eq_ok.mp h₅
    obtain ⟨q₀, hquote, h₇⟩ := bind_eq_ok.mp h₆
    obtain ⟨-, rfl⟩ := DFlow.quoteFee_none h₇
    exact bind_eq_ok.mpr ⟨minOut, hmin, bind_eq_ok.mpr ⟨(), hmatches,
      bind_eq_ok.mpr ⟨minOutAmount, hminOut, bind_eq_ok.mpr ⟨(), hsame,
        bind_eq_ok.mpr ⟨inAmount, hin, bind_eq_ok.mpr ⟨outAmount, hout,
          bind_eq_ok.mpr ⟨q, hquote,
            DFlow.quoteFee_some_iff.mpr ⟨amount, hreports, hdue, rfl⟩⟩⟩⟩⟩⟩⟩⟩
  | bloxroute r =>
    obtain ⟨prepared, hprepared, rfl⟩ := h
    obtain ⟨_, hmints, h₁⟩ := bind_eq_ok.mp hprepared
    obtain ⟨q₀, hquote, h₂⟩ := bind_eq_ok.mp h₁
    obtain ⟨q', hfee, h₃⟩ := bind_eq_ok.mp h₂
    obtain ⟨config, hconfig, h₄⟩ := bind_eq_ok.mp h₃
    obtain ⟨setup, hsetup, h₅⟩ := bind_eq_ok.mp h₄
    obtain ⟨swap, hswap, h₆⟩ := bind_eq_ok.mp h₅
    obtain ⟨_, howner, h₇⟩ := bind_eq_ok.mp h₆
    obtain ⟨-, rfl⟩ := Bloxroute.quoteFee_none hfee
    have hq := congrArg PreparedSwap.quote (pure_eq_ok.mp h₇)
    rw [← hq] at hdue ⊢
    exact ⟨_, bind_eq_ok.mpr ⟨(), hmints, bind_eq_ok.mpr ⟨q₀, hquote, bind_eq_ok.mpr
      ⟨_, Bloxroute.quoteFee_some_iff.mpr ⟨amount, hreports, hdue, rfl⟩,
        bind_eq_ok.mpr ⟨config, hconfig, bind_eq_ok.mpr ⟨setup, hsetup,
          bind_eq_ok.mpr ⟨swap, hswap, bind_eq_ok.mpr ⟨(), howner, rfl⟩⟩⟩⟩⟩⟩⟩, rfl⟩

/-- What the fee of an accepted quote is a share of. -/
def feeBasis (trade : Trade) (q : Quote) : ℕ :=
  match trade.side with
  | .buy => q.inAmount.toNat
  | .sell => q.expectedOut.toNat + q.applicationFee.toNat

/-- What is claimed of the fee of a sell, requested as `p`. -/
structure ExactOnSells (trade : Trade) (p : ProviderFee) : Prop where
  /-- Every gross output has its honest pair, and every adapter's fee step takes it. -/
  honest : ∀ (gross : UInt64) (q : Quote), q.expectedOut = gross - p.fee.amount gross →
    p.validateAmount q (p.fee.amount gross) p.fee.basisPoints.toUInt64 = .ok () ∧
      ∀ r : ProviderResponse, r.Reports trade p (p.fee.amount gross) →
        r.feeStep trade (some p) q = .ok { q with applicationFee := p.fee.amount gross }
  honest_accepted : ∀ (r : ProviderResponse) (payer : Option Pubkey) (gross : UInt64)
    (q : Quote), r.CollectsOnSells → q.expectedOut = gross - p.fee.amount gross →
      r.withoutFee.Accepts trade payer none q → r.Reports trade p (p.fee.amount gross) →
        r.Accepts trade payer (some p) { q with applicationFee := p.fee.amount gross }
  /-- Amounts that are accepted for one output differ by at most one. -/
  near_unique : p.fee.basisPoints.toNat ≤ 5000 → ∀ (q q' : Quote) (amount amount' bps : UInt64),
    q.expectedOut = q'.expectedOut → p.validateAmount q amount bps = .ok () →
    p.validateAmount q' amount' bps = .ok () → amount.toNat ≤ amount'.toNat + 1
  near_unique_accepted : p.fee.basisPoints.toNat ≤ 5000 →
    ∀ (r r' : ProviderResponse) (payer payer' : Option Pubkey) (q q' : Quote),
      r.Accepts trade payer (some p) q → r'.Accepts trade payer' (some p) q' →
      q.expectedOut = q'.expectedOut → q.applicationFee.toNat ≤ q'.applicationFee.toNat + 1

/-- **Provider-collected fees are the requested ones.** -/
theorem provider_fees_exact [Profile] (trade : Trade) (payer : Option Pubkey) :
    (∀ (r : ProviderResponse) (q : Quote), r.Accepts trade payer none q →
        r.ReportsNoFee ∧ q.applicationFee = 0) ∧
      ∀ (fee : SdkFee) (p : ProviderFee), ProviderFee.new fee trade = .ok p →
        (∀ (r : ProviderResponse) (q : Quote), r.Accepts trade payer (some p) q →
          q.applicationFee.toNat = feeBasis trade q * fee.basisPoints.toNat / 10000) ∧
        (trade.side = .sell → ExactOnSells trade p) := by
  constructor
  · intro r q h
    obtain ⟨q₀, hzero, hstep⟩ := feeStep_of_accepts h
    obtain ⟨hnone, rfl⟩ := feeStep_none hstep
    exact ⟨hnone, hzero⟩
  · intro fee p hnew
    obtain ⟨rfl, hside⟩ := ProviderFee.new_eq_ok hnew
    refine ⟨fun r q h => ?_, fun hsell => ?_⟩
    · have hshare := (due_of_accepts h).share
      rw [ProviderFee.basis, hside] at hshare
      exact hshare
    · rw [hsell] at hside
      constructor
      · intro gross q hq
        have hdue := ProviderFee.due_of_gross hside hq
        exact ⟨ProviderFee.validateAmount_eq_ok.mpr ⟨rfl, hdue⟩,
          fun r hr => feeStep_some_iff.mpr ⟨_, hr, hdue, rfl⟩⟩
      · intro r payer gross q hcollects hq h hreports
        exact accepts_of_due hcollects h hreports (ProviderFee.due_of_gross hside hq)
      · intro hbps q q' amount amount' bps hout h h'
        exact ProviderFee.due_unique hside hbps (ProviderFee.validateAmount_eq_ok.mp h).2
          (ProviderFee.validateAmount_eq_ok.mp h').2 hout
      · intro hbps r r' payer payer' q q' h h' hout
        exact ProviderFee.due_unique hside hbps (due_of_accepts h) (due_of_accepts h') hout

end ProviderResponse

/-! ### A sale with a fee of one percent -/

namespace ProviderResponse

def feeSale : Trade where
  settlement := .usdc
  wallet := sampleUser
  mint := sampleMint
  side := .sell
  amount := 5000
  slippageBps := 100
  venue := none
  pool := none
  quoteSource := some .dflow

def onePercentFee : SdkFee where
  recipient := sampleFeeRecipient
  basisPoints := 100
  collection := .provider
  relayFeeRecipient := none
  recipient_ne_default := sampleFeeRecipient_ne_zero
  basisPoints_lt := onePercent_lt
  relayFeeRecipient_valid := SdkFee.isRelayFeeRecipient_of_mem_none

/-- DFlow's quote of the sale: the fee leaves 990 of a gross output of 1000. -/
def feeSaleResponse : Aggregators.DFlow.QuoteResponse where
  inputMint := keyText sampleMint
  outputMint := keyText usdcMint
  inAmount := "5000"
  outAmount := "990"
  minOutAmount := "981"
  otherAmountThreshold := "981"
  slippageBps := 100
  platformFee := some
    { amount := "10"
      feeBps := 100
      feeAccount := some "GewoiTtgmMFV5vERJqe64UJXUW2ygmxtAxZ8mhpju1dH" }
  routePlan := ["pool"]

theorem provider_fees_exact_sale :
    let := sampleSdk
    let : Profile := ⟨true⟩
    ∃ p q, ProviderFee.new onePercentFee feeSale = .ok p ∧
      (dflow feeSaleResponse).Accepts feeSale none (some p) q ∧ q.applicationFee = 10 ∧
      q.applicationFee.toNat = feeBasis feeSale q * onePercentFee.basisPoints.toNat / 10000 := by
  intro sdk profile
  have hnew : ProviderFee.new onePercentFee feeSale = .ok ⟨onePercentFee, usdcMint, .sell⟩ := rfl
  have hquote : (DFlow.responseQuote feeSaleResponse feeSale
      (some ⟨onePercentFee, usdcMint, .sell⟩)).toOption.map Quote.applicationFee = some 10 := by
    decide +kernel
  obtain ⟨q, haccepts, hfee⟩ := toOption_map_eq_some.mp hquote
  exact ⟨_, q, hnew, haccepts, hfee,
    ((provider_fees_exact feeSale none).2 onePercentFee _ hnew).1 (dflow feeSaleResponse) q
      haccepts⟩

end ProviderResponse
end Solana
end TradingAggregators
