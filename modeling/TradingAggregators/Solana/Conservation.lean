import TradingAggregators.Solana.Preparing
import TradingAggregators.Solana.Reimbursement

/-!
# Fees are conserved

A prepared swap has passed up to four steps that each take a fee: the SDK fee and the
sponsor's ceiling come off the amount that is routed, and afterwards off the output of the
route.  On buys only the first two take anything, on sells only the last two.

## 1.  What a step takes

`TakesInput` and `TakesOutput` say what one step does to the trade and to the quote; they
compose (`TakesInput.trans`, `TakesOutput.trans`), so the fees of several steps add up.
Each function of the source has one lemma that its success is such a step
(`tradeAfterFee_eq_ok`, `reserveFee_eq_ok`, `applyWithPayer_eq_ok`, `applyToSwap_takes`).

## 2.  What the appended instructions take

`outflow` reads the amount that an instruction moves out of a wallet from its program, its
accounts and its data.

## 3.  Conservation

`fees_conserved` assembles the steps along a run of `prepare_selected_swap`.
-/

namespace TradingAggregators
namespace Solana

open Interaction Interaction.Program Rust Wire

/-! ## 1.  What a step takes -/

/-- A step that takes `fee` off the amount to route, on buys only. -/
structure TakesInput (fee : ℕ) (trade routed : Trade) : Prop where
  rest : routed = { trade with amount := routed.amount }
  buy : trade.side = .buy → routed.amount.toNat + fee = trade.amount.toNat
  sell : trade.side = .sell → routed.amount = trade.amount

theorem TakesInput.refl (trade : Trade) : TakesInput 0 trade trade :=
  ⟨rfl, fun _ => rfl, fun _ => rfl⟩

theorem TakesInput.of_buy {fee : ℕ} {trade routed : Trade} (hside : trade.side = .buy)
    (hrest : routed = { trade with amount := routed.amount })
    (hamount : routed.amount.toNat + fee = trade.amount.toNat) : TakesInput fee trade routed where
  rest := hrest
  buy _ := hamount
  sell hsell := absurd (hside.symm.trans hsell) (by decide)

theorem TakesInput.of_sell {fee : ℕ} {trade : Trade} (hside : trade.side = .sell) :
    TakesInput fee trade trade where
  rest := rfl
  buy hbuy := absurd (hside.symm.trans hbuy) (by decide)
  sell _ := rfl

theorem TakesInput.side {fee : ℕ} {trade routed : Trade} (h : TakesInput fee trade routed) :
    routed.side = trade.side := by
  rw [h.rest]

theorem TakesInput.settlement {fee : ℕ} {trade routed : Trade}
    (h : TakesInput fee trade routed) : routed.settlement = trade.settlement := by
  rw [h.rest]

theorem TakesInput.trans {fee fee' : ℕ} {trade routed routed' : Trade}
    (h : TakesInput fee trade routed) (h' : TakesInput fee' routed routed') :
    TakesInput (fee + fee') trade routed' := by
  refine ⟨?_, fun hbuy => ?_, fun hsell => ?_⟩
  · have hrest := h'.rest
    rw [h.rest] at hrest
    exact hrest
  · have h₁ := h.buy hbuy
    have h₂ := h'.buy (h.side.trans hbuy)
    omega
  · rw [h'.sell (h.side.trans hsell), h.sell hsell]

/-- A step that takes `fee` off what the wallet is quoted to receive, on sells only. -/
structure TakesOutput (side : Side) (fee : ℕ) (quote charged : Quote) : Prop where
  buy : side = .buy → charged.expectedOut = quote.expectedOut ∧ charged.minOut = quote.minOut
  sell : side = .sell → charged.expectedOut.toNat + fee = quote.expectedOut.toNat ∧
    charged.minOut.toNat + fee = quote.minOut.toNat

theorem TakesOutput.refl (side : Side) (quote : Quote) : TakesOutput side 0 quote quote :=
  ⟨fun _ => ⟨rfl, rfl⟩, fun _ => ⟨rfl, rfl⟩⟩

theorem TakesOutput.of_buy {fee : ℕ} {quote charged : Quote}
    (hexpected : charged.expectedOut = quote.expectedOut)
    (hmin : charged.minOut = quote.minOut) : TakesOutput .buy fee quote charged where
  buy _ := ⟨hexpected, hmin⟩
  sell hsell := absurd hsell (by decide)

theorem TakesOutput.of_sell {fee : ℕ} {quote charged : Quote}
    (hexpected : charged.expectedOut.toNat + fee = quote.expectedOut.toNat)
    (hmin : charged.minOut.toNat + fee = quote.minOut.toNat) :
    TakesOutput .sell fee quote charged where
  buy hbuy := absurd hbuy (by decide)
  sell _ := ⟨hexpected, hmin⟩

theorem TakesOutput.trans {side : Side} {fee fee' : ℕ} {quote charged charged' : Quote}
    (h : TakesOutput side fee quote charged) (h' : TakesOutput side fee' charged charged') :
    TakesOutput side (fee + fee') quote charged' := by
  refine ⟨fun hbuy => ?_, fun hsell => ?_⟩
  · obtain ⟨he, hm⟩ := h.buy hbuy
    obtain ⟨he', hm'⟩ := h'.buy hbuy
    exact ⟨he'.trans he, hm'.trans hm⟩
  · obtain ⟨he, hm⟩ := h.sell hsell
    obtain ⟨he', hm'⟩ := h'.sell hsell
    omega

/-- The output of a quote that can be promised to a wallet. -/
def Quote.Positive (quote : Quote) : Prop :=
  0 < quote.minOut.toNat ∧ quote.minOut.toNat ≤ quote.expectedOut.toNat

/-! ### The SDK fee -/

namespace SdkFee

variable [Profile]

theorem tradeAfterFee_eq_ok {fee : SdkFee} {trade routed : Trade}
    (h : fee.tradeAfterFee trade = .ok routed) :
    TakesInput (fee.amount trade.amount).toNat trade routed := by
  unfold tradeAfterFee at h
  obtain ⟨-, -, h₁⟩ := bind_eq_ok.mp h
  obtain ⟨-, -, h₂⟩ := bind_eq_ok.mp h₁
  obtain ⟨c, hc, hsum⟩ := sub64_of_le (ε := TradeError) (fee.amount_le trade.amount)
  cases hside : trade.side with
  | buy =>
    simp only [hside, hc, ok_bind, pure_eq_ok] at h₂
    rw [← h₂]
    exact .of_buy hside (by rw [hside]) hsum
  | sell =>
    simp only [hside, pure_eq_ok] at h₂
    rw [← h₂]
    exact .of_sell hside

theorem safe_tradeAfterFee (fee : SdkFee) (trade : Trade) : Safe (fee.tradeAfterFee trade) := by
  refine .bind (.failIf _ _) fun _ _ => .bind (.failIf _ _) fun _ _ => ?_
  cases trade.side with
  | buy => exact .bind (.sub64 (fee.amount_le _)) fun _ _ => .ok _
  | sell => exact .ok _

/-- The amount an SDK fee is a share of. -/
def basis (trade : Trade) (quote : Quote) : UInt64 :=
  match trade.side with
  | .buy => trade.amount
  | .sell => quote.expectedOut

theorem quoteAfterFee_eq_ok {fee : SdkFee} {trade : Trade} {quote charged : Quote}
    (h : fee.quoteAfterFee trade quote = .ok charged) :
    charged.applicationFee = fee.amount (basis trade quote) ∧
      charged.sponsorshipFee = quote.sponsorshipFee ∧ charged.Positive ∧
      TakesOutput trade.side charged.applicationFee.toNat quote charged := by
  unfold quoteAfterFee at h
  obtain ⟨_, hvalid, h₁⟩ := bind_eq_ok.mp h
  rw [failIf_eq_ok, not_or, UInt64.not_lt] at hvalid
  have hmin : 0 < quote.minOut.toNat :=
    Nat.pos_of_ne_zero fun h0 => hvalid.1 (UInt64.toNat_inj.mp h0)
  have hle : quote.minOut.toNat ≤ quote.expectedOut.toNat := UInt64.le_iff_toNat_le.mp hvalid.2
  cases hside : trade.side with
  | buy =>
    simp only [hside, pure_eq_ok] at h₁
    rw [← h₁]
    exact ⟨by simp only [basis, hside], rfl, ⟨hmin, hle⟩, .of_buy rfl rfl⟩
  | sell =>
    simp only [hside] at h₁
    obtain ⟨_, hfee, h₂⟩ := bind_eq_ok.mp h₁
    rw [failIf_eq_ok, ge_iff_le, UInt64.not_le] at hfee
    have hfee' : (fee.amount quote.expectedOut).toNat < quote.minOut.toNat :=
      UInt64.lt_iff_toNat_lt.mp hfee
    obtain ⟨e, he, hesum⟩ := sub64_of_le (ε := TradeError) (fee.amount_le quote.expectedOut)
    obtain ⟨m, hm, hmsum⟩ := sub64_of_le (ε := TradeError)
      (UInt64.le_iff_toNat_le.mpr hfee'.le)
    simp only [he, hm, ok_bind, pure_eq_ok] at h₂
    rw [← h₂]
    refine ⟨by simp only [basis, hside], rfl, ⟨?_, ?_⟩, .of_sell hesum hmsum⟩
    · show 0 < m.toNat
      omega
    · show m.toNat ≤ e.toNat
      omega

theorem safe_quoteAfterFee (fee : SdkFee) (trade : Trade) (quote : Quote) :
    Safe (fee.quoteAfterFee trade quote) := by
  refine .bind (.failIf _ _) fun _ _ => ?_
  cases hside : trade.side with
  | buy => exact .ok _
  | sell =>
    refine .bind (.failIf _ _) fun _ hfee => ?_
    rw [failIf_eq_ok, ge_iff_le, UInt64.not_le] at hfee
    refine .bind (.sub64 (fee.amount_le _)) fun _ _ => ?_
    exact .bind (.sub64 (UInt64.le_of_lt hfee)) fun _ _ => .ok _

end SdkFee

/-! ### The sponsor's ceiling -/

theorem subtractFee_eq_ok {amount fee rest : UInt64} (h : subtractFee amount fee = .ok rest) :
    rest.toNat + fee.toNat = amount.toNat ∧ 0 < rest.toNat := by
  rw [subtractFee, okOr_eq_ok, Option.filter_eq_some_iff] at h
  exact ⟨checkedSub64_eq_some h.1, UInt64.lt_iff_toNat_lt.mp (of_decide_eq_true h.2)⟩

namespace GasSponsor

theorem reserveFee_eq_ok {sponsor : GasSponsor} {trade routed : Trade}
    (h : sponsor.reserveFee trade = .ok routed) :
    TakesInput sponsor.costPolicy.maxFeeUsdc.toNat trade routed := by
  unfold reserveFee at h
  obtain ⟨-, -, h₁⟩ := bind_eq_ok.mp h
  obtain ⟨-, -, h₂⟩ := bind_eq_ok.mp h₁
  cases hside : trade.side with
  | buy =>
    simp only [hside] at h₂
    obtain ⟨amount, hamount, h₃⟩ := bind_eq_ok.mp h₂
    rw [pure_eq_ok] at h₃
    rw [← h₃]
    exact .of_buy hside (by rw [hside]) (subtractFee_eq_ok hamount).1
  | sell =>
    simp only [hside, pure_eq_ok] at h₂
    rw [← h₂]
    exact .of_sell hside

theorem safe_reserveFee (sponsor : GasSponsor) (trade : Trade) :
    Safe (sponsor.reserveFee trade) := by
  refine .bind (.failIf _ _) fun _ _ => .bind (.failIf _ _) fun _ _ => ?_
  cases trade.side with
  | buy => exact .bind (.okOr _ _) fun _ _ => .ok _
  | sell => exact .ok _

variable [Sdk]

theorem applyToSwap_takes {sponsor : GasSponsor} {trade : Trade} {route prepared : PreparedSwap}
    (h : sponsor.applyToSwap trade route = .ok prepared) (hpos : route.quote.Positive) :
    prepared.quote.inAmount = trade.amount ∧
      prepared.quote.applicationFee = route.quote.applicationFee ∧ prepared.quote.Positive ∧
      TakesOutput trade.side sponsor.costPolicy.maxFeeUsdc.toNat route.quote prepared.quote := by
  unfold applyToSwap at h
  cases hside : trade.side with
  | buy =>
    simp only [hside, appendUsdcFee_eq, pure_bind, ok_bind, pure_eq_ok] at h
    rw [← h]
    exact ⟨rfl, rfl, hpos, .of_buy rfl rfl⟩
  | sell =>
    simp only [hside, appendUsdcFee_eq, ok_bind, pure_bind] at h
    obtain ⟨m, hm, h₁⟩ := bind_eq_ok.mp h
    obtain ⟨e, he, h₂⟩ := bind_eq_ok.mp h₁
    rw [pure_eq_ok] at h₂
    obtain ⟨hmsum, hmpos⟩ := subtractFee_eq_ok hm
    obtain ⟨hesum, -⟩ := subtractFee_eq_ok he
    have hle := hpos.2
    rw [← h₂]
    refine ⟨rfl, rfl, ⟨hmpos, ?_⟩, .of_sell hesum hmsum⟩
    show m.toNat ≤ e.toNat
    omega

theorem safe_applyToSwap (sponsor : GasSponsor) (trade : Trade) (route : PreparedSwap) :
    Safe (sponsor.applyToSwap trade route) := by
  unfold applyToSwap
  simp only [appendUsdcFee_eq, ok_bind]
  cases trade.side with
  | buy => exact .ok _
  | sell => exact .bind (.okOr _ _) fun _ _ => .bind (.okOr _ _) fun _ _ => .ok _

end GasSponsor

/-! ## 2.  What the appended instructions take -/

/-- The amount that an instruction moves out of a wallet: of a System transfer from it or of
a token transfer it authorises. -/
def outflow (wallet : Pubkey) (ix : Instruction) : ℕ :=
  if ix.programId = systemProgram ∧ ix.data.take 4 = le32 sysTransfer ∧
      ix.accounts.head?.map AccountMeta.pubkey = some wallet then
    ofLeBytes (ix.data.drop 4)
  else if ix.programId = tokenProgram ∧
      ix.accounts[3]?.map AccountMeta.pubkey = some wallet then
    match unpackTransferChecked ix.data with
    | some (amount, _) => amount.toNat
    | none => 0
  else 0

theorem programs_ne : tokenProgram ≠ systemProgram ∧ ataProgram ≠ systemProgram ∧
    ataProgram ≠ tokenProgram := by
  decide

theorem outflow_systemTransfer (wallet recipient : Pubkey) (amount : UInt64) :
    outflow wallet (systemTransfer wallet recipient amount) = amount.toNat := by
  have htake : (le32 sysTransfer ++ le64 amount).take 4 = le32 sysTransfer :=
    List.take_left' (length_le32 _)
  have hdrop : (le32 sysTransfer ++ le64 amount).drop 4 = le64 amount :=
    List.drop_left' (length_le32 _)
  have hread : ofLeBytes ((le32 sysTransfer ++ le64 amount).drop 4) = amount.toNat := by
    rw [hdrop, ofLeBytes_le64]
  unfold outflow
  split_ifs with hsystem
  · exact hread
  · exact absurd ⟨rfl, htake, rfl⟩ hsystem
  · exact absurd ⟨rfl, htake, rfl⟩ hsystem

section Instructions

variable [Sdk]

theorem outflow_usdcTransfer (wallet recipient : Pubkey) (amount : UInt64) :
    outflow wallet (usdcTransfer wallet recipient amount) = amount.toNat := by
  have hread : unpackTransferChecked (usdcTransfer wallet recipient amount).data =
      some (amount, usdcDecimals) := unpackTransferChecked_data amount usdcDecimals
  unfold outflow
  split_ifs with hsystem htoken
  · exact absurd hsystem.1 programs_ne.1
  · rw [hread]
  · exact absurd ⟨rfl, rfl⟩ htoken

theorem outflow_createAta (wallet payer owner mint program : Pubkey) :
    outflow wallet (createAtaIdempotent payer owner mint program) = 0 := by
  unfold outflow
  split_ifs with hsystem htoken
  · exact absurd hsystem.1 programs_ne.2.1
  · exact absurd htoken.1 programs_ne.2.2
  · rfl

/-- The instructions that fees are made of, in the currency of the trade's settlement. -/
inductive FeeInstruction (trade : Trade) : Instruction → Prop where
  | lamports (recipient : Pubkey) (amount : UInt64) : trade.settlement = .sol →
      FeeInstruction trade (systemTransfer trade.wallet recipient amount)
  | usdcAccount (payer recipient : Pubkey) : trade.settlement = .usdc →
      FeeInstruction trade (createAtaIdempotent payer recipient usdcMint tokenProgram)
  | usdc (recipient : Pubkey) (amount : UInt64) : trade.settlement = .usdc →
      FeeInstruction trade (usdcTransfer trade.wallet recipient amount)

/-- `ixs'` is `ixs` followed by fee instructions that move `amount` out of the wallet. -/
def AppendsFees (trade : Trade) (amount : ℕ) (ixs ixs' : List Instruction) : Prop :=
  ∃ fees, ixs' = ixs ++ fees ∧ (∀ ix ∈ fees, FeeInstruction trade ix) ∧
    (fees.map (outflow trade.wallet)).sum = amount

namespace AppendsFees

theorem refl (trade : Trade) (ixs : List Instruction) : AppendsFees trade 0 ixs ixs :=
  ⟨[], (List.append_nil ixs).symm, by simp, rfl⟩

theorem trans {trade : Trade} {amount amount' : ℕ} {ixs ixs' ixs'' : List Instruction}
    (h : AppendsFees trade amount ixs ixs') (h' : AppendsFees trade amount' ixs' ixs'') :
    AppendsFees trade (amount + amount') ixs ixs'' := by
  obtain ⟨fees, hixs, hfees, hsum⟩ := h
  obtain ⟨fees', hixs', hfees', hsum'⟩ := h'
  refine ⟨fees ++ fees', ?_, fun ix hix => ?_, ?_⟩
  · rw [hixs', hixs, List.append_assoc]
  · exact (List.mem_append.mp hix).elim (hfees ix) (hfees' ix)
  · rw [List.map_append, List.sum_append, hsum, hsum']

theorem lamports {trade : Trade} (hsol : trade.settlement = .sol) (recipient : Pubkey)
    (amount : UInt64) (ixs : List Instruction) : AppendsFees trade amount.toNat ixs
      (ixs ++ [systemTransfer trade.wallet recipient amount]) := by
  refine ⟨_, rfl, fun ix hix => ?_, ?_⟩
  · rw [List.mem_singleton.mp hix]
    exact .lamports recipient amount hsol
  · simp only [List.map_cons, List.map_nil, List.sum_cons, List.sum_nil, outflow_systemTransfer,
      Nat.add_zero]

theorem usdc {trade : Trade} (husdc : trade.settlement = .usdc) (payer recipient : Pubkey)
    (amount : UInt64) (ixs : List Instruction) : AppendsFees trade amount.toNat ixs
      (ixs ++ [createAtaIdempotent payer recipient usdcMint tokenProgram] ++
        [usdcTransfer trade.wallet recipient amount]) := by
  refine ⟨_, List.append_assoc _ _ _, fun ix hix => ?_, ?_⟩
  · rcases List.mem_append.mp hix with hix | hix
    · rw [List.mem_singleton.mp hix]
      exact .usdcAccount payer recipient husdc
    · rw [List.mem_singleton.mp hix]
      exact .usdc recipient amount husdc
  · simp only [List.cons_append, List.nil_append, List.map_cons, List.map_nil, List.sum_cons,
      List.sum_nil, outflow_createAta, outflow_usdcTransfer, Nat.zero_add, Nat.add_zero]

end AppendsFees

variable [Profile]

theorem SdkFee.applyWithPayer_eq_ok {fee : SdkFee} {trade : Trade}
    {route prepared : PreparedSwap} {payer : Pubkey}
    (h : fee.applyWithPayer trade route payer = .ok prepared) :
    fee.quoteAfterFee trade route.quote = .ok prepared.quote ∧
      AppendsFees trade prepared.quote.applicationFee.toNat route.instructions
        prepared.instructions := by
  unfold SdkFee.applyWithPayer at h
  obtain ⟨quote, hquote, h₁⟩ := bind_eq_ok.mp h
  by_cases hfee : quote.applicationFee > 0
  · cases hsettlement : trade.settlement with
    | sol =>
      simp only [hfee, if_true, hsettlement, pure_eq_ok] at h₁
      rw [← h₁]
      exact ⟨hquote, .lamports hsettlement _ _ _⟩
    | usdc =>
      simp only [hfee, if_true, hsettlement, appendUsdcFee_eq, ok_bind, pure_eq_ok] at h₁
      rw [← h₁]
      exact ⟨hquote, .usdc hsettlement _ _ _ _⟩
  · have hzero : quote.applicationFee.toNat = 0 := by
      rw [gt_iff_lt, UInt64.lt_iff_toNat_lt] at hfee
      exact Nat.eq_zero_of_not_pos hfee
    simp only [hfee, if_false, pure_eq_ok] at h₁
    rw [← h₁]
    refine ⟨hquote, ?_⟩
    show AppendsFees trade quote.applicationFee.toNat _ _
    rw [hzero]
    exact .refl trade _

theorem SdkFee.safe_applyWithPayer (fee : SdkFee) (trade : Trade) (route : PreparedSwap)
    (payer : Pubkey) : Safe (fee.applyWithPayer trade route payer) := by
  refine .bind (fee.safe_quoteAfterFee trade _) fun quote _ => ?_
  by_cases hfee : quote.applicationFee > 0
  · simp only [hfee, if_true, appendUsdcFee_eq, ok_bind]
    cases trade.settlement with
    | sol => exact .ok _
    | usdc => exact .ok _
  · simp only [hfee, if_false]
    exact .ok _

end Instructions

/-! ## 3.  Conservation -/

/-- The part of a basis that an SDK transfer takes. -/
def transferAmount (transferFee : Option SdkFee) (basis : UInt64) : UInt64 :=
  match transferFee with
  | some fee => fee.amount basis
  | none => 0

/-- What a client reserves for its sponsor. -/
def TradingClient.ceiling (client : TradingClient) (trade : Trade) : UInt64 :=
  match client.sponsorFor trade with
  | some sponsor => sponsor.costPolicy.maxFeeUsdc
  | none => 0

theorem settlement_of_sponsorFor {client : TradingClient} {trade : Trade} {sponsor : GasSponsor}
    (h : client.sponsorFor trade = some sponsor) : trade.settlement = .usdc :=
  of_decide_eq_true (Option.filter_eq_some_iff.mp h).2

namespace TradingClient

theorem transferFee_none (client : TradingClient) : client.transferFee none = client.sdkFee := by
  rw [transferFee]
  cases client.sdkFee <;> rfl

theorem transferFee_some (client : TradingClient) (fee : ProviderFee) :
    client.transferFee (some fee) = none := by
  rw [transferFee]
  cases client.sdkFee <;> rfl

section Route

variable [Profile]

/-- The two steps that come before the route. -/
theorem routedTrade_eq (client : TradingClient) (trade : Trade) (transferFee : Option SdkFee) :
    client.routedTrade trade transferFee =
      (match transferFee with
        | some fee => fee.tradeAfterFee trade
        | none => .ok trade : TradeResult Trade) >>= fun routed =>
        match client.sponsorFor trade with
        | some sponsor => sponsor.reserveFee routed
        | none => .ok routed := by
  cases transferFee <;> rfl

theorem routedTrade_eq_ok {client : TradingClient} {trade routed : Trade}
    {transferFee : Option SdkFee} (h : client.routedTrade trade transferFee = .ok routed) :
    TakesInput ((transferAmount transferFee trade.amount).toNat + (client.ceiling trade).toNat)
      trade routed := by
  rw [routedTrade_eq] at h
  obtain ⟨first, hfirst, h₁⟩ := bind_eq_ok.mp h
  have hsdk : TakesInput (transferAmount transferFee trade.amount).toNat trade first := by
    cases transferFee with
    | none =>
      rw [← Except.ok.inj hfirst]
      exact .refl trade
    | some fee => exact SdkFee.tradeAfterFee_eq_ok hfirst
  refine hsdk.trans ?_
  unfold ceiling
  cases hsponsor : client.sponsorFor trade with
  | none =>
    rw [hsponsor] at h₁
    rw [← Except.ok.inj h₁]
    exact .refl first
  | some sponsor =>
    rw [hsponsor] at h₁
    exact GasSponsor.reserveFee_eq_ok h₁

theorem safe_routedTrade (client : TradingClient) (trade : Trade)
    (transferFee : Option SdkFee) : Safe (client.routedTrade trade transferFee) := by
  rw [routedTrade_eq]
  refine .bind ?_ fun routed _ => ?_
  · cases transferFee with
    | none => exact .ok trade
    | some fee => exact fee.safe_tradeAfterFee trade
  · cases client.sponsorFor trade with
    | none => exact .ok routed
    | some sponsor => exact sponsor.safe_reserveFee routed

theorem safe_providerFee (client : TradingClient) (trade : Trade) (source : QuoteSource) :
    Safe (client.providerFee trade source) := by
  unfold providerFee
  split
  · exact .ok none
  · next fee _ =>
    refine .bind (.failIf _ _) fun _ _ => .bind ?_ fun _ _ => .ok _
    exact .bind (fee.safe_tradeAfterFee trade) fun _ _ => .ok _

end Route

section Append

variable [Sdk]

/-- What the appended fees leave of a route's quote and instructions. -/
structure Charged (client : TradingClient) (trade : Trade) (transferFee : Option SdkFee)
    (route charged : PreparedSwap) : Prop where
  inAmount : charged.quote.inAmount = trade.amount
  positive : charged.quote.Positive
  applicationFee : charged.quote.applicationFee = match transferFee with
    | some fee => fee.amount (SdkFee.basis trade route.quote)
    | none => route.quote.applicationFee
  sponsorshipFee : route.quote.sponsorshipFee = 0 →
    charged.quote.sponsorshipFee = client.ceiling trade
  output : TakesOutput trade.side
    ((transferAmount transferFee (SdkFee.basis trade route.quote)).toNat +
      (client.ceiling trade).toNat) route.quote charged.quote
  instructions : AppendsFees trade
    ((transferAmount transferFee (SdkFee.basis trade route.quote)).toNat +
      (client.ceiling trade).toNat) route.instructions charged.instructions

/-- The sponsor's part of `append_fees`. -/
theorem sponsored_eq_ok {client : TradingClient} {trade : Trade} {route charged : PreparedSwap}
    (h : (match client.sponsorFor trade with
      | some sponsor => sponsor.applyToSwap trade route
      | none => .ok route : TradeResult PreparedSwap) = .ok charged)
    (hin : route.quote.inAmount = trade.amount) (hpos : route.quote.Positive) :
    Charged client trade none route charged := by
  have hzero : (transferAmount none (SdkFee.basis trade route.quote)).toNat = 0 := rfl
  cases hsponsor : client.sponsorFor trade with
  | none =>
    have hceiling : client.ceiling trade = 0 := by rw [ceiling, hsponsor]
    rw [hsponsor] at h
    rw [← Except.ok.inj h]
    refine ⟨hin, hpos, rfl, fun h0 => h0.trans hceiling.symm, ?_, ?_⟩
    · rw [hzero, hceiling]
      exact .refl _ _
    · rw [hzero, hceiling]
      exact .refl _ _
  | some sponsor =>
    have hceiling : client.ceiling trade = sponsor.costPolicy.maxFeeUsdc := by
      rw [ceiling, hsponsor]
    rw [hsponsor] at h
    obtain ⟨hixs, -, hfee⟩ := GasSponsor.applyToSwap_eq_ok h
    obtain ⟨hin', happ, hpos', htakes⟩ := GasSponsor.applyToSwap_takes h hpos
    refine ⟨hin', hpos', happ, fun _ => hfee.trans hceiling.symm, ?_, ?_⟩
    · rw [hzero, hceiling, Nat.zero_add]
      exact htakes
    · rw [hzero, hceiling, Nat.zero_add, hixs]
      exact .usdc (settlement_of_sponsorFor hsponsor) _ _ _ _

variable [Profile]

/-- The two steps that come after the route. -/
theorem appendFees_eq (client : TradingClient) (trade : Trade) (route : PreparedSwap)
    (transferFee : Option SdkFee) :
    client.appendFees trade route transferFee =
      (match transferFee with
        | some fee => fee.applyWithPayer trade route
            (((client.sponsorFor trade).map GasSponsor.wallet).getD trade.wallet)
        | none => .ok route : TradeResult PreparedSwap) >>= fun paid =>
        match client.sponsorFor trade with
        | some sponsor => sponsor.applyToSwap trade
            { paid with quote := { paid.quote with inAmount := trade.amount } }
        | none => .ok { paid with quote := { paid.quote with inAmount := trade.amount } } := by
  cases transferFee <;> rfl

theorem appendFees_eq_ok {client : TradingClient} {trade : Trade}
    {transferFee : Option SdkFee} {route charged : PreparedSwap}
    (h : client.appendFees trade route transferFee = .ok charged)
    (hpos : route.quote.Positive) : Charged client trade transferFee route charged := by
  rw [appendFees_eq] at h
  obtain ⟨paid, hpaid, h₁⟩ := bind_eq_ok.mp h
  cases transferFee with
  | none =>
    rw [← Except.ok.inj hpaid] at h₁
    have hsponsored := sponsored_eq_ok h₁ rfl hpos
    exact ⟨hsponsored.inAmount, hsponsored.positive, hsponsored.applicationFee,
      hsponsored.sponsorshipFee, ⟨hsponsored.output.buy, hsponsored.output.sell⟩,
      hsponsored.instructions⟩
  | some fee =>
    obtain ⟨hquote, happends⟩ := SdkFee.applyWithPayer_eq_ok hpaid
    obtain ⟨hfee, hsponsorship, hpos', htakes⟩ := SdkFee.quoteAfterFee_eq_ok hquote
    have hsponsored := sponsored_eq_ok h₁ rfl hpos'
    have houtput := hsponsored.output
    have hixs := hsponsored.instructions
    rw [show (transferAmount none _).toNat = 0 from rfl, Nat.zero_add] at houtput hixs
    rw [hfee] at htakes happends
    refine ⟨hsponsored.inAmount, hsponsored.positive, hsponsored.applicationFee.trans hfee,
      fun h0 => hsponsored.sponsorshipFee (hsponsorship.trans h0), ?_, happends.trans hixs⟩
    exact htakes.trans ⟨houtput.buy, houtput.sell⟩

theorem safe_appendFees (client : TradingClient) (trade : Trade) (route : PreparedSwap)
    (transferFee : Option SdkFee) : Safe (client.appendFees trade route transferFee) := by
  rw [appendFees_eq]
  refine .bind ?_ fun paid _ => ?_
  · cases transferFee with
    | none => exact .ok route
    | some fee => exact fee.safe_applyWithPayer trade route _
  · cases client.sponsorFor trade with
    | none => exact .ok _
    | some sponsor => exact sponsor.safe_applyToSwap trade _

end Append

end TradingClient

theorem validateCandidate_eq_ok {routed : Trade} {route : PreparedSwap} {providerFee : Bool}
    {u : Unit} (h : validateCandidate routed route providerFee = .ok u) :
    route.quote.inAmount = routed.amount ∧
      (providerFee = false → route.quote.applicationFee = 0) ∧
      route.quote.sponsorshipFee = 0 ∧ route.quote.Positive ∧ route.instructions ≠ [] := by
  rw [validateCandidate, failIf_eq_ok] at h
  simp only [not_or, not_and, not_not, ne_eq, gt_iff_lt, UInt64.not_lt] at h
  obtain ⟨hin, happ, hsponsorship, hmin, hle, hixs⟩ := h
  have hpos : 0 < route.quote.minOut.toNat :=
    Nat.pos_of_ne_zero fun h0 => hmin (UInt64.toNat_inj.mp h0)
  exact ⟨hin, happ, hsponsorship, ⟨hpos, UInt64.le_iff_toNat_le.mp hle⟩, hixs⟩

/-- The application fee that the SDK collects by a transfer of its own. -/
def collectedBySdk (providerFee : Option ProviderFee) (prepared : PreparedSwap) : ℕ :=
  match providerFee with
  | some _ => 0
  | none => prepared.quote.applicationFee.toNat

section Client

variable [Sdk]

/-- The fees of a prepared swap, accounted for: `a` is what the SDK collects and `s` the
sponsor's ceiling. -/
structure Conserved (trade routed : Trade) (route prepared : PreparedSwap) (a s : ℕ) :
    Prop where
  buy : trade.side = .buy → routed.amount.toNat + a + s = trade.amount.toNat ∧
    prepared.quote.expectedOut = route.quote.expectedOut ∧
    prepared.quote.minOut = route.quote.minOut
  sell : trade.side = .sell → routed.amount = trade.amount ∧
    prepared.quote.expectedOut.toNat + a + s = route.quote.expectedOut.toNat ∧
    prepared.quote.minOut.toNat + a + s = route.quote.minOut.toNat
  inAmount : prepared.quote.inAmount = trade.amount
  minOut_pos : 0 < prepared.quote.minOut
  minOut_le : prepared.quote.minOut ≤ prepared.quote.expectedOut
  instructions : AppendsFees trade (a + s) route.instructions prepared.instructions
  /-- A fee that the provider collects is never charged again by the SDK. -/
  once : route.quote.applicationFee = 0 ∨ a = 0

/-- The SDK transfer of a prepared swap is the fee that the SDK collects. -/
theorem collectedBySdk_eq {client : TradingClient} {trade routed : Trade}
    {providerFee : Option ProviderFee} {route charged : PreparedSwap}
    (hcandidate : validateCandidate routed route providerFee.isSome = .ok ())
    (hcharged : client.Charged trade (client.transferFee providerFee) route charged) :
    collectedBySdk providerFee charged = (transferAmount (client.transferFee providerFee)
      (SdkFee.basis trade route.quote)).toNat := by
  obtain ⟨-, happ, -⟩ := validateCandidate_eq_ok hcandidate
  have hfee := hcharged.applicationFee
  cases providerFee with
  | some fee =>
    rw [client.transferFee_some]
    rfl
  | none =>
    rw [client.transferFee_none] at hfee ⊢
    show charged.quote.applicationFee.toNat = _
    rw [hfee]
    cases client.sdkFee with
    | some fee => rfl
    | none =>
      show route.quote.applicationFee.toNat = 0
      rw [happ rfl]
      rfl

variable [Profile]

/-- The steps of a run that prepares a swap, put together. -/
theorem runs_conserved {client : TradingClient} {trade : Trade} {tr : Trace Answer}
    {prepared : PreparedSwap}
    (hrun : (client.prepareSelectedSwap trade).Runs () tr (.ok prepared) ()) :
    ∃ providerFee routed route charged,
      PreparedFrom client trade tr providerFee routed route charged prepared ∧
      Conserved trade routed route prepared (collectedBySdk providerFee prepared)
        prepared.quote.sponsorshipFee.toNat := by
  obtain ⟨providerFee, routed, route, charged, hfrom⟩ := runs_prepareSelectedSwap hrun
  refine ⟨providerFee, routed, route, charged, hfrom, ?_⟩
  obtain ⟨-, happ, hsponsorship, hpos, -⟩ := validateCandidate_eq_ok hfrom.candidate
  have hinput := TradingClient.routedTrade_eq_ok hfrom.reserved
  have hcharged := TradingClient.appendFees_eq_ok hfrom.appended hpos
  have ha := collectedBySdk_eq hfrom.candidate hcharged
  have hs := hcharged.sponsorshipFee hsponsorship
  have houtput := hcharged.output
  have hixs := hcharged.instructions
  rw [← ha, ← hs] at houtput hixs
  rw [← hs] at hinput
  obtain ⟨usdValue, rfl⟩ := hfrom.shown
  have hbuy : trade.side = .buy → routed.amount.toNat + collectedBySdk providerFee charged +
      charged.quote.sponsorshipFee.toNat = trade.amount.toNat := by
    intro hside
    have hbasis : SdkFee.basis trade route.quote = trade.amount := by
      rw [SdkFee.basis, hside]
    have htotal := hinput.buy hside
    rw [hbasis] at ha
    omega
  refine ⟨fun hside => ⟨hbuy hside, houtput.buy hside⟩, fun hside => ⟨hinput.sell hside, ?_, ?_⟩,
    hcharged.inAmount, UInt64.lt_iff_toNat_lt.mpr hcharged.positive.1,
    UInt64.le_iff_toNat_le.mpr hcharged.positive.2, hixs, ?_⟩
  · rw [Nat.add_assoc]
    exact (houtput.sell hside).1
  · rw [Nat.add_assoc]
    exact (houtput.sell hside).2
  · cases providerFee with
    | some fee => exact Or.inr rfl
    | none => exact Or.inl (happ rfl)

/-- **Fees are conserved**: what is routed and what the wallet receives differ from what the
trade spends and what the route yields by exactly the fees that the appended instructions
transfer.  None of the arithmetic leaves its range, whatever the build profile. -/
theorem fees_conserved (client : TradingClient) (trade : Trade) :
    ((∀ source, Safe (client.providerFee trade source)) ∧
      (∀ transferFee, Safe (client.routedTrade trade transferFee)) ∧
      ∀ route transferFee, Safe (client.appendFees trade route transferFee)) ∧
    ∀ tr prepared, (client.prepareSelectedSwap trade).Runs () tr (.ok prepared) () →
      ∃ providerFee routed route charged,
        PreparedFrom client trade tr providerFee routed route charged prepared ∧
        Conserved trade routed route prepared (collectedBySdk providerFee prepared)
          prepared.quote.sponsorshipFee.toNat := by
  exact ⟨⟨client.safe_providerFee trade, client.safe_routedTrade trade,
    client.safe_appendFees trade⟩, fun tr prepared hrun => runs_conserved hrun⟩

end Client

/-! ### A sponsored buy with an SDK fee -/

def sampleFee : SdkFee where
  recipient := sampleFeeRecipient
  basisPoints := 100
  collection := .sdk
  relayFeeRecipient := none
  recipient_ne_default := sampleFeeRecipient_ne_zero
  basisPoints_lt := onePercent_lt
  relayFeeRecipient_valid := SdkFee.isRelayFeeRecipient_of_mem_none

def sampleClient : TradingClient :=
  ((TradingClient.new.withSdkFee sampleFee).withGasSponsor sampleSponsor).withoutUsdValue

def relayTrade : Trade :=
  { sampleTrade with quoteSource := some .relay }

/-- Relay's answer for what is left of 10 USDC after both fees. -/
def relayAnswer : Aggregators.Relay.QuoteResponse String TransactionData where
  details :=
    { operation := "swap"
      sender := keyText sampleUser
      recipient := keyText sampleUser
      currencyIn := ⟨⟨Relay.solanaChainId, keyText usdcMint⟩, "6900000", "6900000", none⟩
      currencyOut := ⟨⟨Relay.solanaChainId, keyText sampleMint⟩, "500", "495", none⟩ }
  steps :=
    [{ id := "swap"
       kind := "transaction"
       items := [{
        status := "incomplete"
        data := some {
          chainId := none
          instructions := [⟨keyText sampleMint, [⟨keyText sampleUser, true, true⟩], "07"⟩]
          transactionVersion := some Relay.v1Version
          transactionConfig := ⟨none, none, none, none⟩ } }] }]
  fees := { relayer := none, app := none }

def relayBackend (_ : ℕ) (q : Query) : Answer q :=
  match q with
  | .relayQuote _ => .ok relayAnswer
  | q => silent q

theorem fees_conserved_sample :
    let := sampleSdk
    let : Profile := ⟨true⟩
    ∃ tr prepared, (sampleClient.prepareSelectedSwap relayTrade).Runs () tr (.ok prepared) () ∧
      ∃ providerFee routed route, Conserved relayTrade routed route prepared
        (collectedBySdk providerFee prepared) prepared.quote.sponsorshipFee.toNat := by
  intro sdk profile
  obtain ⟨tr, prepared, _, hrun⟩ := Proc.runs_ok_of_exec relayBackend (fun _ => 1)
    (sampleClient.prepareSelectedSwap relayTrade) () (by decide +kernel)
  obtain ⟨providerFee, routed, route, _, -, hconserved⟩ :=
    (fees_conserved sampleClient relayTrade).2 tr prepared hrun
  exact ⟨tr, prepared, hrun, providerFee, routed, route, hconserved⟩

/-! ### A sponsored sale with an SDK fee -/

def relaySale : Trade :=
  { relayTrade with side := .sell, amount := 400000 }

/-- Relay's answer for the sold tokens; both fees come off the 6 USDC. -/
def saleAnswer : Aggregators.Relay.QuoteResponse String TransactionData :=
  { relayAnswer with
    details :=
      { relayAnswer.details with
        currencyIn := ⟨⟨Relay.solanaChainId, keyText sampleMint⟩, "400000", "400000", none⟩
        currencyOut :=
          ⟨⟨Relay.solanaChainId, keyText usdcMint⟩, "6000000", "5940000", none⟩ } }

end Solana
end TradingAggregators
