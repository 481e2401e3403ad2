import TradingAggregators.Solana.Conservation

/-!
# A sponsored user pays no SOL at the top level

The instructions of a sponsored swap come from five places: the provider, the setup of a
provider fee, the SDK fee, the reimbursement and the submitter's tip.  Each chooses a payer by
its own rule.

## 1.  Moving rent

`moveRentToSponsor_eq_ok`: an instruction passes exactly when it is `Movable`, and it leaves
with nothing changed but the payer of a token account (`Instruction.withAtaPayer`).  Passing
once more changes nothing (`moveRentToSponsor_twice`).

## 2.  What the sponsor pays

`PaidBySponsor` is what is claimed of every instruction of the finished list, with one lemma
for each kind of instruction that the client adds itself.

## 3.  The provider's instructions

`Relay.paid_dataInstructions` and `Bloxroute.paid_responsePrepare`: whatever a response holds,
the route that is made of it is paid by the sponsor.

## 4.  The finished list

`sponsored_user_pays_no_sol` follows the list from the route through the fees to the tip.
-/

namespace TradingAggregators
namespace Solana

open Interaction Interaction.Program Rust Wire

/-! ## 1.  Moving rent -/

/-- The instruction with the sponsor as the payer of its token account, where it sets one up. -/
def Instruction.withAtaPayer (sponsor : Pubkey) (ix : Instruction) : Instruction :=
  if ix.programId = ataProgram then
    { ix with accounts := ix.accounts.set 0 (.writable sponsor true) }
  else ix

theorem withAtaPayer_of_ne {sponsor : Pubkey} {ix : Instruction}
    (h : ix.programId ≠ ataProgram) : ix.withAtaPayer sponsor = ix :=
  if_neg h

@[simp] theorem withAtaPayer_programId (sponsor : Pubkey) (ix : Instruction) :
    (ix.withAtaPayer sponsor).programId = ix.programId := by
  unfold Instruction.withAtaPayer
  split_ifs <;> rfl

@[simp] theorem withAtaPayer_data (sponsor : Pubkey) (ix : Instruction) :
    (ix.withAtaPayer sponsor).data = ix.data := by
  unfold Instruction.withAtaPayer
  split_ifs <;> rfl

theorem withAtaPayer_twice (sponsor : Pubkey) (ix : Instruction) :
    (ix.withAtaPayer sponsor).withAtaPayer sponsor = ix.withAtaPayer sponsor := by
  by_cases hata : ix.programId = ataProgram
  · simp only [Instruction.withAtaPayer, hata, if_true, List.set_set]
  · rw [withAtaPayer_of_ne hata, withAtaPayer_of_ne hata]

/-- The data of an instruction that creates an associated token account. -/
def createsAta (data : Bytes) : Prop :=
  data ∈ [[], [ataCreate], [ataCreateIdempotent]]

/-- A sponsor reserves nothing of its own trades. -/
theorem TradingClient.sponsor_ne_wallet [Profile] {client : TradingClient}
    {trade routed : Trade} {sponsor : GasSponsor} {transferFee : Option SdkFee}
    (hsponsor : client.sponsorFor trade = some sponsor)
    (h : client.routedTrade trade transferFee = .ok routed) : sponsor.wallet ≠ trade.wallet := by
  rw [routedTrade_eq, hsponsor] at h
  obtain ⟨first, hfirst, hreserve⟩ := bind_eq_ok.mp h
  have hwallet : first.wallet = trade.wallet := by
    cases transferFee with
    | none => rw [← Except.ok.inj hfirst]
    | some fee => rw [(SdkFee.tradeAfterFee_eq_ok hfirst).rest]
  rw [← hwallet]
  exact GasSponsor.wallet_ne_of_reserveFee hreserve

section Setup

variable [Sdk]

/-- The creation of the account of an owner and a mint, by the payer. -/
structure SetsUp (payer : AccountMeta) (ix : Instruction) : Prop where
  creates : createsAta ix.data
  accounts : ∃ address owner mint system token,
    ix.accounts = [payer, address, owner, mint, system, token] ∧
    system.pubkey = systemProgram ∧ address.pubkey = ata owner.pubkey mint.pubkey token.pubkey

/-- An instruction that a sponsored route may hold. -/
structure Movable (wallet sponsor : Pubkey) (ix : Instruction) : Prop where
  ata : ix.programId = ataProgram → ∃ payer, payer.pubkey ∈ [wallet, sponsor] ∧ SetsUp payer ix
  system : ix.programId = systemProgram → (∃ account ∈ ix.accounts.head?, account.pubkey = wallet) →
    ix.data = (systemTransfer wallet sponsor 0).data

theorem moveAtaRent_eq_ok {venue : String} {wallet sponsor : Pubkey} {ix ix' : Instruction} :
    moveAtaRent venue wallet sponsor ix = .ok ix' ↔
      (∃ payer, payer.pubkey ∈ [wallet, sponsor] ∧ SetsUp payer ix) ∧
        ix' = { ix with accounts := ix.accounts.set 0 (.writable sponsor true) } := by
  unfold moveAtaRent
  constructor
  · intro h
    split at h
    · next payer address owner mint system token haccounts =>
      obtain ⟨_, hvalid, h₁⟩ := bind_eq_ok.mp h
      rw [failIf_eq_ok] at hvalid
      simp only [not_or, not_not] at hvalid
      obtain ⟨hdata, hpayer, hsystem, haddress⟩ := hvalid
      rw [pure_eq_ok] at h₁
      refine ⟨⟨payer, hpayer, hdata, address, owner, mint, system, token, haccounts, hsystem,
        haddress⟩, ?_⟩
      rw [← h₁, haccounts]
      rfl
    · exact nomatch h
  · rintro ⟨⟨payer, hpayer, hdata, address, owner, mint, system, token, haccounts, hsystem,
      haddress⟩, rfl⟩
    rw [haccounts]
    refine bind_eq_ok.mpr ⟨(), failIf_eq_ok.mpr ?_, rfl⟩
    simp only [not_or, not_not]
    exact ⟨hdata, hpayer, hsystem, haddress⟩

/-- **What `move_rent_to_sponsor` accepts, and what it makes of it.** -/
theorem moveRentToSponsor_eq_ok {venue : String} {wallet sponsor : Pubkey}
    {ix ix' : Instruction} :
    moveRentToSponsor venue ix wallet sponsor = .ok ix' ↔
      Movable wallet sponsor ix ∧ ix' = ix.withAtaPayer sponsor := by
  have hne : ataProgram ≠ systemProgram := programs_ne.2.1
  unfold moveRentToSponsor
  by_cases hata : ix.programId = ataProgram
  · have hsystem : ix.programId ≠ systemProgram := hata ▸ hne
    rw [if_pos hata, bind_eq_ok]
    constructor
    · rintro ⟨moved, hmoved, h⟩
      obtain ⟨_, -, h₁⟩ := bind_eq_ok.mp h
      obtain ⟨hsets, rfl⟩ := moveAtaRent_eq_ok.mp hmoved
      rw [pure_eq_ok] at h₁
      refine ⟨⟨fun _ => hsets, fun h => absurd h hsystem⟩, ?_⟩
      rw [← h₁, Instruction.withAtaPayer, if_pos hata]
    · rintro ⟨hmovable, rfl⟩
      refine ⟨_, moveAtaRent_eq_ok.mpr ⟨hmovable.ata hata, rfl⟩, bind_eq_ok.mpr ⟨(), ?_, ?_⟩⟩
      · exact failIf_eq_ok.mpr fun h => hsystem h.1
      · rw [pure_eq_ok, Instruction.withAtaPayer, if_pos hata]
  · rw [if_neg hata, ok_bind, withAtaPayer_of_ne hata, bind_eq_ok]
    constructor
    · rintro ⟨_, hspends, h⟩
      rw [failIf_eq_ok] at hspends
      refine ⟨⟨fun h => absurd h hata, fun hsystem hwallet => ?_⟩, (pure_eq_ok.mp h).symm⟩
      by_contra hdata
      exact hspends ⟨hsystem, hwallet, hdata⟩
    · rintro ⟨hmovable, rfl⟩
      refine ⟨(), failIf_eq_ok.mpr ?_, rfl⟩
      rintro ⟨hsystem, hwallet, hdata⟩
      exact hdata (hmovable.system hsystem hwallet)

theorem SetsUp.withPayer {payer payer' : AccountMeta} {ix : Instruction} (h : SetsUp payer ix) :
    SetsUp payer' { ix with accounts := ix.accounts.set 0 payer' } := by
  obtain ⟨address, owner, mint, system, token, haccounts, hrest⟩ := h.accounts
  refine ⟨h.creates, address, owner, mint, system, token, ?_, hrest⟩
  show ix.accounts.set 0 payer' = _
  rw [haccounts]
  rfl

theorem Movable.withAtaPayer {wallet sponsor : Pubkey} {ix : Instruction}
    (h : Movable wallet sponsor ix) : Movable wallet sponsor (ix.withAtaPayer sponsor) := by
  by_cases hata : ix.programId = ataProgram
  · obtain ⟨payer, -, hsets⟩ := h.ata hata
    rw [Instruction.withAtaPayer, if_pos hata]
    refine ⟨fun _ => ⟨.writable sponsor true, by simp [AccountMeta.writable], hsets.withPayer⟩,
      fun hsystem => absurd (hata.symm.trans hsystem) programs_ne.2.1⟩
  · rw [withAtaPayer_of_ne hata]
    exact h

/-- Moving the rent twice is moving it once, also where it fails. -/
theorem moveRentToSponsor_twice (venue : String) (wallet sponsor : Pubkey) (ix : Instruction) :
    (moveRentToSponsor venue ix wallet sponsor >>= fun moved =>
        moveRentToSponsor venue moved wallet sponsor) =
      moveRentToSponsor venue ix wallet sponsor := by
  cases hmove : moveRentToSponsor venue ix wallet sponsor with
  | error e => rfl
  | ok moved =>
    obtain ⟨hmovable, rfl⟩ := moveRentToSponsor_eq_ok.mp hmove
    rw [ok_bind]
    exact moveRentToSponsor_eq_ok.mpr
      ⟨hmovable.withAtaPayer, (withAtaPayer_twice sponsor ix).symm⟩

/-! ## 2.  What the sponsor pays -/

/-- A token account is created at the sponsor's cost, for the address of its owner and mint,
and the System program moves nothing out of the wallet. -/
structure PaidBySponsor (wallet sponsor : Pubkey) (ix : Instruction) : Prop where
  ata : ix.programId = ataProgram → SetsUp (.writable sponsor true) ix
  system : ix.programId = systemProgram →
    (∃ account ∈ ix.accounts.head?, account.pubkey = wallet) → ix.data = le32 sysTransfer ++ le64 0

theorem Movable.paid {wallet sponsor : Pubkey} {ix : Instruction}
    (h : Movable wallet sponsor ix) :
    PaidBySponsor wallet sponsor (ix.withAtaPayer sponsor) := by
  by_cases hata : ix.programId = ataProgram
  · obtain ⟨payer, -, hsets⟩ := h.ata hata
    rw [Instruction.withAtaPayer, if_pos hata]
    exact ⟨fun _ => hsets.withPayer,
      fun hsystem => absurd (hata.symm.trans hsystem) programs_ne.2.1⟩
  · rw [withAtaPayer_of_ne hata]
    exact ⟨fun h => absurd h hata, h.system⟩

/-- Whatever passes `move_rent_to_sponsor` is paid by the sponsor. -/
theorem paid_moveRentToSponsor {venue : String} {wallet sponsor : Pubkey}
    {ix ix' : Instruction} (h : moveRentToSponsor venue ix wallet sponsor = .ok ix') :
    PaidBySponsor wallet sponsor ix' := by
  obtain ⟨hmovable, rfl⟩ := moveRentToSponsor_eq_ok.mp h
  exact hmovable.paid

namespace PaidBySponsor

variable {wallet sponsor : Pubkey} {ix : Instruction}

theorem other (hata : ix.programId ≠ ataProgram) (hsystem : ix.programId ≠ systemProgram) :
    PaidBySponsor wallet sponsor ix :=
  ⟨fun h => absurd h hata, fun h => absurd h hsystem⟩

theorem createAta (wallet sponsor owner mint token : Pubkey) :
    PaidBySponsor wallet sponsor (createAtaIdempotent sponsor owner mint token) :=
  ⟨fun _ => ⟨by simp [createsAta, createAtaIdempotent], _, _, _, _, _, rfl, rfl, rfl⟩,
    fun h => absurd h programs_ne.2.1⟩

theorem usdcTransfer (wallet sponsor source recipient : Pubkey) (amount : UInt64) :
    PaidBySponsor wallet sponsor (usdcTransfer source recipient amount) :=
  .other programs_ne.2.2.symm programs_ne.1

/-- The tip is the sponsor's own. -/
theorem tip (hne : sponsor ≠ wallet) (account : Pubkey) (lamports : UInt64) :
    PaidBySponsor wallet sponsor (tip sponsor account lamports) := by
  refine ⟨fun h => absurd h.symm programs_ne.2.1, ?_⟩
  rintro - ⟨payer, hpayer, hwallet⟩
  obtain rfl := Option.some.inj hpayer
  exact absurd hwallet hne

end PaidBySponsor

/-! ## 3.  The provider's instructions -/

theorem paid_config {venue : String} {config : Aggregators.TransactionConfig} {ixs : List Instruction}
    (wallet sponsor : Pubkey) (h : configInstructions venue config = .ok ixs) :
    ∀ ix ∈ ixs, PaidBySponsor wallet sponsor ix := by
  intro ix hix
  have hprogram := (configInstructions_eq_ok h).programId ix hix
  refine .other ?_ ?_
  · rw [hprogram]
    exact computeBudgetProgram_ne.2.2.symm
  · rw [hprogram]
    exact computeBudgetProgram_ne.1.symm

/-- The loop of the Relay adapter keeps only what has passed. -/
theorem Relay.paid_foldlM {trade : Trade} {sponsor : Pubkey}
    {apis : List Aggregators.ApiInstruction} {kept kept' : List Instruction}
    (h : apis.foldlM (Relay.keepInstruction trade (some sponsor)) kept = .ok kept')
    (hkept : ∀ ix ∈ kept, PaidBySponsor trade.wallet sponsor ix) :
    ∀ ix ∈ kept', PaidBySponsor trade.wallet sponsor ix := by
  induction apis generalizing kept with
  | nil =>
    rw [List.foldlM_nil, pure_eq_ok] at h
    rw [← h]
    exact hkept
  | cons api apis ih =>
    rw [List.foldlM_cons] at h
    obtain ⟨next, hnext, h₁⟩ := bind_eq_ok.mp h
    refine ih h₁ ?_
    unfold Relay.keepInstruction at hnext
    obtain ⟨decoded, -, h₂⟩ := bind_eq_ok.mp hnext
    obtain ⟨moved, hmoved, h₃⟩ := bind_eq_ok.mp h₂
    obtain ⟨retained, -, h₄⟩ := bind_eq_ok.mp h₃
    rw [← pure_eq_ok.mp h₄]
    have hpaid := paid_moveRentToSponsor hmoved
    intro ix hix
    by_cases hretained : retained = true
    · rw [if_pos hretained] at hix
      rcases List.mem_append.mp hix with hix | hix
      · exact hkept ix hix
      · rw [List.mem_singleton.mp hix]
        exact hpaid
    · rw [if_neg hretained] at hix
      exact hkept ix hix

theorem Relay.paid_dataInstructions {data : TransactionData} {trade : Trade} {sponsor : Pubkey}
    {ixs : List Instruction}
    (h : Relay.dataInstructions data trade (some sponsor) = .ok ixs) :
    ∀ ix ∈ ixs, PaidBySponsor trade.wallet sponsor ix := by
  unfold Relay.dataInstructions at h
  obtain ⟨_, -, h₁⟩ := bind_eq_ok.mp h
  obtain ⟨_, -, h₂⟩ := bind_eq_ok.mp h₁
  obtain ⟨kept, hkept, h₃⟩ := bind_eq_ok.mp h₂
  obtain ⟨_, -, h₄⟩ := bind_eq_ok.mp h₃
  obtain ⟨config, hconfig, h₅⟩ := bind_eq_ok.mp h₄
  rw [← pure_eq_ok.mp h₅]
  intro ix hix
  rcases List.mem_append.mp hix with hix | hix
  · exact Relay.paid_foldlM hkept (by simp) ix hix
  · exact paid_config _ _ hconfig ix hix

theorem Bloxroute.paid_responsePrepare {response : Aggregators.Bloxroute.InstructionsResponse}
    {trade : Trade} {sponsor : Pubkey} {fee : Option ProviderFee} {route : PreparedSwap}
    (h : Bloxroute.responsePrepare response trade (some sponsor) fee = .ok route) :
    ∀ ix ∈ route.instructions, PaidBySponsor trade.wallet sponsor ix := by
  obtain ⟨config, setup, swap, hconfig, hsetup, -, hswap, -, hixs⟩ :=
    Bloxroute.responsePrepare_eq_ok h
  intro ix hix
  simp only [hixs, List.mem_append, List.mem_singleton, Option.mem_toList,
    Option.map_eq_some_iff] at hix
  rcases hix with ((hix | ⟨fee, -, rfl⟩) | hix) | rfl
  · exact paid_config _ _ hconfig ix hix
  · exact .createAta _ _ _ _ _
  · obtain ⟨api, -, hapi⟩ := exists_of_forall₂ (mapM_eq_ok.mp hsetup) hix
    unfold Bloxroute.setupInstruction at hapi
    obtain ⟨decoded, -, h₁⟩ := bind_eq_ok.mp hapi
    obtain ⟨_, -, h₂⟩ := bind_eq_ok.mp h₁
    exact paid_moveRentToSponsor h₂
  · exact .other (hswap ▸ Bloxroute.program_ne.1) (hswap ▸ Bloxroute.program_ne.2.1)

/-! ## 4.  The finished list -/

theorem paid_tip {wallet sponsor : Pubkey} (hne : sponsor ≠ wallet) (submitter : Submitter) :
    ∀ ix ∈ tipInstructions sponsor submitter, PaidBySponsor wallet sponsor ix := by
  intro ix hix
  obtain ⟨account, lamports, rfl⟩ := mem_tipInstructions hix
  exact .tip hne account lamports

theorem GasSponsor.paid_applyToSwap {sponsor : GasSponsor} {trade : Trade}
    {route prepared : PreparedSwap} (h : sponsor.applyToSwap trade route = .ok prepared)
    (hroute : ∀ ix ∈ route.instructions, PaidBySponsor trade.wallet sponsor.wallet ix) :
    ∀ ix ∈ prepared.instructions, PaidBySponsor trade.wallet sponsor.wallet ix := by
  obtain ⟨hixs, -, -⟩ := GasSponsor.applyToSwap_eq_ok h
  intro ix hix
  simp only [hixs, List.mem_append, List.mem_singleton] at hix
  rcases hix with (hix | rfl) | rfl
  · exact hroute ix hix
  · exact .createAta _ _ _ _ _
  · exact .usdcTransfer _ _ _ _ _

variable [Profile]

theorem SdkFee.paid_applyWithPayer {fee : SdkFee} {trade : Trade} {route paid : PreparedSwap}
    {sponsor : Pubkey} (husdc : trade.settlement = .usdc)
    (h : fee.applyWithPayer trade route sponsor = .ok paid)
    (hroute : ∀ ix ∈ route.instructions, PaidBySponsor trade.wallet sponsor ix) :
    ∀ ix ∈ paid.instructions, PaidBySponsor trade.wallet sponsor ix := by
  unfold SdkFee.applyWithPayer at h
  obtain ⟨quote, -, h₁⟩ := bind_eq_ok.mp h
  by_cases hfee : quote.applicationFee > 0
  · simp only [hfee, if_true, husdc, appendUsdcFee_eq, ok_bind, pure_eq_ok] at h₁
    rw [← h₁]
    intro ix hix
    simp only [List.mem_append, List.mem_singleton] at hix
    rcases hix with (hix | rfl) | rfl
    · exact hroute ix hix
    · exact .createAta _ _ _ _ _
    · exact .usdcTransfer _ _ _ _ _
  · simp only [hfee, if_false, pure_eq_ok] at h₁
    rw [← h₁]
    exact hroute

namespace TradingClient

variable {client : TradingClient} {trade routed : Trade} {sponsor : GasSponsor}

theorem paid_appendFees {transferFee : Option SdkFee} {route charged : PreparedSwap}
    (hsponsor : client.sponsorFor trade = some sponsor)
    (h : client.appendFees trade route transferFee = .ok charged)
    (hroute : ∀ ix ∈ route.instructions, PaidBySponsor trade.wallet sponsor.wallet ix) :
    ∀ ix ∈ charged.instructions, PaidBySponsor trade.wallet sponsor.wallet ix := by
  rw [appendFees_eq, hsponsor] at h
  obtain ⟨paid, hpaid, h₁⟩ := bind_eq_ok.mp h
  refine GasSponsor.paid_applyToSwap h₁ ?_
  show ∀ ix ∈ paid.instructions, _
  cases transferFee with
  | none =>
    rw [← Except.ok.inj hpaid]
    exact hroute
  | some fee => exact SdkFee.paid_applyWithPayer (settlement_of_sponsorFor hsponsor) hpaid hroute

/-- A route is asked for with the sponsor as its payer, with or without a provider fee. -/
theorem paid_prepareRoute {source : QuoteSource} {providerFee : Option ProviderFee}
    {tr : Trace Answer} {route : PreparedSwap}
    (hsource : source = .relay ∨ source = .bloxroute)
    (hsponsor : client.sponsorFor trade = some sponsor)
    (h : (client.prepareRoute source trade providerFee).Runs () tr (.ok route) ()) :
    ∀ ix ∈ route.instructions, PaidBySponsor trade.wallet sponsor.wallet ix := by
  rcases hsource with rfl | rfl
  · have hrun : (Relay.prepareWithFee trade (some sponsor.wallet) providerFee).Runs () tr
        (.ok route) () := by
      cases providerFee with
      | some fee =>
        simp only [prepareRoute, prepareProviderFeeSwap, hsponsor] at h
        exact h
      | none =>
        simp only [prepareRoute, hsponsor] at h
        exact runs_anyhowTask_ok (runs_dexErr_ok h)
    obtain ⟨data, hdata, -⟩ := Relay.runs_prepareWithFee hrun
    exact Relay.paid_dataInstructions hdata
  · have hrun := runs_prepareRoute_bloxroute h
    rw [hsponsor] at hrun
    obtain ⟨request, response, -, -, hresponse⟩ := Bloxroute.runs_prepareWithFee hrun
    exact Bloxroute.paid_responsePrepare hresponse

end TradingClient

/-- **A sponsored user pays no SOL at the top level.**  `move_rent_to_sponsor` changes the
payer of a token account and nothing else, once and for all; and every instruction of a
sponsored Relay or bloXroute swap, up to the tip, is paid by the sponsor. -/
theorem sponsored_user_pays_no_sol :
    (∀ venue wallet sponsor ix,
      (moveRentToSponsor venue ix wallet sponsor >>= fun moved =>
          moveRentToSponsor venue moved wallet sponsor) =
        moveRentToSponsor venue ix wallet sponsor ∧
      ∀ moved, moveRentToSponsor venue ix wallet sponsor = .ok moved →
        moved = ix.withAtaPayer sponsor) ∧
    ∀ (client : TradingClient) trade sponsor, client.sponsorFor trade = some sponsor →
      (client.quoteSourceFor trade = .relay ∨ client.quoteSourceFor trade = .bloxroute) →
      ∀ tr prepared, (client.prepareSelectedSwap trade).Runs () tr (.ok prepared) () →
        ∀ submitter, ∀ ix ∈ prepared.instructions ++ tipInstructions sponsor.wallet submitter,
          PaidBySponsor trade.wallet sponsor.wallet ix := by
  refine ⟨fun venue wallet sponsor ix => ⟨moveRentToSponsor_twice venue wallet sponsor ix,
    fun moved h => (moveRentToSponsor_eq_ok.mp h).2⟩, ?_⟩
  intro client trade sponsor hsponsor hsource tr prepared hrun submitter
  obtain ⟨providerFee, routed, route, charged, hfrom⟩ := runs_prepareSelectedSwap hrun
  have hinput := TradingClient.routedTrade_eq_ok hfrom.reserved
  have hwallet : routed.wallet = trade.wallet := by rw [hinput.rest]
  have hrouted : client.sponsorFor routed = some sponsor := by
    rw [← hsponsor, TradingClient.sponsorFor, hinput.settlement, TradingClient.sponsorFor]
  have hne := TradingClient.sponsor_ne_wallet hsponsor hfrom.reserved
  obtain ⟨tr', -, -, hroute⟩ := hfrom.answered
  have hpaid := TradingClient.paid_prepareRoute hsource hrouted hroute
  rw [hwallet] at hpaid
  have hcharged := TradingClient.paid_appendFees hsponsor hfrom.appended hpaid
  obtain ⟨usdValue, rfl⟩ := hfrom.shown
  intro ix hix
  rcases List.mem_append.mp hix with hix | hix
  · exact hcharged ix hix
  · exact paid_tip hne submitter ix hix

end Setup

/-! ### A route that sets up the user's account -/

/-- Relay's answer of the sample, with the creation of the user's token account first. -/
def setupAnswer [Sdk] : Aggregators.Relay.QuoteResponse String TransactionData :=
  let create : Aggregators.ApiInstruction :=
    { programId := keyText ataProgram
      accounts :=
        [⟨keyText sampleUser, true, true⟩,
          ⟨keyText (ata sampleUser sampleMint tokenProgram), false, true⟩,
          ⟨keyText sampleUser, false, false⟩, ⟨keyText sampleMint, false, false⟩,
          ⟨keyText systemProgram, false, false⟩, ⟨keyText tokenProgram, false, false⟩]
      data := "01" }
  { relayAnswer with
    steps := relayAnswer.steps.map fun step =>
      { step with items := step.items.map fun item =>
        { item with data := item.data.map fun data =>
          { data with instructions := create :: data.instructions } } } }

def setupBackend [Sdk] (_ : ℕ) (q : Query) : Answer q :=
  match q with
  | .relayQuote _ => .ok setupAnswer
  | q => silent q

theorem sponsored_user_pays_no_sol_sample :
    let := sampleSdk
    let : Profile := ⟨true⟩
    ∃ tr prepared, (sampleClient.prepareSelectedSwap relayTrade).Runs () tr (.ok prepared) () ∧
      ∀ submitter, ∀ ix ∈ prepared.instructions ++ tipInstructions sampleSponsor.wallet submitter,
        PaidBySponsor relayTrade.wallet sampleSponsor.wallet ix := by
  intro sdk profile
  obtain ⟨tr, prepared, _, hrun⟩ := Proc.runs_ok_of_exec setupBackend (fun _ => 1)
    (sampleClient.prepareSelectedSwap relayTrade) () (by decide +kernel)
  exact ⟨tr, prepared, hrun, sponsored_user_pays_no_sol.2 sampleClient relayTrade sampleSponsor
    rfl (Or.inl rfl) tr prepared hrun⟩

end Solana
end TradingAggregators
