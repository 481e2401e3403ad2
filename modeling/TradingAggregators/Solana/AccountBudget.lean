import Mathlib.Data.Finset.Card
import TradingAggregators.Solana.BudgetSettings

/-!
# The account budget that is asked of bloXroute

A V1 transaction has room for 64 accounts, all of them inline.  `Bloxroute.maxAccounts` is what
is left of them for a route: three fewer for the client's own accounts, five fewer when a
sponsor pays.

## 1.  Keys beyond a route

`keysBeyond base ixs` counts the keys that `ixs` mentions and `base` does not hold.  It is
subadditive, so each part of a transaction is counted on its own.

## 2.  What each part adds

A fee adds its recipient and, in a token, the recipient's account; a tip adds one account.

## 3.  The whole transaction

`account_budget_suffices`: what the parts add up to is what `Bloxroute.maxAccounts` set aside.
-/

namespace TradingAggregators
namespace Solana

open Interaction Interaction.Program Rust Wire

variable {σ : Type}

/-! ## 1.  Keys beyond a route -/

/-- The keys that an instruction mentions: its program and its accounts. -/
def Instruction.keys (ix : Instruction) : List Pubkey :=
  ix.programId :: ix.accounts.map AccountMeta.pubkey

/-- The distinct keys that instructions mention. -/
def keysOf (ixs : List Instruction) : Finset Pubkey :=
  (ixs.flatMap Instruction.keys).toFinset

theorem mem_keysOf {ixs : List Instruction} {key : Pubkey} :
    key ∈ keysOf ixs ↔ ∃ ix ∈ ixs, key ∈ ix.keys := by
  simp [keysOf]

theorem keysOf_append (xs ys : List Instruction) : keysOf (xs ++ ys) = keysOf xs ∪ keysOf ys := by
  ext key
  simp only [mem_keysOf, Finset.mem_union, List.mem_append, or_and_right, exists_or]

theorem keysOf_mono {xs ys : List Instruction} (h : xs ⊆ ys) : keysOf xs ⊆ keysOf ys := by
  intro key hkey
  obtain ⟨ix, hix, hmem⟩ := mem_keysOf.mp hkey
  exact mem_keysOf.mpr ⟨ix, h hix, hmem⟩

/-- How many keys instructions mention beyond a set. -/
def keysBeyond (base : Finset Pubkey) (ixs : List Instruction) : ℕ :=
  (keysOf ixs \ base).card

section Beyond

variable {base : Finset Pubkey}

@[simp] theorem keysBeyond_nil : keysBeyond base [] = 0 := by
  simp [keysBeyond, keysOf]

theorem keysBeyond_append_le (base : Finset Pubkey) (xs ys : List Instruction) :
    keysBeyond base (xs ++ ys) ≤ keysBeyond base xs + keysBeyond base ys := by
  unfold keysBeyond
  rw [keysOf_append, Finset.union_sdiff_distrib]
  exact Finset.card_union_le _ _

theorem keysBeyond_mono {xs ys : List Instruction} (h : xs ⊆ ys) :
    keysBeyond base xs ≤ keysBeyond base ys :=
  Finset.card_le_card (Finset.sdiff_subset_sdiff (keysOf_mono h) (Finset.Subset.refl base))

theorem keysBeyond_le {ixs : List Instruction} (extra : List Pubkey)
    (h : ∀ ix ∈ ixs, ∀ key ∈ ix.keys, key ∈ base ∨ key ∈ extra) :
    keysBeyond base ixs ≤ extra.length := by
  have hsub : keysOf ixs \ base ⊆ extra.toFinset := by
    intro key hkey
    obtain ⟨hkey, hbase⟩ := Finset.mem_sdiff.mp hkey
    obtain ⟨ix, hix, hmem⟩ := mem_keysOf.mp hkey
    exact List.mem_toFinset.mpr ((h ix hix key hmem).resolve_left hbase)
  exact (Finset.card_le_card hsub).trans extra.toFinset_card_le

/-- A transaction has the keys of the base and those beyond it. -/
theorem card_insert_keysOf_le {payer : Pubkey} (hpayer : payer ∈ base) (ixs : List Instruction) :
    (insert payer (keysOf ixs)).card ≤ base.card + keysBeyond base ixs := by
  have hsub : insert payer (keysOf ixs) ⊆ base ∪ (keysOf ixs \ base) := by
    rw [Finset.union_sdiff_self_eq_union]
    exact Finset.insert_subset (Finset.mem_union_left _ hpayer) Finset.subset_union_right
  exact (Finset.card_le_card hsub).trans (Finset.card_union_le _ _)

end Beyond

/-! ## 2.  What each part adds -/

section Parts

variable [Sdk]

/-- The keys that a fee or a tip uses besides those of its recipient. -/
structure HoldsCommon (base : Finset Pubkey) (settlement : Settlement) (wallet : Pubkey) :
    Prop where
  system : systemProgram ∈ base
  token : tokenProgram ∈ base
  ata : ataProgram ∈ base
  mint : settlement.mint ∈ base
  usdc : settlement = .usdc → Solana.ata wallet usdcMint tokenProgram ∈ base

section Common

variable {base : Finset Pubkey} {settlement : Settlement} {wallet payer : Pubkey}

/-- What setting up a recipient's account mentions. -/
theorem mem_keys_setup (h : HoldsCommon base settlement wallet) (hpayer : payer ∈ base)
    {recipient key : Pubkey}
    (hkey : key ∈ (createAtaIdempotent payer recipient settlement.mint tokenProgram).keys) :
    key ∈ base ∨ key ∈ [recipient, ata recipient settlement.mint tokenProgram] := by
  simp only [Instruction.keys, createAtaIdempotent, AccountMeta.writable, AccountMeta.readonly,
    List.map_cons, List.map_nil, List.mem_cons, List.not_mem_nil, or_false] at hkey
  rcases hkey with rfl | rfl | rfl | rfl | rfl | rfl | rfl
  · exact Or.inl h.ata
  · exact Or.inl hpayer
  · exact Or.inr (by simp)
  · exact Or.inr (by simp)
  · exact Or.inl h.mint
  · exact Or.inl h.system
  · exact Or.inl h.token

theorem keysBeyond_setup_le (h : HoldsCommon base settlement wallet) (hpayer : payer ∈ base)
    (recipient : Pubkey) :
    keysBeyond base [createAtaIdempotent payer recipient settlement.mint tokenProgram] ≤ 2 := by
  refine keysBeyond_le [recipient, ata recipient settlement.mint tokenProgram] ?_
  intro ix hix key hkey
  rw [List.mem_singleton.mp hix] at hkey
  exact mem_keys_setup h hpayer hkey

/-- A fee in USDC adds no more than setting up its recipient's account. -/
theorem keysBeyond_usdcFee_le (h : HoldsCommon base .usdc wallet) (hwallet : wallet ∈ base)
    (hpayer : payer ∈ base) (recipient : Pubkey) (amount : UInt64) :
    keysBeyond base ([createAtaIdempotent payer recipient usdcMint tokenProgram] ++
      [usdcTransfer wallet recipient amount]) ≤ 2 := by
  refine keysBeyond_le [recipient, ata recipient usdcMint tokenProgram] ?_
  intro ix hix key hkey
  rcases List.mem_append.mp hix with hix | hix
  · rw [List.mem_singleton.mp hix] at hkey
    exact mem_keys_setup h hpayer hkey
  · rw [List.mem_singleton.mp hix] at hkey
    simp only [Instruction.keys, usdcTransfer, AccountMeta.writable, AccountMeta.readonly,
      List.map_cons, List.map_nil, List.mem_cons, List.not_mem_nil, or_false] at hkey
    rcases hkey with rfl | rfl | rfl | rfl | rfl
    · exact Or.inl h.token
    · exact Or.inl (h.usdc rfl)
    · exact Or.inl h.mint
    · exact Or.inr (by simp)
    · exact Or.inl hwallet

omit [Sdk] in
theorem keysBeyond_systemTransfer_le (hsystem : systemProgram ∈ base) (hpayer : payer ∈ base)
    (recipient : Pubkey) (amount : UInt64) :
    keysBeyond base [systemTransfer payer recipient amount] ≤ 1 := by
  refine keysBeyond_le [recipient] ?_
  intro ix hix key hkey
  rw [List.mem_singleton.mp hix] at hkey
  simp only [Instruction.keys, systemTransfer, AccountMeta.writable, List.map_cons, List.map_nil,
    List.mem_cons, List.not_mem_nil, or_false] at hkey
  rcases hkey with rfl | rfl | rfl
  · exact Or.inl hsystem
  · exact Or.inl hpayer
  · exact Or.inr (by simp)

omit [Sdk] in
theorem keysBeyond_tip_le (hsystem : systemProgram ∈ base) (hpayer : payer ∈ base)
    (submitter : Submitter) : keysBeyond base (tipInstructions payer submitter) ≤ 1 := by
  unfold tipInstructions
  cases submitter.defaultTip with
  | none => simp
  | some t => exact keysBeyond_systemTransfer_le hsystem hpayer _ _

variable [Profile]

/-- A fee of the SDK adds its recipient and, in USDC, the recipient's account. -/
theorem SdkFee.keysBeyond_applyWithPayer {fee : SdkFee} {trade : Trade}
    {route paid : PreparedSwap} (h : HoldsCommon base trade.settlement trade.wallet)
    (hwallet : trade.wallet ∈ base) (hpayer : payer ∈ base)
    (hpaid : fee.applyWithPayer trade route payer = .ok paid) :
    ∃ added, paid.instructions = route.instructions ++ added ∧ keysBeyond base added ≤ 2 := by
  unfold SdkFee.applyWithPayer at hpaid
  obtain ⟨quote, -, h₁⟩ := bind_eq_ok.mp hpaid
  by_cases hfee : quote.applicationFee > 0
  · cases hsettlement : trade.settlement with
    | sol =>
      simp only [hfee, if_true, hsettlement, pure_eq_ok] at h₁
      rw [← h₁]
      have hle := keysBeyond_systemTransfer_le h.system hwallet fee.recipient
        quote.applicationFee
      exact ⟨_, rfl, hle.trans (by omega)⟩
    | usdc =>
      simp only [hfee, if_true, hsettlement, appendUsdcFee_eq, ok_bind, pure_eq_ok] at h₁
      rw [← h₁]
      rw [hsettlement] at h
      exact ⟨_, List.append_assoc _ _ _, keysBeyond_usdcFee_le h hwallet hpayer _ _⟩
  · simp only [hfee, if_false, pure_eq_ok] at h₁
    rw [← h₁]
    exact ⟨[], (List.append_nil _).symm, by simp⟩

/-- What a client appends to a route: two keys for a fee that it collects, two for a sponsor. -/
theorem TradingClient.keysBeyond_appendFees {client : TradingClient} {trade : Trade}
    {transferFee : Option SdkFee} {route charged : PreparedSwap}
    (h : HoldsCommon base trade.settlement trade.wallet) (hwallet : trade.wallet ∈ base)
    (hsponsor : ∀ sponsor ∈ client.sponsorFor trade, sponsor.wallet ∈ base)
    (hcharged : client.appendFees trade route transferFee = .ok charged) :
    ∃ added, charged.instructions = route.instructions ++ added ∧
      keysBeyond base added ≤ (if transferFee.isSome then 2 else 0) +
        if (client.sponsorFor trade).isSome then 2 else 0 := by
  rw [appendFees_eq] at hcharged
  obtain ⟨paid, hpaid, h₁⟩ := bind_eq_ok.mp hcharged
  have hfee : ∃ added, paid.instructions = route.instructions ++ added ∧
      keysBeyond base added ≤ if transferFee.isSome then 2 else 0 := by
    cases transferFee with
    | none =>
      rw [← Except.ok.inj hpaid]
      exact ⟨[], (List.append_nil _).symm, by simp⟩
    | some fee =>
      refine SdkFee.keysBeyond_applyWithPayer h hwallet ?_ hpaid
      cases hpayer : client.sponsorFor trade with
      | none => exact hwallet
      | some sponsor => exact hsponsor sponsor hpayer
  obtain ⟨fees, hfees, hle⟩ := hfee
  cases hcase : client.sponsorFor trade with
  | none =>
    rw [hcase] at h₁
    rw [← Except.ok.inj h₁]
    exact ⟨fees, hfees, by simpa using hle⟩
  | some sponsor =>
    rw [hcase] at h₁
    obtain ⟨hixs, -, -⟩ := GasSponsor.applyToSwap_eq_ok h₁
    rw [settlement_of_sponsorFor hcase] at h
    have hreimbursed := keysBeyond_usdcFee_le h hwallet (hsponsor sponsor hcase)
      sponsor.feeRecipient sponsor.costPolicy.maxFeeUsdc
    refine ⟨fees ++ ([createAtaIdempotent sponsor.wallet sponsor.feeRecipient usdcMint
      tokenProgram] ++ [usdcTransfer trade.wallet sponsor.feeRecipient
        sponsor.costPolicy.maxFeeUsdc]), ?_, ?_⟩
    · simp only [hixs, hfees, List.append_assoc]
    · refine (keysBeyond_append_le _ _ _).trans ?_
      simp only [Option.isSome_some, if_true]
      omega

end Common

/-! ### The route -/

/-- The keys that a provider's instruction mentions. -/
def apiKeys (api : Aggregators.ApiInstruction) : List Pubkey :=
  (api.programId :: api.accounts.map Aggregators.ApiAccount.pubkey).filterMap fun text =>
    (parseKey 32 text).toOption

omit [Sdk] in
theorem keys_decodeInstruction {venue : String} {wallet : Pubkey} {payer : Option Pubkey}
    {api : Aggregators.ApiInstruction} {data : Bytes} {ix : Instruction}
    (h : decodeInstruction venue wallet payer api data = .ok ix) :
    ∀ key ∈ ix.keys, key ∈ apiKeys api := by
  obtain ⟨accounts, haccounts, h₁⟩ := bind_eq_ok.mp h
  obtain ⟨programId, hprogram, h₂⟩ := bind_eq_ok.mp h₁
  rw [mapError_eq_ok] at hprogram
  rw [← pure_eq_ok.mp h₂]
  have hparsed : ∀ {text : String} {key : Pubkey}, parseKey 32 text = .ok key →
      text ∈ api.programId :: api.accounts.map Aggregators.ApiAccount.pubkey →
      key ∈ apiKeys api := by
    intro text key hparse htext
    exact List.mem_filterMap.mpr ⟨text, htext, by rw [hparse]; rfl⟩
  intro key hkey
  rcases List.mem_cons.mp hkey with rfl | hkey
  · exact hparsed hprogram List.mem_cons_self
  · obtain ⟨account, haccount, rfl⟩ := List.mem_map.mp hkey
    obtain ⟨source, hsource, hdecoded⟩ := exists_of_forall₂ (mapM_eq_ok.mp haccounts) haccount
    obtain ⟨pubkey, hpubkey, h₃⟩ := bind_eq_ok.mp hdecoded
    obtain ⟨_, -, h₄⟩ := bind_eq_ok.mp h₃
    rw [mapError_eq_ok] at hpubkey
    rw [← pure_eq_ok.mp h₄]
    exact hparsed hpubkey (List.mem_cons_of_mem _ (List.mem_map_of_mem hsource))

theorem keys_decodeBase64 {venue : String} {wallet : Pubkey} {payer : Option Pubkey}
    {api : Aggregators.ApiInstruction} {ix : Instruction}
    (h : decodeBase64 venue wallet payer api = .ok ix) :
    ∀ key ∈ ix.keys, key ∈ apiKeys api := by
  obtain ⟨data, -, h₁⟩ := bind_eq_ok.mp h
  exact keys_decodeInstruction h₁

omit [Sdk] in
/-- Moving rent brings in nobody but the sponsor. -/
theorem keys_withAtaPayer {sponsor key : Pubkey} {ix : Instruction}
    (h : key ∈ (ix.withAtaPayer sponsor).keys) : key = sponsor ∨ key ∈ ix.keys := by
  unfold Instruction.withAtaPayer at h
  split_ifs at h with hata
  · rcases List.mem_cons.mp h with rfl | h
    · exact Or.inr List.mem_cons_self
    · obtain ⟨account, haccount, rfl⟩ := List.mem_map.mp h
      rcases List.mem_or_eq_of_mem_set haccount with haccount | rfl
      · exact Or.inr (List.mem_cons_of_mem _ (List.mem_map_of_mem haccount))
      · exact Or.inl rfl
  · exact Or.inr h

namespace Bloxroute

open Aggregators.Bloxroute (InstructionsResponse)

/-- The distinct keys of a route: those its instructions mention, the wallet and the sponsor. -/
def routeKeys (response : InstructionsResponse) (wallet : Pubkey) (payer : Option Pubkey) :
    Finset Pubkey :=
  (wallet :: (payer.toList ++
    (response.setupInstructions ++ [response.swapInstruction]).flatMap apiKeys)).toFinset

/-- A route that keeps to a number of accounts, among them the common ones. -/
structure KeepsTo (response : InstructionsResponse) (trade : Trade) (payer : Option Pubkey)
    (maxAccounts : UInt8) : Prop where
  card_le : (routeKeys response trade.wallet payer).card ≤ maxAccounts.toNat
  common : HoldsCommon (routeKeys response trade.wallet payer) trade.settlement trade.wallet

omit [Sdk] in
/-- What is left of the 64 accounts for a route. -/
theorem toNat_maxAccounts (payer : Option Pubkey) :
    (maxAccounts payer).toNat + (if payer.isSome then 2 else 0) + 3 = 64 := by
  cases payer with
  | none => rfl
  | some payer =>
    have hroom : maxAccounts (some payer) = 59 := by
      simp only [maxAccounts, Option.isSome_some, if_true]
      decide
    simp [hroom]

section Keys

variable {response : InstructionsResponse} {trade : Trade} {payer : Option Pubkey}

omit [Sdk] in
theorem wallet_mem_routeKeys : trade.wallet ∈ routeKeys response trade.wallet payer := by
  simp [routeKeys]

omit [Sdk] in
theorem payer_mem_routeKeys {key : Pubkey} (h : key ∈ payer) :
    key ∈ routeKeys response trade.wallet payer := by
  simp [routeKeys, Option.mem_def.mp h]

omit [Sdk] in
theorem mem_routeKeys {api : Aggregators.ApiInstruction} {key : Pubkey}
    (hapi : api ∈ response.setupInstructions ++ [response.swapInstruction])
    (hkey : key ∈ apiKeys api) : key ∈ routeKeys response trade.wallet payer := by
  have hmem : key ∈ (response.setupInstructions ++ [response.swapInstruction]).flatMap apiKeys :=
    List.mem_flatMap.mpr ⟨api, hapi, hkey⟩
  exact List.mem_toFinset.mpr (List.mem_cons_of_mem _ (List.mem_append_right _ hmem))

/-- A setup instruction mentions keys of the route. -/
theorem keys_setupInstruction {api : Aggregators.ApiInstruction} {ix : Instruction}
    (hapi : api ∈ response.setupInstructions)
    (h : setupInstruction trade payer api = .ok ix) :
    ∀ key ∈ ix.keys, key ∈ routeKeys response trade.wallet payer := by
  obtain ⟨decoded, hdecoded, h₁⟩ := bind_eq_ok.mp h
  obtain ⟨_, -, h₂⟩ := bind_eq_ok.mp h₁
  have hroute : ∀ key ∈ decoded.keys, key ∈ routeKeys response trade.wallet payer :=
    fun key hkey => mem_routeKeys (List.mem_append_left _ hapi)
      (keys_decodeBase64 hdecoded key hkey)
  cases payer with
  | none => exact pure_eq_ok.mp h₂ ▸ hroute
  | some payer =>
    obtain ⟨-, rfl⟩ := moveRentToSponsor_eq_ok.mp h₂
    intro key hkey
    rcases keys_withAtaPayer hkey with rfl | hkey
    · exact payer_mem_routeKeys rfl
    · exact hroute key hkey

/-- The setup of a provider fee adds two keys to a route, and nothing else does. -/
theorem keysBeyond_responsePrepare {fee : Option ProviderFee} {route : PreparedSwap}
    (hcommon : HoldsCommon (routeKeys response trade.wallet payer) trade.settlement trade.wallet)
    (hmint : ∀ p ∈ fee, p.mint = trade.settlement.mint)
    (h : responsePrepare response trade payer fee = .ok route) :
    keysBeyond (routeKeys response trade.wallet payer) (route.instructions.filter (keeps .v1)) ≤
      if fee.isSome then 2 else 0 := by
  have hpayer : payer.getD trade.wallet ∈ routeKeys response trade.wallet payer := by
    cases payer with
    | none => exact wallet_mem_routeKeys
    | some payer => exact payer_mem_routeKeys rfl
  obtain ⟨config, setup, swap, hconfig, hsetup, hswap, -, -, hixs⟩ := responsePrepare_eq_ok h
  have hstripped : config.filter (keeps .v1) = [] := by
    refine List.filter_eq_nil_iff.mpr fun ix hix => ?_
    simp [keeps, (configInstructions_eq_ok hconfig).programId ix hix]
  have hprovider : ∀ ix ∈ setup ++ [swap], ∀ key ∈ ix.keys,
      key ∈ routeKeys response trade.wallet payer := by
    intro ix hix key hkey
    rcases List.mem_append.mp hix with hix | hix
    · obtain ⟨api, hapi, hdecoded⟩ := exists_of_forall₂ (mapM_eq_ok.mp hsetup) hix
      exact keys_setupInstruction hapi hdecoded key hkey
    · rw [List.mem_singleton.mp hix] at hkey
      exact mem_routeKeys (by simp) (keys_decodeBase64 hswap key hkey)
  have hnothing : keysBeyond (routeKeys response trade.wallet payer) (setup ++ [swap]) ≤ 0 :=
    keysBeyond_le [] fun ix hix key hkey => Or.inl (hprovider ix hix key hkey)
  have hsetupFee : keysBeyond (routeKeys response trade.wallet payer)
      (fee.map fun fee => fee.setup (payer.getD trade.wallet)).toList ≤
        if fee.isSome then 2 else 0 := by
    cases fee with
    | none => simp
    | some p =>
      have hle := keysBeyond_setup_le hcommon hpayer p.fee.recipient
      rw [← hmint p rfl] at hle
      exact hle
  rw [hixs, List.append_assoc, List.append_assoc, List.filter_append, hstripped,
    List.nil_append]
  refine (keysBeyond_mono (List.filter_subset_self _)).trans ((keysBeyond_append_le _ _ _).trans ?_)
  omega

end Keys

end Bloxroute

/-! ## 3.  The whole transaction -/

/-- The static keys of a compiled V1 message are the fee payer and what the instructions
mention. -/
def CompilesMentioned : Prop :=
  ∀ payer ixs blockhash config m, Sdk.compileV1 payer ixs blockhash config = .ok m →
    m.accountKeys.toFinset ⊆ insert payer (keysOf ixs)

namespace TradingClient

variable [Profile] {client : TradingClient} {trade : Trade} {providerFee : Option ProviderFee}

omit [Sdk] in
/-- A provider collects its fee in the settlement currency. -/
theorem mint_of_providerFee {source : QuoteSource}
    (h : client.providerFee trade source = .ok providerFee) :
    ∀ p ∈ providerFee, p.mint = trade.settlement.mint := by
  intro p hp
  obtain rfl := Option.mem_def.mp hp
  unfold providerFee at h
  split at h
  · exact nomatch h
  · obtain ⟨_, -, h₁⟩ := bind_eq_ok.mp h
    obtain ⟨fee, hfee, h₂⟩ := bind_eq_ok.mp h₁
    obtain ⟨_, -, h₃⟩ := bind_eq_ok.mp hfee
    obtain rfl := Option.some.inj (pure_eq_ok.mp h₂)
    rw [← pure_eq_ok.mp h₃]

omit [Profile] [Sdk] in
/-- One fee at most is collected, by the provider or by the SDK. -/
theorem one_fee (client : TradingClient) (providerFee : Option ProviderFee) :
    (if providerFee.isSome then 2 else 0) +
      (if (client.transferFee providerFee).isSome then 2 else 0) ≤ 2 := by
  cases providerFee with
  | none => simp only [Option.isSome_none, Bool.false_eq_true, if_false]; split_ifs <;> omega
  | some p =>
    have hnone : client.transferFee (some p) = none := by
      simp [transferFee]
    simp [hnone]

/-- **What is set aside for the client suffices**: with the fees, the reimbursement and the tip,
a route that keeps to its accounts stays within those of a V1 transaction. -/
theorem card_keysOf_le {routed : Trade} {source : QuoteSource} {route charged : PreparedSwap}
    {response : Aggregators.Bloxroute.InstructionsResponse} {payer : Option Pubkey}
    (hpayer : payer = (client.sponsorFor trade).map GasSponsor.wallet)
    (hprovider : client.providerFee trade source = .ok providerFee)
    (hreserved : client.routedTrade trade (client.transferFee providerFee) = .ok routed)
    (hroute : Bloxroute.responsePrepare response routed payer providerFee = .ok route)
    (hcharged : client.appendFees trade route (client.transferFee providerFee) = .ok charged)
    (hkeeps : Bloxroute.KeepsTo response trade payer (Bloxroute.maxAccounts payer))
    (submitter : Submitter) :
    (insert (payer.getD trade.wallet) (keysOf (charged.instructions.filter (keeps .v1) ++
      tipInstructions (payer.getD trade.wallet) submitter))).card ≤ 64 := by
  have hinput := routedTrade_eq_ok hreserved
  have hwallet : routed.wallet = trade.wallet := by
    rw [hinput.rest]
  have hcommon := hkeeps.common
  have hfeePayer : payer.getD trade.wallet ∈
      Bloxroute.routeKeys response trade.wallet payer := by
    cases payer with
    | none => exact Bloxroute.wallet_mem_routeKeys
    | some payer => exact Bloxroute.payer_mem_routeKeys rfl
  have hcommonRouted : HoldsCommon (Bloxroute.routeKeys response routed.wallet payer)
      routed.settlement routed.wallet := by
    rwa [hwallet, hinput.settlement]
  have hmint : ∀ p ∈ providerFee, p.mint = routed.settlement.mint := by
    rw [hinput.settlement]
    exact mint_of_providerFee hprovider
  have hfromRoute := Bloxroute.keysBeyond_responsePrepare hcommonRouted hmint hroute
  obtain ⟨added, hixs, hadded⟩ := keysBeyond_appendFees hcommon
    Bloxroute.wallet_mem_routeKeys (fun sponsor hsponsor => by
      refine Bloxroute.payer_mem_routeKeys ?_
      rw [hpayer, Option.mem_def.mp hsponsor]
      rfl) hcharged
  have htip := keysBeyond_tip_le hcommon.system hfeePayer submitter
  have hone := client.one_fee providerFee
  have hroom := Bloxroute.toNat_maxAccounts payer
  have hsome : payer.isSome = (client.sponsorFor trade).isSome := by
    rw [hpayer, Option.isSome_map]
  have hcard := hkeeps.card_le
  rw [hwallet] at hfromRoute
  rw [hixs, List.filter_append, List.append_assoc]
  refine (card_insert_keysOf_le hfeePayer _).trans ?_
  have hfirst := keysBeyond_append_le (Bloxroute.routeKeys response trade.wallet payer)
    (route.instructions.filter (keeps .v1))
    (added.filter (keeps .v1) ++ tipInstructions (payer.getD trade.wallet) submitter)
  have hsecond := keysBeyond_append_le (Bloxroute.routeKeys response trade.wallet payer)
    (added.filter (keeps .v1)) (tipInstructions (payer.getD trade.wallet) submitter)
  have hkept : keysBeyond (Bloxroute.routeKeys response trade.wallet payer)
      (added.filter (keeps .v1)) ≤ _ :=
    (keysBeyond_mono (List.filter_subset_self added)).trans hadded
  rw [hsome] at hroom
  omega

end TradingClient

/-- The payer of the transaction of a trade. -/
def TradingClient.feePayer (client : TradingClient) (trade : Trade) : Pubkey :=
  SwapSigners.payer { sponsor := client.sponsorFor trade } trade.wallet

/-- A V1 message that the executor may compile of a route: its instructions without the compute
budget, and the tip. -/
def CompilesTo (payer : Pubkey) (ixs : List Instruction) (submitter : Submitter)
    (m : V1Message) : Prop :=
  ∃ requested kept blockhash header, RequestedBudget.take ixs .v1 = .ok (requested, kept) ∧
    Sdk.compileV1 payer (kept ++ tipInstructions payer submitter) blockhash header = .ok m

/-- **The account budget that is asked of bloXroute is enough**: where the route that was
answered keeps to it, every V1 message that can be compiled of the prepared swap has at most
64 keys, whatever is charged, whoever pays and whatever is tipped. -/
theorem account_budget_suffices [Profile] (hcompile : CompilesMentioned)
    {client : TradingClient} {trade : Trade} {tr : Trace Answer} {prepared : PreparedSwap}
    (hsource : client.quoteSourceFor trade = .bloxroute)
    (hrun : (client.prepareSelectedSwap trade).Runs () tr (.ok prepared) ()) :
    ∃ request response, (⟨.bloxrouteInstructions request, .ok response⟩ : Event Answer) ∈ tr ∧
      request.maxAccounts =
        Bloxroute.maxAccounts ((client.sponsorFor trade).map GasSponsor.wallet) ∧
      prepared.format = .v1 ∧
      (Bloxroute.KeepsTo response trade ((client.sponsorFor trade).map GasSponsor.wallet)
          request.maxAccounts →
        ∀ submitter,
          (∀ m, CompilesTo (client.feePayer trade) prepared.instructions submitter m →
            m.accountKeys.toFinset.card ≤ 64) ∧
          ∀ (lookupTables : List AddressLookupTableAccount) (fee : UInt64) (s s' : σ)
            (tr' : Trace Answer) (tx : VersionedTransaction),
            (buildTransaction (client.feePayer trade)
              ⟨prepared.instructions, lookupTables, prepared.format⟩ fee submitter).Runs s tr'
              (.ok tx) s' →
            tx.message.staticAccountKeys.toFinset.card ≤ 64) := by
  obtain ⟨providerFee, routed, route, charged, hfrom⟩ := runs_prepareSelectedSwap hrun
  have hinput := TradingClient.routedTrade_eq_ok hfrom.reserved
  have hsponsor : client.sponsorFor routed = client.sponsorFor trade := by
    rw [TradingClient.sponsorFor, hinput.settlement, TradingClient.sponsorFor]
  obtain ⟨tr', htr', -, hroute⟩ := hfrom.answered
  rw [hsource] at hroute
  have hbloxroute := TradingClient.runs_prepareRoute_bloxroute hroute
  rw [hsponsor] at hbloxroute
  obtain ⟨request, response, rfl, hmax, hresponse⟩ := Bloxroute.runs_prepareWithFee hbloxroute
  obtain ⟨usdValue, rfl⟩ := hfrom.shown
  have hformat : charged.format = .v1 := by
    obtain ⟨_, _, _, -, -, -, -, hv1, -⟩ := Bloxroute.responsePrepare_eq_ok hresponse
    rw [appendFees_format hfrom.appended, hv1]
  refine ⟨request, response, htr' _ List.mem_cons_self, hmax, hformat, fun hkeeps submitter => ?_⟩
  rw [hmax] at hkeeps
  have hcompiled : ∀ m, CompilesTo (client.feePayer trade) charged.instructions submitter m →
      m.accountKeys.toFinset.card ≤ 64 := by
    rintro m ⟨requested, kept, blockhash, header, htake, hm⟩
    rw [take_eq_ok htake] at hm
    exact (Finset.card_le_card (hcompile _ _ _ _ m hm)).trans
      (client.card_keysOf_le rfl hfrom.provider hfrom.reserved hresponse hfrom.appended hkeeps
        submitter)
  refine ⟨hcompiled, fun lookupTables fee s s' tr' tx hbuilt => ?_⟩
  obtain ⟨requested, kept, simulated, blockhash, m, htake, hm, hmessage, -⟩ :=
    runs_buildTransaction_v1 hformat hbuilt
  rw [hmessage]
  exact hcompiled m ⟨requested, kept, blockhash, _, htake, hm⟩

end Parts

/-! ### A sponsored route with a fee -/

theorem mem_insertKey {key k : Pubkey} {ks : List Pubkey} :
    key ∈ insertKey k ks ↔ key = k ∨ key ∈ ks := by
  induction ks with
  | nil => simp [insertKey]
  | cons k' ks ih =>
    unfold insertKey
    split_ifs with heq hlt
    · simp [heq]
    · simp
    · simp only [List.mem_cons, ih]
      tauto

theorem mem_foldr_insertKey {key : Pubkey} {ks : List Pubkey} :
    key ∈ ks.foldr insertKey [] ↔ key ∈ ks := by
  induction ks with
  | nil => simp
  | cons k ks ih => simp [mem_insertKey, ih]

theorem pubkey_of_mem_mentions {payer : Pubkey} {ixs : List Instruction} {use : AccountMeta}
    (h : use ∈ mentions payer ixs) : use.pubkey = payer ∨ use.pubkey ∈ keysOf ixs := by
  rcases List.mem_cons.mp h with rfl | h
  · exact Or.inl rfl
  · obtain ⟨ix, hix, h⟩ := List.mem_flatMap.mp h
    refine Or.inr (mem_keysOf.mpr ⟨ix, hix, ?_⟩)
    rcases List.mem_cons.mp h with rfl | h
    · exact List.mem_cons_self
    · exact List.mem_cons_of_mem _ (List.mem_map_of_mem h)

theorem mem_keyClass {payer key : Pubkey} {ixs : List Instruction} {isSigner isWritable : Bool}
    (h : key ∈ keyClass payer (mentions payer ixs) isSigner isWritable) :
    key ∈ insert payer (keysOf ixs) := by
  have hkey := mem_foldr_insertKey.mp (List.mem_filter.mp h).1
  obtain ⟨use, huse, rfl⟩ := List.mem_map.mp hkey
  exact Finset.mem_insert.mpr (pubkey_of_mem_mentions huse)

theorem referenceSdk_compilesMentioned (derived : List (List Bytes × Pubkey × Pubkey)) :
    let := referenceSdk derived
    CompilesMentioned := by
  intro sdk payer ixs blockhash config m h key hkey
  obtain ⟨compiled, -, h₁⟩ := bind_eq_ok.mp h
  rw [← pure_eq_ok.mp h₁, List.mem_toFinset] at hkey
  have hclasses : key = payer ∨ _ := List.mem_cons.mp hkey
  rcases hclasses with rfl | hkey
  · exact Finset.mem_insert_self _ _
  · simp only [List.mem_append] at hkey
    rcases hkey with ((hkey | hkey) | hkey) | hkey
    · exact mem_keyClass hkey
    · exact mem_keyClass hkey
    · exact mem_keyClass hkey
    · exact mem_keyClass hkey

def bloxrouteTrade : Trade :=
  { sampleTrade with quoteSource := some .bloxroute }

/-- A route for what is left of 10 USDC after both fees, which sets up the user's account. -/
def sponsoredResponse [Sdk] : Aggregators.Bloxroute.InstructionsResponse :=
  { fullConfigResponse with
    inputAmount := 6900000
    setupInstructions :=
      [{ programId := keyText ataProgram
         accounts :=
          [⟨keyText sampleSponsorWallet, true, true⟩,
            ⟨keyText (ata sampleUser sampleMint tokenProgram), false, true⟩,
            ⟨keyText sampleUser, false, false⟩, ⟨keyText sampleMint, false, false⟩,
            ⟨keyText systemProgram, false, false⟩, ⟨keyText tokenProgram, false, false⟩]
         data := "AQ==" }]
    swapInstruction :=
      { programId := keyText Bloxroute.program
        accounts :=
          [⟨keyText sampleUser, true, true⟩, ⟨keyText usdcMint, false, false⟩,
            ⟨keyText (ata sampleUser usdcMint tokenProgram), false, true⟩]
        data := "Bw==" } }

def bloxrouteBackend [Sdk] (_ : ℕ) (q : Query) : Answer q :=
  match q with
  | .bloxrouteInstructions _ => .ok sponsoredResponse
  | q => silent q

theorem sponsoredResponse_keepsTo :
    let := sampleSdk
    Bloxroute.KeepsTo sponsoredResponse bloxrouteTrade (some sampleSponsorWallet)
      (Bloxroute.maxAccounts (some sampleSponsorWallet)) := by
  intro sdk
  have hkeys : Bloxroute.routeKeys sponsoredResponse sampleUser (some sampleSponsorWallet) =
      [sampleUser, sampleSponsorWallet, ataProgram, sampleSponsorWallet,
        ata sampleUser sampleMint tokenProgram, sampleUser, sampleMint, systemProgram,
        tokenProgram, Bloxroute.program, sampleUser, usdcMint,
        ata sampleUser usdcMint tokenProgram].toFinset := by
    simp [Bloxroute.routeKeys, apiKeys, sponsoredResponse, Except.toOption]
  have hmem : ∀ key ∈ [systemProgram, tokenProgram, ataProgram, usdcMint,
      ata sampleUser usdcMint tokenProgram],
      key ∈ Bloxroute.routeKeys sponsoredResponse sampleUser (some sampleSponsorWallet) := by
    simp [hkeys]
  constructor
  · show (Bloxroute.routeKeys sponsoredResponse sampleUser (some sampleSponsorWallet)).card ≤ 59
    rw [hkeys]
    exact (List.toFinset_card_le _).trans (by simp)
  · exact ⟨hmem _ (by simp), hmem _ (by simp), hmem _ (by simp), hmem usdcMint (by simp),
      fun _ => hmem (ata sampleUser usdcMint tokenProgram) (by simp)⟩

theorem account_budget_suffices_sample :
    let := sampleSdk
    let : Profile := ⟨true⟩
    ∃ tr prepared, (sampleClient.prepareSelectedSwap bloxrouteTrade).Runs () tr (.ok prepared) () ∧
      ∀ submitter m, CompilesTo sampleSponsorWallet prepared.instructions submitter m →
        m.accountKeys.toFinset.card ≤ 64 := by
  intro sdk profile
  obtain ⟨tr, r, _, hrun, hok, hanswers⟩ := Proc.runs_of_exec_answered bloxrouteBackend
    (fun _ => 1) (sampleClient.prepareSelectedSwap bloxrouteTrade) ()
    (fun r => r.isOk = true) (by decide +kernel)
  obtain ⟨prepared, rfl⟩ := isOk_iff.mp hok
  obtain ⟨request, response, hasked, hmax, -, hfits⟩ := account_budget_suffices (σ := Unit)
    (referenceSdk_compilesMentioned _) rfl hrun
  obtain ⟨_, hanswer⟩ := hanswers _ hasked
  obtain rfl := Except.ok.inj hanswer
  rw [hmax] at hfits
  exact ⟨tr, prepared, hrun, fun submitter => (hfits sponsoredResponse_keepsTo submitter).1⟩

end Solana
end TradingAggregators
