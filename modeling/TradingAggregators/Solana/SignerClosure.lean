import TradingAggregators.Solana.AccountBudget
import TradingAggregators.Solana.ComputeBudget
import TradingAggregators.Solana.Identification
import TradingAggregators.Solana.NativeSettlement
import TradingAggregators.Solana.SignatureSlots
import TradingAggregators.Solana.SponsoredSetup

/-!
# Who has to sign a prepared swap

A transaction that needs one signature more than the client can give is worthless, and one that
needs one less may be sent without the user.  The executor refuses both
(`SwapSigners.userSignerIndex`), after the route was bought and simulated.

## 1.  Instructions

`SignedBy`: nobody but the wallet and the payer signs an instruction.  Everything the client adds
itself is `SignedBy`.

## 2.  Routes

The decoding of a provider's instruction refuses other signers (`signedBy_decodeInstruction`), and
no adapter adds one later.

## 3.  Fees

The fees and the tip are signed by the wallet or by the payer; a sponsored swap always holds a
transfer that the wallet signs (`TradingClient.signedBy_appendFees`).

## 4.  Built transactions

`prepared_signers_expected`: what is built of a prepared swap needs exactly the signatures that
`SwapSigners.sign` gives, so the executor's check refuses none.
-/

namespace TradingAggregators
namespace Solana

open Interaction Interaction.Program Rust Wire

/-! ## 1.  Instructions -/

/-- Nobody but the wallet and the payer signs the instruction. -/
def Instruction.SignedBy (wallet : Pubkey) (payer : Option Pubkey) (ix : Instruction) : Prop :=
  ∀ account ∈ ix.accounts, account.isSigner = true →
    account.pubkey = wallet ∨ some account.pubkey = payer

/-- The keys that sign an instruction of the list. -/
def signerKeys (ixs : List Instruction) : List Pubkey :=
  ((ixs.flatMap Instruction.accounts).filter AccountMeta.isSigner).map AccountMeta.pubkey

theorem mem_signerKeys {ixs : List Instruction} {key : Pubkey} :
    key ∈ signerKeys ixs ↔
      ∃ ix ∈ ixs, ∃ account ∈ ix.accounts, account.isSigner = true ∧ account.pubkey = key := by
  simp only [signerKeys, List.mem_map, List.mem_filter, List.mem_flatMap]
  constructor
  · rintro ⟨account, ⟨⟨ix, hix, haccount⟩, hsigner⟩, hkey⟩
    exact ⟨ix, hix, account, haccount, hsigner, hkey⟩
  · rintro ⟨ix, hix, account, haccount, hsigner, hkey⟩
    exact ⟨account, ⟨⟨ix, hix, haccount⟩, hsigner⟩, hkey⟩

@[simp] theorem signerKeys_append (ixs ixs' : List Instruction) :
    signerKeys (ixs ++ ixs') = signerKeys ixs ++ signerKeys ixs' := by
  simp [signerKeys]

namespace Instruction.SignedBy

variable {wallet : Pubkey} {payer : Option Pubkey}

/-- Without accounts there is nobody to sign. -/
theorem of_empty {ix : Instruction} (h : ix.accounts = []) : ix.SignedBy wallet payer := by
  simp [SignedBy, h]

theorem systemTransfer (destination : Pubkey) (lamports : UInt64) :
    (systemTransfer wallet destination lamports).SignedBy wallet payer := by
  simp [SignedBy, Solana.systemTransfer, AccountMeta.writable]

/-- The tip is the payer's, and the payer is the wallet where there is no sponsor. -/
theorem tip (account : Pubkey) (lamports : UInt64) :
    (tip (payer.getD wallet) account lamports).SignedBy wallet payer := by
  cases payer <;> simp [SignedBy, Solana.tip, Solana.systemTransfer, AccountMeta.writable]

theorem syncNative (account : Pubkey) : (syncNative account).SignedBy wallet payer := by
  simp [SignedBy, Solana.syncNative, AccountMeta.writable]

theorem closeAccount (account destination : Pubkey) :
    (closeAccount account destination wallet).SignedBy wallet payer := by
  simp [SignedBy, Solana.closeAccount, AccountMeta.writable, AccountMeta.readonly]

theorem usdcTransfer [Sdk] (recipient : Pubkey) (amount : UInt64) :
    (usdcTransfer wallet recipient amount).SignedBy wallet payer := by
  simp [SignedBy, Solana.usdcTransfer, AccountMeta.writable, AccountMeta.readonly]

theorem createAta [Sdk] (owner mint token : Pubkey) :
    (createAtaIdempotent (payer.getD wallet) owner mint token).SignedBy wallet payer := by
  cases payer <;>
    simp [SignedBy, createAtaIdempotent, AccountMeta.writable, AccountMeta.readonly]

theorem ownAta [Sdk] (owner mint token : Pubkey) :
    (createAtaIdempotent wallet owner mint token).SignedBy wallet payer := by
  simp [SignedBy, createAtaIdempotent, AccountMeta.writable, AccountMeta.readonly]

theorem withAtaPayer {sponsor : Pubkey} {ix : Instruction}
    (h : ix.SignedBy wallet (some sponsor)) :
    (ix.withAtaPayer sponsor).SignedBy wallet (some sponsor) := by
  unfold Instruction.withAtaPayer
  split_ifs with hata
  · intro account haccount hsigner
    rcases List.mem_or_eq_of_mem_set haccount with haccount | rfl
    · exact h account haccount hsigner
    · exact Or.inr rfl
  · exact h

end Instruction.SignedBy

/-! ## 2.  Routes -/

section Routes

variable [Sdk] {wallet : Pubkey} {payer : Option Pubkey}

/-- Nobody but the wallet and the payer signs an instruction of the list. -/
def SignedBy (wallet : Pubkey) (payer : Option Pubkey) (ixs : List Instruction) : Prop :=
  ∀ ix ∈ ixs, ix.SignedBy wallet payer

omit [Sdk] in
@[simp] theorem signedBy_append {ixs ixs' : List Instruction} :
    SignedBy wallet payer (ixs ++ ixs') ↔
      SignedBy wallet payer ixs ∧ SignedBy wallet payer ixs' := by
  simp [SignedBy, or_imp, forall_and]

omit [Sdk] in
@[simp] theorem signedBy_singleton {ix : Instruction} :
    SignedBy wallet payer [ix] ↔ ix.SignedBy wallet payer := by
  simp [SignedBy]

omit [Sdk] in
@[simp] theorem signedBy_cons {ix : Instruction} {ixs : List Instruction} :
    SignedBy wallet payer (ix :: ixs) ↔
      ix.SignedBy wallet payer ∧ SignedBy wallet payer ixs := by
  simp [SignedBy]

omit [Sdk] in
@[simp] theorem signedBy_nil : SignedBy wallet payer [] := by
  simp [SignedBy]

omit [Sdk] in
/-- **The decoder refuses other signers.** -/
theorem signedBy_decodeInstruction {venue : String} {api : Aggregators.ApiInstruction}
    {data : Bytes} {ix : Instruction}
    (h : decodeInstruction venue wallet payer api data = .ok ix) : ix.SignedBy wallet payer := by
  obtain ⟨accounts, haccounts, h₁⟩ := bind_eq_ok.mp h
  obtain ⟨_, -, h₂⟩ := bind_eq_ok.mp h₁
  rw [← pure_eq_ok.mp h₂]
  intro account haccount hsigner
  obtain ⟨source, -, hdecoded⟩ := exists_of_forall₂ (mapM_eq_ok.mp haccounts) haccount
  obtain ⟨key, -, h₃⟩ := bind_eq_ok.mp hdecoded
  obtain ⟨_, hallowed, h₄⟩ := bind_eq_ok.mp h₃
  rw [failIf_eq_ok] at hallowed
  rw [← pure_eq_ok.mp h₄] at hsigner ⊢
  by_contra hother
  rw [not_or] at hother
  exact hallowed ⟨hsigner, hother.1, hother.2⟩

theorem signedBy_decodeBase64 {venue : String} {api : Aggregators.ApiInstruction}
    {ix : Instruction} (h : decodeBase64 venue wallet payer api = .ok ix) :
    ix.SignedBy wallet payer := by
  obtain ⟨data, -, h₁⟩ := bind_eq_ok.mp h
  exact signedBy_decodeInstruction h₁

omit [Sdk] in
theorem signedBy_decodeHex {venue : String} {api : Aggregators.ApiInstruction}
    {ix : Instruction} (h : decodeHex venue wallet payer api = .ok ix) :
    ix.SignedBy wallet payer := by
  obtain ⟨_, -, h₁⟩ := bind_eq_ok.mp h
  obtain ⟨data, -, h₂⟩ := bind_eq_ok.mp h₁
  exact signedBy_decodeInstruction h₂

omit [Sdk] in
/-- A loop that appends what it keeps of each item keeps what its rounds keep. -/
theorem signedBy_foldlM {α : Type} {step : List Instruction → α → TradeResult (List Instruction)}
    (hstep : ∀ kept kept' item, step kept item = .ok kept' → SignedBy wallet payer kept →
      SignedBy wallet payer kept')
    {items : List α} {kept kept' : List Instruction} (h : items.foldlM step kept = .ok kept')
    (hkept : SignedBy wallet payer kept) : SignedBy wallet payer kept' := by
  induction items generalizing kept with
  | nil =>
    rw [List.foldlM_nil, pure_eq_ok] at h
    rw [← h]
    exact hkept
  | cons item items ih =>
    rw [List.foldlM_cons] at h
    obtain ⟨next, hnext, h₁⟩ := bind_eq_ok.mp h
    exact ih h₁ (hstep kept next item hnext hkept)

omit [Sdk] in
/-- What a round keeps is at most the one instruction it decoded. -/
theorem signedBy_retained {retained : Bool} {kept : List Instruction} {ix : Instruction}
    (hkept : SignedBy wallet payer kept) (hix : ix.SignedBy wallet payer) :
    SignedBy wallet payer (if retained then kept ++ [ix] else kept) := by
  cases retained <;> simp [hkept, hix]

omit [Sdk] in
theorem signedBy_config {venue : String} {config : Aggregators.TransactionConfig}
    {ixs : List Instruction} (h : configInstructions venue config = .ok ixs) :
    SignedBy wallet payer ixs := by
  rw [(configInstructions_eq_ok h).instructions]
  intro ix hix
  simp only [List.mem_append, Option.mem_toList, Option.map_eq_some_iff] at hix
  rcases hix with ⟨_, -, rfl⟩ | ⟨_, -, rfl⟩ | ⟨_, -, rfl⟩
  · exact .of_empty rfl
  · exact .of_empty rfl
  · exact .of_empty rfl

theorem Jupiter.signedBy_response {response : Aggregators.Jupiter.BuildResponse}
    {ixs : List Instruction} (h : Jupiter.responseInstructions response wallet payer = .ok ixs) :
    SignedBy wallet payer ixs := by
  intro ix hix
  obtain ⟨api, -, hdecoded⟩ := exists_of_forall₂ (mapM_eq_ok.mp h) hix
  exact signedBy_decodeBase64 hdecoded

theorem DFlow.signedBy_response {response : Aggregators.DFlow.InstructionsResponse}
    {ixs : List Instruction} (h : DFlow.responseInstructions response wallet payer = .ok ixs) :
    SignedBy wallet payer ixs := by
  obtain ⟨-, -, h₁⟩ := bind_eq_ok.mp h
  obtain ⟨kept, hkept, h₂⟩ := bind_eq_ok.mp h₁
  obtain ⟨-, -, h₃⟩ := bind_eq_ok.mp h₂
  rw [← pure_eq_ok.mp h₃]
  refine signedBy_foldlM (fun before after api hround hbefore => ?_) hkept signedBy_nil
  obtain ⟨ix, hix, h₄⟩ := bind_eq_ok.mp hround
  obtain ⟨retained, -, h₅⟩ := bind_eq_ok.mp h₄
  rw [← pure_eq_ok.mp h₅]
  exact signedBy_retained hbefore (signedBy_decodeBase64 hix)

variable {trade : Trade}

/-- What an instruction needs to be signed by does not change when its rent moves. -/
theorem signedBy_moved {venue : String} {sponsor : Pubkey} {ix moved : Instruction}
    (h : moveRentToSponsor venue ix wallet sponsor = .ok moved)
    (hix : ix.SignedBy wallet (some sponsor)) : moved.SignedBy wallet (some sponsor) := by
  obtain ⟨-, rfl⟩ := moveRentToSponsor_eq_ok.mp h
  exact hix.withAtaPayer

theorem Relay.signedBy_dataInstructions {data : TransactionData} {ixs : List Instruction}
    (h : Relay.dataInstructions data trade payer = .ok ixs) :
    SignedBy trade.wallet payer ixs := by
  obtain ⟨_, -, h₁⟩ := bind_eq_ok.mp h
  obtain ⟨_, -, h₂⟩ := bind_eq_ok.mp h₁
  obtain ⟨kept, hkept, h₃⟩ := bind_eq_ok.mp h₂
  obtain ⟨_, -, h₄⟩ := bind_eq_ok.mp h₃
  obtain ⟨config, hconfig, h₅⟩ := bind_eq_ok.mp h₄
  rw [← pure_eq_ok.mp h₅, signedBy_append]
  refine ⟨signedBy_foldlM (fun before after api hround hbefore => ?_) hkept signedBy_nil,
    signedBy_config hconfig⟩
  obtain ⟨ix, hix, h₆⟩ := bind_eq_ok.mp hround
  have hsigned := signedBy_decodeHex hix
  cases payer with
  | none =>
    obtain ⟨_, hsame, h₇⟩ := bind_eq_ok.mp h₆
    obtain ⟨retained, -, h₈⟩ := bind_eq_ok.mp h₇
    rw [← pure_eq_ok.mp h₈, ← pure_eq_ok.mp hsame]
    exact signedBy_retained hbefore hsigned
  | some sponsor =>
    obtain ⟨moved, hmoved, h₇⟩ := bind_eq_ok.mp h₆
    obtain ⟨retained, -, h₈⟩ := bind_eq_ok.mp h₇
    rw [← pure_eq_ok.mp h₈]
    exact signedBy_retained hbefore (signedBy_moved hmoved hsigned)

theorem Bloxroute.signedBy_responsePrepare
    {response : Aggregators.Bloxroute.InstructionsResponse} {fee : Option ProviderFee}
    {route : PreparedSwap} (h : Bloxroute.responsePrepare response trade payer fee = .ok route) :
    SignedBy trade.wallet payer route.instructions := by
  obtain ⟨config, setup, swap, hconfig, hsetup, hswap, -, -, hixs⟩ :=
    Bloxroute.responsePrepare_eq_ok h
  simp only [hixs, signedBy_append, signedBy_singleton]
  refine ⟨⟨⟨signedBy_config hconfig, ?_⟩, ?_⟩, signedBy_decodeBase64 hswap⟩
  · cases fee with
    | none => exact signedBy_nil
    | some fee => exact signedBy_singleton.mpr (.createAta _ _ _)
  · intro ix hix
    obtain ⟨api, -, hapi⟩ := exists_of_forall₂ (mapM_eq_ok.mp hsetup) hix
    obtain ⟨decoded, hdecoded, h₁⟩ := bind_eq_ok.mp hapi
    obtain ⟨_, -, h₂⟩ := bind_eq_ok.mp h₁
    have hsigned := signedBy_decodeBase64 hdecoded
    cases payer with
    | none =>
      rw [← pure_eq_ok.mp h₂]
      exact hsigned
    | some sponsor => exact signedBy_moved h₂ hsigned

theorem PumpFun.signedBy_swapInstructions (curve : PumpFun.Curve) (fees : PumpFun.FeeSettings)
    (quote : Quote) :
    SignedBy trade.wallet payer (PumpFun.swapInstructions trade curve fees quote) := by
  have hbuy : ∀ pool paid least,
      (PumpFun.buyIx trade pool curve fees paid least).SignedBy trade.wallet payer := by
    simp [Instruction.SignedBy, PumpFun.buyIx, AccountMeta.writable, AccountMeta.readonly]
  have hsell : ∀ pool sold least,
      (PumpFun.sellIx trade pool curve fees sold least).SignedBy trade.wallet payer := by
    cases hcashback : curve.isCashback <;>
      simp [Instruction.SignedBy, PumpFun.sellIx, AccountMeta.writable, AccountMeta.readonly,
        hcashback]
  unfold PumpFun.swapInstructions
  cases trade.side with
  | buy => simp [hbuy, Instruction.SignedBy.ownAta]
  | sell => simp [hsell]

/-- The wallet is the only signer of a PumpSwap trade. -/
theorem PumpSwap.signer_swapAccounts {address : Pubkey} {pool : PumpSwap.PoolState}
    {fees : PumpSwap.FeeSettings} {account : AccountMeta}
    (h : account ∈ PumpSwap.swapAccounts trade address pool fees)
    (hsigner : account.isSigner = true) : account.pubkey = trade.wallet := by
  have hnamed : ∀ a ∈ PumpSwap.namedAccounts trade address pool fees, a.isSigner = true →
      a.pubkey = trade.wallet := by
    simp [PumpSwap.namedAccounts, AccountMeta.writable, AccountMeta.readonly]
  have hremaining : ∀ a ∈ PumpSwap.remainingAccounts trade pool fees trade.side,
      a.isSigner = false := by
    unfold PumpSwap.remainingAccounts
    split_ifs <;> simp [AccountMeta.writable, AccountMeta.readonly]
  simp only [PumpSwap.swapAccounts, List.mem_append] at h
  rcases h with ((h | h) | h) | h
  · exact hnamed account h hsigner
  · split_ifs at h
    · simp only [List.mem_cons, List.not_mem_nil, or_false] at h
      rcases h with rfl | rfl
      · simp [AccountMeta.readonly] at hsigner
      · simp [AccountMeta.writable] at hsigner
    · exact absurd h List.not_mem_nil
  · simp only [List.mem_cons, List.not_mem_nil, or_false] at h
    rcases h with rfl | rfl
    · simp [AccountMeta.readonly] at hsigner
    · simp [AccountMeta.readonly] at hsigner
  · simp [hremaining account h] at hsigner

theorem PumpSwap.signedBy_swapInstructions (address : Pubkey) (pool : PumpSwap.PoolState)
    (fees : PumpSwap.FeeSettings) (quote : Quote) :
    SignedBy trade.wallet payer (PumpSwap.swapInstructions trade address pool fees quote) := by
  have hswap : ∀ data, Instruction.SignedBy trade.wallet payer
      ⟨PumpSwap.programId, PumpSwap.swapAccounts trade address pool fees, data⟩ :=
    fun data account haccount hsigner => Or.inl (signer_swapAccounts haccount hsigner)
  unfold PumpSwap.swapInstructions PumpSwap.buyInstructions PumpSwap.sellInstructions
  cases trade.side with
  | buy =>
    simp [hswap, Instruction.SignedBy.ownAta, Instruction.SignedBy.systemTransfer,
      Instruction.SignedBy.syncNative, Instruction.SignedBy.closeAccount]
  | sell => simp [hswap, Instruction.SignedBy.ownAta, Instruction.SignedBy.closeAccount]

/-! ## 3.  Fees -/

variable [Profile]

/-- Whoever pays for a swap of a client besides the user. -/
def TradingClient.payerFor (client : TradingClient) (trade : Trade) : Option Pubkey :=
  (client.sponsorFor trade).map GasSponsor.wallet

theorem SdkFee.signedBy_applyWithPayer {fee : SdkFee} {route paid : PreparedSwap}
    (h : fee.applyWithPayer trade route (payer.getD trade.wallet) = .ok paid)
    (hroute : SignedBy trade.wallet payer route.instructions) :
    SignedBy trade.wallet payer paid.instructions := by
  obtain ⟨quote, -, h₁⟩ := bind_eq_ok.mp h
  by_cases hfee : quote.applicationFee > 0
  · cases hsettlement : trade.settlement with
    | sol =>
      simp only [hfee, if_true, hsettlement, pure_eq_ok] at h₁
      simp [← h₁, hroute, Instruction.SignedBy.systemTransfer]
    | usdc =>
      simp only [hfee, if_true, hsettlement, appendUsdcFee_eq, ok_bind, pure_eq_ok] at h₁
      simp [← h₁, hroute, Instruction.SignedBy.createAta, Instruction.SignedBy.usdcTransfer]
  · simp only [hfee, if_false, pure_eq_ok] at h₁
    rw [← h₁]
    exact hroute

namespace TradingClient

variable {client : TradingClient}

theorem signedBy_prepareRoute {source : QuoteSource} {fee : Option ProviderFee}
    {tr : Trace Answer} {route : PreparedSwap}
    (h : (client.prepareRoute source trade fee).Runs () tr (.ok route) ()) :
    SignedBy trade.wallet (client.payerFor trade) route.instructions := by
  cases runs_prepareRoute h with
  | jupiter hrun =>
    obtain ⟨_, _, _, _, -, -, h₁⟩ := Proc.runs_bind_ok.mp hrun
    obtain ⟨quote, -, h₂⟩ := Proc.runs_ofResult_bind_ok.mp h₁
    obtain ⟨ixs, hixs, h₃⟩ := Proc.runs_ofResult_bind_ok.mp h₂
    obtain ⟨tables, -, h₄⟩ := Proc.runs_ofResult_bind_ok.mp h₃
    obtain ⟨-, hroute, -⟩ := Proc.runs_pure.mp h₄
    rw [Except.ok.inj hroute]
    exact Jupiter.signedBy_response hixs
  | dflow hrun =>
    obtain ⟨_, _, _, _, -, -, h₁⟩ := Proc.runs_bind_ok.mp hrun
    obtain ⟨answer, _, -, h₂⟩ := Proc.runs_ask_bind.mp h₁
    obtain ⟨response, -, h₃⟩ := Proc.runs_ofResult_bind_ok.mp h₂
    obtain ⟨ixs, hixs, h₄⟩ := Proc.runs_ofResult_bind_ok.mp h₃
    obtain ⟨addresses, -, h₅⟩ := Proc.runs_ofResult_bind_ok.mp h₄
    obtain ⟨tables, _, _, _, -, -, h₆⟩ := Proc.runs_bind_ok.mp h₅
    obtain ⟨-, hroute, -⟩ := Proc.runs_pure.mp h₆
    have hresponse := DFlow.signedBy_response hixs
    rw [Except.ok.inj hroute]
    cases fee with
    | none => exact hresponse
    | some fee => exact signedBy_cons.mpr ⟨.createAta _ _ _, hresponse⟩
  | bloxroute hrun =>
    obtain ⟨request, response, -, -, hresponse⟩ := Bloxroute.runs_prepareWithFee hrun
    exact Bloxroute.signedBy_responsePrepare hresponse
  | relay hrun =>
    obtain ⟨data, hdata, -⟩ := Relay.runs_prepareWithFee hrun
    exact Relay.signedBy_dataInstructions hdata
  | pumpFun cached hrun =>
    obtain ⟨curve, fees, -, hixs⟩ := PumpFun.runs_prepareSwap hrun
    rw [hixs]
    exact PumpFun.signedBy_swapInstructions _ _ _
  | pumpSwap cached hrun =>
    obtain ⟨pool, fees, -, -, hixs⟩ := PumpSwap.runs_prepareSwap hrun
    rw [hixs]
    exact PumpSwap.signedBy_swapInstructions _ _ _ _

/-- The fees add no signer, and a sponsor's adds the user. -/
theorem signedBy_appendFees {transferFee : Option SdkFee} {route charged : PreparedSwap}
    (h : client.appendFees trade route transferFee = .ok charged)
    (hroute : SignedBy trade.wallet (client.payerFor trade) route.instructions) :
    SignedBy trade.wallet (client.payerFor trade) charged.instructions ∧
      ∀ sponsor, client.sponsorFor trade = some sponsor → ∃ amount,
        usdcTransfer trade.wallet sponsor.feeRecipient amount ∈ charged.instructions := by
  rw [appendFees_eq] at h
  obtain ⟨paid, hpaid, h₁⟩ := bind_eq_ok.mp h
  have hfee : SignedBy trade.wallet (client.payerFor trade) paid.instructions := by
    cases transferFee with
    | none =>
      rw [← Except.ok.inj hpaid]
      exact hroute
    | some fee => exact SdkFee.signedBy_applyWithPayer hpaid hroute
  unfold payerFor at hfee ⊢
  cases hsponsor : client.sponsorFor trade with
  | none =>
    rw [hsponsor] at h₁ hfee
    rw [← Except.ok.inj h₁]
    exact ⟨hfee, fun sponsor hsome => by cases hsome⟩
  | some sponsor =>
    rw [hsponsor] at h₁ hfee
    obtain ⟨hixs, -, -⟩ := GasSponsor.applyToSwap_eq_ok h₁
    constructor
    · simp only [hixs, signedBy_append, signedBy_singleton]
      exact ⟨⟨hfee, .createAta _ _ _⟩, .usdcTransfer _ _⟩
    · rintro _ ⟨⟩
      exact ⟨sponsor.costPolicy.maxFeeUsdc, by simp [hixs]⟩

end TradingClient

/-! ## 4.  Built transactions -/

/-- The signers of a compiled message: the payer first, and whoever signs an instruction. -/
structure SignersOf (payer : Pubkey) (ixs : List Instruction) (m : VersionedMessage) : Prop where
  distinct : m.staticAccountKeys.Nodup
  required : ∃ others, m.requiredSigners = some (payer :: others) ∧
    ∀ key, key ∈ payer :: others ↔ key = payer ∨ key ∈ signerKeys ixs

/-- Message compilation lists each key once and asks nobody else to sign. -/
structure CompilesSigners : Prop where
  v0 : ∀ payer ixs tables blockhash m, Sdk.compileV0 payer ixs tables blockhash = .ok m →
    SignersOf payer ixs (.v0 m)
  v1 : ∀ payer ixs blockhash config m, Sdk.compileV1 payer ixs blockhash config = .ok m →
    SignersOf payer ixs (.v1 m)

omit [Sdk] [Profile] in
/-- The executor's own instructions need no signature. -/
theorem signerKeys_budgetInstructions (format : TransactionFormat) (fee : UInt64)
    (limit : UInt32) : signerKeys (budgetInstructions format fee limit) = [] := by
  cases format <;> rfl

omit [Profile] in
theorem signers_compileRoute (hcompile : CompilesSigners) {payer : Pubkey} {route : Route}
    {budget : RequestedBudget} {fee : UInt64} {limit : UInt32} {blockhash : Hash}
    {message : VersionedMessage}
    (h : compileRoute payer route budget fee limit blockhash = .ok message) :
    SignersOf payer route.instructions message := by
  unfold compileRoute at h
  cases hformat : route.format with
  | v0 =>
    rw [hformat] at h
    obtain ⟨m, hm, rfl⟩ := compileV0_eq_ok h
    have hsigners := hcompile.v0 _ (budgetInstructions .v0 fee limit ++ route.instructions) _ _ m hm
    obtain ⟨others, hrequired, hothers⟩ := hsigners.required
    rw [signerKeys_append, signerKeys_budgetInstructions, List.nil_append] at hothers
    exact ⟨hsigners.distinct, others, hrequired, hothers⟩
  | v1 =>
    rw [hformat] at h
    obtain ⟨m, hm, rfl⟩ := compileV1_eq_ok h
    exact hcompile.v1 _ _ _ _ m hm

omit [Sdk] [Profile] in
/-- **The signatures that a swap needs**: with a route that only the wallet and the payer sign,
and that the wallet does sign where somebody else pays, a built message asks for the expected
signers and nobody else. -/
theorem SignersOf.expected {signers : SwapSigners} {wallet : Pubkey} {ixs : List Instruction}
    {m : VersionedMessage} (h : SignersOf (signers.payer wallet) ixs m)
    (hsponsor : ∀ sponsor ∈ signers.sponsor, sponsor.wallet ≠ wallet)
    (hsigned : SignedBy wallet (signers.sponsor.map GasSponsor.wallet) ixs)
    (hwallet : signers.sponsor.isSome → wallet ∈ signerKeys ixs) :
    m.requiredSigners = some (signers.expected wallet) := by
  obtain ⟨others, hrequired, hothers⟩ := h.required
  have hnodup : (signers.payer wallet :: others).Nodup := by
    unfold VersionedMessage.requiredSigners at hrequired
    split_ifs at hrequired with hlength
    rw [← Option.some.inj hrequired]
    exact h.distinct.sublist (List.take_sublist _ _)
  have hall : ∀ key ∈ signers.payer wallet :: others,
      key = wallet ∨ key = signers.payer wallet := by
    intro key hkey
    rcases (hothers key).mp hkey with rfl | hsigner
    · exact Or.inr rfl
    obtain ⟨ix, hix, account, haccount, hflag, rfl⟩ := mem_signerKeys.mp hsigner
    refine (hsigned ix hix account haccount hflag).imp id fun hpayer => ?_
    rw [SwapSigners.payer, ← hpayer]
    rfl
  rw [hrequired]
  unfold SwapSigners.expected
  cases hs : signers.sponsor with
  | none =>
    have hpayer : signers.payer wallet = wallet := by rw [SwapSigners.payer, hs]; rfl
    rw [hpayer] at hnodup hall ⊢
    refine congrArg some (eq_singleton_of_nodup hnodup List.mem_cons_self fun key hkey => ?_)
    exact (hall key hkey).elim id id
  | some sponsor =>
    have hpayer : signers.payer wallet = sponsor.wallet := by rw [SwapSigners.payer, hs]; rfl
    rw [hpayer] at hnodup hall hothers ⊢
    have hne : sponsor.wallet ≠ wallet := hsponsor sponsor (by rw [hs]; rfl)
    have hmem := (hothers wallet).mpr (Or.inr (hwallet (by rw [hs]; rfl)))
    exact congrArg some (eq_pair_of_nodup hnodup hne rfl hmem hall)

/-- **A prepared swap needs the signatures that the client can give.**  Whatever the source
answered, and with or without a sponsor, every transaction that is built of a prepared swap with
whatever tables, fee and tip has exactly the expected signers, so the check in front of the
signatures finds the user's slot. -/
theorem prepared_signers_expected {σ : Type} (hcompile : CompilesSigners) {client : TradingClient}
    {tr : Trace Answer} {prepared : PreparedSwap}
    (h : (client.prepareSelectedSwap trade).Runs () tr (.ok prepared) ())
    {tables : List AddressLookupTableAccount} {fee : UInt64} {submitter : Submitter} {s s' : σ}
    {tr' : Trace Answer} {tx : VersionedTransaction}
    (hbuilt : (buildTransaction (SwapSigners.payer ⟨client.sponsorFor trade⟩ trade.wallet)
      ⟨prepared.instructions, tables, prepared.format⟩ fee submitter).Runs s tr' (.ok tx) s') :
    let signers : SwapSigners := ⟨client.sponsorFor trade⟩
    tx.message.requiredSigners = some (signers.expected trade.wallet) ∧
      signers.userSignerIndex trade.wallet tx = .ok signers.userSlot := by
  intro signers
  obtain ⟨providerFee, routed, route, charged, hfrom⟩ := runs_prepareSelectedSwap h
  have hinput := TradingClient.routedTrade_eq_ok hfrom.reserved
  have hwallet : routed.wallet = trade.wallet := by rw [hinput.rest]
  have hpayer : client.payerFor routed = client.payerFor trade := by
    simp only [TradingClient.payerFor, TradingClient.sponsorFor, hinput.settlement]
  have hsponsor : ∀ sponsor ∈ signers.sponsor, sponsor.wallet ≠ trade.wallet :=
    fun sponsor hmem => TradingClient.sponsor_ne_wallet hmem hfrom.reserved
  obtain ⟨_, -, -, hroute⟩ := hfrom.answered
  have hsigned := TradingClient.signedBy_prepareRoute hroute
  rw [hwallet, hpayer] at hsigned
  obtain ⟨hcharged, htransfer⟩ := TradingClient.signedBy_appendFees hfrom.appended hsigned
  obtain ⟨usdValue, rfl⟩ := hfrom.shown
  obtain ⟨budget, kept, units, hash, message, _, _, htake, -, -, -, hmessage, rfl⟩ :=
    runs_buildTransaction_steps hbuilt
  obtain rfl := take_eq_ok htake
  have hcompiled := signers_compileRoute hcompile hmessage
  have hrequired : message.requiredSigners = some (signers.expected trade.wallet) := by
    refine hcompiled.expected hsponsor ?_ fun hsome => ?_
    · refine signedBy_append.mpr ⟨fun ix hix => hcharged ix (List.mem_filter.mp hix).1, ?_⟩
      intro ix hix
      obtain ⟨account, lamports, rfl⟩ := mem_tipInstructions hix
      exact .tip account lamports
    · obtain ⟨sponsor, hs⟩ := Option.isSome_iff_exists.mp hsome
      obtain ⟨amount, hmem⟩ := htransfer sponsor hs
      refine mem_signerKeys.mpr ⟨_, List.mem_append_left _ (List.mem_filter.mpr ⟨hmem, ?_⟩),
        .readonly trade.wallet true, by simp [usdcTransfer], rfl, rfl⟩
      exact keeps_of_programId_ne computeBudgetProgram_ne.2.1
  exact ⟨hrequired, (userSignerIndex_eq_ok hcompiled.distinct hsponsor).mpr ⟨hrequired, rfl⟩⟩

end Routes

/-! ### A sponsored swap -/

/-- Ascending keys stay ascending. -/
theorem pairwise_insertKey {key : Pubkey} {ks : List Pubkey} (h : ks.Pairwise (· < ·)) :
    (insertKey key ks).Pairwise (· < ·) := by
  induction ks with
  | nil => simp [insertKey]
  | cons k ks ih =>
    obtain ⟨hleast, hrest⟩ := List.pairwise_cons.mp h
    unfold insertKey
    by_cases heq : key = k
    · rw [if_pos heq]
      exact h
    rw [if_neg heq]
    by_cases hlt : key < k
    · rw [if_pos hlt]
      refine List.pairwise_cons.mpr ⟨fun other hother => ?_, h⟩
      rcases List.mem_cons.mp hother with rfl | hother
      · exact hlt
      · exact List.lt_trans (α := UInt8) hlt (hleast other hother)
    · rw [if_neg hlt]
      refine List.pairwise_cons.mpr ⟨fun other hother => ?_, ih hrest⟩
      rcases mem_insertKey.mp hother with rfl | hother
      · by_contra hnot
        exact heq (FixedBytes.ext (List.le_antisymm (α := UInt8) hnot hlt))
      · exact hleast other hother

theorem nodup_keyClass (payer : Pubkey) (uses : List AccountMeta) (isSigner isWritable : Bool) :
    (keyClass payer uses isSigner isWritable).Nodup := by
  have hsorted : ((uses.map AccountMeta.pubkey).foldr insertKey []).Pairwise (· < ·) := by
    induction uses.map AccountMeta.pubkey with
    | nil => exact List.Pairwise.nil
    | cons key keys ih => exact pairwise_insertKey ih
  refine List.Nodup.filter _ (hsorted.imp fun {a b} hlt heq => ?_)
  rw [heq] at hlt
  exact List.lt_irrefl (α := UInt8) b.bytes hlt

/-- A key is in the class of its uses. -/
theorem mem_keyClass_iff {payer key : Pubkey} {uses : List AccountMeta}
    {isSigner isWritable : Bool} :
    key ∈ keyClass payer uses isSigner isWritable ↔
      (∃ use ∈ uses, use.pubkey = key) ∧ key ≠ payer ∧
        (uses.any fun u => u.pubkey = key && u.isSigner) = isSigner ∧
        (uses.any fun u => u.pubkey = key && u.isWritable) = isWritable := by
  simp [keyClass, List.mem_filter, mem_foldr_insertKey, and_assoc]

/-- Who is mentioned as a signer besides the payer signs an instruction. -/
theorem signs_mentions_iff {payer key : Pubkey} {ixs : List Instruction} (hne : key ≠ payer) :
    ((mentions payer ixs).any fun u => u.pubkey = key && u.isSigner) = true ↔
      key ∈ signerKeys ixs := by
  simp only [List.any_eq_true, Bool.and_eq_true, decide_eq_true_eq, mem_signerKeys]
  constructor
  · rintro ⟨use, huse, hkey, hsigner⟩
    rcases List.mem_cons.mp huse with rfl | huse
    · exact absurd hkey.symm hne
    obtain ⟨ix, hix, huse⟩ := List.mem_flatMap.mp huse
    rcases List.mem_cons.mp huse with rfl | huse
    · cases hsigner
    · exact ⟨ix, hix, use, huse, hsigner, hkey⟩
  · rintro ⟨ix, hix, account, haccount, hsigner, hkey⟩
    refine ⟨account, List.mem_cons_of_mem _ (List.mem_flatMap.mpr ⟨ix, hix, ?_⟩), hkey, hsigner⟩
    exact List.mem_cons_of_mem _ haccount

/-- The signers that compilation collects. -/
theorem mem_signers_iff {payer key : Pubkey} {ixs : List Instruction} :
    key ∈ keyClass payer (mentions payer ixs) true true ++
        keyClass payer (mentions payer ixs) true false ↔
      key ≠ payer ∧ key ∈ signerKeys ixs := by
  rw [List.mem_append, mem_keyClass_iff, mem_keyClass_iff]
  constructor
  · rintro (⟨-, hne, hsigner, -⟩ | ⟨-, hne, hsigner, -⟩)
    · exact ⟨hne, (signs_mentions_iff hne).mp hsigner⟩
    · exact ⟨hne, (signs_mentions_iff hne).mp hsigner⟩
  · rintro ⟨hne, hkey⟩
    have hsigner := (signs_mentions_iff hne).mpr hkey
    have hmentioned : ∃ use ∈ mentions payer ixs, use.pubkey = key := by
      obtain ⟨use, huse, hboth⟩ := List.any_eq_true.mp hsigner
      simp only [Bool.and_eq_true, decide_eq_true_eq] at hboth
      exact ⟨use, huse, hboth.1⟩
    by_cases hwritable : ((mentions payer ixs).any fun u => u.pubkey = key && u.isWritable) = true
    · exact Or.inl ⟨hmentioned, hne, hsigner, hwritable⟩
    · exact Or.inr ⟨hmentioned, hne, hsigner, Bool.eq_false_iff.mpr hwritable⟩

/-- The classes have no key in common, and none holds the payer. -/
theorem nodup_compileKeys (payer : Pubkey) (ixs : List Instruction) :
    (compileKeys payer ixs).2.Nodup := by
  have hdisjoint : ∀ {key : Pubkey} {isSigner isWritable isSigner' isWritable' : Bool},
      key ∈ keyClass payer (mentions payer ixs) isSigner isWritable →
      key ∈ keyClass payer (mentions payer ixs) isSigner' isWritable' →
      isSigner = isSigner' ∧ isWritable = isWritable' := by
    intro key isSigner isWritable isSigner' isWritable' h h'
    obtain ⟨-, -, hsigner, hwritable⟩ := mem_keyClass_iff.mp h
    obtain ⟨-, -, hsigner', hwritable'⟩ := mem_keyClass_iff.mp h'
    exact ⟨hsigner.symm.trans hsigner', hwritable.symm.trans hwritable'⟩
  have hclass := fun isSigner isWritable =>
    nodup_keyClass payer (mentions payer ixs) isSigner isWritable
  refine List.nodup_cons.mpr ⟨by simp [mem_keyClass_iff], ?_⟩
  refine (((hclass true true).append (hclass true false) fun key h h' => ?_).append
    (hclass false true) fun key h h' => ?_).append (hclass false false) fun key h h' => ?_
  · cases (hdisjoint h h').2
  · rcases List.mem_append.mp h with h | h
    · cases (hdisjoint h h').1
    · cases (hdisjoint h h').1
  · rcases List.mem_append.mp h with h | h
    · rcases List.mem_append.mp h with h | h
      · cases (hdisjoint h h').1
      · cases (hdisjoint h h').1
    · cases (hdisjoint h h').2

theorem signersOf_compileKeys {payer : Pubkey} {ixs : List Instruction} {m : VersionedMessage}
    (hsize : (compileKeys payer ixs).2.length < 256) (hheader : m.header = (compileKeys payer ixs).1)
    (hkeys : m.staticAccountKeys = (compileKeys payer ixs).2) : SignersOf payer ixs m := by
  have hsplit : (compileKeys payer ixs).2 =
      (payer :: (keyClass payer (mentions payer ixs) true true ++
        keyClass payer (mentions payer ixs) true false)) ++
      (keyClass payer (mentions payer ixs) false true ++
        keyClass payer (mentions payer ixs) false false) := by
    simp [compileKeys]
  have hcount : m.header.numRequiredSignatures.toNat =
      (payer :: (keyClass payer (mentions payer ixs) true true ++
        keyClass payer (mentions payer ixs) true false)).length := by
    rw [hsplit, List.length_append] at hsize
    rw [hheader]
    simp only [compileKeys, UInt8.toNat_ofNat', List.length_cons, List.length_append] at hsize ⊢
    rw [Nat.mod_eq_of_lt (by omega)]
    omega
  refine ⟨hkeys ▸ nodup_compileKeys payer ixs, keyClass payer (mentions payer ixs) true true ++
    keyClass payer (mentions payer ixs) true false, ?_, fun key => ?_⟩
  · rw [VersionedMessage.requiredSigners, hcount, hkeys, hsplit, if_pos (by simp),
      List.take_left]
  · rw [List.mem_cons, mem_signers_iff]
    by_cases hkey : key = payer
    · simp [hkey]
    · simp [hkey]

/-- The sample SDK, with the error that compilation has where the keys outnumber a byte. -/
@[reducible] def signerSdk : Sdk :=
  { sampleSdk with
    compileV0 := fun payer ixs tables blockhash =>
      if (compileKeys payer ixs).2.length < 256 then sampleSdk.compileV0 payer ixs tables blockhash
      else .error "account index overflowed during compilation"
    compileV1 := fun payer ixs blockhash config =>
      if (compileKeys payer ixs).2.length < 256 then sampleSdk.compileV1 payer ixs blockhash config
      else .error "account index overflowed during compilation" }

theorem signerSdk_compilesSigners :
    let := signerSdk
    CompilesSigners := by
  intro sdk
  constructor
  · intro payer ixs tables blockhash m h
    unfold Sdk.compileV0 at h
    dsimp only [sdk] at h
    split_ifs at h with hsize
    obtain ⟨compiled, -, h₁⟩ := bind_eq_ok.mp h
    rw [← pure_eq_ok.mp h₁]
    exact signersOf_compileKeys hsize rfl rfl
  · intro payer ixs blockhash config m h
    unfold Sdk.compileV1 at h
    dsimp only [sdk] at h
    split_ifs at h with hsize
    obtain ⟨compiled, -, h₁⟩ := bind_eq_ok.mp h
    rw [← pure_eq_ok.mp h₁]
    exact signersOf_compileKeys hsize rfl rfl

def prepareAndBuildSponsored [Sdk] [Profile] (client : TradingClient) (trade : Trade)
    (fee : UInt64) : Task Unit VersionedTransaction := do
  let prepared ← client.prepareSelectedSwap trade
  buildTransaction (SwapSigners.payer ⟨client.sponsorFor trade⟩ trade.wallet)
    ⟨prepared.instructions, [], prepared.format⟩ fee ⟨none⟩

theorem prepared_signers_expected_sample :
    let := signerSdk
    let : Profile := ⟨true⟩
    ∃ tr prepared tr' tx,
      (sampleClient.prepareSelectedSwap relayTrade).Runs () tr (.ok prepared) () ∧
      (buildTransaction sampleSponsorWallet ⟨prepared.instructions, [], prepared.format⟩ 5000
        ⟨none⟩ : Task Unit _).Runs () tr' (.ok tx) () ∧
      tx.message.requiredSigners = some [sampleSponsorWallet, sampleUser] := by
  intro sdk profile
  obtain ⟨_, tx, _, hrun⟩ := Proc.runs_ok_of_exec (swapBackend (.ok sampleSignature))
    (fun _ => 1) (prepareAndBuildSponsored sampleClient relayTrade 5000) () (by decide +kernel)
  obtain ⟨prepared, _, tr, tr', -, hprepared, hbuilt⟩ := Proc.runs_bind_ok.mp hrun
  exact ⟨tr, prepared, tr', tx, hprepared, hbuilt,
    (prepared_signers_expected signerSdk_compilesSigners hprepared hbuilt).1⟩

end Solana
end TradingAggregators
