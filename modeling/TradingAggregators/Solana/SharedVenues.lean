import TradingAggregators.Interaction.OnceLock
import TradingAggregators.Solana.NativeSettlement

/-!
# Venues that concurrent tasks share

A `PumpFun` or a `PumpSwap` is shared by every task that quotes on it, and its `OnceLock`s are
read and written between other tasks' questions.  `Dexes.PumpFun` and `Dexes.PumpSwap` leave
that out: their procedures are told what the lock held when they started.

## 1.  Requests

`PumpFun.lockedServe` and `PumpSwap.lockedServe` run a request on a shared venue.

## 2.  Fee settings

`shared_fee_settings`: however the requests interleave and wherever some are dropped, each one
that ends is a run of the procedure that is told.

## 3.  The SOL/USDC vaults

`price_accounts_agree`: concurrent readers never disagree, whatever the nodes answer.
-/

namespace TradingAggregators
namespace Solana

open Interaction Rust Wire
open Interaction.OnceLock (Call LockStep Offers Serves asked beside get_after_offer initWith
  initWith_agree readThrough runs_served served serves_concurrently)
open Interaction.Proc (ofResult)

/-- A task beside others that share a lock with it. -/
abbrev LockedTask (V α : Type) := Proc (LockAnswer Answer V) Unit (Fault AnyError) α

/-! ## 1.  Requests -/

/-- What a venue is asked to do. -/
inductive VenueRequest where
  | quote (trade : Trade)
  | prepareSwap (trade : Trade)

/-- A request to a venue that quotes and prepares in this way. -/
def VenueRequest.serve {Q : Type} {A : Q → Type} {ε : Type} (quote : Trade → Proc A Unit ε Quote)
    (prepareSwap : Trade → Proc A Unit ε PreparedSwap) :
    VenueRequest → Proc A Unit ε (Quote ⊕ PreparedSwap)
  | .quote p => do
      let q ← quote p
      pure (.inl q)
  | .prepareSwap p => do
      let swap ← prepareSwap p
      pure (.inr swap)

section Requests

variable [Sdk]

namespace PumpFun

def lockedFeeSettings : LockedTask FeeSettings FeeSettings :=
  readThrough (feeSettings none)

section Trading

variable [Profile]

def lockedQuote (p : Trade) : LockedTask FeeSettings Quote := do
  beside (Proc.failIf (p.settlement ≠ .sol) (.err (.other solOnly)))
  let curve ← beside (loadCurve (poolOf p) p.mint)
  let fees ← lockedFeeSettings
  beside (ofResult (computeQuote curve fees p.side p.amount p.slippageBps))

def lockedPrepareSwap (p : Trade) : LockedTask FeeSettings PreparedSwap := do
  beside (Proc.failIf (p.settlement ≠ .sol) (.err (.other solOnly)))
  let curve ← beside (loadCurve (poolOf p) p.mint)
  let fees ← lockedFeeSettings
  beside do
    let quote ← ofResult (computeQuote curve fees p.side p.amount p.slippageBps)
    pure {
      venue := name
      quote := quote
      instructions := swapInstructions p curve fees quote
      lookupTables := []
      format := .v0 }

/-- A request that is told what the venue has cached. -/
def serve (cached : Option FeeSettings) (request : VenueRequest) :
    AnyTask Unit (Quote ⊕ PreparedSwap) :=
  request.serve (quote cached) (prepareSwap cached)

def lockedServe (request : VenueRequest) : LockedTask FeeSettings (Quote ⊕ PreparedSwap) :=
  request.serve lockedQuote lockedPrepareSwap

end Trading

end PumpFun

namespace PumpSwap

def lockedFeeSettings : LockedTask FeeSettings FeeSettings :=
  readThrough (feeSettings none)

def lockedLoadSolPool (trade : Trade) :
    LockedTask FeeSettings (Pubkey × PoolState × FeeSettings) := do
  beside (Proc.failIf (trade.settlement ≠ .sol) (.err (.other solOnly)))
  let pool ← beside (loadPool (poolOf trade) trade.mint)
  beside (Proc.failIf (pool.quoteMint ≠ wsol) (.err (.other solOnly)))
  let fees ← lockedFeeSettings
  beside (pure (poolOf trade, pool, fees))

section Trading

variable [Profile]

def lockedQuote (p : Trade) : LockedTask FeeSettings Quote := do
  let loaded ← lockedLoadSolPool p
  beside (ofResult (computeQuote loaded.2.1 loaded.2.2 p.side p.amount p.slippageBps))

def lockedPrepareSwap (p : Trade) : LockedTask FeeSettings PreparedSwap := do
  let loaded ← lockedLoadSolPool p
  beside do
    let quote ← ofResult (computeQuote loaded.2.1 loaded.2.2 p.side p.amount p.slippageBps)
    pure {
      venue := name
      quote := quote
      instructions := swapInstructions p loaded.1 loaded.2.1 loaded.2.2 quote
      lookupTables := []
      format := .v0 }

/-- A request that is told what the venue has cached. -/
def serve (cached : Option FeeSettings) (request : VenueRequest) :
    AnyTask Unit (Quote ⊕ PreparedSwap) :=
  request.serve (quote cached) (prepareSwap cached)

def lockedServe (request : VenueRequest) : LockedTask FeeSettings (Quote ⊕ PreparedSwap) :=
  request.serve lockedQuote lockedPrepareSwap

end Trading

/-- The vaults of the SOL/USDC pool, read from its account. -/
def readVaults (solUsdcPool : Pubkey) : AnyTask Unit (Pubkey × Pubkey) := do
  let response ← ask (.getAccount solUsdcPool)
  let account ← ofResult (clientResult response)
  let vaults ← ofResult (PoolVaults.decode account.data usdcMint)
  pure (vaults.baseVault, vaults.quoteVault)

/-- The pool and its vaults, which are read once for all tasks. -/
def lockedPriceAccounts (solUsdcPool : Pubkey) :
    LockedTask (Pubkey × Pubkey) (Pubkey × Pubkey × Pubkey) := do
  let vaults ← initWith (readVaults solUsdcPool)
  pure (solUsdcPool, vaults.1, vaults.2)

end PumpSwap
end Requests

/-! ## 2.  Fee settings -/

/-- A request that ended with this outcome is a run of the procedure that is told what is cached:
nothing, or what the lock holds in the end. -/
def Told {F : Type} (told : Option F → VenueRequest → AnyTask Unit (Quote ⊕ PreparedSwap))
    (tr : Trace (LockAnswer Answer F)) (cell : Option F) (request : VenueRequest)
    (outcome : Option (Result AnyError (Quote ⊕ PreparedSwap) × Unit)) : Prop :=
  ∀ r, outcome = some (r, ()) → ∃ cached tr', (cached = none ∨ cached = cell) ∧
    tr' ⊆ tr.filterMap asked ∧ (told cached request).Runs () tr' r ()

/-- **Requests on one venue are told consistently**: however they interleave, and wherever some of
them are dropped. -/
structure ToldConsistently {F : Type} (From : Event Answer → F → Prop)
    (told : Option F → VenueRequest → AnyTask Unit (Quote ⊕ PreparedSwap))
    (requests : List VenueRequest) (tr : Trace (LockAnswer Answer F))
    (outcomes : List (Option (Result AnyError (Quote ⊕ PreparedSwap) × Unit)))
    (cell : Option F) : Prop where
  each : List.Forall₂ (Told told tr cell) requests outcomes
  /-- What they share was read from an answer to one of them. -/
  read : ∀ fees, cell = some fees → ∃ d ∈ tr.filterMap asked, From d fees
  /-- Once somebody has stored something, nobody is told that there is nothing. -/
  stored : ∀ before e after fees found, tr = before ++ e :: after → Offers fees e →
    ⟨.get, found⟩ ∈ after → found = cell ∧ found ≠ none

theorem toldConsistently {F : Type} {From : Event Answer → F → Prop}
    {told : Option F → VenueRequest → AnyTask Unit (Quote ⊕ PreparedSwap)}
    {shared : VenueRequest → LockedTask F (Quote ⊕ PreparedSwap)}
    (h : ∀ request, Serves From (fun cached => told cached request) (shared request))
    {requests : List VenueRequest} {tr : Trace (LockAnswer Answer F)}
    {outcomes : List (Option (Result AnyError (Quote ⊕ PreparedSwap) × Unit))} {cell : Option F}
    (hrun : (Program.joinAll (requests.map fun request =>
      ((shared request).start ()).timeout)).Runs tr outcomes)
    (hpath : Protocol.Path LockStep none tr cell) :
    ToldConsistently From told requests tr outcomes cell := by
  have hcalls : (Program.joinAll ((requests.map fun request =>
      (⟨fun cached => told cached request, shared request⟩ : Call Answer F _ _)).map fun call =>
        (call.shared.start ()).timeout)).Runs tr outcomes := by
    rw [List.map_map]
    exact hrun
  obtain ⟨heach, hread⟩ := serves_concurrently (fun call hcall => by
    obtain ⟨request, -, rfl⟩ := List.mem_map.mp hcall
    exact h request) hcalls hpath
  rw [List.forall₂_map_left_iff] at heach
  refine ⟨heach, hread, ?_⟩
  rintro before e after fees found rfl hoffers hget
  exact get_after_offer hpath hoffers hget

/-- A venue serves a request as its two procedures do. -/
theorem serves_venue {F : Type} {From : Event Answer → F → Prop}
    {quote : Option F → Trade → AnyTask Unit Quote} {lockedQuote : Trade → LockedTask F Quote}
    {prepareSwap : Option F → Trade → AnyTask Unit PreparedSwap}
    {lockedPrepareSwap : Trade → LockedTask F PreparedSwap}
    (hquote : ∀ p, Serves From (fun cached => quote cached p) (lockedQuote p))
    (hswap : ∀ p, Serves From (fun cached => prepareSwap cached p) (lockedPrepareSwap p))
    (request : VenueRequest) :
    Serves From (fun cached => request.serve (quote cached) (prepareSwap cached))
      (request.serve lockedQuote lockedPrepareSwap) := by
  cases request with
  | quote p => exact (hquote p).bind_beside
  | prepareSwap p => exact (hswap p).bind_beside

/-- An answer that a value was read from: an account, decoded. -/
def ReadsFrom {α β : Type} (key : Pubkey) (decode : Bytes → Result AnyError β) (f : β → α)
    (e : Event Answer) (a : α) : Prop :=
  ∃ account b, e = ⟨.getAccount key, .ok account⟩ ∧ decode account.data = .ok b ∧ a = f b

theorem reads_account {α β : Type} (key : Pubkey) (decode : Bytes → Result AnyError β) (f : β → α)
    {tr : Trace Answer} {a : α}
    (h : (do
      let response ← ask (.getAccount key)
      let account ← ofResult (clientResult response)
      let b ← ofResult (decode account.data)
      pure (f b) : AnyTask Unit α).Runs () tr (.ok a) ()) :
    ∃ e ∈ tr, ReadsFrom key decode f e a := by
  obtain ⟨answer, tr', rfl, h₁⟩ := Proc.runs_ask_bind.mp h
  obtain ⟨account, hanswer, h₂⟩ := Proc.runs_ofResult_bind_ok.mp h₁
  obtain ⟨b, hb, h₃⟩ := Proc.runs_ofResult_bind_ok.mp h₂
  obtain ⟨rfl, ha, -⟩ := Proc.runs_pure.mp h₃
  rw [clientResult_eq_ok] at hanswer
  subst hanswer
  exact ⟨_, List.mem_cons_self, account, b, rfl, hb, Except.ok.inj ha⟩

section Fees

variable [Sdk]

/-- The fee settings that a global account holds. -/
def PumpFun.GlobalAccount.feeSettings (global : PumpFun.GlobalAccount) : PumpFun.FeeSettings where
  standardRecipient := global.feeRecipient
  mayhemRecipient := global.reservedFeeRecipient
  buybackRecipient := firstRecipient global.buybackFeeRecipients
  protocolBps := global.feeBasisPoints
  creatorBps := global.creatorFeeBasisPoints

def PumpSwap.GlobalConfigAccount.feeSettings (config : PumpSwap.GlobalConfigAccount) :
    PumpSwap.FeeSettings where
  standardProtocolRecipient := firstRecipient config.protocolFeeRecipients
  mayhemProtocolRecipient := config.reservedFeeRecipient
  buybackRecipient := firstRecipient config.buybackFeeRecipients
  lpBps := config.lpFeeBasisPoints
  protocolBps := config.protocolFeeBasisPoints
  creatorBps := config.coinCreatorFeeBasisPoints

/-- An answer that fee settings were read from. -/
def PumpFun.ReadsFees : Event Answer → PumpFun.FeeSettings → Prop :=
  ReadsFrom PumpFun.globalPda (decodeAccount PumpFun.GlobalAccount.codec)
    PumpFun.GlobalAccount.feeSettings

def PumpSwap.ReadsFees : Event Answer → PumpSwap.FeeSettings → Prop :=
  ReadsFrom PumpSwap.globalConfigPda (decodeAccount PumpSwap.GlobalConfigAccount.codec)
    PumpSwap.GlobalConfigAccount.feeSettings

theorem PumpFun.serves_feeSettings :
    Serves PumpFun.ReadsFees PumpFun.feeSettings PumpFun.lockedFeeSettings :=
  .readThrough (fun _ => rfl) fun () _ _ () h => reads_account _ _ _ h

theorem PumpSwap.serves_feeSettings :
    Serves PumpSwap.ReadsFees PumpSwap.feeSettings PumpSwap.lockedFeeSettings :=
  .readThrough (fun _ => rfl) fun () _ _ () h => reads_account _ _ _ h

theorem PumpSwap.serves_loadSolPool (trade : Trade) :
    Serves PumpSwap.ReadsFees (fun cached => PumpSwap.loadSolPool cached trade)
      (PumpSwap.lockedLoadSolPool trade) :=
  .beside_bind fun _ => .beside_bind fun _ => .beside_bind fun _ =>
    .bind_beside serves_feeSettings

variable [Profile]

theorem PumpFun.serves_request (request : VenueRequest) :
    Serves PumpFun.ReadsFees (fun cached => PumpFun.serve cached request)
      (PumpFun.lockedServe request) :=
  serves_venue
    (fun _ => .beside_bind fun _ => .beside_bind fun _ => .bind_beside serves_feeSettings)
    (fun _ => .beside_bind fun _ => .beside_bind fun _ => .bind_beside serves_feeSettings) request

theorem PumpSwap.serves_request (request : VenueRequest) :
    Serves PumpSwap.ReadsFees (fun cached => PumpSwap.serve cached request)
      (PumpSwap.lockedServe request) :=
  serves_venue (fun p => .bind_beside (serves_loadSolPool p))
    (fun p => .bind_beside (serves_loadSolPool p)) request

/-- **Fee settings are shared safely.**  Any number of requests on one `PumpFun`, or on one
`PumpSwap`, at once: each one that ends is a run of the procedure that reads the fee settings
itself or is told those that all of them share. -/
theorem shared_fee_settings :
    (∀ requests tr outcomes cell, (Program.joinAll (requests.map fun request =>
        ((PumpFun.lockedServe request).start ()).timeout)).Runs tr outcomes →
      Protocol.Path LockStep none tr cell →
      ToldConsistently PumpFun.ReadsFees PumpFun.serve requests tr outcomes cell) ∧
    ∀ requests tr outcomes cell, (Program.joinAll (requests.map fun request =>
        ((PumpSwap.lockedServe request).start ()).timeout)).Runs tr outcomes →
      Protocol.Path LockStep none tr cell →
      ToldConsistently PumpSwap.ReadsFees PumpSwap.serve requests tr outcomes cell :=
  ⟨fun _ _ _ _ hrun hpath => toldConsistently PumpFun.serves_request hrun hpath,
    fun _ _ _ _ hrun hpath => toldConsistently PumpSwap.serves_request hrun hpath⟩

end Fees

/-! ### A quote and a swap at once -/

def sampleGlobal : PumpFun.GlobalAccount where
  discriminator := 9183522199395952807
  initialized := true
  authority := .zero 32
  feeRecipient := sampleFeeRecipient
  initialVirtualTokenReserves := 1073000000000000
  initialVirtualSolReserves := 30000000000
  initialRealTokenReserves := 793100000000000
  tokenTotalSupply := 1000000000000000
  feeBasisPoints := 95
  withdrawAuthority := .zero 32
  enableMigrate := true
  poolMigrationFee := 0
  creatorFeeBasisPoints := 30
  feeRecipients := .replicate 7 sampleFeeRecipient
  setCreatorAuthority := .zero 32
  adminSetCreatorAuthority := .zero 32
  createV2Enabled := true
  whitelistPda := .zero 32
  reservedFeeRecipient := sampleFeeRecipient
  mayhemModeEnabled := false
  reservedFeeRecipients := .replicate 7 sampleFeeRecipient
  isCashbackEnabled := false
  buybackFeeRecipients := .replicate 8 sampleFeeRecipient

def sampleGlobalConfig : PumpSwap.GlobalConfigAccount where
  discriminator := 15686315269655627925
  admin := .zero 32
  lpFeeBasisPoints := 20
  protocolFeeBasisPoints := 5
  disableFlags := 0
  protocolFeeRecipients := .replicate 8 sampleFeeRecipient
  coinCreatorFeeBasisPoints := 5
  adminSetCoinCreatorAuthority := .zero 32
  whitelistPda := .zero 32
  reservedFeeRecipient := sampleFeeRecipient
  mayhemModeEnabled := false
  reservedFeeRecipients := .replicate 7 sampleFeeRecipient
  isCashbackEnabled := false
  buybackFeeRecipients := .replicate 8 sampleFeeRecipient

def samplePoolAddress : Pubkey := ⟨List.replicate 32 5, rfl⟩

def samplePool (baseMint : Pubkey) : PumpSwap.PoolAccount where
  discriminator := 13577703138238765809
  poolBump := 255
  index := 0
  creator := .zero 32
  baseMint := baseMint
  quoteMint := wsol
  lpMint := .zero 32
  poolBaseTokenAccount := ⟨List.replicate 32 6, rfl⟩
  poolQuoteTokenAccount := ⟨List.replicate 32 7, rfl⟩
  lpSupply := 1000000000
  coinCreator := .zero 32
  isMayhemMode := false
  isCashbackCoin := false

/-- A pool of this token, and the accounts of both venues. -/
def venueAnswers (baseMint : Pubkey) (q : Query) : Answer q :=
  match q with
  | .getAccount key =>
      if key = samplePoolAddress then
        .ok ⟨PumpSwap.programId, PumpSwap.PoolAccount.codec.encode (samplePool baseMint)⟩
      else .ok ⟨PumpSwap.programId, PumpSwap.GlobalConfigAccount.codec.encode sampleGlobalConfig⟩
  | .getMultipleAccounts _ =>
      .ok [some ⟨tokenProgram, []⟩, some ⟨tokenProgram, []⟩]
  | .getTokenAccountBalance _ => .ok "50000000000"
  | q => silent q

/-- The curve of the mint, and the global account of its venue. -/
def curveAnswers (q : Query) : Answer q :=
  match q with
  | .getAccount _ => .ok ⟨PumpFun.programId, PumpFun.GlobalAccount.codec.encode sampleGlobal⟩
  | q => curveBackend 0 q

def poolTrade : Trade :=
  { foreignTrade with pool := some samplePoolAddress, quoteSource := some .pumpSwap }

/-- Nobody was dropped, nobody failed, and something is cached. -/
def AllServed {F α : Type} (outcomes : List (Option (Result AnyError α × Unit)))
    (cell : Option F) : Prop :=
  (∀ o ∈ outcomes, o.any fun c => c.1.toOption.isSome) ∧ cell.isSome

instance {F α : Type} (outcomes : List (Option (Result AnyError α × Unit))) (cell : Option F) :
    Decidable (AllServed outcomes cell) :=
  inferInstanceAs (Decidable (_ ∧ _))

theorem shared_fee_settings_sample :
    let := curveSdk
    let : Profile := ⟨true⟩
    (∃ tr outcomes cell, ToldConsistently PumpFun.ReadsFees PumpFun.serve
        [.quote nativeTrade, .prepareSwap nativeTrade] tr outcomes cell ∧
      outcomes.length = 2 ∧ AllServed outcomes cell) ∧
    ∃ tr outcomes cell, ToldConsistently PumpSwap.ReadsFees PumpSwap.serve
        [.quote poolTrade, .prepareSwap poolTrade] tr outcomes cell ∧
      outcomes.length = 2 ∧ AllServed outcomes cell := by
  intro sdk profile
  constructor
  · obtain ⟨hrun, hpath⟩ := runs_served curveAnswers (Program.joinAll
      ([.quote nativeTrade, .prepareSwap nativeTrade].map fun request =>
        ((PumpFun.lockedServe request).start ()).timeout))
    exact ⟨_, _, _, shared_fee_settings.1 _ _ _ _ hrun hpath, by decide +kernel⟩
  · obtain ⟨hrun, hpath⟩ := runs_served (venueAnswers sampleMint) (Program.joinAll
      ([.quote poolTrade, .prepareSwap poolTrade].map fun request =>
        ((PumpSwap.lockedServe request).start ()).timeout))
    exact ⟨_, _, _, shared_fee_settings.2 _ _ _ _ hrun hpath, by decide +kernel⟩

/-! ## 3.  The SOL/USDC vaults -/

/-- An answer that the vaults of a pool were read from. -/
def PumpSwap.ReadsVaults (solUsdcPool : Pubkey) : Event Answer → Pubkey × Pubkey → Prop :=
  ReadsFrom solUsdcPool (PoolVaults.decode · usdcMint) fun vaults =>
    (vaults.baseVault, vaults.quoteVault)

theorem PumpSwap.reads_readVaults {solUsdcPool : Pubkey} {tr : Trace Answer}
    {v : Pubkey × Pubkey} (h : (readVaults solUsdcPool).Runs () tr (.ok v) ()) :
    ∃ e ∈ tr, ReadsVaults solUsdcPool e v :=
  reads_account solUsdcPool (PoolVaults.decode · usdcMint) _ h

/-- **Concurrent readers of the vaults agree**: whatever the node answers to each of them, all that
end well return the pool with the same vaults, as a reader does who is told them, and these were
read from an answer to one of them. -/
theorem price_accounts_agree (solUsdcPool : Pubkey) :
    ∀ (readers : ℕ) (tr : Trace (LockAnswer Answer (Pubkey × Pubkey)))
      (outcomes : List (Option (Result AnyError (Pubkey × Pubkey × Pubkey) × Unit)))
      (cell : Option (Pubkey × Pubkey)),
      (Program.joinAll (List.replicate readers
        ((PumpSwap.lockedPriceAccounts solUsdcPool).start ()).timeout)).Runs tr outcomes →
      Protocol.Path LockStep none tr cell →
      (∀ accounts, some (.ok accounts, ()) ∈ outcomes → ∃ v, cell = some v ∧
        accounts = (solUsdcPool, v.1, v.2) ∧
        (PumpSwap.solUsdcPriceAccounts solUsdcPool cell).Runs () [] (.ok accounts) ()) ∧
      ∀ v, cell = some v → ∃ d ∈ tr.filterMap asked, PumpSwap.ReadsVaults solUsdcPool d v := by
  intro readers tr outcomes cell hrun hpath
  have hcalls : (Program.joinAll ((List.replicate readers
      (PumpSwap.readVaults solUsdcPool, fun v : Pubkey × Pubkey => (solUsdcPool, v.1, v.2))).map
        fun call => ((initWith call.1 >>= fun v => pure (call.2 v) :
          LockedTask (Pubkey × Pubkey) _).start ()).timeout)).Runs tr outcomes := by
    rw [List.map_replicate]
    exact hrun
  obtain ⟨hagree, hread⟩ := initWith_agree (fun call hcall tr v s' hruns => by
    rw [(List.mem_replicate.mp hcall).2] at hruns
    exact PumpSwap.reads_readVaults hruns) hcalls hpath
  refine ⟨fun accounts hmem => ?_, hread⟩
  obtain ⟨call, hcall, hvalue⟩ := exists_of_forall₂ hagree hmem
  obtain ⟨v, hcell, rfl⟩ := hvalue accounts rfl
  subst hcell
  rw [(List.mem_replicate.mp hcall).2]
  exact ⟨v, rfl, rfl, Proc.runs_pure.mpr ⟨rfl, rfl, rfl⟩⟩

theorem price_accounts_agree_sample :
    ∃ tr outcomes cell, (Program.joinAll (List.replicate 2
        ((PumpSwap.lockedPriceAccounts samplePoolAddress).start ()).timeout)).Runs tr outcomes ∧
      Protocol.Path LockStep none tr cell ∧ outcomes.length = 2 ∧ AllServed outcomes cell ∧
      ∀ accounts, some (.ok accounts, ()) ∈ outcomes → ∃ v, cell = some v ∧
        accounts = (samplePoolAddress, v.1, v.2) := by
  obtain ⟨hrun, hpath⟩ := runs_served (venueAnswers usdcMint) (Program.joinAll
    (List.replicate 2 ((PumpSwap.lockedPriceAccounts samplePoolAddress).start ()).timeout))
  obtain ⟨hagree, -⟩ := price_accounts_agree samplePoolAddress 2 _ _ _ hrun hpath
  refine ⟨_, _, _, hrun, hpath, by decide +kernel, by decide +kernel, fun accounts hmem => ?_⟩
  obtain ⟨v, hcell, haccounts, -⟩ := hagree accounts hmem
  exact ⟨v, hcell, haccounts⟩

end Solana
end TradingAggregators
