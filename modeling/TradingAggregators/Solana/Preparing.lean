import TradingAggregators.Solana.Client.Routing

/-!
# How a run of `prepare_selected_swap` goes

* `asks_prepareSelectedSwap`: preparing hands nothing to a key or to the network, whichever
  source is asked.  The native venues and the display-only prices only read accounts.
* `runs_prepareSelectedSwap`: a run that prepares a swap passed every check, got one route
  from one adapter and appended the fees to it (`PreparedFrom`).
-/

namespace TradingAggregators
namespace Solana

open Interaction Interaction.Program Rust

variable {σ : Type}

/-! ## Nothing is released -/

/-- Whether a question is about the accounts on chain. -/
def Query.readsChain : Query → Bool
  | .getAccount _ | .getAccountWithCommitment _ _ | .getMultipleAccounts _
  | .getTokenAccountBalance _ => true
  | _ => false

def Query.ReadsChain (q : Query) : Prop :=
  q.readsChain = true

theorem Query.ReadsChain.harmless {q : Query} (h : q.ReadsChain) : q.Harmless := by
  cases q <;> first | rfl | exact nomatch h

theorem asks_chain {ε : Type} {q : Query} (h : q.readsChain = true) :
    (ask q : Proc Answer σ ε (Answer q)).Asks Query.ReadsChain :=
  Proc.asks_ask h

theorem asks_anyhowTask {α : Type} {x : Task σ α} (hx : x.Asks Query.Harmless) :
    (anyhowTask x).Asks Query.Harmless :=
  hx.mapErr _

theorem asks_dexErr {α : Type} {x : AnyTask σ α} (venue : String)
    (hx : x.Asks Query.Harmless) : (dexErr venue x).Asks Query.Harmless :=
  hx.mapErr _

theorem PumpFun.asks_loadCurve (pool mint : Pubkey) :
    (PumpFun.loadCurve pool mint).Asks Query.ReadsChain :=
  (asks_chain rfl).bind fun _ => (Proc.asks_ofResult _).bind fun _ => Proc.asks_ofResult _

theorem PumpSwap.asks_tokenAccountBalance (account : Pubkey) :
    (PumpSwap.tokenAccountBalance account).Asks Query.ReadsChain :=
  (asks_chain rfl).bind fun _ => Proc.asks_ofResult _

theorem PumpSwap.asks_loadPool (pool mint : Pubkey) :
    (PumpSwap.loadPool pool mint).Asks Query.ReadsChain := by
  refine (asks_chain rfl).bind fun _ => (Proc.asks_ofResult _).bind fun _ =>
    (Proc.asks_ofResult _).bind fun _ => (asks_chain rfl).bind fun _ =>
      (Proc.asks_ofResult _).bind fun _ => (Proc.asks_ofResult _).bind fun _ => ?_
  exact (Proc.Asks.tryBoth (asks_tokenAccountBalance _) (asks_tokenAccountBalance _)).bind
    fun _ => Proc.asks_ofResult _

section Sources

variable [Sdk]

theorem asks_loadUnseen (seen addresses : List Pubkey) :
    (loadUnseen seen addresses : Task σ _).Asks Query.ReadsChain := by
  induction addresses generalizing seen with
  | nil => exact Proc.asks_pure _
  | cons address addresses ih =>
    unfold loadUnseen
    by_cases hseen : address ∈ seen
    · rw [if_pos hseen]
      exact ih seen
    · rw [if_neg hseen]
      refine Proc.Asks.bind ?_ fun table => (ih _).bind fun tables => Proc.asks_pure _
      exact (asks_chain rfl).bind fun _ => (Proc.asks_ofResult _).bind fun _ =>
        (Proc.asks_ofResult _).bind fun _ => Proc.asks_ofResult _

theorem Jupiter.asks_prepareWithPayer (trade : Trade) (payer : Option Pubkey) :
    (Jupiter.prepareWithPayer trade payer).Asks Query.Harmless := by
  refine Proc.Asks.bind ?_ fun build => ?_
  · exact (Proc.asks_ofResult _).bind fun _ => (asks_harmless rfl).bind fun _ =>
      Proc.asks_ofResult _
  · exact (Proc.asks_ofResult _).bind fun _ => (Proc.asks_ofResult _).bind fun _ =>
      (Proc.asks_ofResult _).bind fun _ => Proc.asks_pure _

theorem DFlow.asks_prepareWithFee (trade : Trade) (payer : Option Pubkey)
    (fee : Option ProviderFee) :
    (DFlow.prepareWithFee trade payer fee).Asks Query.Harmless := by
  refine Proc.Asks.bind ?_ fun quoted => ?_
  · exact (Proc.asks_ofResult _).bind fun _ => (asks_harmless rfl).bind fun _ =>
      (Proc.asks_ofResult _).bind fun _ => (Proc.asks_ofResult _).bind fun _ =>
        Proc.asks_pure _
  · exact (asks_harmless rfl).bind fun _ => (Proc.asks_ofResult _).bind fun _ =>
      (Proc.asks_ofResult _).bind fun _ => (Proc.asks_ofResult _).bind fun _ =>
        ((asks_loadUnseen _ _).mono fun _ => Query.ReadsChain.harmless).bind fun _ =>
          Proc.asks_pure _

theorem Bloxroute.asks_prepareWithFee {P : Query → Prop}
    (hP : ∀ request, P (.bloxrouteInstructions request)) (trade : Trade)
    (payer : Option Pubkey) (fee : Option ProviderFee) :
    (Bloxroute.prepareWithFee trade payer fee).Asks P :=
  (Proc.asks_ofResult _).bind fun _ => (Proc.asks_ask (hP _)).bind fun _ =>
    (Proc.asks_ofResult _).bind fun _ => Proc.asks_ofResult _

theorem Relay.asks_prepareWithFee {P : Query → Prop} (hP : ∀ request, P (.relayQuote request))
    (trade : Trade) (payer : Option Pubkey) (fee : Option ProviderFee) :
    (Relay.prepareWithFee trade payer fee).Asks P := by
  refine (Proc.asks_ofResult _).bind fun _ => (Proc.asks_ofResult _).bind fun _ =>
    (Proc.asks_ask (hP _)).bind fun _ => (Proc.asks_ofResult _).bind fun _ => ?_
  exact (Proc.asks_ofResult _).bind fun _ => (Proc.asks_ofResult _).bind fun _ =>
    (Proc.asks_ofResult _).bind fun _ => (Proc.asks_ofResult _).bind fun _ => Proc.asks_pure _

/-- A bloXroute route is what the adapter made of the answer to its one request. -/
theorem Bloxroute.runs_prepareWithFee {trade : Trade} {payer : Option Pubkey}
    {fee : Option ProviderFee} {tr : Trace Answer} {route : PreparedSwap}
    (h : (Bloxroute.prepareWithFee trade payer fee).Runs () tr (.ok route) ()) :
    ∃ request response, tr = [⟨.bloxrouteInstructions request, .ok response⟩] ∧
      request.maxAccounts = Bloxroute.maxAccounts payer ∧
      Bloxroute.responsePrepare response trade payer fee = .ok route := by
  unfold Bloxroute.prepareWithFee at h
  obtain ⟨-, -, h₁⟩ := Proc.runs_ofResult_bind_ok.mp h
  obtain ⟨answer, tr', htr, h₂⟩ := Proc.runs_ask_bind.mp h₁
  obtain ⟨response, hanswer, h₃⟩ := Proc.runs_ofResult_bind_ok.mp h₂
  obtain ⟨hnil, hroute, -⟩ := Proc.runs_ofResult.mp h₃
  rw [apiResult_eq_ok] at hanswer
  rw [htr, hnil, hanswer]
  exact ⟨_, response, rfl, rfl, hroute.symm⟩

/-- The instructions of a bloXroute route. -/
theorem Bloxroute.responsePrepare_eq_ok {response : Aggregators.Bloxroute.InstructionsResponse}
    {trade : Trade} {payer : Option Pubkey} {fee : Option ProviderFee} {route : PreparedSwap}
    (h : Bloxroute.responsePrepare response trade payer fee = .ok route) :
    ∃ config setup swap,
      configInstructions Aggregators.Bloxroute.venue response.transactionConfig = .ok config ∧
      response.setupInstructions.mapM (Bloxroute.setupInstruction trade payer) = .ok setup ∧
      decodeBase64 Aggregators.Bloxroute.venue trade.wallet payer response.swapInstruction =
        .ok swap ∧
      swap.programId = Bloxroute.program ∧ route.format = .v1 ∧
      route.instructions =
        config ++ (fee.map fun fee => fee.setup (payer.getD trade.wallet)).toList ++ setup ++
          [swap] := by
  unfold Bloxroute.responsePrepare at h
  obtain ⟨-, -, h₁⟩ := bind_eq_ok.mp h
  obtain ⟨quote, -, h₂⟩ := bind_eq_ok.mp h₁
  obtain ⟨quote', -, h₃⟩ := bind_eq_ok.mp h₂
  obtain ⟨config, hconfig, h₄⟩ := bind_eq_ok.mp h₃
  obtain ⟨setup, hsetup, h₅⟩ := bind_eq_ok.mp h₄
  obtain ⟨swap, hswap, h₆⟩ := bind_eq_ok.mp h₅
  obtain ⟨_, hvalid, h₇⟩ := bind_eq_ok.mp h₆
  rw [failIf_eq_ok, not_or, not_not] at hvalid
  rw [← pure_eq_ok.mp h₇]
  exact ⟨config, setup, swap, hconfig, hsetup, hswap, hvalid.1, rfl, rfl⟩

/-- A Relay route holds the instructions that the adapter kept of one response. -/
theorem Relay.runs_prepareWithFee {trade : Trade} {payer : Option Pubkey}
    {fee : Option ProviderFee} {tr : Trace Answer} {route : PreparedSwap}
    (h : (Relay.prepareWithFee trade payer fee).Runs () tr (.ok route) ()) :
    ∃ data, Relay.dataInstructions data trade payer = .ok route.instructions ∧
      route.format = .v1 := by
  unfold Relay.prepareWithFee at h
  obtain ⟨-, -, h₁⟩ := Proc.runs_ofResult_bind_ok.mp h
  obtain ⟨appFees, -, h₂⟩ := Proc.runs_ofResult_bind_ok.mp h₁
  obtain ⟨answer, tr', -, h₃⟩ := Proc.runs_ask_bind.mp h₂
  obtain ⟨response, -, h₄⟩ := Proc.runs_ofResult_bind_ok.mp h₃
  obtain ⟨quote, -, h₅⟩ := Proc.runs_ofResult_bind_ok.mp h₄
  obtain ⟨quote', -, h₆⟩ := Proc.runs_ofResult_bind_ok.mp h₅
  obtain ⟨data, -, h₇⟩ := Proc.runs_ofResult_bind_ok.mp h₆
  obtain ⟨ixs, hixs, h₈⟩ := Proc.runs_ofResult_bind_ok.mp h₇
  obtain ⟨-, hroute, -⟩ := Proc.runs_pure.mp h₈
  rw [Except.ok.inj hroute]
  exact ⟨data, hixs, rfl⟩

theorem PumpFun.asks_feeSettings (cached : Option PumpFun.FeeSettings) :
    (PumpFun.feeSettings cached).Asks Query.ReadsChain := by
  cases cached with
  | some fees => exact Proc.asks_pure _
  | none =>
    exact (asks_chain rfl).bind fun _ => (Proc.asks_ofResult _).bind fun _ =>
      (Proc.asks_ofResult _).bind fun _ => Proc.asks_pure _

theorem PumpSwap.asks_feeSettings (cached : Option PumpSwap.FeeSettings) :
    (PumpSwap.feeSettings cached).Asks Query.ReadsChain := by
  cases cached with
  | some fees => exact Proc.asks_pure _
  | none =>
    exact (asks_chain rfl).bind fun _ => (Proc.asks_ofResult _).bind fun _ =>
      (Proc.asks_ofResult _).bind fun _ => Proc.asks_pure _

theorem PumpSwap.asks_loadSolPool (cached : Option PumpSwap.FeeSettings) (trade : Trade) :
    (PumpSwap.loadSolPool cached trade).Asks Query.ReadsChain :=
  (Proc.asks_failIf _ _).bind fun _ => (asks_loadPool _ _).bind fun _ =>
    (Proc.asks_failIf _ _).bind fun _ => (asks_feeSettings cached).bind fun _ =>
      Proc.asks_pure _

variable [Profile]

theorem PumpFun.asks_prepareSwap (cached : Option PumpFun.FeeSettings) (trade : Trade) :
    (PumpFun.prepareSwap cached trade).Asks Query.ReadsChain :=
  (Proc.asks_failIf _ _).bind fun _ => (asks_loadCurve _ _).bind fun _ =>
    (asks_feeSettings cached).bind fun _ => (Proc.asks_ofResult _).bind fun _ =>
      Proc.asks_pure _

theorem PumpSwap.asks_prepareSwap (cached : Option PumpSwap.FeeSettings) (trade : Trade) :
    (PumpSwap.prepareSwap cached trade).Asks Query.ReadsChain :=
  (asks_loadSolPool cached trade).bind fun _ => (Proc.asks_ofResult _).bind fun _ =>
    Proc.asks_pure _

/-- A Pump.fun route is the venue's swap with the quote it computed. -/
theorem PumpFun.runs_prepareSwap {cached : Option PumpFun.FeeSettings} {trade : Trade}
    {tr : Trace Answer} {route : PreparedSwap}
    (h : (PumpFun.prepareSwap cached trade).Runs () tr (.ok route) ()) :
    ∃ curve fees, PumpFun.computeQuote curve fees trade.side trade.amount trade.slippageBps =
        .ok route.quote ∧
      route.instructions = PumpFun.swapInstructions trade curve fees route.quote := by
  unfold PumpFun.prepareSwap at h
  rcases Proc.runs_failIf_bind.mp h with ⟨-, -, hr, -⟩ | ⟨-, h₁⟩
  · exact nomatch hr
  obtain ⟨curve, _, _, _, -, -, h₂⟩ := Proc.runs_bind_ok.mp h₁
  obtain ⟨fees, _, _, _, -, -, h₃⟩ := Proc.runs_bind_ok.mp h₂
  obtain ⟨quote, hquote, h₄⟩ := Proc.runs_ofResult_bind_ok.mp h₃
  obtain ⟨-, hroute, -⟩ := Proc.runs_pure.mp h₄
  rw [Except.ok.inj hroute]
  exact ⟨curve, fees, hquote, rfl⟩

/-- A PumpSwap route is the venue's swap in a pool quoted in wrapped SOL. -/
theorem PumpSwap.runs_prepareSwap {cached : Option PumpSwap.FeeSettings} {trade : Trade}
    {tr : Trace Answer} {route : PreparedSwap}
    (h : (PumpSwap.prepareSwap cached trade).Runs () tr (.ok route) ()) :
    ∃ pool fees, pool.quoteMint = wsol ∧
      PumpSwap.computeQuote pool fees trade.side trade.amount trade.slippageBps =
        .ok route.quote ∧
      route.instructions =
        PumpSwap.swapInstructions trade (PumpSwap.poolOf trade) pool fees route.quote := by
  unfold PumpSwap.prepareSwap PumpSwap.loadSolPool at h
  obtain ⟨loaded, _, _, _, -, hload, h₁⟩ := Proc.runs_bind_ok.mp h
  rcases Proc.runs_failIf_bind.mp hload with ⟨-, -, hr, -⟩ | ⟨-, h₂⟩
  · exact nomatch hr
  obtain ⟨pool, _, _, _, -, -, h₃⟩ := Proc.runs_bind_ok.mp h₂
  rcases Proc.runs_failIf_bind.mp h₃ with ⟨-, -, hr, -⟩ | ⟨hquoted, h₄⟩
  · exact nomatch hr
  obtain ⟨fees, _, _, _, -, -, h₅⟩ := Proc.runs_bind_ok.mp h₄
  obtain ⟨-, hloaded, -⟩ := Proc.runs_pure.mp h₅
  rw [Except.ok.inj hloaded] at h₁
  obtain ⟨quote, hquote, h₆⟩ := Proc.runs_ofResult_bind_ok.mp h₁
  obtain ⟨-, hroute, -⟩ := Proc.runs_pure.mp h₆
  rw [Except.ok.inj hroute]
  exact ⟨pool, fees, not_not.mp hquoted, hquote, rfl⟩

/-- Every adapter only reads. -/
theorem asks_sourceAdapter (client : TradingClient) (source : QuoteSource) (trade : Trade) :
    ((client.sourceAdapter source).prepareSwap trade).Asks Query.Harmless ∧
      ∀ sponsor, ((client.sourceAdapter source).prepareSponsoredSwap trade sponsor).Asks
        Query.Harmless := by
  cases source with
  | jupiter =>
    exact ⟨asks_anyhowTask (Jupiter.asks_prepareWithPayer _ _),
      fun _ => asks_anyhowTask (Jupiter.asks_prepareWithPayer _ _)⟩
  | dflow =>
    exact ⟨asks_anyhowTask (DFlow.asks_prepareWithFee _ _ _),
      fun _ => asks_anyhowTask (DFlow.asks_prepareWithFee _ _ _)⟩
  | bloxroute =>
    exact ⟨asks_anyhowTask (Bloxroute.asks_prepareWithFee (fun _ => rfl) _ _ _),
      fun _ => asks_anyhowTask (Bloxroute.asks_prepareWithFee (fun _ => rfl) _ _ _)⟩
  | relay =>
    exact ⟨asks_anyhowTask (Relay.asks_prepareWithFee (fun _ => rfl) _ _ _),
      fun _ => asks_anyhowTask (Relay.asks_prepareWithFee (fun _ => rfl) _ _ _)⟩
  | pumpFun =>
    exact ⟨(PumpFun.asks_prepareSwap _ _).mono fun _ => Query.ReadsChain.harmless,
      fun _ => Proc.asks_throw _⟩
  | pumpSwap =>
    exact ⟨(PumpSwap.asks_prepareSwap _ _).mono fun _ => Query.ReadsChain.harmless,
      fun _ => Proc.asks_throw _⟩

theorem asks_prepareRoute (client : TradingClient) (source : QuoteSource) (trade : Trade)
    (providerFee : Option ProviderFee) :
    (client.prepareRoute source trade providerFee).Asks Query.Harmless := by
  cases providerFee with
  | some fee =>
    cases source with
    | bloxroute => exact Bloxroute.asks_prepareWithFee (fun _ => rfl) trade _ (some fee)
    | dflow => exact DFlow.asks_prepareWithFee trade _ (some fee)
    | relay => exact Relay.asks_prepareWithFee (fun _ => rfl) trade _ (some fee)
    | jupiter => exact Proc.asks_throw _
    | pumpFun => exact Proc.asks_throw _
    | pumpSwap => exact Proc.asks_throw _
  | none =>
    obtain ⟨hplain, hsponsored⟩ := asks_sourceAdapter client source trade
    refine asks_dexErr _ ?_
    cases client.sponsorFor trade with
    | some sponsor => exact hsponsored _
    | none => exact hplain

end Sources

/-! ### Pool prices -/

theorem asks_pumpswapSpot (mint : Pubkey) (data : Wire.Bytes) :
    (pumpswapSpot mint data).Asks Query.ReadsChain := by
  refine (Proc.asks_ofResult _).bind fun _ => (asks_chain rfl).bind fun _ =>
    (Proc.asks_ofResult _).bind fun _ => (Proc.asks_ofResult _).bind fun accounts => ?_
  split
  · exact (Proc.asks_ofResult _).bind fun _ => (Proc.asks_ofResult _).bind fun _ =>
      (Proc.asks_ofResult _).bind fun _ => Proc.asks_pure _
  · exact Proc.asks_ofResult _

section Prices

variable [Sdk]

theorem asks_tokenSpot (trade : Trade) (pool : Pubkey) (account : Account) :
    (TradingClient.tokenSpot trade pool account).Asks Query.ReadsChain := by
  unfold TradingClient.tokenSpot
  split_ifs
  · exact (Proc.asks_ofResult _).bind fun _ => Proc.asks_pure _
  · exact asks_pumpswapSpot _ _
  · exact Proc.asks_throw _

theorem asks_readPoolPrices (client : TradingClient) (trade : Trade) (pool : Pubkey) :
    (client.readPoolPrices trade pool).Asks Query.ReadsChain := by
  refine Proc.Asks.bind ?_ fun _ => (asks_chain rfl).bind fun _ =>
    (Proc.asks_ofResult _).bind fun _ => (Proc.asks_ofResult _).bind fun accounts => ?_
  · cases client.solUsdcVaults with
    | some vaults => exact Proc.asks_pure _
    | none =>
      exact (asks_chain rfl).bind fun _ => (Proc.asks_ofResult _).bind fun _ =>
        (Proc.asks_ofResult _).bind fun _ => Proc.asks_pure _
  · split
    · exact (Proc.asks_ofResult _).bind fun _ => (asks_tokenSpot _ _ _).bind fun _ =>
        (Proc.asks_ofResult _).bind fun _ => (Proc.asks_ofResult _).bind fun _ =>
          Proc.asks_pure _
    · exact Proc.asks_ofResult _

theorem asks_poolPrices (client : TradingClient) (trade : Trade) (source : QuoteSource) :
    (client.poolPrices trade source).Asks Query.ReadsChain := by
  unfold TradingClient.poolPrices
  split_ifs
  · split
    · exact Proc.asks_pure _
    · refine (Proc.Asks.attempt (asks_readPoolPrices client trade _)).bind fun c => ?_
      split
      · exact Proc.asks_pure _
      · exact Proc.asks_pure _
      · exact Proc.asks_throw _
  · exact Proc.asks_pure _

/-- **Preparing releases nothing**, whichever source is asked and whatever it answers. -/
theorem asks_prepareSelectedSwap [Profile] (client : TradingClient) (trade : Trade) :
    (client.prepareSelectedSwap trade).Asks Query.Harmless := by
  refine (Proc.asks_ofResult _).bind fun _ => (Proc.asks_failIf _ _).bind fun _ =>
    (Proc.asks_ofResult _).bind fun _ => (Proc.asks_ofResult _).bind fun _ =>
      Proc.Asks.bind ?_ fun _ => ?_
  · exact Proc.Asks.both (Proc.Asks.within (asks_prepareRoute _ _ _ _) _)
      ((asks_poolPrices client trade _).mono fun _ => Query.ReadsChain.harmless)
  · exact (Proc.asks_ofResult _).bind fun _ => (Proc.asks_ofResult _).bind fun _ =>
      (Proc.asks_ofResult _).bind fun _ => (Proc.asks_ofResult _).bind fun _ =>
        Proc.asks_pure _

end Prices

/-! ## A run -/

section Runs

variable [Profile] [Sdk]

/-- bloXroute is asked with the sponsor as the payer, with or without a provider fee. -/
theorem TradingClient.runs_prepareRoute_bloxroute {client : TradingClient} {trade : Trade}
    {providerFee : Option ProviderFee} {tr : Trace Answer} {route : PreparedSwap}
    (h : (client.prepareRoute .bloxroute trade providerFee).Runs () tr (.ok route) ()) :
    (Bloxroute.prepareWithFee trade ((client.sponsorFor trade).map GasSponsor.wallet)
      providerFee).Runs () tr (.ok route) () := by
  cases providerFee with
  | some fee => exact h
  | none =>
    have hadapter := runs_dexErr_ok h
    cases hsponsor : client.sponsorFor trade with
    | some sponsor =>
      rw [hsponsor] at hadapter
      exact runs_anyhowTask_ok hadapter
    | none =>
      rw [hsponsor] at hadapter
      exact runs_anyhowTask_ok hadapter

/-- The run of an adapter that a route came from. -/
inductive RoutedBy (trade : Trade) (payer : Option Pubkey) (fee : Option ProviderFee)
    (tr : Trace Answer) (route : PreparedSwap) : QuoteSource → Prop
  | jupiter : (Jupiter.prepareWithPayer trade payer).Runs () tr (.ok route) () →
      RoutedBy trade payer fee tr route .jupiter
  | dflow : (DFlow.prepareWithFee trade payer fee).Runs () tr (.ok route) () →
      RoutedBy trade payer fee tr route .dflow
  | bloxroute : (Bloxroute.prepareWithFee trade payer fee).Runs () tr (.ok route) () →
      RoutedBy trade payer fee tr route .bloxroute
  | relay : (Relay.prepareWithFee trade payer fee).Runs () tr (.ok route) () →
      RoutedBy trade payer fee tr route .relay
  | pumpFun (cached : Option PumpFun.FeeSettings) :
      (PumpFun.prepareSwap cached trade).Runs () tr (.ok route) () →
      RoutedBy trade payer fee tr route .pumpFun
  | pumpSwap (cached : Option PumpSwap.FeeSettings) :
      (PumpSwap.prepareSwap cached trade).Runs () tr (.ok route) () →
      RoutedBy trade payer fee tr route .pumpSwap

/-- **Where a route comes from**: whichever way the source is asked, one adapter runs, with the
sponsor as the payer. -/
theorem runs_prepareRoute {client : TradingClient} {source : QuoteSource} {trade : Trade}
    {fee : Option ProviderFee} {tr : Trace Answer} {route : PreparedSwap}
    (h : (client.prepareRoute source trade fee).Runs () tr (.ok route) ()) :
    RoutedBy trade ((client.sponsorFor trade).map GasSponsor.wallet) fee tr route source := by
  cases fee with
  | some fee =>
    cases source with
    | bloxroute => exact .bloxroute h
    | dflow => exact .dflow h
    | relay => exact .relay h
    | jupiter => exact nomatch (Proc.runs_throw.mp h).2.1
    | pumpFun => exact nomatch (Proc.runs_throw.mp h).2.1
    | pumpSwap => exact nomatch (Proc.runs_throw.mp h).2.1
  | none =>
    have hadapter := runs_dexErr_ok h
    cases hsponsor : client.sponsorFor trade with
    | none =>
      rw [hsponsor] at hadapter
      cases source with
      | jupiter => exact .jupiter (runs_anyhowTask_ok hadapter)
      | dflow => exact .dflow (runs_anyhowTask_ok hadapter)
      | bloxroute => exact .bloxroute (runs_anyhowTask_ok hadapter)
      | relay => exact .relay (runs_anyhowTask_ok hadapter)
      | pumpFun => exact .pumpFun client.pumpfunFees hadapter
      | pumpSwap => exact .pumpSwap client.pumpswapFees hadapter
    | some sponsor =>
      rw [hsponsor] at hadapter
      cases source with
      | jupiter => exact .jupiter (runs_anyhowTask_ok hadapter)
      | dflow => exact .dflow (runs_anyhowTask_ok hadapter)
      | bloxroute => exact .bloxroute (runs_anyhowTask_ok hadapter)
      | relay => exact .relay (runs_anyhowTask_ok hadapter)
      | pumpFun => exact nomatch (Proc.runs_throw.mp hadapter).2.1
      | pumpSwap => exact nomatch (Proc.runs_throw.mp hadapter).2.1

/-- How a prepared swap came about: `route` is what the adapter returned for the trade
`routed`, and `charged` is the route with the fees appended. -/
structure PreparedFrom (client : TradingClient) (trade : Trade) (tr : Trace Answer)
    (providerFee : Option ProviderFee) (routed : Trade) (route charged prepared : PreparedSwap) :
    Prop where
  valid : trade.Valid
  provider : client.providerFee trade (client.quoteSourceFor trade) = .ok providerFee
  reserved : client.routedTrade trade (client.transferFee providerFee) = .ok routed
  answered : ∃ tr', (∀ e ∈ tr', e ∈ tr) ∧ (∀ e ∈ tr, e ∈ tr' ∨ e.query.ReadsChain) ∧
    (client.prepareRoute (client.quoteSourceFor trade) routed providerFee).Runs () tr'
      (.ok route) ()
  candidate : validateCandidate routed route providerFee.isSome = .ok ()
  appended : client.appendFees trade route (client.transferFee providerFee) = .ok charged
  shown : ∃ usdValue,
    prepared = { charged with quote := { charged.quote with usdValue := usdValue } }

theorem runs_prepareSelectedSwap {client : TradingClient} {trade : Trade} {tr : Trace Answer}
    {prepared : PreparedSwap}
    (h : (client.prepareSelectedSwap trade).Runs () tr (.ok prepared) ()) :
    ∃ providerFee routed route charged,
      PreparedFrom client trade tr providerFee routed route charged prepared := by
  unfold TradingClient.prepareSelectedSwap at h
  obtain ⟨_, hvalid, h₁⟩ := Proc.runs_ofResult_bind_ok.mp h
  rcases Proc.runs_failIf_bind.mp h₁ with ⟨-, -, hr, -⟩ | ⟨-, h₂⟩
  · exact nomatch hr
  obtain ⟨providerFee, hprovider, h₃⟩ := Proc.runs_ofResult_bind_ok.mp h₂
  obtain ⟨routed, hrouted, h₄⟩ := Proc.runs_ofResult_bind_ok.mp h₃
  obtain ⟨c, s₁, tr₁, tr₂, htr, hboth, h₅⟩ := Proc.runs_bind_ok.mp h₄
  obtain ⟨c', trl, trr, hc, -, hmerge, hroute, hprices⟩ := Proc.runs_both hboth
  cases hc
  have hreads := (asks_poolPrices client trade _).runs hprices
  obtain ⟨prices, -, h₆⟩ := Proc.runs_ofResult_bind_ok.mp h₅
  obtain ⟨route, hok, h₇⟩ := Proc.runs_ofResult_bind_ok.mp h₆
  obtain ⟨_, hcandidate, h₈⟩ := Proc.runs_ofResult_bind_ok.mp h₇
  obtain ⟨charged, hcharged, h₉⟩ := Proc.runs_ofResult_bind_ok.mp h₈
  obtain ⟨hnil, hprepared, -⟩ := Proc.runs_pure.mp h₉
  rw [hok] at hroute
  refine ⟨providerFee, routed, route, charged, Trade.validate_eq_ok.mp hvalid, hprovider, hrouted,
    ⟨trl, fun e he => ?_, fun e he => ?_, (Proc.runs_within_ok hroute).2⟩, hcandidate, hcharged,
    _, Except.ok.inj hprepared⟩
  · rw [htr, hnil, List.append_nil]
    exact (hmerge.mem_iff e).mpr (Or.inl he)
  · rw [htr, hnil, List.append_nil] at he
    exact ((hmerge.mem_iff e).mp he).imp id (hreads e)

end Runs

end Solana
end TradingAggregators
