import TradingAggregators.Solana.Conservation
import TradingAggregators.Solana.PoolBinding

/-!
# A native transaction enforces the quote shown

## 1.  The data of a swap instruction

`SwapArguments.decode` reads an instruction of either venue back: eight bytes of discriminator,
two little-endian integers, and what follows.

## 2.  The routes

`NativeRoute` says what a route of either venue holds: one instruction of the venue's program,
with the routed amount and the minimum of the route's own quote, and the lamports it spends.
`PumpFun.nativeRoute`, `PumpSwap.nativeRoute`: the two adapters return such routes.

## 3.  With the fees around them

`native_quote_enforced`: what the wallet spends and the fee together are the trade's amount on
buys, and what is left of the enforced minimum after the fee is the minimum shown on sells.
-/

namespace TradingAggregators
namespace Solana

open Interaction Interaction.Program Rust Wire

/-! ## 1.  The data of a swap instruction -/

/-- The arguments of a native swap instruction. -/
structure SwapArguments where
  input : UInt64
  minimum : UInt64
  /-- What follows the two integers. -/
  rest : Bytes

/-- The discriminator and the arguments in the data of a swap instruction. -/
def SwapArguments.decode (data : Bytes) : Option (Bytes × SwapArguments) :=
  if data.length < 24 then none
  else some (data.take 8,
    { input := UInt64.ofNat (ofLeBytes ((data.drop 8).take 8))
      minimum := UInt64.ofNat (ofLeBytes ((data.drop 16).take 8))
      rest := data.drop 24 })

theorem decode_swapData {discriminator : Bytes} (h : discriminator.length = 8)
    (input minimum : UInt64) (rest : Bytes) :
    SwapArguments.decode (discriminator ++ le64 input ++ le64 minimum ++ rest) =
      some (discriminator, ⟨input, minimum, rest⟩) := by
  have hinput := length_le64 input
  have hminimum := length_le64 minimum
  have htake : (discriminator ++ (le64 input ++ (le64 minimum ++ rest))).take 8 =
      discriminator := List.take_left' h
  have hdrop : (discriminator ++ (le64 input ++ (le64 minimum ++ rest))).drop 8 =
      le64 input ++ (le64 minimum ++ rest) := List.drop_left' h
  have hdrop₁ : (discriminator ++ (le64 input ++ (le64 minimum ++ rest))).drop 16 =
      le64 minimum ++ rest := by
    rw [show 16 = 8 + 8 from rfl, ← List.drop_drop, hdrop, List.drop_left' hinput]
  have hdrop₂ : (discriminator ++ (le64 input ++ (le64 minimum ++ rest))).drop 24 = rest := by
    rw [show 24 = 16 + 8 from rfl, ← List.drop_drop, hdrop₁, List.drop_left' hminimum]
  have hlength : ¬ (discriminator ++ (le64 input ++ (le64 minimum ++ rest))).length < 24 := by
    simp only [List.length_append]
    omega
  rw [List.append_assoc, List.append_assoc, SwapArguments.decode, if_neg hlength, htake, hdrop,
    hdrop₁, hdrop₂, List.take_left' hinput, List.take_left' hminimum, ofLeBytes_le64,
    ofLeBytes_le64, UInt64.ofNat_toNat, UInt64.ofNat_toNat]

/-! ## 2.  The routes -/

/-- The lamports and tokens that instructions move out of a wallet. -/
def outflows (wallet : Pubkey) (ixs : List Instruction) : ℕ :=
  (ixs.map (outflow wallet)).sum

theorem outflows_cons (wallet : Pubkey) (ix : Instruction) (ixs : List Instruction) :
    outflows wallet (ix :: ixs) = outflow wallet ix + outflows wallet ixs := by
  rw [outflows, List.map_cons, List.sum_cons]
  rfl

@[simp] theorem outflows_nil (wallet : Pubkey) : outflows wallet [] = 0 := rfl

/-- Instructions of other programs than the System and the token program move nothing
themselves. -/
theorem outflow_other {wallet : Pubkey} {ix : Instruction} (hsystem : ix.programId ≠ systemProgram)
    (htoken : ix.programId ≠ tokenProgram) : outflow wallet ix = 0 := by
  rw [outflow, if_neg fun h => hsystem h.1, if_neg fun h => htoken h.1]

theorem outflow_syncNative (wallet account : Pubkey) :
    outflow wallet (syncNative account) = 0 := by
  unfold outflow
  split_ifs with hsystem htoken
  · exact absurd hsystem.1 programs_ne.1
  · exact nomatch htoken.2
  · rfl

theorem outflow_closeAccount (wallet account destination owner : Pubkey) :
    outflow wallet (closeAccount account destination owner) = 0 := by
  unfold outflow
  split_ifs with hsystem htoken
  · exact absurd hsystem.1 programs_ne.1
  · exact nomatch htoken.2
  · rfl

/-- The program of a native venue. -/
def Venue.program : Venue → Pubkey
  | .pumpFun => PumpFun.programId
  | .pumpSwap => PumpSwap.programId

/-- The instruction that a venue trades with. -/
def Venue.ixName : Venue → Side → String
  | .pumpFun, .buy => PumpFun.buyIxName
  | .pumpFun, .sell => PumpFun.sellIxName
  | .pumpSwap, .buy => PumpSwap.buyExactQuoteInIxName
  | .pumpSwap, .sell => PumpSwap.sellIxName

theorem Venue.program_ne (venue : Venue) :
    venue.program ≠ systemProgram ∧ venue.program ≠ tokenProgram ∧
      venue.program ≠ ataProgram := by
  cases venue with
  | pumpFun =>
    obtain ⟨hsystem, htoken, hata, -⟩ := PumpFun.programId_ne
    exact ⟨hsystem, htoken, hata⟩
  | pumpSwap =>
    obtain ⟨hsystem, htoken, hata, -⟩ := PumpSwap.programId_ne
    exact ⟨hsystem, htoken, hata⟩

/-- What a route spends: Pump.fun's program takes the lamports that its data names from the
wallet, PumpSwap's takes what the route has wrapped. -/
def Venue.spent (venue : Venue) (wallet : Pubkey) (args : SwapArguments)
    (ixs : List Instruction) : ℕ :=
  match venue with
  | .pumpFun => outflows wallet ixs + args.input.toNat
  | .pumpSwap => outflows wallet ixs

theorem outflow_swapIx (wallet : Pubkey) (venue : Venue) {ix : Instruction}
    (h : ix.programId = venue.program) : outflow wallet ix = 0 := by
  obtain ⟨hsystem, htoken, -⟩ := venue.program_ne
  rw [← h] at hsystem htoken
  exact outflow_other hsystem htoken

section Routes

variable [Sdk]

theorem length_anchorDiscriminator (ixName : String) :
    (anchorDiscriminator ixName).length = 8 := by
  rw [anchorDiscriminator, List.length_take, FixedBytes.size]
  rfl

/-- The lamports are wrapped before the swap: all that leaves the wallet is one transfer to an
account that is synchronised after it and closed after the swap. -/
structure Wraps (wallet : Pubkey) (lamports : UInt64) (front back : List Instruction) : Prop where
  wrapped : ∃ account setup,
    front = setup ++ [systemTransfer wallet account lamports, syncNative account] ∧
    closeAccount account wallet wallet ∈ back
  before : outflows wallet front = lamports.toNat
  after : outflows wallet back = 0

/-- A route of a native venue for the trade `routed`. -/
structure NativeRoute (venue : Venue) (routed : Trade) (route : PreparedSwap)
    (args : SwapArguments) : Prop where
  /-- One instruction is the venue's, and it reads as the arguments. -/
  swap : ∃ front ix back, route.instructions = front ++ ix :: back ∧
    ix.programId = venue.program ∧ (∀ other ∈ front ++ back, other.programId ≠ venue.program) ∧
    SwapArguments.decode ix.data =
      some (anchorDiscriminator (venue.ixName routed.side), args) ∧
    (venue = .pumpSwap → routed.side = .buy → Wraps routed.wallet args.input front back)
  rest : args.rest = if routed.side = .buy then [trackVolume] else []
  input : args.input = routed.amount
  minimum : args.minimum = route.quote.minOut
  spent : routed.side = .buy →
    venue.spent routed.wallet args route.instructions = routed.amount.toNat

/-- The instructions around a swap are of other programs than the venue's. -/
theorem Venue.createAta_ne (venue : Venue) (payer owner mint program : Pubkey) :
    (createAtaIdempotent payer owner mint program).programId ≠ venue.program :=
  fun h => venue.program_ne.2.2 h.symm

variable [Profile]

theorem PumpFun.nativeRoute {cached : Option PumpFun.FeeSettings} {trade : Trade}
    {tr : Trace Answer} {route : PreparedSwap}
    (h : (PumpFun.prepareSwap cached trade).Runs () tr (.ok route) ()) :
    ∃ args, NativeRoute .pumpFun trade route args := by
  obtain ⟨curve, fees, -, hixs⟩ := PumpFun.runs_prepareSwap h
  unfold PumpFun.swapInstructions at hixs
  cases hside : trade.side with
  | buy =>
    simp only [hside] at hixs
    refine ⟨⟨trade.amount, route.quote.minOut, [trackVolume]⟩, ?_, ?_, rfl, rfl, fun _ => ?_⟩
    · refine ⟨[_], _, [], hixs, rfl, fun other hother => ?_, ?_, fun h => nomatch h⟩
      · rw [List.append_nil, List.mem_singleton] at hother
        rw [hother]
        exact Venue.createAta_ne .pumpFun _ _ _ _
      · rw [hside]
        exact decode_swapData (length_anchorDiscriminator _) _ _ _
    · rw [if_pos hside]
    · have hswap : outflow trade.wallet (PumpFun.buyIx trade (PumpFun.poolOf trade) curve fees
          trade.amount route.quote.minOut) = 0 := outflow_swapIx _ .pumpFun rfl
      simp only [Venue.spent, hixs, outflows_cons, outflows_nil, outflow_createAta, hswap,
        Nat.zero_add]
  | sell =>
    simp only [hside] at hixs
    refine ⟨⟨trade.amount, route.quote.minOut, []⟩, ?_, ?_, rfl, rfl, fun hbuy => ?_⟩
    · refine ⟨[], _, [], hixs, rfl, fun other hother => (nomatch hother), ?_, fun h => nomatch h⟩
      rw [hside, ← decode_swapData (length_anchorDiscriminator _), List.append_nil]
      rfl
    · simp [hside]
    · exact nomatch hside.symm.trans hbuy

/-- PumpSwap buys with wrapped lamports, in the accounts of the wallet itself. -/
theorem PumpSwap.nativeRoute {cached : Option PumpSwap.FeeSettings} {trade : Trade}
    {tr : Trace Answer} {route : PreparedSwap}
    (h : (PumpSwap.prepareSwap cached trade).Runs () tr (.ok route) ()) :
    ∃ args, NativeRoute .pumpSwap trade route args := by
  obtain ⟨pool, fees, -, -, hixs⟩ := PumpSwap.runs_prepareSwap h
  unfold PumpSwap.swapInstructions at hixs
  obtain ⟨hsystem, htoken, hata⟩ := Venue.program_ne .pumpSwap
  cases hside : trade.side with
  | buy =>
    simp only [hside, PumpSwap.buyInstructions] at hixs
    refine ⟨⟨trade.amount, route.quote.minOut, [trackVolume]⟩, ?_, ?_, rfl, rfl, fun _ => ?_⟩
    · refine ⟨[_, _, _, _], _, [_], hixs, rfl, fun other hother => ?_, ?_, fun _ _ => ⟨?_, ?_, ?_⟩⟩
      · simp only [List.cons_append, List.nil_append, List.mem_cons, List.not_mem_nil,
          or_false] at hother
        rcases hother with rfl | rfl | rfl | rfl | rfl
        · exact hata.symm
        · exact hata.symm
        · exact hsystem.symm
        · exact htoken.symm
        · exact htoken.symm
      · rw [hside]
        exact decode_swapData (length_anchorDiscriminator _) _ _ _
      · exact ⟨_, [_, _], rfl, List.mem_singleton.mpr rfl⟩
      · simp only [outflows_cons, outflows_nil, outflow_createAta, outflow_systemTransfer,
          outflow_syncNative, Nat.zero_add, Nat.add_zero]
      · simp only [outflows_cons, outflows_nil, outflow_closeAccount]
    · rw [if_pos hside]
    · simp only [Venue.spent, hixs, outflows_cons, outflows_nil, outflow_createAta,
        outflow_systemTransfer, outflow_syncNative, outflow_closeAccount, Nat.zero_add,
        Nat.add_zero]
      rw [outflow_swapIx trade.wallet .pumpSwap rfl, Nat.add_zero]
  | sell =>
    simp only [hside, PumpSwap.sellInstructions] at hixs
    refine ⟨⟨trade.amount, route.quote.minOut, []⟩, ?_, ?_, rfl, rfl, fun hbuy => ?_⟩
    · refine ⟨[_], _, [_], hixs, rfl, fun other hother => ?_, ?_, fun _ hbuy => ?_⟩
      · simp only [List.cons_append, List.nil_append, List.mem_cons, List.not_mem_nil,
          or_false] at hother
        rcases hother with rfl | rfl
        · exact hata.symm
        · exact htoken.symm
      · rw [hside, ← decode_swapData (length_anchorDiscriminator _), List.append_nil]
        rfl
      · exact nomatch hside.symm.trans hbuy
    · simp [hside]
    · exact nomatch hside.symm.trans hbuy

end Routes

/-! ## 3.  With the fees around them -/

/-- The transfer of the SDK's own fee. -/
def TradingClient.sdkTransfer (client : TradingClient) (trade : Trade) (fee : UInt64) :
    List Instruction :=
  match client.sdkFee with
  | some sdkFee => if fee > 0 then [systemTransfer trade.wallet sdkFee.recipient fee] else []
  | none => []

theorem TradingClient.sponsorFor_sol (client : TradingClient) {trade : Trade}
    (hsol : trade.settlement = .sol) : client.sponsorFor trade = none := by
  cases hsponsor : client.sponsorFor trade with
  | none => rfl
  | some sponsor => exact nomatch hsol.symm.trans (settlement_of_sponsorFor hsponsor)

/-- What the transfer of a fee moves is the fee, where there is someone to collect it. -/
theorem TradingClient.outflows_sdkTransfer (client : TradingClient) (trade : Trade)
    {fee : UInt64} (h : client.sdkFee = none → fee = 0) :
    outflows trade.wallet (client.sdkTransfer trade fee) = fee.toNat := by
  unfold sdkTransfer
  cases hfee : client.sdkFee with
  | none =>
    rw [h hfee]
    rfl
  | some sdkFee =>
    by_cases hpos : fee > 0
    · simp only [hpos, if_true, outflows_cons, outflows_nil, outflow_systemTransfer,
        Nat.add_zero]
    · have hzero : fee.toNat = 0 := by
        rw [gt_iff_lt, UInt64.lt_iff_toNat_lt] at hpos
        exact Nat.eq_zero_of_not_pos hpos
      simp only [hpos, if_false, outflows_nil, hzero]

section Client

variable [Profile]

/-- Native venues collect no fee for the client. -/
theorem TradingClient.providerFee_native {client : TradingClient} {trade : Trade}
    {source : QuoteSource} {venue : Venue} {providerFee : Option ProviderFee}
    (hnative : source.nativeVenue = some venue)
    (h : client.providerFee trade source = .ok providerFee) : providerFee = none := by
  have hsource : source ∉ [QuoteSource.bloxroute, .dflow, .relay] := by
    cases source <;> first | decide | exact nomatch hnative
  unfold TradingClient.providerFee at h
  cases hfee : client.sdkFee.filter fun fee => fee.collection = .provider && fee.basisPoints > 0
    with
  | none =>
    rw [hfee] at h
    exact (Except.ok.inj h).symm
  | some fee =>
    rw [hfee] at h
    obtain ⟨_, hfail, -⟩ := bind_eq_ok.mp h
    exact absurd hsource (failIf_eq_ok.mp hfail)

variable [Sdk]

/-- A fee of the SDK is one transfer in lamports, unless it is zero. -/
theorem SdkFee.applyWithPayer_sol {fee : SdkFee} {trade : Trade}
    {route paid : PreparedSwap} {payer : Pubkey} (hsol : trade.settlement = .sol)
    (h : fee.applyWithPayer trade route payer = .ok paid) :
    paid.instructions = route.instructions ++
      if paid.quote.applicationFee > 0 then
        [systemTransfer trade.wallet fee.recipient paid.quote.applicationFee] else [] := by
  unfold SdkFee.applyWithPayer at h
  obtain ⟨quote, -, h₁⟩ := bind_eq_ok.mp h
  by_cases hfee : quote.applicationFee > 0
  · simp only [hfee, if_true, hsol, pure_eq_ok] at h₁
    rw [← h₁]
    show _ = route.instructions ++ if quote.applicationFee > 0 then _ else []
    rw [if_pos hfee]
  · simp only [hfee, if_false, pure_eq_ok] at h₁
    rw [← h₁]
    show route.instructions = route.instructions ++ if quote.applicationFee > 0 then _ else []
    rw [if_neg hfee, List.append_nil]

/-- Without a sponsor, what is appended is the SDK's transfer of the fee shown. -/
theorem TradingClient.appendFees_sol {client : TradingClient} {trade : Trade}
    {route charged : PreparedSwap} (hsol : trade.settlement = .sol)
    (h : client.appendFees trade route client.sdkFee = .ok charged) :
    charged.instructions =
      route.instructions ++ client.sdkTransfer trade charged.quote.applicationFee := by
  rw [appendFees_eq, client.sponsorFor_sol hsol] at h
  obtain ⟨paid, hpaid, h₁⟩ := bind_eq_ok.mp h
  rw [← Except.ok.inj h₁]
  unfold sdkTransfer
  cases hfee : client.sdkFee with
  | none =>
    rw [hfee] at hpaid
    rw [← Except.ok.inj hpaid, List.append_nil]
  | some fee =>
    simp only [hfee] at hpaid
    exact (fee.applyWithPayer_sol hsol hpaid :)

/-- What the transaction of a native swap enforces: `routed` is the trade without the fee,
`args` are the arguments of the venue's instruction, and `prepared` is what is shown. -/
structure Enforces (client : TradingClient) (venue : Venue) (trade routed : Trade)
    (route prepared : PreparedSwap) (args : SwapArguments) : Prop where
  native : NativeRoute venue routed route args
  routed : routed = { trade with amount := routed.amount }
  instructions : prepared.instructions =
    route.instructions ++ client.sdkTransfer trade prepared.quote.applicationFee
  buy : trade.side = .buy →
    venue.spent trade.wallet args route.instructions +
        outflows trade.wallet (client.sdkTransfer trade prepared.quote.applicationFee) =
      trade.amount.toNat ∧ args.minimum = prepared.quote.minOut
  sell : trade.side = .sell →
    args.input = trade.amount ∧ prepared.quote.minOut.toNat +
        outflows trade.wallet (client.sdkTransfer trade prepared.quote.applicationFee) =
      args.minimum.toNat

/-- The route of a native source, whichever of the two. -/
theorem TradingClient.runs_prepareRoute_native {client : TradingClient} {source : QuoteSource}
    {venue : Venue} {trade : Trade} {tr : Trace Answer} {route : PreparedSwap}
    (hnative : source.nativeVenue = some venue) (hsol : trade.settlement = .sol)
    (h : (client.prepareRoute source trade none).Runs () tr (.ok route) ()) :
    ∃ args, NativeRoute venue trade route args := by
  unfold TradingClient.prepareRoute at h
  rw [client.sponsorFor_sol hsol] at h
  have hroute := runs_dexErr_ok h
  cases source with
  | pumpFun =>
    obtain rfl := Option.some.inj hnative
    exact PumpFun.nativeRoute hroute
  | pumpSwap =>
    obtain rfl := Option.some.inj hnative
    exact PumpSwap.nativeRoute hroute
  | jupiter => exact nomatch hnative
  | dflow => exact nomatch hnative
  | bloxroute => exact nomatch hnative
  | relay => exact nomatch hnative

/-- **A native transaction enforces the quote shown.**  A buy spends the trade's amount, with
the fee, for the minimum shown at least; a sell spends the trade's amount and is paid the
minimum shown at least, after the fee. -/
theorem native_quote_enforced (client : TradingClient) (trade : Trade) (venue : Venue)
    (hsol : trade.settlement = .sol)
    (hnative : (client.quoteSourceFor trade).nativeVenue = some venue) {tr : Trace Answer}
    {prepared : PreparedSwap}
    (hrun : (client.prepareSelectedSwap trade).Runs () tr (.ok prepared) ()) :
    ∃ routed route args, Enforces client venue trade routed route prepared args := by
  obtain ⟨providerFee, routed, route, charged, hfrom, hconserved⟩ := runs_conserved hrun
  obtain rfl := TradingClient.providerFee_native hnative hfrom.provider
  have hreserved := hfrom.reserved
  have happended := hfrom.appended
  rw [client.transferFee_none] at happended
  obtain ⟨-, happ, hsponsorship, hpos, -⟩ := validateCandidate_eq_ok hfrom.candidate
  have hinput := TradingClient.routedTrade_eq_ok hreserved
  have hsettled : routed.settlement = .sol := hinput.settlement.trans hsol
  obtain ⟨tr', -, -, hroute⟩ := hfrom.answered
  obtain ⟨args, hargs⟩ := TradingClient.runs_prepareRoute_native hnative hsettled hroute
  have hixs := TradingClient.appendFees_sol hsol happended
  have hcharged := TradingClient.appendFees_eq_ok happended hpos
  have hceiling : client.ceiling trade = 0 := by
    rw [TradingClient.ceiling, client.sponsorFor_sol hsol]
  have hsponsor : charged.quote.sponsorshipFee = 0 :=
    (hcharged.sponsorshipFee hsponsorship).trans hceiling
  have hunpaid : client.sdkFee = none → charged.quote.applicationFee = 0 := by
    intro hnone
    have hfee := hcharged.applicationFee
    rw [hnone] at hfee
    exact hfee.trans (happ rfl)
  have hmoved := client.outflows_sdkTransfer trade hunpaid
  obtain ⟨usdValue, rfl⟩ := hfrom.shown
  have hzero : (0 : UInt64).toNat = 0 := rfl
  refine ⟨routed, route, args, hargs, hinput.rest, hixs, fun hside => ?_, fun hside => ?_⟩
  · obtain ⟨hamount, -, hminimum⟩ := hconserved.buy hside
    have hspent := hargs.spent (hinput.side.trans hside)
    rw [show routed.wallet = trade.wallet by rw [hinput.rest]] at hspent
    refine ⟨?_, hargs.minimum.trans hminimum.symm⟩
    show _ + outflows trade.wallet (client.sdkTransfer trade charged.quote.applicationFee) = _
    rw [hspent, hmoved, ← hamount]
    show _ = _ + charged.quote.applicationFee.toNat + charged.quote.sponsorshipFee.toNat
    rw [hsponsor, hzero, Nat.add_zero]
  · obtain ⟨hamount, -, hminimum⟩ := hconserved.sell hside
    refine ⟨hargs.input.trans hamount, ?_⟩
    show _ + outflows trade.wallet (client.sdkTransfer trade charged.quote.applicationFee) = _
    rw [hmoved, hargs.minimum, ← hminimum]
    show _ = _ + charged.quote.applicationFee.toNat + charged.quote.sponsorshipFee.toNat
    rw [hsponsor, hzero, Nat.add_zero]

end Client

/-! ### A buy on a curve, with an SDK fee -/

def nativeTrade : Trade :=
  { foreignTrade with pool := none }

def nativeClient : TradingClient :=
  { (TradingClient.new.withSdkFee sampleFee).withoutUsdValue with
    pumpfunFees := some PumpFun.noFees }

/-- The curve of the mint, and the mint. -/
def curveBackend (_ : ℕ) (q : Query) : Answer q :=
  match q with
  | .getMultipleAccounts _ => .ok [some foreignAccount, some { owner := tokenProgram, data := [] }]
  | q => silent q

theorem native_quote_enforced_sample :
    let := curveSdk
    let : Profile := ⟨true⟩
    ∃ tr prepared, (nativeClient.prepareSelectedSwap nativeTrade).Runs () tr (.ok prepared) () ∧
      ∃ routed route args, Enforces nativeClient .pumpFun nativeTrade routed route prepared args := by
  intro sdk profile
  obtain ⟨tr, prepared, _, hrun⟩ := Proc.runs_ok_of_exec curveBackend (fun _ => 1)
    (nativeClient.prepareSelectedSwap nativeTrade) () (by decide +kernel)
  exact ⟨tr, prepared, hrun, native_quote_enforced nativeClient nativeTrade .pumpFun rfl rfl hrun⟩

end Solana
end TradingAggregators
