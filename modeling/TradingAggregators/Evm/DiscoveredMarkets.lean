import TradingAggregators.Evm.Discovery
import TradingAggregators.Evm.ExecutionSafety

/-!
# What discovery promises of a market

* `markets_agree`: two runs in one state of the contracts return the same market, unless several
  candidates pay the most for the probe; `tied_markets_differ`: then the order in which the probes
  complete decides.
* `market_usable_iff`: when the market that is returned pays something, and `market_pays_nothing`,
  where it pays nothing.
-/

namespace TradingAggregators
namespace Evm
namespace Uniswap

open Interaction Rust Wire

section Markets

variable [SolTypes] [Alloy] {σ : Type} {contracts : Contracts} {n : Network} {token : Address}
  {s s' : σ} {tr : Trace Answer}

/-! ## Two runs -/

section Deepest

variable {deployment : UniswapDeployment} {answered : Answered} {market market' : Option NativeMarket}

/-- Two deepest pools pay the same. -/
theorem IsDeepest.output_eq {pool pool' : UniswapPool} {out out' : ℕ}
    (h : IsDeepest deployment answered token pool out)
    (h' : IsDeepest deployment answered token pool' out') : out = out' := by
  obtain ⟨hpool, hout, hmax⟩ := h
  obtain ⟨hpool', hout', hmax'⟩ := h'
  exact le_antisymm (hmax' pool out hpool hout) (hmax pool' out' hpool' hout')

theorem Deepest.eq_none_iff (h : Deepest deployment answered token market) :
    market = none ↔ ∀ pool out, Candidate deployment answered token pool →
      ¬ ProbeOutput deployment answered token out pool := by
  cases market with
  | none => exact ⟨fun _ pool out hpool => h pool hpool out, fun _ => rfl⟩
  | some found =>
    obtain ⟨-, out, hpool, hout, -⟩ := h
    exact ⟨fun hnone => (nomatch hnone), fun hall => absurd hout (hall _ _ hpool)⟩

/-- Two markets of one state are the same, or of pools that both pay the most. -/
theorem Deepest.eq_or_tied (h : Deepest deployment answered token market)
    (h' : Deepest deployment answered token market') :
    market = market' ∨ ∃ pool pool' out, pool ≠ pool' ∧
      IsDeepest deployment answered token pool out ∧
      IsDeepest deployment answered token pool' out ∧
      market = some ⟨.uniswap, pool⟩ ∧ market' = some ⟨.uniswap, pool'⟩ := by
  cases market with
  | none => exact Or.inl (h'.eq_none_iff.mpr (h.eq_none_iff.mp rfl)).symm
  | some found =>
    cases market' with
    | none => exact Or.inl (h.eq_none_iff.mpr (h'.eq_none_iff.mp rfl))
    | some found' =>
      obtain ⟨source, pool⟩ := found
      obtain ⟨source', pool'⟩ := found'
      obtain ⟨hsource, out, hpool⟩ := h
      obtain ⟨hsource', out', hpool'⟩ := h'
      obtain rfl : source = .uniswap := hsource
      obtain rfl : source' = .uniswap := hsource'
      obtain rfl := hpool.output_eq hpool'
      by_cases hsame : pool = pool'
      · exact Or.inl (by rw [hsame])
      · exact Or.inr ⟨pool, pool', out, hsame, hpool, hpool', rfl, rfl⟩

end Deepest

/-- **Discovery in one state of the contracts**, where the lookups are answered: every run returns
a market, none exactly when no candidate can be quoted, and otherwise a candidate that pays the
most for the probe; and two runs return the same, or two candidates that both pay the most. -/
theorem markets_agree (n : Network) (token : Address) (contracts : Contracts)
    (hlookups : LookupsAnswered n.uniswap contracts.Answered token) :
    (∀ (s s' : σ) (tr : Trace Answer) (r : TradeResult (Option NativeMarket)),
      (findMarket n token).Runs s tr r s' → (∀ e ∈ tr, contracts.Reports e) →
      ∃ market, r = .ok market ∧
        (market = none ↔ ∀ pool out, Candidate n.uniswap contracts.Answered token pool →
          ¬ ProbeOutput n.uniswap contracts.Answered token out pool) ∧
        ∀ found, market = some found → found.source = .uniswap ∧
          ∃ out, IsDeepest n.uniswap contracts.Answered token found.pool out) ∧
    ∀ (s s' t t' : σ) (tr tr' : Trace Answer) (r r' : TradeResult (Option NativeMarket)),
      (findMarket n token).Runs s tr r s' → (findMarket n token).Runs t tr' r' t' →
      (∀ e ∈ tr, contracts.Reports e) → (∀ e ∈ tr', contracts.Reports e) →
      r = r' ∨ ∃ pool pool' out, pool ≠ pool' ∧
        IsDeepest n.uniswap contracts.Answered token pool out ∧
        IsDeepest n.uniswap contracts.Answered token pool' out ∧
        r = .ok (some ⟨.uniswap, pool⟩) ∧ r' = .ok (some ⟨.uniswap, pool'⟩) := by
  constructor
  · intro s s' tr r h hstate
    obtain ⟨hdeepest, hok⟩ := runs_findMarket h hstate
    obtain ⟨market, rfl⟩ := hok hlookups
    refine ⟨market, rfl, (hdeepest market rfl).eq_none_iff, ?_⟩
    rintro found rfl
    exact hdeepest _ rfl
  · intro s s' t t' tr tr' r r' h h' hstate hstate'
    obtain ⟨hdeepest, hok⟩ := runs_findMarket h hstate
    obtain ⟨hdeepest', hok'⟩ := runs_findMarket h' hstate'
    obtain ⟨market, rfl⟩ := hok hlookups
    obtain ⟨market', rfl⟩ := hok' hlookups
    rcases (hdeepest market rfl).eq_or_tied (hdeepest' market' rfl) with rfl |
      ⟨pool, pool', out, hne, hpool, hpool', rfl, rfl⟩
    · exact Or.inl rfl
    · exact Or.inr ⟨pool, pool', out, hne, hpool, hpool', rfl, rfl⟩

/-! ## Usable pools -/

omit [SolTypes] [Alloy] in
/-- Evaluating against a node that answers from one state gives a run in this state. -/
theorem runs_reported {α : Type} (contracts : Contracts) (turn : ℕ → ℕ) (x : Task Unit α)
    (P : TradeResult α → Prop)
    (h : P (Program.exec (contractAnswers contracts) turn (x.start ()) 0).2.1) :
    ∃ tr r, x.Runs () tr r () ∧ P r ∧ ∀ e ∈ tr, contracts.Reports e := by
  obtain ⟨tr, r, _, hrun, hr, hanswers⟩ :=
    Proc.runs_of_exec_answered (contractAnswers contracts) turn x () P h
  refine ⟨tr, r, hrun, hr, fun e he => ?_⟩
  obtain ⟨i, hanswer⟩ := hanswers e he
  obtain ⟨query, answer⟩ := e
  dsimp only at hanswer
  subst hanswer
  cases query with
  | call target data =>
    show (contractAnswers contracts i (.call target data)).toOption = contracts target data
    cases houtput : contracts target data <;> simp [contractAnswers, houtput, Except.toOption]
  | _ => trivial

/-- Whenever the contracts of this state are asked, the pool pays something for the probe. -/
def PaysToken (n : Network) (contracts : Contracts) (token : Address) (pool : UniswapPool) :
    Prop :=
  ∀ (tr : Trace Answer) (r : TradeResult PoolQuote),
    (quote n.uniswap ⟨pool, token, .buy⟩ discoveryProbeWei : Task Unit PoolQuote).Runs () tr r () →
    (∀ e ∈ tr, contracts.Reports e) → ∃ q, r = .ok q ∧ 0 < q.amountOut.toNat

theorem paysToken_iff {pool : UniswapPool} :
    PaysToken n contracts token pool ↔
      ∃ out, 0 < out ∧ ProbeOutput n.uniswap contracts.Answered token out pool := by
  constructor
  · intro hpays
    obtain ⟨tr, r, hrun, -, hstate⟩ := runs_reported contracts (fun _ => 0)
      (quote n.uniswap ⟨pool, token, .buy⟩ discoveryProbeWei) (fun _ => True) trivial
    obtain ⟨q, hq, hpos⟩ := hpays tr r hrun hstate
    refine ⟨q.amountOut.toNat, hpos, probeOutput_iff.mpr ⟨q, ?_, rfl⟩⟩
    exact (determined_quote _ _ _ _ _ _ hrun hstate q).mp hq
  · rintro ⟨out, hpos, hout⟩ tr r hrun hstate
    obtain ⟨q, hq, rfl⟩ := probeOutput_iff.mp hout
    exact ⟨q, (determined_quote _ _ _ _ _ _ hrun hstate q).mpr hq, hpos⟩

/-- **When the market pays something**: in a run that returns one, its pool pays something for the
probe, and none is returned where no candidate does, exactly when some candidate pays something or
none can be quoted. -/
theorem market_usable_iff {market : Option NativeMarket}
    (hstate : ∀ e ∈ tr, contracts.Reports e)
    (h : (findMarket n token).Runs s tr (.ok market) s') :
    ((∀ found, market = some found → PaysToken n contracts token found.pool) ∧
      ((∀ pool, Candidate n.uniswap contracts.Answered token pool →
        ¬ PaysToken n contracts token pool) → market = none)) ↔
    (∃ pool out, Candidate n.uniswap contracts.Answered token pool ∧
      ProbeOutput n.uniswap contracts.Answered token out pool ∧ 0 < out) ∨
    ∀ pool out, Candidate n.uniswap contracts.Answered token pool →
      ¬ ProbeOutput n.uniswap contracts.Answered token out pool := by
  have hdeepest := (runs_findMarket h hstate).1 market rfl
  rw [← hdeepest.eq_none_iff]
  cases market with
  | none => simp
  | some found =>
    obtain ⟨-, out, hpool, hout, hmax⟩ := hdeepest
    constructor
    · rintro ⟨hpays, -⟩
      obtain ⟨out', hpos, hout'⟩ := paysToken_iff.mp (hpays found rfl)
      exact Or.inl ⟨found.pool, out', hpool, hout', hpos⟩
    · rintro (⟨pool, out', hpool', hout', hpos⟩ | hnone)
      · have hpays : PaysToken n contracts token found.pool :=
          paysToken_iff.mpr ⟨out, lt_of_lt_of_le hpos (hmax pool out' hpool' hout'), hout⟩
        constructor
        · intro found' hfound
          obtain rfl := Option.some.inj hfound
          exact hpays
        · exact fun hall => absurd hpays (hall _ hpool)
      · exact nomatch hnone

end Markets

/-! ### A v2 pair and some v3 pools -/

/-- A v3 pool with its fee, and what its quoter answers to the probe. -/
structure ListedPool where
  fee : U24
  address : Address
  amountOut : ℕ

/-- Contracts that list one v2 pair, if there is one, with its reserves and these v3 pools for the
token of the samples. -/
def listing (pair : Option (ℕ × ℕ)) (pools : List ListedPool) : Contracts := fun target data =>
  let := referenceAbi
  let d := robinhood.uniswap
  if target = d.v2Factory then
    some (addressWord (if pair.isSome then samplePair else zeroAddress))
  else if target = d.v3Factory then
    let listed := pools.find? fun pool =>
      data = SolTypes.abiEncode .getPool ⟨samplePairToken, d.weth, pool.fee⟩
    some (addressWord ((listed.map ListedPool.address).getD zeroAddress))
  else if target = d.v3Quoter then
    let listed := pools.find? fun pool =>
      data = SolTypes.abiEncode .quoteExactInputSingle
        (V3.quoteParams d pool.fee (probeSwap samplePairToken))
    listed.map fun pool => word pool.amountOut ++ word 1 ++ word 1 ++ word 0
  -- No v4 pool is initialized.
  else if target = d.v4StateView then some (word 0 ++ word 0 ++ word 0 ++ word 0)
  else if target = samplePair then
    pair.map fun reserves => word reserves.1 ++ word reserves.2 ++ word 1700000000
  else
    (pools.find? fun pool => target = pool.address).map fun pool =>
      if data = SolTypes.abiEncode .fee () then word pool.fee.toNat
      else word (2 ^ 96) ++ word 0 ++ word 0 ++ word 1 ++ word 1 ++ word 0 ++ word 1

def samplePoolA : Address :=
  .hex 20 "0x4444444444444444444444444444444444444444"

def samplePoolB : Address :=
  .hex 20 "0x5555555555555555555555555555555555555555"

deriving instance DecidableEq for GetSlot0Return

/-- Every lookup is answered: by an address, or by the zeros of an uninitialized pool. -/
theorem lookupsAnswered_listing (pair : Option (ℕ × ℕ)) (pools : List ListedPool) :
    let := referenceAbi
    let := sampleAlloy
    LookupsAnswered robinhood.uniswap (listing pair pools).Answered samplePairToken := by
  intro abi alloy
  have haddress : ∀ a : Address, ∃ found, readWord (addressWord a) 0 = .ok found := by
    intro a
    have hlength : 32 * (0 + 1) ≤ (addressWord a).length := by
      simp [addressWord, a.size]
    exact ⟨_, if_pos hlength⟩
  have hpair : ∀ data, ∃ a,
      listing pair pools robinhood.uniswap.v2Factory data = some (addressWord a) :=
    fun data => ⟨_, by rw [listing, if_pos rfl]⟩
  have hpool : ∀ data, ∃ a,
      listing pair pools robinhood.uniswap.v3Factory data = some (addressWord a) := by
    intro data
    unfold listing
    dsimp only
    rw [if_neg (by decide +kernel), if_pos rfl]
    exact ⟨_, rfl⟩
  have hzeros : ∀ data, listing pair pools robinhood.uniswap.v4StateView data =
      some (word 0 ++ word 0 ++ word 0 ++ word 0) := by
    intro data
    unfold listing
    dsimp only
    rw [if_neg (by decide +kernel), if_neg (by decide +kernel), if_neg (by decide +kernel),
      if_pos rfl]
  have hkeys : ∀ key ∈ V4.standardKeys robinhood.uniswap samplePairToken,
      key.id.isOk = true := by
    decide +kernel
  constructor
  · obtain ⟨a, ha⟩ := hpair (SolTypes.abiEncode .getPair ⟨samplePairToken, robinhood.uniswap.weth⟩)
    obtain ⟨found, hfound⟩ := haddress a
    exact ⟨addressOf found, _, ha, bind_eq_ok.mpr ⟨found, hfound, rfl⟩⟩
  · intro fee _
    obtain ⟨a, ha⟩ :=
      hpool (SolTypes.abiEncode .getPool ⟨samplePairToken, robinhood.uniswap.weth, fee⟩)
    obtain ⟨found, hfound⟩ := haddress a
    exact ⟨addressOf found, _, ha, bind_eq_ok.mpr ⟨found, hfound, rfl⟩⟩
  · intro key hkey
    obtain ⟨id, hid⟩ := isOk_iff.mp (hkeys key hkey)
    exact ⟨id, hid, ⟨0, 0, 0, 0⟩, _, hzeros _, toOption_eq_some.mp (by decide +kernel)⟩

/-- Two pools that pay the same. -/
def tiedListing : Contracts :=
  listing none [⟨100, samplePoolA, 1000⟩, ⟨500, samplePoolB, 1000⟩]

/-- **The order of the probes decides between tied pools.** -/
theorem tied_markets_differ :
    let := referenceAbi
    let := sampleAlloy
    ¬ ∀ (token : Address) (contracts : Contracts),
      LookupsAnswered robinhood.uniswap contracts.Answered token →
      ∀ (tr tr' : Trace Answer) (r r' : TradeResult (Option NativeMarket)),
        (findMarket robinhood token).Runs () tr r () →
        (findMarket robinhood token).Runs () tr' r' () →
        (∀ e ∈ tr, contracts.Reports e) → (∀ e ∈ tr', contracts.Reports e) → r = r' := by
  intro abi alloy hall
  obtain ⟨tr, r, hrun, hr, hstate⟩ := runs_reported tiedListing (fun _ => 0)
    (findMarket robinhood samplePairToken)
    (fun r => r.toOption = some (some ⟨.uniswap, .v3 samplePoolB⟩)) (by decide +kernel)
  -- The twenty-one calls are answered as before, and then the second probe completes first.
  obtain ⟨tr', r', hrun', hr', hstate'⟩ := runs_reported tiedListing
    (fun i => if i = 21 then 1 else 0) (findMarket robinhood samplePairToken)
    (fun r => r.toOption = some (some ⟨.uniswap, .v3 samplePoolA⟩)) (by decide +kernel)
  have hsame := hall samplePairToken tiedListing (lookupsAnswered_listing _ _) tr tr' r r' hrun
    hrun' hstate hstate'
  rw [hsame, hr'] at hr
  exact absurd hr (by decide +kernel)

/-- Every run in this state returns one of the two pools. -/
theorem markets_agree_sample :
    let := referenceAbi
    let := sampleAlloy
    ∃ (tr : Trace Answer) (market : Option NativeMarket),
      (findMarket robinhood samplePairToken).Runs () tr (.ok market) () ∧
        ∀ found, market = some found →
          ∃ out, IsDeepest robinhood.uniswap tiedListing.Answered samplePairToken found.pool out := by
  intro abi alloy
  obtain ⟨tr, r, hrun, -, hstate⟩ := runs_reported tiedListing (fun _ => 0)
    (findMarket robinhood samplePairToken) (fun _ => True) trivial
  obtain ⟨market, rfl, -, hfound⟩ := (markets_agree robinhood samplePairToken tiedListing
    (lookupsAnswered_listing _ _)).1 _ _ tr r hrun hstate
  exact ⟨tr, market, hrun, fun found hmarket => (hfound found hmarket).2⟩

/-! ### A pair that pays nothing -/

/-- A pair of 100 ETH and one unit of the token. -/
def drainedListing : Contracts :=
  listing (some (10 ^ 20, 1)) []

/-- **The market may pay nothing**: the pair is found, and pays none of its one unit for the
probe. -/
theorem market_pays_nothing :
    let := referenceAbi
    let := sampleAlloy
    ¬ ∀ (token : Address) (contracts : Contracts) (tr : Trace Answer)
      (market : Option NativeMarket),
      (findMarket robinhood token).Runs () tr (.ok market) () →
      (∀ e ∈ tr, contracts.Reports e) →
      ∀ found, market = some found → PaysToken robinhood contracts token found.pool := by
  intro abi alloy hall
  obtain ⟨tr, r, hrun, hr, hstate⟩ := runs_reported drainedListing (fun _ => 0)
    (findMarket robinhood samplePairToken)
    (fun r => r.toOption = some (some ⟨.uniswap, .v2 samplePair⟩)) (by decide +kernel)
  obtain rfl := toOption_eq_some.mp hr
  have hpays := hall samplePairToken drainedListing tr _ hrun hstate _ rfl
  obtain ⟨tr', r', hrun', hr', hstate'⟩ := runs_reported drainedListing (fun _ => 0)
    (quote robinhood.uniswap ⟨.v2 samplePair, samplePairToken, .buy⟩ discoveryProbeWei)
    (fun r => r.toOption.map PoolQuote.amountOut = some 0) (by decide +kernel)
  obtain ⟨q, rfl, hq⟩ := toOption_map_eq_some.mp hr'
  obtain ⟨q', hq', hpos⟩ := hpays tr' _ hrun' hstate'
  obtain rfl := Except.ok.inj hq'
  rw [hq] at hpos
  exact absurd hpos (by decide +kernel)

/-- With a v3 pool beside the pair, the market pays something. -/
theorem market_usable_iff_sample :
    let := referenceAbi
    let := sampleAlloy
    let contracts := listing (some (10 ^ 20, 1)) [⟨100, samplePoolA, 1000⟩]
    ∃ tr market, (findMarket robinhood samplePairToken).Runs () tr (.ok market) () ∧
      ∀ found, market = some found →
        PaysToken robinhood contracts samplePairToken found.pool := by
  intro abi alloy contracts
  obtain ⟨tr, r, hrun, hok, hstate⟩ := runs_reported contracts (fun _ => 0)
    (findMarket robinhood samplePairToken) (fun r => r.isOk = true) (by decide +kernel)
  obtain ⟨market, rfl⟩ := isOk_iff.mp hok
  obtain ⟨tr', r', hrun', hr', hstate'⟩ := runs_reported contracts (fun _ => 0)
    (quote robinhood.uniswap ⟨.v3 samplePoolA, samplePairToken, .buy⟩ discoveryProbeWei)
    (fun r => r.toOption.map PoolQuote.amountOut = some 1000) (by decide +kernel)
  obtain ⟨q, rfl, hq⟩ := toOption_map_eq_some.mp hr'
  have hquotes := (determined_quote _ _ _ _ _ _ hrun' hstate' q).mp rfl
  have houtput := probeOutput_iff.mpr ⟨q, hquotes, congrArg BitVec.toNat hq⟩
  have hanswer : contracts robinhood.uniswap.v3Factory (SolTypes.abiEncode .getPool
      ⟨samplePairToken, robinhood.uniswap.weth, 100⟩) = some (addressWord samplePoolA) := by
    decide +kernel
  have hlisted : Candidate robinhood.uniswap contracts.Answered samplePairToken
      (.v3 samplePoolA) :=
    ⟨⟨100, by decide, _, hanswer, toOption_eq_some.mp (by decide +kernel)⟩, by decide +kernel⟩
  have hiff := market_usable_iff hstate hrun
  exact ⟨tr, market, hrun, (hiff.mpr (Or.inl ⟨_, _, hlisted, houtput, by decide⟩)).1⟩

end Uniswap
end Evm
end TradingAggregators
