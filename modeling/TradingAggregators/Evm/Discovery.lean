import Mathlib.Data.List.ReduceOption
import TradingAggregators.Evm.PairQuote
import TradingAggregators.Interaction.Determined

/-!
# Pool discovery

`find_market` looks the pools of a token up, asks each what a fixed purchase returns, and takes
the pool that returns most.  Lookups and quotes run at once, and their results are used in the
order in which they complete.

## 1.  One state of the contracts

Where every call is answered from one state (`Contracts.Reports`), a read returns what the
contracts return.

## 2.  Quotes

`Quotes` says what a quote is, in terms of what the contracts return.

## 3.  Candidates

`Candidate` are the pools that the lookups find.

## 4.  The market

`Deepest` is what discovery finds, and `runs_findMarket` that every run finds it.
-/

namespace TradingAggregators
namespace Evm
namespace Uniswap

open Interaction Rust Wire
open Interaction.Proc (Determined ofResult)

/-! ## 1.  One state of the contracts -/

/-- An event in which a node answers from one state: a call returns the output, or fails where
there is none. -/
def Contracts.Reports (contracts : Contracts) : Event Answer → Prop
  | ⟨.call target data, response⟩ => response.toOption = contracts target data
  | _ => True

section Quotes

variable [SolTypes] {σ : Type} {contracts : Contracts} {deployment : UniswapDeployment}
  {swap : SwapIn}

theorem determined_read (contracts : Contracts) (target : Address) (f : Function) (call : f.Call) :
    Determined contracts.Reports (read target f call : Task σ f.Return)
      (Returned contracts.Answered target f call) := by
  intro s tr r s' h hstate value
  obtain ⟨response, rfl, rfl⟩ := runs_read h
  have hresponse : response.toOption = contracts target (SolTypes.abiEncode f call) :=
    hstate _ (List.mem_singleton_self _)
  rw [readResult_eq_ok]
  refine exists_congr fun data => and_congr_left fun _ => ?_
  rw [Contracts.Answered, ← hresponse, toOption_eq_some]

/-! ## 2.  Quotes -/

/-- `(eth, token)` reserves, from the pair's answer. -/
def V2.pairReserves (deployment : UniswapDeployment) (token : Address)
    (answer : GetReservesReturn) : Amount × Amount :=
  if deployment.weth < token then (answer.reserve0.setWidth 256, answer.reserve1.setWidth 256)
  else (answer.reserve1.setWidth 256, answer.reserve0.setWidth 256)

/-- A v3 quote, where the pool reports this fee. -/
def V3.QuotesAt (deployment : UniswapDeployment) (answered : Answered) (pool : Address)
    (swap : SwapIn) (fee : U24) (q : PoolQuote) : Prop :=
  Returned answered deployment.v3Factory .getPool ⟨swap.token, deployment.weth, fee⟩ pool ∧
  ∃ slot0 quoted, Returned answered pool .slot0 () slot0 ∧
    Returned answered deployment.v3Quoter .quoteExactInputSingle
      (V3.quoteParams deployment fee swap) quoted ∧
    q.amountOut = quoted.amountOut ∧
    q.ethPerToken = ethPerToken (priceFromSqrt (slot0.sqrtPriceX96.setWidth 256))
      (deployment.weth < swap.token)

/-- A v4 quote, where the key has this id and these words. -/
def V4.QuotesAt (deployment : UniswapDeployment) (answered : Answered) (id : FixedBytes 32)
    (params : QuoteExactSingleParams) (side : EthSide) (q : PoolQuote) : Prop :=
  ∃ slot0 quoted, Returned answered deployment.v4StateView .getSlot0 id slot0 ∧
    Returned answered deployment.v4Quoter .v4QuoteExactInputSingle params quoted ∧
    q.amountOut = quoted.amountOut ∧
    q.ethPerToken = ethPerToken (priceFromSqrt (slot0.sqrtPriceX96.setWidth 256))
      side.isCurrency0

/-- The quote of a swap through a pool, as the contracts of its version tell it. -/
def Quotes [Alloy] (deployment : UniswapDeployment) (answered : Answered) (swap : SwapIn)
    (q : PoolQuote) : UniswapPool → Prop
  | .v2 pair =>
      Returned answered deployment.v2Factory .getPair ⟨swap.token, deployment.weth⟩ pair ∧
      ∃ answer, Returned answered pair .getReserves () answer ∧
        (V2.swapReserves deployment swap answer).1 ≠ 0 ∧
        (V2.swapReserves deployment swap answer).2 ≠ 0 ∧
        V2.amountOut swap.amount (V2.swapReserves deployment swap answer).1
          (V2.swapReserves deployment swap answer).2 = .ok q.amountOut ∧
        q.ethPerToken = toF64 (V2.pairReserves deployment swap.token answer).1 /
          toF64 (V2.pairReserves deployment swap.token answer).2
  | .v3 pool => ∃ fee, Returned answered pool .fee () fee ∧
      V3.QuotesAt deployment answered pool swap fee q
  | .v4 key => ∃ side, V4.tradedSide key deployment.weth swap.token = .ok side ∧
      ∃ abiKey, key.toAbi = .ok abiKey ∧ ∃ x, V4.exactAmount swap.amount = .ok x ∧
      ∃ id, key.id = .ok id ∧
      V4.QuotesAt deployment answered id (V4.quoteParams abiKey swap side x) side q

omit [SolTypes] in
theorem poolQuote_eq_iff {q : PoolQuote} {out : Amount} {price : Float} :
    (⟨out, price⟩ : PoolQuote) = q ↔ q.amountOut = out ∧ q.ethPerToken = price := by
  obtain ⟨out', price'⟩ := q
  rw [PoolQuote.mk.injEq, eq_comm, eq_comm (a := price)]

/-! ### v2 -/

theorem V2.determined_reserves (deployment : UniswapDeployment) (pair token : Address) :
    Determined contracts.Reports (V2.reserves pair deployment.weth token : Task σ _)
      fun held => ∃ answer, Returned contracts.Answered pair .getReserves () answer ∧
        V2.pairReserves deployment token answer = held := by
  refine (Determined.bind (determined_read _ pair .getReserves ()) fun answer _ => ?_)
  exact (Determined.pure _).congr fun held => eq_comm

theorem V2.price_eq_ok {pair : Address} {expected : TradeResult Address}
    {held : TradeResult (Amount × Amount)} {q : PoolQuote} :
    V2.price pair swap expected held = .ok q ↔ expected = .ok pair ∧ ∃ reserves,
      held = .ok reserves ∧ (V2.orient swap.direction reserves).1 ≠ 0 ∧
        (V2.orient swap.direction reserves).2 ≠ 0 ∧
        V2.amountOut swap.amount (V2.orient swap.direction reserves).1
          (V2.orient swap.direction reserves).2 = .ok q.amountOut ∧
        q.ethPerToken = toF64 reserves.1 / toF64 reserves.2 := by
  unfold V2.price
  simp only [bind_eq_ok, failIf_eq_ok, pure_eq_ok, not_or, not_not, poolQuote_eq_iff]
  constructor
  · rintro ⟨_, rfl, _, rfl, reserves, rfl, _, ⟨hin, hout⟩, out, hamount, rfl, hprice⟩
    exact ⟨rfl, reserves, rfl, hin, hout, hamount, hprice⟩
  · rintro ⟨rfl, reserves, rfl, hin, hout, hamount, hprice⟩
    exact ⟨pair, rfl, (), rfl, reserves, rfl, (), ⟨hin, hout⟩, _, hamount, rfl, hprice⟩

theorem V2.determined_quote [Alloy] (pair : Address) :
    Determined contracts.Reports (V2.quote deployment pair swap : Task σ PoolQuote)
      fun q => Quotes deployment contracts.Answered swap q (.v2 pair) := by
  refine Determined.both (determined_read _ _ _ _)
    (V2.determined_reserves deployment pair swap.token) fun c d hc hd => ?_
  refine (Determined.ofResult _).congr fun q => ?_
  rw [V2.price_eq_ok, hc]
  refine and_congr_right fun _ => ?_
  constructor
  · rintro ⟨held, hheld, hrest⟩
    obtain ⟨answer, hanswer, rfl⟩ := (hd held).mp hheld
    exact ⟨answer, hanswer, hrest⟩
  · rintro ⟨answer, hanswer, hrest⟩
    exact ⟨_, (hd _).mpr ⟨answer, hanswer, rfl⟩, hrest⟩

/-! ### v3 -/

theorem V3.price_eq_ok {pool : Address} {expected : TradeResult Address}
    {slot0 : TradeResult Slot0Return} {quoted : TradeResult QuoteExactInputSingleReturn}
    {q : PoolQuote} :
    V3.price deployment pool swap expected slot0 quoted = .ok q ↔ expected = .ok pool ∧
      ∃ state output, slot0 = .ok state ∧ quoted = .ok output ∧ q.amountOut = output.amountOut ∧
        q.ethPerToken = ethPerToken (priceFromSqrt (state.sqrtPriceX96.setWidth 256))
          (deployment.weth < swap.token) := by
  unfold V3.price
  simp only [bind_eq_ok, failIf_eq_ok, pure_eq_ok, not_not, poolQuote_eq_iff]
  constructor
  · rintro ⟨_, rfl, _, rfl, state, rfl, output, rfl, hfields⟩
    exact ⟨rfl, state, output, rfl, rfl, hfields⟩
  · rintro ⟨rfl, state, output, rfl, rfl, hfields⟩
    exact ⟨pool, rfl, (), rfl, state, rfl, output, rfl, hfields⟩

theorem V3.determined_quote [Alloy] (pool : Address) :
    Determined contracts.Reports (V3.quote deployment pool swap : Task σ PoolQuote)
      fun q => Quotes deployment contracts.Answered swap q (.v3 pool) := by
  refine Determined.bind (determined_read _ pool .fee ()) fun fee _ => ?_
  refine Determined.three (determined_read _ _ _ _) (determined_read _ _ _ _) (determined_read _ _ _ _)
    fun c d c' hc hd hc' => ?_
  refine (Determined.ofResult _).congr fun q => ?_
  simp only [V3.price_eq_ok, hc, hd, hc', V3.QuotesAt]

/-! ### v4 -/

theorem V4.price_eq_ok {side : EthSide} {slot0 : TradeResult GetSlot0Return}
    {quoted : TradeResult QuoteExactSingleReturn} {q : PoolQuote} :
    V4.price side slot0 quoted = .ok q ↔
      ∃ state output, slot0 = .ok state ∧ quoted = .ok output ∧ q.amountOut = output.amountOut ∧
        q.ethPerToken = ethPerToken (priceFromSqrt (state.sqrtPriceX96.setWidth 256))
          side.isCurrency0 := by
  unfold V4.price
  simp only [bind_eq_ok, pure_eq_ok, poolQuote_eq_iff]
  constructor
  · rintro ⟨state, rfl, output, rfl, hfields⟩
    exact ⟨state, output, rfl, rfl, hfields⟩
  · rintro ⟨state, output, rfl, rfl, hfields⟩
    exact ⟨state, rfl, output, rfl, hfields⟩

theorem V4.determined_quote [Alloy] (key : PoolKey) :
    Determined contracts.Reports (V4.quote deployment key swap : Task σ PoolQuote)
      fun q => Quotes deployment contracts.Answered swap q (.v4 key) := by
  refine Determined.bind (Determined.ofResult _) fun side _ => ?_
  refine Determined.bind (Determined.ofResult _) fun abiKey _ => ?_
  refine Determined.bind (Determined.ofResult _) fun x _ => ?_
  refine Determined.bind (Determined.ofResult _) fun id _ => ?_
  refine Determined.both (determined_read _ _ _ _) (determined_read _ _ _ _) fun c d hc hd => ?_
  refine (Determined.ofResult _).congr fun q => ?_
  simp only [V4.price_eq_ok, hc, hd, V4.QuotesAt]

/-! ### Every version -/

/-- **A quote is what the contracts tell of the pool.** -/
theorem determined_quote [Alloy] (route : Route) (x : Amount) :
    Determined contracts.Reports (quote deployment route x : Task σ PoolQuote)
      fun q => Quotes deployment contracts.Answered ⟨route.token, route.direction, x⟩ q
        route.pool := by
  obtain ⟨pool, token, direction⟩ := route
  cases pool with
  | v2 pair => exact V2.determined_quote pair
  | v3 pool => exact V3.determined_quote pool
  | v4 key => exact V4.determined_quote key

end Quotes

/-! ## 3.  Candidates -/

section Parallel

variable {σ α β ι : Type} {P : Event Answer → Prop}

theorem joined_eq_ok {c : TradeResult α} {a : α} : joined c = some (.ok a) ↔ c = .ok a := by
  rcases c with (_ | _) | b
  · simp [joined]
  · simp [joined]
  · simp [joined]

/-- Tasks run at once: which values come back does not depend on the order in which they
complete. -/
theorem runs_inParallel {is : List ι} {task : ι → Task Unit α} {R : ι → α → Prop}
    (htask : ∀ i ∈ is, Determined P (task i) (R i))
    {f : List (Except TradeError α) → Task σ β} {s s' : σ} {tr : Trace Answer}
    {r : TradeResult β} (h : (inParallel (is.map task) >>= f).Runs s tr r s')
    (hstate : ∀ e ∈ tr, P e) :
    ∃ results tr', tr' ⊆ tr ∧ (f results).Runs s tr' r s' ∧
      (∀ a, .ok a ∈ results ↔ ∃ i ∈ is, R i a) ∧
      ((∀ i ∈ is, ∃ a, R i a) → ∀ c ∈ results, ∃ a, c = .ok a) := by
  rw [inParallel, bind_assoc] at h
  simp only [pure_bind] at h
  obtain ⟨cs, ds, tr', hsub, hrest, hperm, hvalues⟩ := Determined.gather htask h hstate
  refine ⟨_, tr', hsub, hrest, fun a => ?_, fun hall c hc => ?_⟩
  · rw [List.mem_filterMap]
    simp only [joined_eq_ok, exists_eq_right]
    rw [hperm.mem_iff]
    exact mem_iff_of_forall₂ (hvalues.imp fun i d hd => hd a)
  · obtain ⟨c', hc', hjoined⟩ := List.mem_filterMap.mp hc
    obtain ⟨i, hi, hvalue⟩ := exists_of_forall₂ hvalues (hperm.mem_iff.mp hc')
    obtain ⟨a, ha⟩ := hall i hi
    rw [(hvalue a).mpr ha] at hjoined
    exact ⟨a, (Option.some.inj hjoined).symm⟩

theorem collect_eq_ok {results : List (Except TradeError α)} {values : List α} :
    collect results = .ok values ↔ results = values.map .ok := by
  rw [collect, mapError_eq_ok, mapM_eq_ok, ← List.forall₂_eq_eq_eq, List.forall₂_map_right_iff]
  rfl

theorem exists_collect {results : List (Except TradeError α)}
    (h : ∀ c ∈ results, ∃ a, c = .ok a) : ∃ values, collect results = .ok values := by
  induction results with
  | nil => exact ⟨[], rfl⟩
  | cons c results ih =>
    obtain ⟨a, rfl⟩ := h c List.mem_cons_self
    obtain ⟨values, hvalues⟩ := ih fun c hc => h c (List.mem_cons_of_mem _ hc)
    refine ⟨a :: values, ?_⟩
    rw [collect_eq_ok] at hvalues ⊢
    rw [hvalues, List.map_cons]

/-- Lookups run at once, all of which must succeed. -/
theorem runs_collect {is : List ι} {task : ι → Task Unit α} {R : ι → α → Prop}
    (htask : ∀ i ∈ is, Determined P (task i) (R i)) {g : List α → β} {s s' : σ}
    {tr : Trace Answer} {r : TradeResult β}
    (h : (inParallel (is.map task) >>= fun results =>
      (ofResult (collect results) : Task σ (List α)) >>= fun values =>
        pure (g values)).Runs s tr r s')
    (hstate : ∀ e ∈ tr, P e) :
    (∀ b, r = .ok b → ∃ values, b = g values ∧ ∀ a, a ∈ values ↔ ∃ i ∈ is, R i a) ∧
      ((∀ i ∈ is, ∃ a, R i a) → ∃ b, r = .ok b) := by
  obtain ⟨results, tr', -, hrest, hmem, hall⟩ := runs_inParallel htask h hstate
  rcases Proc.runs_ofResult_bind.mp hrest with ⟨e, he, -, rfl, -⟩ | ⟨values, hvalues, hlast⟩
  · refine ⟨fun b hb => (nomatch hb), fun hanswered => ?_⟩
    obtain ⟨values, hvalues⟩ := exists_collect (hall hanswered)
    exact nomatch he.symm.trans hvalues
  · obtain ⟨-, rfl, -⟩ := Proc.runs_pure.mp hlast
    refine ⟨fun b hb => ⟨values, (Except.ok.inj hb).symm, fun a => ?_⟩, fun _ => ⟨_, rfl⟩⟩
    rw [← hmem, collect_eq_ok.mp hvalues, List.mem_map]
    simp

end Parallel

section Candidates

variable [Alloy] [SolTypes] {σ : Type} {contracts : Contracts} {deployment : UniswapDeployment}
  {token : Address} {s s' : σ} {tr : Trace Answer}

/-- The v4 keys that discovery looks up. -/
def V4.standardKeys (deployment : UniswapDeployment) (token : Address) : List PoolKey :=
  [zeroAddress, deployment.weth].flatMap fun eth => standardTiers.map (hooklessKey eth token)

/-- The pools that the lookups find. -/
def Candidate (deployment : UniswapDeployment) (answered : Answered) (token : Address) :
    UniswapPool → Prop
  | .v2 pair => Returned answered deployment.v2Factory .getPair ⟨token, deployment.weth⟩ pair ∧
      pair ≠ zeroAddress
  | .v3 pool => (∃ fee ∈ V3.feeTiers, Returned answered deployment.v3Factory .getPool
      ⟨token, deployment.weth, fee⟩ pool) ∧ pool ≠ zeroAddress
  | .v4 key => key ∈ V4.standardKeys deployment token ∧ ∃ id, key.id = .ok id ∧
      ∃ slot0, Returned answered deployment.v4StateView .getSlot0 id slot0 ∧
        slot0.sqrtPriceX96 ≠ 0

/-- Every lookup of discovery is answered. -/
structure LookupsAnswered (deployment : UniswapDeployment) (answered : Answered)
    (token : Address) : Prop where
  v2 : ∃ pair, Returned answered deployment.v2Factory .getPair ⟨token, deployment.weth⟩ pair
  v3 : ∀ fee ∈ V3.feeTiers, ∃ pool,
    Returned answered deployment.v3Factory .getPool ⟨token, deployment.weth, fee⟩ pool
  v4 : ∀ key ∈ V4.standardKeys deployment token, ∃ id, key.id = .ok id ∧
    ∃ slot0, Returned answered deployment.v4StateView .getSlot0 id slot0

theorem V2.runs_find {r : TradeResult (Option UniswapPool)}
    (h : (V2.find deployment token).Runs s tr r s') (hstate : ∀ e ∈ tr, contracts.Reports e) :
    (∀ found, r = .ok found → ∀ pool, pool ∈ found ↔
        ∃ pair, pool = .v2 pair ∧ Candidate deployment contracts.Answered token pool) ∧
      ((∃ pair, Returned contracts.Answered deployment.v2Factory .getPair
        ⟨token, deployment.weth⟩ pair) → ∃ found, r = .ok found) := by
  have hfind := Determined.bind (σ := σ) (determined_read contracts deployment.v2Factory .getPair
    ⟨token, deployment.weth⟩)
    (fun pair _ => Determined.pure (if pair ≠ zeroAddress then some (UniswapPool.v2 pair) else none))
    s tr r s' h hstate
  constructor
  · intro found hfound pool
    obtain ⟨pair, hpair, rfl⟩ := (hfind found).mp hfound
    split_ifs with hne
    · rw [Option.mem_some]
      constructor
      · rintro rfl
        exact ⟨pair, rfl, hpair, hne⟩
      · rintro ⟨pair', rfl, hpair', -⟩
        rw [Returned.unique hpair' hpair]
    · constructor
      · exact fun hmem => nomatch hmem
      · rintro ⟨pair', rfl, hpair', hne'⟩
        exact absurd (Returned.unique hpair' hpair ▸ hne') hne
  · rintro ⟨pair, hpair⟩
    exact ⟨_, (hfind _).mpr ⟨pair, hpair, rfl⟩⟩

theorem V3.runs_find {r : TradeResult (List UniswapPool)}
    (h : (V3.find deployment token).Runs s tr r s') (hstate : ∀ e ∈ tr, contracts.Reports e) :
    (∀ found, r = .ok found → ∀ pool, pool ∈ found ↔
        ∃ address, pool = .v3 address ∧ Candidate deployment contracts.Answered token pool) ∧
      ((∀ fee ∈ V3.feeTiers, ∃ pool, Returned contracts.Answered deployment.v3Factory .getPool
        ⟨token, deployment.weth, fee⟩ pool) → ∃ found, r = .ok found) := by
  have hlookup : ∀ fee ∈ V3.feeTiers,
      Determined contracts.Reports (V3.ethPool deployment token fee : Task Unit Address)
        (Returned contracts.Answered deployment.v3Factory .getPool ⟨token, deployment.weth, fee⟩) :=
    fun fee _ => determined_read _ _ _ _
  obtain ⟨hfound, hok⟩ := runs_collect hlookup h hstate
  refine ⟨fun found hr pool => ?_, hok⟩
  obtain ⟨pools, rfl, hpools⟩ := hfound found hr
  rw [List.mem_map]
  constructor
  · rintro ⟨address, haddress, rfl⟩
    obtain ⟨hmem, hne⟩ := List.mem_filter.mp haddress
    exact ⟨address, rfl, (hpools address).mp hmem, of_decide_eq_true hne⟩
  · rintro ⟨address, rfl, hreturned, hne⟩
    exact ⟨address, List.mem_filter.mpr ⟨(hpools address).mpr hreturned, decide_eq_true hne⟩, rfl⟩

theorem V4.runs_find {r : TradeResult (List UniswapPool)}
    (h : (V4.find deployment token).Runs s tr r s') (hstate : ∀ e ∈ tr, contracts.Reports e) :
    (∀ found, r = .ok found → ∀ pool, pool ∈ found ↔
        ∃ key, pool = .v4 key ∧ Candidate deployment contracts.Answered token pool) ∧
      ((∀ key ∈ V4.standardKeys deployment token, ∃ id, key.id = .ok id ∧
        ∃ slot0, Returned contracts.Answered deployment.v4StateView .getSlot0 id slot0) →
        ∃ found, r = .ok found) := by
  have hinitialized : ∀ key ∈ V4.standardKeys deployment token,
      Determined contracts.Reports (V4.initialized deployment key : Task Unit _)
        fun pool => ∃ id, key.id = .ok id ∧ ∃ slot0,
          Returned contracts.Answered deployment.v4StateView .getSlot0 id slot0 ∧
          (if slot0.sqrtPriceX96 ≠ 0 then some (UniswapPool.v4 key) else none) = pool := by
    intro key _
    refine Determined.bind (Determined.ofResult _) fun id _ => ?_
    refine Determined.bind (determined_read _ _ _ _) fun slot0 _ => ?_
    exact (Determined.pure _).congr fun pool => eq_comm
  obtain ⟨hfound, hok⟩ := runs_collect hinitialized h hstate
  constructor
  · intro found hr pool
    obtain ⟨pools, rfl, hpools⟩ := hfound found hr
    rw [List.reduceOption_mem_iff, hpools]
    constructor
    · rintro ⟨key, hkey, id, hid, slot0, hslot0, hpool⟩
      split_ifs at hpool with hne
      obtain rfl := Option.some.inj hpool
      exact ⟨key, rfl, hkey, id, hid, slot0, hslot0, hne⟩
    · rintro ⟨key, rfl, hkey, id, hid, slot0, hslot0, hne⟩
      exact ⟨key, hkey, id, hid, slot0, hslot0, if_pos hne⟩
  · intro hanswered
    refine hok fun key hkey => ?_
    obtain ⟨id, hid, slot0, hslot0⟩ := hanswered key hkey
    exact ⟨_, id, hid, slot0, hslot0, rfl⟩

end Candidates

/-! ## 4.  The market -/

/-! ### The largest element -/

section Largest

variable {α : Type} {key : α → Amount} {as : List α} {a : α}

theorem maxByKey_concat (key : α → Amount) (as : List α) (a : α) :
    maxByKey key (as ++ [a]) = match maxByKey key as with
      | none => some a
      | some b => if key b ≤ key a then some a else some b := by
  rw [maxByKey, List.foldl_append]
  rfl

theorem maxByKey_eq_none : maxByKey key as = none ↔ as = [] := by
  induction as using List.reverseRecOn with
  | nil => exact ⟨fun _ => rfl, fun _ => rfl⟩
  | append_singleton as a _ =>
    rw [maxByKey_concat]
    cases maxByKey key as with
    | none => simp
    | some b =>
      dsimp only
      split_ifs <;> simp

/-- The largest element is one of the list, and no other is larger. -/
theorem maxByKey_eq_some (h : maxByKey key as = some a) :
    a ∈ as ∧ ∀ b ∈ as, (key b).toNat ≤ (key a).toNat := by
  induction as using List.reverseRecOn generalizing a with
  | nil => exact nomatch h
  | append_singleton as x ih =>
    rw [maxByKey_concat] at h
    cases hbest : maxByKey key as with
    | none =>
      rw [hbest] at h
      obtain rfl := Option.some.inj h
      rw [maxByKey_eq_none.mp hbest]
      exact ⟨List.mem_singleton_self _, fun b hb => (List.mem_singleton.mp hb) ▸ le_refl _⟩
    | some best =>
      obtain ⟨hmem, hmax⟩ := ih hbest
      rw [hbest] at h
      dsimp only at h
      split_ifs at h with hle <;> rw [BitVec.le_def] at hle
      · obtain rfl := Option.some.inj h
        refine ⟨List.mem_append_right _ (List.mem_singleton_self _), fun b hb => ?_⟩
        rcases List.mem_append.mp hb with hb | hb
        · exact le_trans (hmax b hb) hle
        · exact (List.mem_singleton.mp hb) ▸ le_refl _
      · obtain rfl := Option.some.inj h
        refine ⟨List.mem_append_left _ hmem, fun b hb => ?_⟩
        rcases List.mem_append.mp hb with hb | hb
        · exact hmax b hb
        · exact (List.mem_singleton.mp hb) ▸ (not_le.mp hle).le

end Largest

/-! ### Probes -/

section Probes

variable [SolTypes] {σ : Type} {contracts : Contracts} {answered : Answered}
  {deployment : UniswapDeployment} {token : Address}

/-- The purchase that every candidate is asked for. -/
def probeSwap (token : Address) : SwapIn where
  token := token
  direction := .buy
  amount := discoveryProbeWei

/-- What a pool pays for the probe: a v2 pair by the reserves it holds, the others by what the
quoter answers. -/
def ProbeOutput (deployment : UniswapDeployment) [Alloy] (answered : Answered) (token : Address)
    (out : ℕ) : UniswapPool → Prop
  | .v2 pair =>
      Returned answered deployment.v2Factory .getPair ⟨token, deployment.weth⟩ pair ∧
      ∃ answer, Returned answered pair .getReserves () answer ∧
        (V2.pairReserves deployment token answer).1 ≠ 0 ∧
        (V2.pairReserves deployment token answer).2 ≠ 0 ∧
        out = V2.pays discoveryProbeWei.toNat (V2.pairReserves deployment token answer).1.toNat
          (V2.pairReserves deployment token answer).2.toNat
  | .v3 pool => ∃ fee, Returned answered pool .fee () fee ∧
      Returned answered deployment.v3Factory .getPool ⟨token, deployment.weth, fee⟩ pool ∧
      (∃ slot0, Returned answered pool .slot0 () slot0) ∧
      ∃ quoted, Returned answered deployment.v3Quoter .quoteExactInputSingle
        (V3.quoteParams deployment fee (probeSwap token)) quoted ∧ out = quoted.amountOut.toNat
  | .v4 key => ∃ side, V4.tradedSide key deployment.weth token = .ok side ∧
      ∃ abiKey, key.toAbi = .ok abiKey ∧ ∃ x, V4.exactAmount discoveryProbeWei = .ok x ∧
      ∃ id, key.id = .ok id ∧
      (∃ slot0, Returned answered deployment.v4StateView .getSlot0 id slot0) ∧
      ∃ quoted, Returned answered deployment.v4Quoter .v4QuoteExactInputSingle
        (V4.quoteParams abiKey (probeSwap token) side x) quoted ∧ out = quoted.amountOut.toNat

omit [SolTypes] in
/-- The probe is too small for the arithmetic of a v2 quote to wrap. -/
theorem V2.amountOut_probe {reserveIn reserveOut out : Amount}
    (hin : reserveIn.toNat < 2 ^ 112) (hout : reserveOut.toNat < 2 ^ 112) :
    V2.amountOut discoveryProbeWei reserveIn reserveOut = .ok out ↔
      out.toNat = V2.pays discoveryProbeWei.toNat reserveIn.toNat reserveOut.toNat := by
  have hprobe : discoveryProbeWei.toNat = 10 ^ 17 := rfl
  have hkept : (discoveryProbeWei * V2.inputKeptPerMille).toNat = 997 * 10 ^ 17 := rfl
  have hproduct : (discoveryProbeWei * V2.inputKeptPerMille * reserveOut).toNat =
      997 * 10 ^ 17 * reserveOut.toNat := by
    rw [BitVec.toNat_mul, hkept, Nat.mod_eq_of_lt (by omega)]
  have hdivisor : (reserveIn * V2.perMille + discoveryProbeWei * V2.inputKeptPerMille).toNat =
      1000 * reserveIn.toNat + 997 * 10 ^ 17 := by
    rw [BitVec.toNat_add, BitVec.toNat_mul, hkept, show V2.perMille.toNat = 1000 from rfl,
      Nat.mod_eq_of_lt (a := reserveIn.toNat * 1000) (by omega), Nat.mod_eq_of_lt (by omega),
      Nat.mul_comm]
  rw [V2.amountOut, V2.divide_eq_ok, V2.pays, ConstantProduct.output, hprobe, ← hdivisor,
    ← hproduct, ← BitVec.toNat_udiv]
  constructor
  · rintro ⟨-, rfl⟩
    rfl
  · intro h
    refine ⟨fun hzero => ?_, (BitVec.eq_of_toNat_eq h).symm⟩
    rw [hzero] at hdivisor
    simp at hdivisor

/-- What a pool pays for the probe is the output of its quote. -/
theorem probeOutput_iff [Alloy] {pool : UniswapPool} {out : ℕ} :
    ProbeOutput deployment answered token out pool ↔
      ∃ q, Quotes deployment answered (probeSwap token) q pool ∧ q.amountOut.toNat = out := by
  cases pool with
  | v2 pair =>
    have hprobe : ∀ answer out, V2.amountOut discoveryProbeWei
        (V2.pairReserves deployment token answer).1 (V2.pairReserves deployment token answer).2 =
          .ok out ↔ _ := fun answer out =>
      V2.amountOut_probe (V2.swapReserves_lt deployment (probeSwap token) answer).1
        (V2.swapReserves_lt deployment (probeSwap token) answer).2
    constructor
    · rintro ⟨hpair, answer, hanswer, hin, hout, rfl⟩
      have hfits : V2.pays discoveryProbeWei.toNat
          (V2.pairReserves deployment token answer).1.toNat
          (V2.pairReserves deployment token answer).2.toNat < 2 ^ 256 :=
        lt_of_le_of_lt (ConstantProduct.output_le _ _ _) (BitVec.isLt _)
      have hword := BitVec.toNat_ofNatLT (w := 256) _ hfits
      exact ⟨⟨_, _⟩, ⟨hpair, answer, hanswer, hin, hout, (hprobe answer _).mpr hword, rfl⟩, hword⟩
    · rintro ⟨q, ⟨hpair, answer, hanswer, hin, hout, hamount, -⟩, rfl⟩
      exact ⟨hpair, answer, hanswer, hin, hout, (hprobe answer _).mp hamount⟩
  | v3 pool =>
    constructor
    · rintro ⟨fee, hfee, hpool, ⟨slot0, hslot0⟩, quoted, hquoted, rfl⟩
      exact ⟨⟨quoted.amountOut, _⟩, ⟨fee, hfee, hpool, slot0, quoted, hslot0, hquoted, rfl, rfl⟩,
        rfl⟩
    · rintro ⟨q, ⟨fee, hfee, hpool, slot0, quoted, hslot0, hquoted, hout, -⟩, rfl⟩
      exact ⟨fee, hfee, hpool, ⟨slot0, hslot0⟩, quoted, hquoted, congrArg _ hout⟩
  | v4 key =>
    constructor
    · rintro ⟨side, hside, abiKey, hkey, x, hx, id, hid, ⟨slot0, hslot0⟩, quoted, hquoted, rfl⟩
      exact ⟨⟨quoted.amountOut, _⟩, ⟨side, hside, abiKey, hkey, x, hx, id, hid, slot0, quoted,
        hslot0, hquoted, rfl, rfl⟩, rfl⟩
    · rintro ⟨q, ⟨side, hside, abiKey, hkey, x, hx, id, hid, slot0, quoted, hslot0, hquoted, hout,
        -⟩, rfl⟩
      exact ⟨side, hside, abiKey, hkey, x, hx, id, hid, ⟨slot0, hslot0⟩, quoted, hquoted,
        congrArg _ hout⟩

variable [Alloy] {n : Network} {s s' : σ} {tr : Trace Answer}

/-- **A probe returns what the pool pays.** -/
theorem determined_probe (contracts : Contracts) (pool : UniswapPool) :
    Determined contracts.Reports (probe n token pool) fun found =>
      found.1 = pool ∧ ProbeOutput n.uniswap contracts.Answered token found.2.toNat pool := by
  refine (Determined.bind (determined_quote _ _)
    (S := fun q found => found = (pool, q.amountOut)) fun q _ => Determined.pure _).congr ?_
  rintro ⟨pool', out⟩
  rw [probeOutput_iff]
  constructor
  · rintro ⟨q, hq, hfound⟩
    obtain ⟨rfl, rfl⟩ := Prod.mk.inj hfound
    exact ⟨rfl, q, hq, rfl⟩
  · rintro ⟨rfl, q, hq, hout⟩
    exact ⟨q, hq, by rw [BitVec.eq_of_toNat_eq hout]⟩

/-! ### What is found -/

/-- A candidate that pays at least as much for the probe as every other. -/
def IsDeepest (deployment : UniswapDeployment) (answered : Answered) (token : Address)
    (pool : UniswapPool) (out : ℕ) : Prop :=
  Candidate deployment answered token pool ∧ ProbeOutput deployment answered token out pool ∧
    ∀ pool' out', Candidate deployment answered token pool' →
      ProbeOutput deployment answered token out' pool' → out' ≤ out

/-- What discovery finds: a deepest pool, or that none can be quoted. -/
def Deepest (deployment : UniswapDeployment) (answered : Answered) (token : Address) :
    Option NativeMarket → Prop
  | none => ∀ pool, Candidate deployment answered token pool →
      ∀ out, ¬ ProbeOutput deployment answered token out pool
  | some market => market.source = .uniswap ∧
      ∃ out, IsDeepest deployment answered token market.pool out

/-- The market of some probes, where these are the quotes of the candidates. -/
theorem deepest_of_probes {probes : List (Except TradeError (UniswapPool × Amount))}
    (hprobes : ∀ found, .ok found ∈ probes ↔ Candidate deployment answered token found.1 ∧
      ProbeOutput deployment answered token found.2.toNat found.1) :
    Deepest deployment answered token (deepest probes) := by
  have hmem : ∀ found, found ∈ probes.filterMap Except.toOption ↔
      Candidate deployment answered token found.1 ∧
        ProbeOutput deployment answered token found.2.toNat found.1 := by
    intro found
    rw [List.mem_filterMap, ← hprobes]
    simp only [toOption_eq_some, exists_eq_right]
  -- An output is the output of a quote, so it is a word.
  have hword : ∀ pool out, Candidate deployment answered token pool →
      ProbeOutput deployment answered token out pool →
      ∃ q : PoolQuote, q.amountOut.toNat = out ∧
        (pool, q.amountOut) ∈ probes.filterMap Except.toOption := by
    intro pool out hpool hout
    obtain ⟨q, -, rfl⟩ := probeOutput_iff.mp hout
    exact ⟨q, rfl, (hmem (pool, q.amountOut)).mpr ⟨hpool, hout⟩⟩
  unfold deepest
  cases hbest : maxByKey Prod.snd (probes.filterMap Except.toOption) with
  | none =>
    intro pool hpool out hout
    obtain ⟨q, -, hin⟩ := hword pool out hpool hout
    rw [maxByKey_eq_none.mp hbest] at hin
    exact absurd hin List.not_mem_nil
  | some found =>
    obtain ⟨hin, hmax⟩ := maxByKey_eq_some hbest
    obtain ⟨hcandidate, houtput⟩ := (hmem found).mp hin
    refine ⟨rfl, found.2.toNat, hcandidate, houtput, fun pool out hpool hout => ?_⟩
    obtain ⟨q, rfl, hq⟩ := hword pool out hpool hout
    exact hmax _ hq

/-- **What discovery finds in one state of the contracts**, whatever the order in which lookups
and quotes complete. -/
theorem runs_findMarket {r : TradeResult (Option NativeMarket)}
    (h : (findMarket n token).Runs s tr r s') (hstate : ∀ e ∈ tr, contracts.Reports e) :
    (∀ market, r = .ok market → Deepest n.uniswap contracts.Answered token market) ∧
      (LookupsAnswered n.uniswap contracts.Answered token → ∃ market, r = .ok market) := by
  obtain ⟨c, d, c', tr₁, tr₂, tr₃, tr₄, hsub₁, hsub₂, hsub₃, hsub₄, hv2, hv3, hv4, h₁⟩ :=
    Proc.runs_three_bind h
  obtain ⟨hfound₂, hok₂⟩ := V2.runs_find hv2 fun e he => hstate e (hsub₁ he)
  obtain ⟨hfound₃, hok₃⟩ := V3.runs_find hv3 fun e he => hstate e (hsub₂ he)
  obtain ⟨hfound₄, hok₄⟩ := V4.runs_find hv4 fun e he => hstate e (hsub₃ he)
  rcases Proc.runs_ofResult_bind.mp h₁ with ⟨e, rfl, -, rfl, -⟩ | ⟨v2, rfl, h₂⟩
  · refine ⟨fun market hmarket => (nomatch hmarket), fun hlookups => ?_⟩
    obtain ⟨_, hok⟩ := hok₂ hlookups.v2
    exact nomatch hok
  rcases Proc.runs_ofResult_bind.mp h₂ with ⟨e, rfl, -, rfl, -⟩ | ⟨v3, rfl, h₃⟩
  · refine ⟨fun market hmarket => (nomatch hmarket), fun hlookups => ?_⟩
    obtain ⟨_, hok⟩ := hok₃ hlookups.v3
    exact nomatch hok
  rcases Proc.runs_ofResult_bind.mp h₃ with ⟨e, rfl, -, rfl, -⟩ | ⟨v4, rfl, h₄⟩
  · refine ⟨fun market hmarket => (nomatch hmarket), fun hlookups => ?_⟩
    obtain ⟨_, hok⟩ := hok₄ hlookups.v4
    exact nomatch hok
  obtain ⟨probes, tr₅, -, h₅, hprobes, -⟩ := runs_inParallel
    (fun pool _ => determined_probe contracts pool) h₄ fun e he =>
      hstate e (hsub₄ he)
  obtain ⟨-, rfl, -⟩ := Proc.runs_pure.mp h₅
  refine ⟨fun market hmarket => ?_, fun _ => ⟨_, rfl⟩⟩
  obtain rfl := Except.ok.inj hmarket
  refine deepest_of_probes fun found => ?_
  have hcandidates : ∀ pool, pool ∈ v2.toList ++ v3 ++ v4 ↔
      Candidate n.uniswap contracts.Answered token pool := by
    intro pool
    rw [List.mem_append, List.mem_append, Option.mem_toList, ← Option.mem_def, hfound₂ v2 rfl, hfound₃ v3 rfl,
      hfound₄ v4 rfl]
    cases pool <;> simp
  rw [hprobes]
  constructor
  · rintro ⟨pool, hpool, hsame, hout⟩
    rw [hsame]
    exact ⟨(hcandidates pool).mp hpool, hout⟩
  · rintro ⟨hpool, hout⟩
    exact ⟨found.1, (hcandidates _).mpr hpool, rfl, hout⟩

end Probes

end Uniswap
end Evm
end TradingAggregators
