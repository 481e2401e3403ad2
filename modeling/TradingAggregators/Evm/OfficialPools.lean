import TradingAggregators.Evm.Dexes.Uniswap
import TradingAggregators.Evm.ExecutionSafety
import TradingAggregators.Evm.ReferenceAbi

/-!
# Official Uniswap pools

A pool that a caller names is checked twice: `eth_pool` looks it up, and quoting checks it again
before a transaction is built.  The versions identify their pools in three ways.

## 1.  What the contracts answered

`Returned` says which value a call returned, in a run (`InTrace`) or in one state of the contracts
(`Contracts`), where it determines the value.

## 2.  Official pools

`Official` is what the three quotes check: the factory names the pair, the factory names the pool
at the fee that the pool reports, the key is a hookless ETH key of the token.

## 3.  Quoting

`official_of_quote`, and for the contracts of one state `quote_not_rejected`: an official pool
passes the check, whatever else goes wrong.

## 4.  Looking a pool up, and preparing a swap

`official_of_ethPool` and `swapsThrough_of_prepare`; `uniswap_pools_official` puts the two
together.
-/

namespace TradingAggregators
namespace Evm
namespace Uniswap

open Interaction Rust Wire

/-! ## 1.  What the contracts answered -/

/-- The outputs of calls: of a target, with this data. -/
abbrev Answered := Address → Bytes → Bytes → Prop

/-- The calls that were answered in a run. -/
def InTrace (tr : Trace Answer) : Answered :=
  fun target data output => ⟨.call target data, .ok output⟩ ∈ tr

/-- One state of the contracts: the output of each call, unless it reverts. -/
abbrev Contracts := Address → Bytes → Option Bytes

def Contracts.Answered (contracts : Contracts) : Answered :=
  fun target data output => contracts target data = some output

/-- An answer that agrees with the contracts.  Any call may fail. -/
def Contracts.Answers (contracts : Contracts) : Event Answer → Prop
  | ⟨.call target data, .ok output⟩ => contracts target data = some output
  | _ => True

theorem InTrace.mono {tr tr' : Trace Answer} (h : tr ⊆ tr') (target : Address)
    (data output : Bytes) : InTrace tr target data output → InTrace tr' target data output :=
  fun hmem => h hmem

/-- What was answered in a run is what the contracts return. -/
theorem InTrace.answered {contracts : Contracts} {tr : Trace Answer}
    (h : ∀ e ∈ tr, contracts.Answers e) (target : Address) (data output : Bytes) :
    InTrace tr target data output → contracts.Answered target data output :=
  fun hmem => h _ hmem

section Reads

variable [SolTypes] {σ : Type} {s s' : σ} {tr tr' : Trace Answer} {answered answered' : Answered}
  {target : Address} {f : Function} {call : f.Call} {value : f.Return}

/-- A call of a function returned this value. -/
def Returned (answered : Answered) (target : Address) (f : Function) (call : f.Call)
    (value : f.Return) : Prop :=
  ∃ output, answered target (SolTypes.abiEncode f call) output ∧
    SolTypes.abiDecodeReturns f output = .ok value

theorem Returned.mono (h : Returned answered target f call value)
    (hsub : ∀ target data output, answered target data output → answered' target data output) :
    Returned answered' target f call value := by
  obtain ⟨output, hanswered, hdecode⟩ := h
  exact ⟨output, hsub _ _ _ hanswered, hdecode⟩

/-- What a part of a run returned is what the contracts return. -/
theorem Returned.inState {contracts : Contracts}
    (h : Returned (InTrace tr') target f call value) (hsub : tr' ⊆ tr)
    (hstate : ∀ e ∈ tr, contracts.Answers e) :
    Returned contracts.Answered target f call value :=
  h.mono (InTrace.answered fun e he => hstate e (hsub he))

theorem Returned.unique {contracts : Contracts} {value' : f.Return}
    (h : Returned contracts.Answered target f call value)
    (h' : Returned contracts.Answered target f call value') : value = value' := by
  obtain ⟨output, houtput, hdecode⟩ := h
  obtain ⟨output', houtput', hdecode'⟩ := h'
  have hsame : output = output' := Option.some.inj (houtput.symm.trans houtput')
  rw [hsame] at hdecode
  exact Except.ok.inj (hdecode.symm.trans hdecode')

theorem returned_of_read (h : (read target f call).Runs s tr (.ok value) s') :
    Returned (InTrace tr) target f call value := by
  obtain ⟨response, rfl, hresult⟩ := runs_read h
  obtain ⟨output, rfl, hdecode⟩ := readResult_eq_ok.mp hresult.symm
  exact ⟨output, List.mem_singleton_self _, hdecode⟩

theorem returned_of_tryRead (h : (tryRead target f call).Runs s tr (.ok (some value)) s') :
    Returned (InTrace tr) target f call value := by
  obtain ⟨output, rfl, hdecode⟩ := runs_tryRead_some h
  exact ⟨output, List.mem_singleton_self _, hdecode⟩

/-- A failed read says so, or that it could not decode. -/
theorem read_error_ne {message : String} {e : Fault TradeError}
    (hmessage : ¬ "decode ".toList <+: message.toList)
    (h : (read target f call).Runs s tr (.error e) s') : e ≠ .err (venueError message) := by
  obtain ⟨response, -, hresult⟩ := runs_read h
  rcases readResult_eq_error hresult.symm with ⟨text, rfl⟩ | ⟨text, rfl⟩
  · simp [venueError, venue, Node.rpcError, Node.venue]
  · intro heq
    have htext : "decode " ++ text = message := by
      simpa [venueError] using heq
    rw [← htext, String.toList_append] at hmessage
    exact hmessage (List.prefix_append _ _)

end Reads

/-! ## 2.  Official pools -/

section Official

variable [SolTypes]

/-- A currency that counts as ETH: the native zero address, or WETH. -/
def IsEth (deployment : UniswapDeployment) (currency : Address) : Prop :=
  currency = zeroAddress ∨ currency = deployment.weth

/-- A key without hooks, of exactly one ETH side and the token. -/
structure HooklessEthKey (deployment : UniswapDeployment) (token : Address) (key : PoolKey) :
    Prop where
  hooks : key.hooks = zeroAddress
  sides : IsEth deployment key.currency0 ∧ ¬ IsEth deployment key.currency1 ∧
      key.currency1 = token ∨
    ¬ IsEth deployment key.currency0 ∧ IsEth deployment key.currency1 ∧ key.currency0 = token

/-- A pool of the token and ETH, as the contracts of its version tell it. -/
def Official (deployment : UniswapDeployment) (answered : Answered) (token : Address) :
    UniswapPool → Prop
  | .v2 pair => Returned answered deployment.v2Factory .getPair ⟨token, deployment.weth⟩ pair
  | .v3 pool => ∃ fee, Returned answered pool .fee () fee ∧
      Returned answered deployment.v3Factory .getPool ⟨token, deployment.weth, fee⟩ pool
  | .v4 key => HooklessEthKey deployment token key

theorem Official.mono {deployment : UniswapDeployment} {answered answered' : Answered}
    {token : Address} {pool : UniswapPool} (h : Official deployment answered token pool)
    (hsub : ∀ target data output, answered target data output → answered' target data output) :
    Official deployment answered' token pool := by
  cases pool with
  | v2 pair => exact Returned.mono h hsub
  | v3 pool =>
    obtain ⟨fee, hfee, hpool⟩ := h
    exact ⟨fee, hfee.mono hsub, hpool.mono hsub⟩
  | v4 key => exact h

/-- What a quote says of a pool that is not official. -/
def notOfficial : UniswapPool → Fault TradeError
  | .v2 _ => V2.notOfficial
  | .v3 _ => V3.notOfficial
  | .v4 _ => V4.notOfficial

end Official

section Sides

variable {deployment : UniswapDeployment} {token : Address} {key : PoolKey}

theorem isEth_iff {currency : Address} :
    PoolKey.isEth deployment.weth currency = true ↔ IsEth deployment currency := by
  rw [PoolKey.isEth, decide_eq_true_iff, IsEth]

/-- The ETH side of a key is the only one, and the token is opposite. -/
theorem sides_of_ethSide {side : EthSide} (h : key.ethSide deployment.weth = some side) :
    IsEth deployment key.currency0 ∧ ¬ IsEth deployment key.currency1 ∧
      key.currency1 = side.token ∨
    ¬ IsEth deployment key.currency0 ∧ IsEth deployment key.currency1 ∧
      key.currency0 = side.token := by
  simp only [← isEth_iff]
  unfold PoolKey.ethSide at h
  cases h₀ : PoolKey.isEth deployment.weth key.currency0 <;>
    cases h₁ : PoolKey.isEth deployment.weth key.currency1 <;> rw [h₀, h₁] at h
  · exact nomatch h
  · exact Or.inr ⟨Bool.false_ne_true, rfl, by rw [← Option.some.inj h]⟩
  · exact Or.inl ⟨rfl, Bool.false_ne_true, by rw [← Option.some.inj h]⟩
  · exact nomatch h

theorem ethSide_of_sides
    (h : IsEth deployment key.currency0 ∧ ¬ IsEth deployment key.currency1 ∧
        key.currency1 = token ∨
      ¬ IsEth deployment key.currency0 ∧ IsEth deployment key.currency1 ∧
        key.currency0 = token) :
    ∃ side, key.ethSide deployment.weth = some side ∧ side.token = token := by
  simp only [← isEth_iff, Bool.not_eq_true] at h
  unfold PoolKey.ethSide
  rcases h with ⟨h₀, h₁, rfl⟩ | ⟨h₀, h₁, rfl⟩
  · rw [h₀, h₁]
    exact ⟨_, rfl, rfl⟩
  · rw [h₀, h₁]
    exact ⟨_, rfl, rfl⟩

/-- The check of a v4 quote is that of a hookless ETH key. -/
theorem tradedSide_isOk_iff :
    (∃ side, V4.tradedSide key deployment.weth token = .ok side) ↔
      HooklessEthKey deployment token key := by
  unfold V4.tradedSide
  constructor
  · rintro ⟨side, h⟩
    split at h
    · next side' hfilter =>
        obtain ⟨hside, hchecks⟩ := Option.filter_eq_some_iff.mp hfilter
        obtain ⟨rfl, hhooks⟩ := of_decide_eq_true hchecks
        exact ⟨hhooks, sides_of_ethSide hside⟩
    · exact nomatch h
  · rintro ⟨hhooks, hsides⟩
    obtain ⟨side, hside, htoken⟩ := ethSide_of_sides hsides
    refine ⟨side, ?_⟩
    have hfilter : ((key.ethSide deployment.weth).filter fun side =>
        side.token = token ∧ key.hooks = zeroAddress) = some side :=
      Option.filter_eq_some_iff.mpr ⟨hside, decide_eq_true ⟨htoken, hhooks⟩⟩
    rw [hfilter]

/-- The words of a key fail with texts of their own. -/
theorem PoolKey.toAbi_error {e : Fault TradeError} (h : key.toAbi = .error e) :
    e ≠ V4.notOfficial := by
  rintro rfl
  rcases bind_eq_error.mp h with hfee | ⟨_, -, h₁⟩
  · unfold PoolKey.feeWord at hfee
    split_ifs at hfee
    exact absurd (Except.error.inj hfee) (by decide)
  · rcases bind_eq_error.mp h₁ with htick | ⟨_, -, h₂⟩
    · unfold PoolKey.tickSpacingWord at htick
      split_ifs at htick
      exact absurd (Except.error.inj htick) (by decide)
    · exact nomatch h₂

end Sides

/-! ## 3.  Quoting -/

section Quoting

variable [SolTypes] {σ : Type} {s s' : σ} {tr : Trace Answer} {deployment : UniswapDeployment}
  {swap : SwapIn} {r : TradeResult PoolQuote}

/-! ### v2 -/

section V2

variable {pair : Address}

theorem V2.runs_quote (h : (V2.quote deployment pair swap).Runs s tr r s') :
    ∃ expectedPair reserves tr₁ tr₂, tr₁ ⊆ tr ∧
      (V2.ethPair deployment swap.token).Runs () tr₁ expectedPair () ∧
      (V2.reserves pair deployment.weth swap.token).Runs () tr₂ reserves () ∧
      r = V2.price pair swap expectedPair reserves := by
  obtain ⟨c, d, tr₁, tr₂, _, hsub, -, -, hpair, hreserves, h₁⟩ := Proc.runs_both_bind h
  exact ⟨c, d, tr₁, tr₂, hsub, hpair, hreserves, (Proc.runs_ofResult.mp h₁).2.1⟩

theorem V2.official_of_quote {q : PoolQuote}
    (h : (V2.quote deployment pair swap).Runs s tr (.ok q) s') :
    Official deployment (InTrace tr) swap.token (.v2 pair) := by
  obtain ⟨expectedPair, reserves, tr₁, _, hsub, hpair, -, hprice⟩ := V2.runs_quote h
  obtain ⟨expected, rfl, h₁⟩ := bind_eq_ok.mp hprice.symm
  obtain ⟨_, hsame, -⟩ := bind_eq_ok.mp h₁
  rw [failIf_eq_ok, not_not] at hsame
  exact hsame ▸ (returned_of_read hpair).mono (InTrace.mono hsub)

/-- Reserves are read by one call. -/
theorem V2.reserves_error_ne {message : String} {weth token : Address} {e : Fault TradeError}
    (hmessage : ¬ "decode ".toList <+: message.toList)
    (h : (V2.reserves pair weth token).Runs s tr (.error e) s') :
    e ≠ .err (venueError message) := by
  unfold V2.reserves at h
  rcases Proc.runs_bind.mp h with ⟨e', he, h₁⟩ | ⟨_, _, _, _, -, -, h₁⟩
  · cases he
    exact read_error_ne hmessage h₁
  · exact nomatch (Proc.runs_pure.mp h₁).2.1

theorem V2.quote_not_rejected {contracts : Contracts}
    (hofficial : Official deployment contracts.Answered swap.token (.v2 pair))
    (hstate : ∀ e ∈ tr, contracts.Answers e)
    (h : (V2.quote deployment pair swap).Runs s tr r s') : r ≠ .error V2.notOfficial := by
  rintro rfl
  obtain ⟨expectedPair, reserves, tr₁, _, hsub, hpair, hreserves, hprice⟩ := V2.runs_quote h
  rcases bind_eq_error.mp hprice.symm with rfl | ⟨expected, rfl, h₁⟩
  · exact read_error_ne (by decide) hpair rfl
  · have hsame : expected = pair :=
      ((returned_of_read hpair).inState hsub hstate).unique hofficial
    rcases bind_eq_error.mp h₁ with hbad | ⟨_, -, h₂⟩
    · exact (failIf_eq_error.mp hbad).1 hsame
    · rcases bind_eq_error.mp h₂ with rfl | ⟨pairReserves, -, h₃⟩
      · exact V2.reserves_error_ne (by decide) hreserves rfl
      · rcases bind_eq_error.mp h₃ with hempty | ⟨_, -, h₄⟩
        · exact absurd (failIf_eq_error.mp hempty).2 (by decide)
        · rcases bind_eq_error.mp h₄ with hzero | ⟨_, -, h₅⟩
          · unfold V2.amountOut V2.divide at hzero
            dsimp only at hzero
            split_ifs at hzero
            exact nomatch hzero
          · exact nomatch h₅

end V2

/-! ### v3 -/

section V3

variable {pool : Address}

theorem V3.official_of_quote {q : PoolQuote}
    (h : (V3.quote deployment pool swap).Runs s tr (.ok q) s') :
    Official deployment (InTrace tr) swap.token (.v3 pool) := by
  obtain ⟨fee, _, tr₁, tr₂, rfl, hfee, h₁⟩ := Proc.runs_bind_ok.mp h
  obtain ⟨c, d, c', tr₃, _, _, _, hsub, -, -, -, hpool, -, -, h₂⟩ := Proc.runs_three_bind h₁
  obtain ⟨-, hprice, -⟩ := Proc.runs_ofResult.mp h₂
  obtain ⟨expected, rfl, h₃⟩ := bind_eq_ok.mp hprice.symm
  obtain ⟨_, hsame, -⟩ := bind_eq_ok.mp h₃
  rw [failIf_eq_ok, not_not] at hsame
  refine ⟨fee, (returned_of_read hfee).mono (InTrace.mono (List.subset_append_left _ _)), ?_⟩
  exact hsame ▸ (returned_of_read hpool).mono
    (InTrace.mono (List.Subset.trans hsub (List.subset_append_right _ _)))

theorem V3.quote_not_rejected {contracts : Contracts}
    (hofficial : Official deployment contracts.Answered swap.token (.v3 pool))
    (hstate : ∀ e ∈ tr, contracts.Answers e)
    (h : (V3.quote deployment pool swap).Runs s tr r s') : r ≠ .error V3.notOfficial := by
  rintro rfl
  obtain ⟨fee, hfee, hpool⟩ := hofficial
  rcases Proc.runs_bind.mp h with ⟨e, he, h₁⟩ | ⟨reported, _, tr₁, tr₂, rfl, h₁, h₂⟩
  · cases he
    exact read_error_ne (by decide) h₁ rfl
  · obtain ⟨c, d, c', tr₃, tr₄, tr₅, _, hsub, -, -, -, hexpected, hslot0, hquoted, h₃⟩ :=
      Proc.runs_three_bind h₂
    have hreported : reported = fee :=
      ((returned_of_read h₁).inState (List.subset_append_left _ _) hstate).unique hfee
    obtain ⟨-, hprice, -⟩ := Proc.runs_ofResult.mp h₃
    rcases bind_eq_error.mp hprice.symm with rfl | ⟨expected, rfl, h₄⟩
    · exact read_error_ne (by decide) hexpected rfl
    · have hsame : expected = pool :=
        ((returned_of_read hexpected).inState
          (List.Subset.trans hsub (List.subset_append_right _ _)) hstate).unique (hreported ▸ hpool)
      rcases bind_eq_error.mp h₄ with hbad | ⟨_, -, h₅⟩
      · exact (failIf_eq_error.mp hbad).1 hsame
      · rcases bind_eq_error.mp h₅ with rfl | ⟨_, -, h₆⟩
        · exact read_error_ne (by decide) hslot0 rfl
        · rcases bind_eq_error.mp h₆ with rfl | ⟨_, -, h₇⟩
          · exact read_error_ne (by decide) hquoted rfl
          · exact nomatch h₇

end V3

/-! ### v4 -/

section V4

variable [Alloy] {key : PoolKey}

theorem V4.official_of_quote {q : PoolQuote}
    (h : (V4.quote deployment key swap).Runs s tr (.ok q) s') :
    HooklessEthKey deployment swap.token key := by
  obtain ⟨side, hside, -⟩ := Proc.runs_ofResult_bind_ok.mp h
  exact tradedSide_isOk_iff.mp ⟨side, hside⟩

theorem V4.quote_not_rejected (hofficial : HooklessEthKey deployment swap.token key)
    (h : (V4.quote deployment key swap).Runs s tr r s') : r ≠ .error V4.notOfficial := by
  rintro rfl
  obtain ⟨side, hside⟩ := tradedSide_isOk_iff.mpr hofficial
  unfold V4.quote at h
  rw [hside] at h
  rcases Proc.runs_ofResult_bind.mp h with ⟨_, he, -⟩ | ⟨_, -, h₁⟩
  · exact nomatch he
  rcases Proc.runs_ofResult_bind.mp h₁ with ⟨e, he, -, hr, -⟩ | ⟨abiKey, -, h₂⟩
  · exact PoolKey.toAbi_error he (Except.error.inj hr).symm
  rcases Proc.runs_ofResult_bind.mp h₂ with ⟨e, he, -, hr, -⟩ | ⟨exact, -, h₃⟩
  · cases hr
    unfold V4.exactAmount at he
    split_ifs at he
    exact absurd (Except.error.inj he) (by decide)
  rcases Proc.runs_ofResult_bind.mp h₃ with ⟨e, he, -, hr, -⟩ | ⟨id, -, h₄⟩
  · cases hr
    rcases bind_eq_error.mp he with hkey | ⟨_, -, hpure⟩
    · exact PoolKey.toAbi_error hkey rfl
    · exact nomatch hpure
  obtain ⟨c, d, _, _, _, -, -, -, hslot0, hquoted, h₅⟩ := Proc.runs_both_bind h₄
  obtain ⟨-, hprice, -⟩ := Proc.runs_ofResult.mp h₅
  rcases bind_eq_error.mp hprice.symm with rfl | ⟨_, -, h₆⟩
  · exact read_error_ne (by decide) hslot0 rfl
  · rcases bind_eq_error.mp h₆ with rfl | ⟨_, -, h₇⟩
    · exact read_error_ne (by decide) hquoted rfl
    · exact nomatch h₇

end V4

/-! ### Every version -/

variable [Alloy] {route : Route} {x : Amount}

/-- **A quote is a quote of an official pool.** -/
theorem official_of_quote {q : PoolQuote}
    (h : (quote deployment route x).Runs s tr (.ok q) s') :
    Official deployment (InTrace tr) route.token route.pool := by
  obtain ⟨pool, token, direction⟩ := route
  cases pool with
  | v2 pair => exact V2.official_of_quote h
  | v3 pool => exact V3.official_of_quote h
  | v4 key => exact V4.official_of_quote h

/-- **An official pool is never rejected**: what goes wrong is something else. -/
theorem quote_not_rejected {contracts : Contracts}
    (hofficial : Official deployment contracts.Answered route.token route.pool)
    (hstate : ∀ e ∈ tr, contracts.Answers e)
    (h : (quote deployment route x).Runs s tr r s') : r ≠ .error (notOfficial route.pool) := by
  obtain ⟨pool, token, direction⟩ := route
  cases pool with
  | v2 pair => exact V2.quote_not_rejected hofficial hstate h
  | v3 pool => exact V3.quote_not_rejected hofficial hstate h
  | v4 key =>
    have hkey : HooklessEthKey deployment (SwapIn.mk token direction x).token key := hofficial
    exact V4.quote_not_rejected hkey h

end Quoting

/-! ## 4.  Looking a pool up, and preparing a swap -/

section Lookup

variable [SolTypes] {σ : Type} {s s' : σ} {tr : Trace Answer} {deployment : UniswapDeployment}

theorem V2.official_of_officialPair {pair token : Address} {pool : UniswapPool}
    (h : (V2.officialPair deployment pair token).Runs s tr (.ok (some pool)) s') :
    Official deployment (InTrace tr) token pool := by
  obtain ⟨official, _, tr₁, _, rfl, h₁, h₂⟩ := Proc.runs_bind_ok.mp h
  obtain ⟨-, hpool, -⟩ := Proc.runs_pure.mp h₂
  split_ifs at hpool with hsame
  · obtain rfl := Option.some.inj (Except.ok.inj hpool)
    exact hsame ▸ (returned_of_read h₁).mono (InTrace.mono (List.subset_append_left _ _))
  · exact nomatch Except.ok.inj hpool

theorem V3.official_of_officialPool {pool token : Address} {found : UniswapPool}
    (h : (V3.officialPool deployment pool token).Runs s tr (.ok (some found)) s') :
    Official deployment (InTrace tr) token found := by
  unfold V3.officialPool at h
  obtain ⟨fee, _, tr₁, tr₂, rfl, h₁, h₂⟩ := Proc.runs_bind_ok.mp h
  cases fee with
  | none => exact nomatch (Proc.runs_pure.mp h₂).2.1
  | some fee =>
    obtain ⟨official, _, tr₃, _, rfl, h₃, h₄⟩ := Proc.runs_bind_ok.mp h₂
    obtain ⟨-, hfound, -⟩ := Proc.runs_pure.mp h₄
    split_ifs at hfound with hsame
    · obtain rfl := Option.some.inj (Except.ok.inj hfound)
      refine ⟨fee, (returned_of_tryRead h₁).mono (InTrace.mono (List.subset_append_left _ _)), ?_⟩
      exact hsame ▸ (returned_of_read h₃).mono (InTrace.mono
        (List.Subset.trans (List.subset_append_left _ _) (List.subset_append_right _ _)))
    · exact nomatch Except.ok.inj hfound

theorem official_of_officialAddress {address token : Address} {found : EthPool}
    (h : (officialAddress deployment address token).Runs s tr (.ok (some found)) s') :
    Official deployment (InTrace tr) found.token found.pool := by
  unfold officialAddress at h
  obtain ⟨v3, _, tr₁, _, rfl, h₁, h₂⟩ := Proc.runs_bind_ok.mp h
  obtain ⟨pool, _, tr₂, _, rfl, h₃, h₄⟩ := Proc.runs_bind_ok.mp h₂
  obtain ⟨-, hfound, -⟩ := Proc.runs_pure.mp h₄
  obtain ⟨named, rfl, rfl⟩ := Option.map_eq_some_iff.mp (Except.ok.inj hfound).symm
  cases v3 with
  | some v3 =>
    obtain ⟨-, hsame, -⟩ := Proc.runs_pure.mp h₃
    obtain rfl := Option.some.inj (Except.ok.inj hsame)
    exact (V3.official_of_officialPool h₁).mono (InTrace.mono (List.subset_append_left _ _))
  | none =>
    exact (V2.official_of_officialPair h₃).mono (InTrace.mono
      (List.Subset.trans (List.subset_append_left _ _) (List.subset_append_right _ _)))

theorem official_of_addressEthPool {address : Address} {found : EthPool}
    (h : (addressEthPool deployment address).Runs s tr (.ok (some found)) s') :
    Official deployment (InTrace tr) found.token found.pool := by
  unfold addressEthPool at h
  obtain ⟨c, d, _, _, tr₁, -, -, hsub, -, -, h₁⟩ := Proc.runs_both_bind h
  obtain ⟨token0, -, h₂⟩ := Proc.runs_ofResult_bind_ok.mp h₁
  obtain ⟨token1, -, h₃⟩ := Proc.runs_ofResult_bind_ok.mp h₂
  split at h₃
  · exact nomatch (Proc.runs_pure.mp h₃).2.1
  · exact (official_of_officialAddress h₃).mono (InTrace.mono hsub)

variable [Alloy]

theorem V4.official_of_keyEthPool {id : FixedBytes 32} {key : PoolKey} {found : EthPool}
    (h : (V4.keyEthPool deployment id key).Runs s tr (.ok (some found)) s') :
    ∃ key, found.pool = .v4 key ∧ HooklessEthKey deployment found.token key := by
  unfold V4.keyEthPool at h
  obtain ⟨routable, hroutable, h₁⟩ := Proc.runs_ofResult_bind_ok.mp h
  split at h₁
  · exact nomatch (Proc.runs_pure.mp h₁).2.1
  · next eth hfilter =>
      obtain ⟨hside, rfl⟩ := Option.filter_eq_some_iff.mp hfilter
      have hhooks : key.hooks = zeroAddress := by
        by_contra hne
        rw [V4.routable, if_neg hne] at hroutable
        exact absurd (Except.ok.inj hroutable) Bool.false_ne_true
      obtain ⟨pool, _, _, _, rfl, h₂, h₃⟩ := Proc.runs_bind_ok.mp h₁
      obtain ⟨-, hfound, -⟩ := Proc.runs_pure.mp h₃
      obtain ⟨named, rfl, rfl⟩ := Option.map_eq_some_iff.mp (Except.ok.inj hfound).symm
      unfold V4.initialized at h₂
      obtain ⟨_, -, h₄⟩ := Proc.runs_ofResult_bind_ok.mp h₂
      obtain ⟨slot0, _, _, _, -, -, h₅⟩ := Proc.runs_bind_ok.mp h₄
      obtain ⟨-, hnamed, -⟩ := Proc.runs_pure.mp h₅
      split_ifs at hnamed
      · obtain rfl := Option.some.inj (Except.ok.inj hnamed)
        exact ⟨key, rfl, hhooks, sides_of_ethSide hside⟩
      · exact nomatch Except.ok.inj hnamed

/-- **A pool that the lookup returns is official.** -/
theorem official_of_ethPool {n : Network} {pool : PoolRef} {found : EthPool}
    (h : (ethPool n pool).Runs s tr (.ok (some found)) s') :
    Official n.uniswap (InTrace tr) found.token found.pool := by
  cases pool with
  | address address => exact official_of_addressEthPool h
  | v4Id id =>
    obtain ⟨key, _, tr₁, tr₂, rfl, -, h₁⟩ := Proc.runs_bind_ok.mp h
    cases key with
    | none => exact nomatch (Proc.runs_pure.mp h₁).2.1
    | some key =>
      obtain ⟨key, hpool, hkey⟩ := V4.official_of_keyEthPool h₁
      rw [hpool]
      exact hkey

/-! ### Preparing -/

variable {n : Network} {trade : Trade} {fee : Option AppFee}

/-- The prepared swap trades the token of the trade through an official pool, the one that the
trade names where it names one. -/
structure SwapsThrough (n : Network) (trade : Trade) (fee : Option AppFee) (tr : Trace Answer)
    (prepared : PreparedSwap) (route : Route) : Prop where
  pair : ethPair trade = .ok (route.direction, route.token)
  named : ∀ pool ∈ trade.pool, route.pool = pool
  official : Official n.uniswap (InTrace tr) route.token route.pool
  swaps : ∃ minOut deadline approve pool, routerPool route.pool = .ok pool ∧
    prepared.transactions =
      ((routerSwap n trade route fee minOut deadline).collected n approve pool).transactions

theorem runs_route_ok {r : Route} (h : (route n trade).Runs s tr (.ok r) s') :
    ethPair trade = .ok (r.direction, r.token) ∧ ∀ pool ∈ trade.pool, r.pool = pool := by
  unfold route at h
  obtain ⟨pair, hpair, h₁⟩ := Proc.runs_ofResult_bind_ok.mp h
  obtain ⟨pool, _, _, _, rfl, h₂, h₃⟩ := Proc.runs_bind_ok.mp h₁
  obtain ⟨-, hroute, -⟩ := Proc.runs_pure.mp h₃
  obtain rfl := Except.ok.inj hroute
  refine ⟨hpair, fun named hnamed => ?_⟩
  unfold routePool at h₂
  rw [Option.mem_def.mp hnamed] at h₂
  exact Except.ok.inj (Proc.runs_pure.mp h₂).2.1

variable [Profile]

theorem official_of_quoteTrade {r : Route} {q : { q : Quote // q.chainId = n.chainId }}
    (h : (quoteTrade n trade r fee).Runs s tr (.ok q) s') :
    Official n.uniswap (InTrace tr) r.token r.pool := by
  unfold quoteTrade at h
  obtain ⟨c, d, tr₁, _, _, hsub, -, -, hquote, -, h₁⟩ := Proc.runs_both_bind h
  obtain ⟨poolQuote, rfl, -⟩ := Proc.runs_ofResult_bind_ok.mp h₁
  exact (official_of_quote hquote).mono (InTrace.mono hsub)

/-- **A prepared swap goes through an official pool.** -/
theorem swapsThrough_of_prepare {prepared : PreparedSwap}
    (h : (prepare n trade fee).Runs s tr (.ok prepared) s') :
    ∃ route, SwapsThrough n trade fee tr prepared route := by
  unfold prepare at h
  obtain ⟨_, -, h₁⟩ := Proc.runs_ofResult_bind_ok.mp h
  obtain ⟨route, _, tr₁, tr₂, rfl, hroute, h₂⟩ := Proc.runs_bind_ok.mp h₁
  obtain ⟨quote, _, tr₃, tr₄, rfl, hquote, h₃⟩ := Proc.runs_bind_ok.mp h₂
  obtain ⟨deadline, _, _, _, rfl, -, h₄⟩ := Proc.runs_bind_ok.mp h₃
  obtain ⟨swap, _, _, _, rfl, hswap, h₅⟩ := Proc.runs_bind_ok.mp h₄
  obtain ⟨createdAt, _, rfl, h₆⟩ := Proc.runs_ask_bind.mp h₅
  obtain ⟨-, hprepared, -⟩ := Proc.runs_pure.mp h₆
  obtain rfl := Except.ok.inj hprepared
  obtain ⟨hpair, hnamed⟩ := runs_route_ok hroute
  obtain ⟨approve, pool, hpool, rfl⟩ := Swap.runs_transactions_ok hswap
  refine ⟨route, hpair, hnamed, ?_, _, _, approve, pool, hpool, rfl⟩
  exact (official_of_quoteTrade hquote).mono (InTrace.mono
    (List.Subset.trans (List.subset_append_left _ _) (List.subset_append_right _ _)))

/-- **Uniswap pools are official**: every swap that is prepared goes through a pool that the
contracts of its version name for the token of the trade; and every pool that the lookup returns
is, in the same state of the contracts, one that quoting accepts as official. -/
theorem uniswap_pools_official (n : Network) :
    (∀ (trade : Trade) (fee : Option AppFee) (s s' : σ) (tr : Trace Answer)
      (prepared : PreparedSwap), (prepare n trade fee).Runs s tr (.ok prepared) s' →
      ∃ route, SwapsThrough n trade fee tr prepared route) ∧
    ∀ (contracts : Contracts) (pool : PoolRef) (s s' : σ) (tr : Trace Answer) (found : EthPool),
      (ethPool n pool).Runs s tr (.ok (some found)) s' → (∀ e ∈ tr, contracts.Answers e) →
      Official n.uniswap contracts.Answered found.token found.pool ∧
      ∀ (direction : Direction) (x : Amount) (t t' : σ) (tr' : Trace Answer)
        (r : TradeResult PoolQuote),
        (quote n.uniswap ⟨found.pool, found.token, direction⟩ x).Runs t tr' r t' →
        (∀ e ∈ tr', contracts.Answers e) → r ≠ .error (notOfficial found.pool) := by
  constructor
  · intro trade fee s s' tr prepared h
    exact swapsThrough_of_prepare h
  · intro contracts pool s s' tr found h hstate
    have hofficial : Official n.uniswap contracts.Answered found.token found.pool :=
      (official_of_ethPool h).mono (InTrace.answered hstate)
    refine ⟨hofficial, ?_⟩
    intro direction x t t' tr' r hquote hstate'
    exact quote_not_rejected hofficial hstate' hquote

end Lookup

/-! ### A pair -/

def samplePairToken : Address :=
  .hex 20 "0x1111111111111111111111111111111111111111"

def samplePair : Address :=
  .hex 20 "0x2222222222222222222222222222222222222222"

/-- Contracts that know one v2 pair, and the pool that prices ETH. -/
def sampleContracts : Contracts := fun target data =>
  let := referenceAbi
  let d := robinhood.uniswap
  let asks (address : Address) (f : Function) (call : f.Call) : Bool :=
    target = address ∧ data = SolTypes.abiEncode f call
  if asks d.v2Factory .getPair ⟨samplePairToken, d.weth⟩ then some (addressWord samplePair)
  else if asks samplePair .token0 () then some (addressWord d.weth)
  else if asks samplePair .token1 () then some (addressWord samplePairToken)
  else if asks samplePair .getReserves () then
    some (word (5 * 10 ^ 18) ++ word (8 * 10 ^ 21) ++ word 1700000000)
  else if asks d.ethUsdPool .token0 () then some (addressWord d.weth)
  else if asks d.ethUsdPool .slot0 () then
    some (word (2 ^ 80) ++ word 0 ++ word 0 ++ word 1 ++ word 1 ++ word 0 ++ word 1)
  else none

/-- A node that reports these contracts. -/
def contractAnswers (contracts : Contracts) (_ : ℕ) : (q : Query) → Answer q
  | .chainId => .ok 4663
  | .pendingNonce _ => .ok 7
  | .call target data =>
      match contracts target data with
      | some output => .ok output
      | none => .error ⟨some "execution reverted", "execution reverted"⟩
  | .estimateGas _ _ _ _ => .ok 50000
  | .eip1559Fees => .ok (2000000000, 1000000000)
  | .receipt _ => .ok (some true)
  | .relayQuote _ => .error (.build "no quote expected")
  | .instant => 10 ^ 9
  | .systemTime => 1700000000 * 10 ^ 9
  | .sign _ _ => .error "no signature expected"
  | .submit _ => .error "no submission expected"

/-- A purchase through the pair. -/
def samplePairTrade : Trade where
  wallet := .hex 20 "0x3333333333333333333333333333333333333333"
  input := .native
  output := .token samplePairToken
  amount := 1000000000000000
  slippageBps := 100
  quoteSource := some .uniswap
  pool := some (.v2 samplePair)

instance (contracts : Contracts) : DecidablePred contracts.Answers := fun e =>
  match e with
  | ⟨.call target data, .ok output⟩ =>
      inferInstanceAs (Decidable (contracts target data = some output))
  | ⟨.call _ _, .error _⟩ => isTrue trivial
  | ⟨.chainId, _⟩ | ⟨.pendingNonce _, _⟩ | ⟨.estimateGas _ _ _ _, _⟩ | ⟨.eip1559Fees, _⟩
  | ⟨.receipt _, _⟩ | ⟨.relayQuote _, _⟩ | ⟨.instant, _⟩ | ⟨.systemTime, _⟩ | ⟨.sign _ _, _⟩
  | ⟨.submit _, _⟩ => isTrue trivial

/-- The purchase is prepared, the lookup of its pool finds it, and quoting accepts it. -/
theorem uniswap_pools_official_sample :
    let := referenceAbi
    let := sampleAlloy
    let : Profile := ⟨true⟩
    (∃ tr prepared route,
      (prepare robinhood samplePairTrade none).Runs () tr (.ok prepared) () ∧
        SwapsThrough robinhood samplePairTrade none tr prepared route) ∧
    ∃ tr tr' r,
      (ethPool robinhood (.address samplePair)).Runs () tr
        (.ok (some ⟨samplePairToken, .v2 samplePair⟩)) () ∧
      Official robinhood.uniswap sampleContracts.Answered samplePairToken (.v2 samplePair) ∧
      (quote robinhood.uniswap ⟨.v2 samplePair, samplePairToken, .buy⟩ 1000000000000000).Runs
        () tr' r () ∧
      r ≠ .error (notOfficial (.v2 samplePair)) := by
  intro abi alloy profile
  constructor
  · obtain ⟨tr, prepared, _, hrun⟩ := Proc.runs_ok_of_exec (contractAnswers sampleContracts)
      (fun _ => 0) (prepare robinhood samplePairTrade none) () (by decide +kernel)
    obtain ⟨route, hroute⟩ := (uniswap_pools_official robinhood).1 _ _ _ _ _ _ hrun
    exact ⟨tr, prepared, route, hrun, hroute⟩
  · obtain ⟨tr, r, _, hrun, hfound, hstate⟩ := Proc.runs_of_exec_prop
      (contractAnswers sampleContracts) (fun _ => 0) (ethPool robinhood (.address samplePair)) ()
      (fun tr r => r.toOption = some (some ⟨samplePairToken, .v2 samplePair⟩) ∧
        ∀ e ∈ tr, sampleContracts.Answers e)
      (by decide +kernel)
    obtain ⟨tr', r', _, hquote, hstate'⟩ := Proc.runs_of_exec_prop
      (contractAnswers sampleContracts) (fun _ => 0)
      (quote robinhood.uniswap ⟨.v2 samplePair, samplePairToken, .buy⟩ 1000000000000000) ()
      (fun tr _ => ∀ e ∈ tr, sampleContracts.Answers e) (by decide +kernel)
    obtain rfl := toOption_eq_some.mp hfound
    obtain ⟨hofficial, hquoted⟩ :=
      (uniswap_pools_official robinhood).2 _ _ _ _ _ _ hrun hstate
    exact ⟨tr, tr', r', hrun, hofficial, hquote, hquoted _ _ _ _ _ _ hquote hstate'⟩

end Uniswap
end Evm
end TradingAggregators
