import TradingAggregators.Solana.AccountLayouts
import TradingAggregators.Solana.ReferenceSdk

/-!
# Which account a native quote is priced from

Discovery and the USD price check that a pool account is owned by its program and, for a curve,
that its address is derived from the mint.  Quoting and preparing a swap read the account that
the trade names and leave out part of these checks.

## 1.  A chain

`Chain` is one state of the accounts, and `Chain.Answers` says which answers agree with it.

## 2.  Pump.fun

`pricesOwnCurve_iff`: every quote is priced from the mint's own curve exactly when an account
at the trade's pool address that `LooksTradable` is that curve.

## 3.  PumpSwap

`pricesOwnPool_iff`, the same for pools, of which only the owner is left unchecked.

## 4.  Both venues

`native_quotes_bound_iff`, with a trade that is priced from another mint's curve
(`foreign_curve_priced`).  Trades of discovered markets are bound
(`PumpFun.pricesOwnCurve_of_findMarket`, `PumpSwap.pricesOwnPool_of_findMarket`).
-/

namespace TradingAggregators
namespace Solana

open Interaction Interaction.Program Rust Wire

/-! ## 1.  A chain -/

/-- One state of the accounts, with the balances of token accounts as a node prints them. -/
structure Chain where
  accounts : Pubkey → Option Account
  balances : Pubkey → Option String

/-- An answer that agrees with the chain.  Any call may fail. -/
def Chain.Answers (chain : Chain) : Event Answer → Prop
  | ⟨.getAccount key, .ok account⟩ => chain.accounts key = some account
  | ⟨.getAccountWithCommitment key _, .ok response⟩ => response.value = chain.accounts key
  | ⟨.getMultipleAccounts keys, .ok accounts⟩ => accounts = keys.map chain.accounts
  | ⟨.getTokenAccountBalance key, .ok text⟩ => chain.balances key = some text
  | _ => True

/-! ## 2.  Pump.fun -/

namespace PumpFun

theorem curveOf_eq_ok {address mint : Pubkey} {accounts : List (Option Account)} {curve : Curve}
    (h : curveOf address mint accounts = .ok curve) :
    ∃ account mintAccount c, accounts[0]? = some (some account) ∧
      accounts[1]? = some (some mintAccount) ∧ decodeCurve account.data = .ok c ∧
      c.complete = false ∧ c.isSolQuoted = true := by
  unfold curveOf at h
  obtain ⟨first, hfirst, h₁⟩ := bind_eq_ok.mp h
  obtain ⟨account, haccount, h₂⟩ := bind_eq_ok.mp h₁
  obtain ⟨second, hsecond, h₃⟩ := bind_eq_ok.mp h₂
  obtain ⟨mintAccount, hmint, h₄⟩ := bind_eq_ok.mp h₃
  obtain ⟨c, hc, h₅⟩ := bind_eq_ok.mp h₄
  obtain ⟨_, hcomplete, h₆⟩ := bind_eq_ok.mp h₅
  obtain ⟨_, hquoted, -⟩ := bind_eq_ok.mp h₆
  rw [index_eq_ok] at hfirst hsecond
  rw [okOr_eq_ok] at haccount hmint
  rw [mapError_eq_ok] at hc
  rw [failIf_eq_ok] at hcomplete hquoted
  rw [haccount] at hfirst
  rw [hmint] at hsecond
  exact ⟨account, mintAccount, c, hfirst, hsecond, hc, by simpa using hcomplete,
    not_not.mp hquoted⟩

/-- The curve that `load_curve` makes of two accounts. -/
theorem exists_curveOf {address mint : Pubkey} {account mintAccount : Account}
    {c : BondingCurveAccount} (hc : decodeCurve account.data = .ok c)
    (hcomplete : c.complete = false) (hquoted : c.isSolQuoted = true) :
    ∃ curve, curveOf address mint [some account, some mintAccount] = .ok curve := by
  let curve : Curve :=
    { creator := c.creator
      baseReserves := c.virtualTokenReserves
      quoteReserves := c.virtualQuoteReserves
      realTokenReserves := c.realTokenReserves
      isMayhem := c.isMayhemMode
      isCashback := c.isCashbackCoin
      tokenProgram := mintAccount.owner }
  refine ⟨curve, bind_eq_ok.mpr ⟨some account, rfl, bind_eq_ok.mpr ⟨account, rfl, ?_⟩⟩⟩
  refine bind_eq_ok.mpr ⟨some mintAccount, rfl, bind_eq_ok.mpr ⟨mintAccount, rfl, ?_⟩⟩
  refine bind_eq_ok.mpr ⟨c, mapError_eq_ok.mpr hc, ?_⟩
  refine bind_eq_ok.mpr ⟨(), failIf_neg (by simp [hcomplete]) _, ?_⟩
  exact bind_eq_ok.mpr ⟨(), failIf_neg (by simp [hquoted]) _, rfl⟩

theorem runs_loadCurve_ok {address mint : Pubkey} {tr : Trace Answer} {curve : Curve}
    (h : (loadCurve address mint).Runs () tr (.ok curve) ()) :
    ∃ accounts, tr = [⟨.getMultipleAccounts [address, mint], .ok accounts⟩] ∧
      curveOf address mint accounts = .ok curve := by
  unfold loadCurve at h
  obtain ⟨answer, tr', rfl, h₁⟩ := Proc.runs_ask_bind.mp h
  obtain ⟨accounts, hanswer, h₂⟩ := Proc.runs_ofResult_bind_ok.mp h₁
  obtain ⟨rfl, hcurve, -⟩ := Proc.runs_ofResult.mp h₂
  rw [clientResult_eq_ok] at hanswer
  subst hanswer
  exact ⟨accounts, rfl, hcurve.symm⟩

section Curve

variable [Sdk]

/-- The account at the trade's pool address is its mint's bonding curve. -/
def OwnCurve (chain : Chain) (trade : Trade) : Prop :=
  poolOf trade = bondingCurvePda trade.mint ∧
    ∃ account, chain.accounts (poolOf trade) = some account ∧ account.owner = programId

/-- What `load_curve` looks at: an account that reads as an unfinished SOL curve. -/
def LooksTradable (chain : Chain) (trade : Trade) : Prop :=
  trade.settlement = .sol ∧ (∃ mint, chain.accounts trade.mint = some mint) ∧
    ∃ account curve, chain.accounts (poolOf trade) = some account ∧
      decodeCurve account.data = .ok curve ∧ curve.complete = false ∧ curve.isSolQuoted = true

/-- **Every quote is priced from the mint's own curve**, in every build and with whatever fees
are cached. -/
def PricesOwnCurve (chain : Chain) (trade : Trade) : Prop :=
  ∀ (_ : Profile) (cached : Option FeeSettings) (tr : Trace Answer),
    (∀ e ∈ tr, chain.Answers e) →
    (∀ q, (quote cached trade).Runs () tr (.ok q) () → OwnCurve chain trade) ∧
      ∀ p, (prepareSwap cached trade).Runs () tr (.ok p) () → OwnCurve chain trade

/-- A curve that was loaded looked tradable. -/
theorem looksTradable_of_loadCurve {chain : Chain} {trade : Trade} {tr : Trace Answer}
    {curve : Curve} (hsol : trade.settlement = .sol) (htr : ∀ e ∈ tr, chain.Answers e)
    (h : (loadCurve (poolOf trade) trade.mint).Runs () tr (.ok curve) ()) :
    LooksTradable chain trade := by
  obtain ⟨accounts, rfl, hcurve⟩ := runs_loadCurve_ok h
  have hanswer : accounts = [poolOf trade, trade.mint].map chain.accounts :=
    htr _ List.mem_cons_self
  obtain ⟨account, mintAccount, c, hfirst, hsecond, hc, hcomplete, hquoted⟩ :=
    curveOf_eq_ok hcurve
  rw [hanswer] at hfirst hsecond
  exact ⟨hsol, ⟨mintAccount, Option.some.inj hsecond⟩, account, c, Option.some.inj hfirst, hc,
    hcomplete, hquoted⟩

/-- Both entry points start alike: a SOL trade, then its curve. -/
theorem looksTradable_of_runs {chain : Chain} {trade : Trade} {α : Type}
    {f : Curve → AnyTask Unit α} {tr : Trace Answer} {a : α}
    (htr : ∀ e ∈ tr, chain.Answers e)
    (h : (do
      Proc.failIf (trade.settlement ≠ .sol) (.err (.other solOnly))
      let curve ← loadCurve (poolOf trade) trade.mint
      f curve : AnyTask Unit α).Runs () tr (.ok a) ()) : LooksTradable chain trade := by
  rcases Proc.runs_failIf_bind.mp h with ⟨-, -, hr, -⟩ | ⟨hsol, h₁⟩
  · exact nomatch hr
  obtain ⟨curve, _, tr₁, tr₂, rfl, hload, -⟩ := Proc.runs_bind_ok.mp h₁
  exact looksTradable_of_loadCurve (not_not.mp hsol)
    (fun e he => htr e (List.mem_append_left _ he)) hload

/-- What looks tradable is quoted. -/
theorem quote_of_looksTradable {chain : Chain} {trade : Trade}
    (h : LooksTradable chain trade) :
    let : Profile := ⟨false⟩
    ∃ tr q, (∀ e ∈ tr, chain.Answers e) ∧
      (quote (some noFees) trade).Runs () tr (.ok q) () := by
  intro profile
  obtain ⟨hsol, ⟨mintAccount, hmint⟩, account, c, haccount, hc, hcomplete, hquoted⟩ := h
  obtain ⟨curve, hcurve⟩ : ∃ curve, curveOf (poolOf trade) trade.mint
      ([poolOf trade, trade.mint].map chain.accounts) = .ok curve := by
    rw [List.map_cons, List.map_cons, List.map_nil, haccount, hmint]
    exact exists_curveOf hc hcomplete hquoted
  obtain ⟨q, hq⟩ := exists_computeQuote rfl curve noFees trade.side trade.amount
    trade.slippageBps
  refine ⟨[⟨.getMultipleAccounts [poolOf trade, trade.mint],
    .ok ([poolOf trade, trade.mint].map chain.accounts)⟩], q, fun e he => ?_, ?_⟩
  · rw [List.mem_singleton.mp he]
    rfl
  · refine Proc.runs_failIf_bind.mpr (Or.inr ⟨not_not.mpr hsol, ?_⟩)
    refine Proc.runs_bind_ok.mpr ⟨curve, (), _, [], (List.append_nil _).symm, ?_, ?_⟩
    · exact Proc.runs_ask_bind.mpr ⟨.ok _, [], rfl,
        Proc.runs_ofResult_bind_ok.mpr ⟨_, rfl, Proc.runs_ofResult.mpr ⟨rfl, hcurve.symm, rfl⟩⟩⟩
    · refine Proc.runs_bind_ok.mpr ⟨noFees, (), [], [], rfl, ?_, ?_⟩
      · exact Proc.runs_pure.mpr ⟨rfl, rfl, rfl⟩
      · exact Proc.runs_ofResult.mpr ⟨rfl, hq.symm, rfl⟩

/-- **A mint is priced from its own curve exactly when what looks tradable is that curve.** -/
theorem pricesOwnCurve_iff (chain : Chain) (trade : Trade) :
    PricesOwnCurve chain trade ↔ (LooksTradable chain trade → OwnCurve chain trade) := by
  constructor
  · intro hprices hlooks
    obtain ⟨tr, q, htr, hrun⟩ := quote_of_looksTradable hlooks
    exact (hprices ⟨false⟩ (some noFees) tr htr).1 q hrun
  · intro howned profile cached tr htr
    exact ⟨fun q h => howned (looksTradable_of_runs htr h),
      fun p h => howned (looksTradable_of_runs htr h)⟩

end Curve

end PumpFun

/-! ## 3.  PumpSwap -/

namespace PumpSwap

/-- The vaults and mints of a pool that a node can report reserves for. -/
structure Funded (chain : Chain) (pool : PoolAccount) (virtualQuoteReserves : Int) : Prop where
  baseMint : ∃ account, chain.accounts pool.baseMint = some account
  quoteMint : ∃ account, chain.accounts pool.quoteMint = some account
  base : ∃ text reserves, chain.balances pool.poolBaseTokenAccount = some text ∧
    parseU64 text = .ok reserves
  quote : ∃ text balance, chain.balances pool.poolQuoteTokenAccount = some text ∧
    parseU64 text = .ok balance ∧
    0 ≤ (balance.toNat : Int) + virtualQuoteReserves ∧
    (balance.toNat : Int) + virtualQuoteReserves < 2 ^ 64

theorem poolOfMint_eq_ok {address mint : Pubkey} {data : Bytes} {pool : PoolAccount}
    {reserves : Int} : poolOfMint address mint data = .ok (pool, reserves) ↔
      decodePool data = .ok (pool, reserves) ∧ pool.baseMint = mint := by
  unfold poolOfMint
  constructor
  · intro h
    obtain ⟨⟨pool', reserves'⟩, hdecoded, h₁⟩ := bind_eq_ok.mp h
    obtain ⟨_, hmint, h₂⟩ := bind_eq_ok.mp h₁
    rw [mapError_eq_ok] at hdecoded
    rw [failIf_eq_ok, ne_eq, not_not] at hmint
    cases pure_eq_ok.mp h₂
    exact ⟨hdecoded, hmint⟩
  · rintro ⟨hdecoded, hmint⟩
    exact bind_eq_ok.mpr ⟨(pool, reserves), mapError_eq_ok.mpr hdecoded,
      bind_eq_ok.mpr ⟨(), failIf_neg (not_not.mpr hmint) _, rfl⟩⟩

theorem poolState_eq_ok {pool : PoolAccount} {reserves : Int} {programs : Pubkey × Pubkey}
    {baseText quoteText : String} {state : PoolState}
    (h : poolState pool reserves programs baseText quoteText = .ok state) :
    state.quoteMint = pool.quoteMint ∧ (∃ base, parseU64 baseText = .ok base) ∧
      ∃ balance, parseU64 quoteText = .ok balance ∧
        (state.quoteReserves.toNat : Int) = (balance.toNat : Int) + reserves := by
  obtain ⟨base, hbase, h₁⟩ := bind_eq_ok.mp h
  obtain ⟨balance, hbalance, h₂⟩ := bind_eq_ok.mp h₁
  obtain ⟨effective, heffective, h₃⟩ := bind_eq_ok.mp h₂
  rw [← pure_eq_ok.mp h₃]
  exact ⟨rfl, ⟨base, mapError_eq_ok.mp hbase⟩, balance, mapError_eq_ok.mp hbalance,
    effectiveQuoteReserves_eq_ok_iff.mp heffective⟩

theorem exists_poolState {pool : PoolAccount} {reserves : Int} (programs : Pubkey × Pubkey)
    {baseText quoteText : String} {base balance : UInt64} (hbase : parseU64 baseText = .ok base)
    (hbalance : parseU64 quoteText = .ok balance)
    (hle : 0 ≤ (balance.toNat : Int) + reserves)
    (hlt : (balance.toNat : Int) + reserves < 2 ^ 64) :
    ∃ state, poolState pool reserves programs baseText quoteText = .ok state := by
  obtain ⟨effective, heffective⟩ := exists_effectiveQuoteReserves ⟨hle, hlt⟩
  exact ⟨_, bind_eq_ok.mpr ⟨base, mapError_eq_ok.mpr hbase, bind_eq_ok.mpr ⟨balance,
    mapError_eq_ok.mpr hbalance, bind_eq_ok.mpr ⟨effective, heffective, rfl⟩⟩⟩⟩

theorem tokenPrograms_eq_ok {mints : List (Option Account)} {programs : Pubkey × Pubkey}
    (h : tokenPrograms mints = .ok programs) :
    ∃ base quote, mints[0]? = some (some base) ∧ mints[1]? = some (some quote) := by
  obtain ⟨first, hfirst, h₁⟩ := bind_eq_ok.mp h
  obtain ⟨base, hbase, h₂⟩ := bind_eq_ok.mp h₁
  obtain ⟨second, hsecond, h₃⟩ := bind_eq_ok.mp h₂
  obtain ⟨quote, hquote, -⟩ := bind_eq_ok.mp h₃
  rw [index_eq_ok] at hfirst hsecond
  rw [okOr_eq_ok] at hbase hquote
  rw [hbase] at hfirst
  rw [hquote] at hsecond
  exact ⟨base, quote, hfirst, hsecond⟩

theorem runs_tokenAccountBalance_ok {account : Pubkey} {tr : Trace Answer} {text : String} :
    (tokenAccountBalance account).Runs () tr (.ok text) () ↔
      tr = [⟨.getTokenAccountBalance account, .ok text⟩] := by
  constructor
  · intro h
    obtain ⟨answer, tr', rfl, h₁⟩ := Proc.runs_ask_bind.mp h
    obtain ⟨rfl, htext, -⟩ := Proc.runs_ofResult.mp h₁
    rw [eq_comm, clientResult_eq_ok] at htext
    rw [htext]
  · rintro rfl
    exact Proc.runs_ask_bind.mpr ⟨.ok text, [], rfl, Proc.runs_ofResult.mpr ⟨rfl, rfl, rfl⟩⟩

/-- A pool that was loaded: its account reads as a pool of the mint, and it is funded. -/
theorem runs_loadPool_ok {chain : Chain} {address mint : Pubkey} {tr : Trace Answer}
    {state : PoolState} (htr : ∀ e ∈ tr, chain.Answers e)
    (h : (loadPool address mint).Runs () tr (.ok state) ()) :
    ∃ account pool reserves, chain.accounts address = some account ∧
      decodePool account.data = .ok (pool, reserves) ∧ pool.baseMint = mint ∧
      state.quoteMint = pool.quoteMint ∧ Funded chain pool reserves := by
  unfold loadPool at h
  obtain ⟨answer, tr₁, rfl, h₁⟩ := Proc.runs_ask_bind.mp h
  obtain ⟨account, hanswer, h₂⟩ := Proc.runs_ofResult_bind_ok.mp h₁
  obtain ⟨⟨pool, reserves⟩, hpool, h₃⟩ := Proc.runs_ofResult_bind_ok.mp h₂
  obtain ⟨answer', tr₂, rfl, h₄⟩ := Proc.runs_ask_bind.mp h₃
  obtain ⟨mints, hanswer', h₅⟩ := Proc.runs_ofResult_bind_ok.mp h₄
  obtain ⟨programs, hprograms, h₆⟩ := Proc.runs_ofResult_bind_ok.mp h₅
  obtain ⟨⟨baseText, quoteText⟩, _, tr₃, tr₄, rfl, hboth, h₇⟩ := Proc.runs_bind_ok.mp h₆
  obtain ⟨rfl, hstate, -⟩ := Proc.runs_ofResult.mp h₇
  obtain ⟨-, trl, trr, hmerge, hbase, hquote⟩ := Proc.runs_tryBoth_ok hboth
  rw [clientResult_eq_ok] at hanswer hanswer'
  subst hanswer hanswer'
  rw [runs_tokenAccountBalance_ok] at hbase hquote
  obtain ⟨hdecoded, hmint⟩ := poolOfMint_eq_ok.mp hpool
  obtain ⟨hquoteMint, ⟨base, hbaseText⟩, balance, hbalance, hreserves⟩ :=
    poolState_eq_ok hstate.symm
  have hlt := state.quoteReserves.toNat_lt
  obtain ⟨baseMint, quoteMint, hfirst, hsecond⟩ := tokenPrograms_eq_ok hprograms
  have haccount : chain.accounts address = some account := htr _ List.mem_cons_self
  have hmints : mints = [pool.baseMint, pool.quoteMint].map chain.accounts :=
    htr ⟨.getMultipleAccounts [pool.baseMint, pool.quoteMint], .ok mints⟩ (by simp)
  have hbalances : ∀ e ∈ trl ++ trr, chain.Answers e := by
    intro e he
    refine htr e ?_
    rw [List.append_nil, List.mem_cons, List.mem_cons, hmerge.mem_iff]
    exact Or.inr (Or.inr (List.mem_append.mp he))
  rw [hmints] at hfirst hsecond
  rw [hbase, hquote] at hbalances
  exact ⟨account, pool, reserves, haccount, hdecoded, hmint, hquoteMint,
    ⟨baseMint, Option.some.inj hfirst⟩, ⟨quoteMint, Option.some.inj hsecond⟩,
    ⟨baseText, base, hbalances _ List.mem_cons_self, hbaseText⟩,
    ⟨quoteText, balance, hbalances ⟨.getTokenAccountBalance _, .ok quoteText⟩ (by simp),
      hbalance, by omega, by omega⟩⟩

/-- A funded pool of the mint can be loaded. -/
theorem loadPool_of_funded {chain : Chain} {address mint : Pubkey} {account : Account}
    {pool : PoolAccount} {reserves : Int} (haccount : chain.accounts address = some account)
    (hdecoded : decodePool account.data = .ok (pool, reserves)) (hmint : pool.baseMint = mint)
    (hfunded : Funded chain pool reserves) :
    ∃ tr state, (∀ e ∈ tr, chain.Answers e) ∧
      (loadPool address mint).Runs () tr (.ok state) () ∧ state.quoteMint = pool.quoteMint := by
  obtain ⟨⟨baseMint, hbaseMint⟩, ⟨quoteMint, hquoteMint⟩, ⟨baseText, base, hbaseText, hbase⟩,
    quoteText, balance, hquoteText, hbalance, hle, hlt⟩ := hfunded
  have hprograms : tokenPrograms ([pool.baseMint, pool.quoteMint].map chain.accounts) =
      .ok (baseMint.owner, quoteMint.owner) := by
    rw [List.map_cons, List.map_cons, List.map_nil, hbaseMint, hquoteMint]
    rfl
  obtain ⟨state, hstate⟩ : ∃ state, poolState pool reserves (baseMint.owner, quoteMint.owner)
      baseText quoteText = .ok state := exists_poolState _ hbase hbalance hle hlt
  have hpool : poolOfMint address mint account.data = .ok (pool, reserves) :=
    poolOfMint_eq_ok.mpr ⟨hdecoded, hmint⟩
  have hread : ∀ key text, (tokenAccountBalance key).Runs ()
      [⟨.getTokenAccountBalance key, .ok text⟩] (.ok text) () :=
    fun _ _ => runs_tokenAccountBalance_ok.mpr rfl
  refine ⟨⟨.getAccount address, .ok account⟩ ::
    ⟨.getMultipleAccounts [pool.baseMint, pool.quoteMint],
      .ok ([pool.baseMint, pool.quoteMint].map chain.accounts)⟩ ::
    ([⟨.getTokenAccountBalance pool.poolBaseTokenAccount, .ok baseText⟩] ++
      [⟨.getTokenAccountBalance pool.poolQuoteTokenAccount, .ok quoteText⟩]), state,
    fun e he => ?_, ?_, (poolState_eq_ok hstate).1⟩
  · simp only [List.cons_append, List.nil_append, List.mem_cons, List.not_mem_nil, or_false]
      at he
    rcases he with rfl | rfl | rfl | rfl
    · exact haccount
    · rfl
    · exact hbaseText
    · exact hquoteText
  · refine Proc.runs_ask_bind.mpr ⟨.ok account, _, rfl,
      Proc.runs_ofResult_bind_ok.mpr ⟨account, rfl,
        Proc.runs_ofResult_bind_ok.mpr ⟨(pool, reserves), hpool, ?_⟩⟩⟩
    refine Proc.runs_ask_bind.mpr ⟨.ok _, _, rfl, Proc.runs_ofResult_bind_ok.mpr ⟨_, rfl,
      Proc.runs_ofResult_bind_ok.mpr ⟨_, hprograms, ?_⟩⟩⟩
    exact Proc.runs_bind_ok.mpr ⟨(baseText, quoteText), (), _, [], (List.append_nil _).symm,
      Proc.tryBoth_of_runs (hread _ _) (hread _ _), Proc.runs_ofResult.mpr ⟨rfl, hstate.symm, rfl⟩⟩

section Pool

variable [Sdk]

/-- What `load_sol_pool` looks at: an account that reads as a funded SOL pool of the mint. -/
def LooksTradable (chain : Chain) (trade : Trade) : Prop :=
  trade.settlement = .sol ∧ ∃ account pool reserves,
    chain.accounts (poolOf trade) = some account ∧
      decodePool account.data = .ok (pool, reserves) ∧ pool.baseMint = trade.mint ∧
      pool.quoteMint = wsol ∧ Funded chain pool reserves

/-- The account at the trade's pool address belongs to PumpSwap and is a SOL pool of the
mint. -/
def OwnPool (chain : Chain) (trade : Trade) : Prop :=
  ∃ account pool reserves, chain.accounts (poolOf trade) = some account ∧
    account.owner = programId ∧ decodePool account.data = .ok (pool, reserves) ∧
    pool.baseMint = trade.mint ∧ pool.quoteMint = wsol

/-- **Every quote is priced from a pool of the mint**, in every build and with whatever fees
are cached. -/
def PricesOwnPool (chain : Chain) (trade : Trade) : Prop :=
  ∀ (_ : Profile) (cached : Option FeeSettings) (tr : Trace Answer),
    (∀ e ∈ tr, chain.Answers e) →
    (∀ q, (quote cached trade).Runs () tr (.ok q) () → OwnPool chain trade) ∧
      ∀ p, (prepareSwap cached trade).Runs () tr (.ok p) () → OwnPool chain trade

theorem looksTradable_of_loadSolPool {chain : Chain} {cached : Option FeeSettings}
    {trade : Trade} {tr : Trace Answer} {loaded : Pubkey × PoolState × FeeSettings}
    (htr : ∀ e ∈ tr, chain.Answers e)
    (h : (loadSolPool cached trade).Runs () tr (.ok loaded) ()) : LooksTradable chain trade := by
  unfold loadSolPool at h
  rcases Proc.runs_failIf_bind.mp h with ⟨-, -, hr, -⟩ | ⟨hsol, h₁⟩
  · exact nomatch hr
  obtain ⟨state, _, tr₁, tr₂, rfl, hload, h₂⟩ := Proc.runs_bind_ok.mp h₁
  rcases Proc.runs_failIf_bind.mp h₂ with ⟨-, -, hr, -⟩ | ⟨hwsol, -⟩
  · exact nomatch hr
  obtain ⟨account, pool, reserves, haccount, hdecoded, hmint, hquoteMint, hfunded⟩ :=
    runs_loadPool_ok (fun e he => htr e (List.mem_append_left _ he)) hload
  exact ⟨not_not.mp hsol, account, pool, reserves, haccount, hdecoded, hmint,
    hquoteMint ▸ not_not.mp hwsol, hfunded⟩

/-- Both entry points start alike: the loaded pool. -/
theorem looksTradable_of_runs {chain : Chain} {cached : Option FeeSettings} {trade : Trade}
    {α : Type} {f : Pubkey × PoolState × FeeSettings → AnyTask Unit α} {tr : Trace Answer} {a : α}
    (htr : ∀ e ∈ tr, chain.Answers e)
    (h : (loadSolPool cached trade >>= f).Runs () tr (.ok a) ()) : LooksTradable chain trade := by
  obtain ⟨loaded, _, tr₁, tr₂, rfl, hload, -⟩ := Proc.runs_bind_ok.mp h
  exact looksTradable_of_loadSolPool (fun e he => htr e (List.mem_append_left _ he)) hload

/-- Fees with nothing to pay. -/
def noFees : FeeSettings where
  standardProtocolRecipient := .zero 32
  mayhemProtocolRecipient := .zero 32
  buybackRecipient := .zero 32
  lpBps := 0
  protocolBps := 0
  creatorBps := 0

/-- What looks tradable is quoted. -/
theorem quote_of_looksTradable {chain : Chain} {trade : Trade}
    (h : LooksTradable chain trade) :
    let : Profile := ⟨false⟩
    ∃ tr q, (∀ e ∈ tr, chain.Answers e) ∧
      (quote (some noFees) trade).Runs () tr (.ok q) () := by
  intro profile
  obtain ⟨hsol, account, pool, reserves, haccount, hdecoded, hmint, hwsol, hfunded⟩ := h
  obtain ⟨tr, state, htr, hload, hquoteMint⟩ :=
    loadPool_of_funded haccount hdecoded hmint hfunded
  obtain ⟨q, hq⟩ := exists_computeQuote rfl state noFees trade.side trade.amount
    trade.slippageBps
  have hsolPool : (loadSolPool (some noFees) trade).Runs () tr
      (.ok (poolOf trade, state, noFees)) () := by
    refine Proc.runs_failIf_bind.mpr (Or.inr ⟨not_not.mpr hsol, ?_⟩)
    refine Proc.runs_bind_ok.mpr ⟨state, (), tr, [], (List.append_nil _).symm, hload, ?_⟩
    refine Proc.runs_failIf_bind.mpr (Or.inr ⟨not_not.mpr (hquoteMint.trans hwsol), ?_⟩)
    exact Proc.runs_bind_ok.mpr ⟨noFees, (), [], [], rfl, Proc.runs_pure.mpr ⟨rfl, rfl, rfl⟩,
      Proc.runs_pure.mpr ⟨rfl, rfl, rfl⟩⟩
  exact ⟨tr, q, htr, Proc.runs_bind_ok.mpr ⟨_, (), tr, [], (List.append_nil _).symm, hsolPool,
    Proc.runs_ofResult.mpr ⟨rfl, hq.symm, rfl⟩⟩⟩

/-- **A mint is priced from a PumpSwap pool of its own exactly when what looks tradable belongs
to PumpSwap.** -/
theorem pricesOwnPool_iff (chain : Chain) (trade : Trade) :
    PricesOwnPool chain trade ↔ (LooksTradable chain trade →
      ∀ account, chain.accounts (poolOf trade) = some account → account.owner = programId) := by
  constructor
  · intro hprices hlooks account haccount
    obtain ⟨tr, q, htr, hrun⟩ := quote_of_looksTradable hlooks
    obtain ⟨account', _, _, haccount', howner, -⟩ :=
      (hprices ⟨false⟩ (some noFees) tr htr).1 q hrun
    rw [haccount'] at haccount
    rw [← Option.some.inj haccount]
    exact howner
  · intro howned
    have hbound : LooksTradable chain trade → OwnPool chain trade := by
      intro hlooks
      have hread := hlooks
      obtain ⟨-, account, pool, reserves, haccount, hdecoded, hmint, hwsol, -⟩ := hread
      exact ⟨account, pool, reserves, haccount, howned hlooks account haccount, hdecoded, hmint,
        hwsol⟩
    intro profile cached tr htr
    exact ⟨fun q h => hbound (looksTradable_of_runs htr h),
      fun p h => hbound (looksTradable_of_runs htr h)⟩

end Pool

end PumpSwap

/-! ## 4.  Both venues -/

section Venues

variable [Sdk]

/-- Discovery answers with the mint's own curve. -/
theorem PumpFun.runs_findMarket_some {chain : Chain} {mint : Pubkey} {tr : Trace Answer}
    {market : NativeMarket} (htr : ∀ e ∈ tr, chain.Answers e)
    (h : (PumpFun.findMarket mint).Runs () tr (.ok (some market)) ()) :
    market.pool = PumpFun.bondingCurvePda mint ∧
      ∃ account, chain.accounts market.pool = some account ∧
        account.owner = PumpFun.programId := by
  unfold PumpFun.findMarket at h
  obtain ⟨answer, tr₁, rfl, h₁⟩ := Proc.runs_ask_bind.mp h
  obtain ⟨response, hanswer, h₂⟩ := Proc.runs_ofResult_bind_ok.mp h₁
  rw [clientResult_eq_ok] at hanswer
  subst hanswer
  have hvalue : response.value = chain.accounts (PumpFun.bondingCurvePda mint) :=
    htr _ List.mem_cons_self
  cases hfound : response.value.filter fun account => account.owner = PumpFun.programId with
  | none =>
    rw [hfound] at h₂
    exact nomatch (Proc.runs_pure.mp h₂).2.1
  | some account =>
    rw [hfound] at h₂
    obtain ⟨curve, -, h₃⟩ := Proc.runs_ofResult_bind_ok.mp h₂
    obtain ⟨-, hmarket, -⟩ := Proc.runs_pure.mp h₃
    obtain ⟨haccount, howner⟩ := Option.filter_eq_some_iff.mp hfound
    split_ifs at hmarket
    · cases hmarket
      exact ⟨rfl, account, hvalue.symm.trans haccount, of_decide_eq_true howner⟩
    · exact nomatch hmarket

/-- Discovery answers with an account of PumpSwap. -/
theorem PumpSwap.runs_findMarket_some {chain : Chain} {mint : Pubkey} {tr : Trace Answer}
    {market : NativeMarket} (htr : ∀ e ∈ tr, chain.Answers e)
    (h : (PumpSwap.findMarket mint).Runs () tr (.ok (some market)) ()) :
    ∃ account, chain.accounts market.pool = some account ∧
      account.owner = PumpSwap.programId := by
  unfold PumpSwap.findMarket at h
  obtain ⟨answer, tr₁, rfl, h₁⟩ := Proc.runs_ask_bind.mp h
  obtain ⟨response, hanswer, h₂⟩ := Proc.runs_ofResult_bind_ok.mp h₁
  rw [clientResult_eq_ok] at hanswer
  subst hanswer
  have hvalue : response.value = chain.accounts (PumpSwap.canonicalPoolPda mint) :=
    htr _ List.mem_cons_self
  cases hfound : response.value.filter fun account => account.owner = PumpSwap.programId with
  | none =>
    rw [hfound] at h₂
    exact nomatch (Proc.runs_pure.mp h₂).2.1
  | some account =>
    rw [hfound] at h₂
    obtain ⟨⟨pool, reserves⟩, -, h₃⟩ := Proc.runs_ofResult_bind_ok.mp h₂
    obtain ⟨-, hmarket, -⟩ := Proc.runs_pure.mp h₃
    obtain ⟨haccount, howner⟩ := Option.filter_eq_some_iff.mp hfound
    split_ifs at hmarket
    · cases hmarket
      exact ⟨account, hvalue.symm.trans haccount, of_decide_eq_true howner⟩
    · exact nomatch hmarket

/-- A trade of a discovered curve is priced from it. -/
theorem PumpFun.pricesOwnCurve_of_findMarket {chain : Chain} {trade : Trade}
    {tr : Trace Answer} {market : NativeMarket} (htr : ∀ e ∈ tr, chain.Answers e)
    (h : (PumpFun.findMarket trade.mint).Runs () tr (.ok (some market)) ())
    (hpool : trade.pool = some market.pool) : PumpFun.PricesOwnCurve chain trade := by
  obtain ⟨haddress, howned⟩ := PumpFun.runs_findMarket_some htr h
  have hpoolOf : PumpFun.poolOf trade = market.pool := by
    rw [PumpFun.poolOf, hpool]
    rfl
  refine (PumpFun.pricesOwnCurve_iff chain trade).mpr fun _ => ?_
  rw [PumpFun.OwnCurve, hpoolOf]
  exact ⟨haddress, howned⟩

/-- A trade of a discovered pool is priced from it. -/
theorem PumpSwap.pricesOwnPool_of_findMarket {chain : Chain} {trade : Trade}
    {tr : Trace Answer} {market : NativeMarket} (htr : ∀ e ∈ tr, chain.Answers e)
    (h : (PumpSwap.findMarket trade.mint).Runs () tr (.ok (some market)) ())
    (hpool : trade.pool = some market.pool) : PumpSwap.PricesOwnPool chain trade := by
  obtain ⟨account, haccount, howner⟩ := PumpSwap.runs_findMarket_some htr h
  have hpoolOf : PumpSwap.poolOf trade = market.pool := by
    rw [PumpSwap.poolOf, hpool]
    rfl
  refine (PumpSwap.pricesOwnPool_iff chain trade).mpr fun _ account' haccount' => ?_
  rw [hpoolOf, haccount] at haccount'
  rw [← Option.some.inj haccount']
  exact howner

/-- **Native quotes are bound to the traded mint**, on both venues. -/
def NativeQuotesBound (chain : Chain) (trade : Trade) : Prop :=
  PumpFun.PricesOwnCurve chain trade ∧ PumpSwap.PricesOwnPool chain trade

/-- **When native quotes are bound to the traded mint**: an account at the trade's pool address
that looks tradable has to be the mint's own curve, or a pool owned by PumpSwap. -/
theorem native_quotes_bound_iff (chain : Chain) (trade : Trade) :
    NativeQuotesBound chain trade ↔
      (PumpFun.LooksTradable chain trade → PumpFun.OwnCurve chain trade) ∧
      (PumpSwap.LooksTradable chain trade → ∀ account,
        chain.accounts (PumpSwap.poolOf trade) = some account →
          account.owner = PumpSwap.programId) :=
  and_congr (PumpFun.pricesOwnCurve_iff chain trade) (PumpSwap.pricesOwnPool_iff chain trade)

end Venues

/-! ### A trade that names another mint's curve -/

/-- The SDK that knows the bonding curve of the sample mint. -/
@[reducible] def curveSdk : Sdk :=
  referenceSdk [([textBytes "bonding-curve", sampleMint.bytes], PumpFun.programId,
    pubkey "FsdqixRd6rYXh3k2KCoxACMFT8roTaandcpu1NMG83bT")]

/-- The bonding curve of another mint. -/
def foreignCurveAddress : Pubkey := pubkey "5j1jZvtqhNbtaBvQaZDMd4Ko8t1jbudTB1B1P27VxJqn"

def foreignCurve : PumpFun.BondingCurveAccount where
  discriminator := 6966180631402821399
  virtualTokenReserves := 1073000000000000
  virtualQuoteReserves := 30000000000
  realTokenReserves := 793100000000000
  realQuoteReserves := 0
  tokenTotalSupply := 1000000000000000
  complete := false
  creator := .zero 32
  isMayhemMode := false
  isCashbackCoin := false
  quoteMint := .zero 32

def foreignTrade : Trade where
  settlement := .sol
  wallet := sampleUser
  mint := sampleMint
  side := .buy
  amount := 1000000000
  slippageBps := 100
  venue := none
  pool := some foreignCurveAddress
  quoteSource := some .pumpFun

def foreignAccount : Account where
  owner := PumpFun.programId
  data := PumpFun.BondingCurveAccount.codec.encode foreignCurve

/-- Two accounts exist: the mint, and the other mint's curve, which belongs to Pump.fun. -/
def foreignChain : Chain where
  accounts key :=
    if key = foreignCurveAddress then some foreignAccount
    else if key = sampleMint then some { owner := tokenProgram, data := [] }
    else none
  balances _ := none

theorem foreignChain_curve : foreignChain.accounts foreignCurveAddress = some foreignAccount := by
  simp only [foreignChain, if_true]

theorem foreignChain_mint : ∃ account, foreignChain.accounts sampleMint = some account := by
  have hne : sampleMint ≠ foreignCurveAddress := by decide +kernel
  simp only [foreignChain, if_neg hne, if_true]
  exact ⟨_, rfl⟩

/-- **Another mint's curve prices a trade** that names it as its pool. -/
theorem foreign_curve_priced :
    let := curveSdk
    ¬ NativeQuotesBound foreignChain foreignTrade := by
  intro sdk hbound
  have hlooks : PumpFun.LooksTradable foreignChain foreignTrade :=
    ⟨rfl, foreignChain_mint, foreignAccount, foreignCurve, foreignChain_curve,
      PumpFun.decodeCurve_encode foreignCurve, rfl, rfl⟩
  obtain ⟨tr, q, htr, hrun⟩ := PumpFun.quote_of_looksTradable hlooks
  have hown := (hbound.1 ⟨false⟩ (some PumpFun.noFees) tr htr).1 q hrun
  exact absurd hown.1 (by decide +kernel)

end Solana
end TradingAggregators
