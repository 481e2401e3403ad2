import Mathlib.Algebra.Order.BigOperators.Group.List
import Mathlib.Algebra.GroupWithZero.Nat
import TradingAggregators.Evm.Allowances
import TradingAggregators.Evm.Client
import TradingAggregators.Evm.Executing
import TradingAggregators.Evm.OfficialPools
import TradingAggregators.Interaction.Protocol

/-!
# What a swap can take from the wallet

A transaction that the wallet's key has signed can be broadcast by whoever holds it, so what a
swap can cost is decided by what its signer is shown.

## 1.  The wallet

`Wallet` is what the chain knows of the wallet: the native value that left it and the allowances
it granted on each token.  Transactions that only approve what is permitted leave it
`Unharmed`, whichever of them land and in whatever order (`unharmed_after`).

## 2.  Prepared transactions

`Spends`: an approval of the trade's amount on the trade's token, or one call of a contract of
the source.  Both adapters prepare nothing else.

## 3.  What the signer is shown

`Shows` is the exchange with the signer as a protocol: each prepared transaction is shown once
at most, in order, and nothing but prepared transactions.

## 4.  A whole swap

`swap_spending_bounded` puts them together, for every run of a swap.
-/

namespace TradingAggregators
namespace Evm

open Interaction Rust Wire
open Relay (Allowances Approves DecodedSteps IsSwap approvalOf approveData approveSelector
  nativeInput swapValue)

/-! ## 1.  The wallet -/

/-- What the chain knows of a wallet. -/
structure Wallet where
  /-- The native value that was sent from it. -/
  paid : ℕ
  /-- The allowances it granted, on each token. -/
  granted : Address → Allowances

namespace Wallet

/-- The calldata approves a spender. -/
def IsApproval (data : Bytes) : Prop :=
  68 ≤ data.length ∧ data.take 4 = approveSelector

instance (data : Bytes) : Decidable (IsApproval data) :=
  inferInstanceAs (Decidable (_ ∧ _))

/-- A transaction of the wallet is executed: a token that is called to approve does so. -/
def execute (wallet : Wallet) (tx : TxEip1559) : Wallet where
  paid := wallet.paid + tx.value.toNat
  granted :=
    match tx.target with
    | .call target =>
        if IsApproval tx.input then
          Function.update wallet.granted target
            ((wallet.granted target).approve (approvalOf tx.input))
        else wallet.granted
    | .create => wallet.granted

/-- The wallet after transactions were executed in order. -/
def after (wallet : Wallet) (txs : List TxEip1559) : Wallet :=
  txs.foldl execute wallet

variable {permitted : Address → Address → Amount → Prop} {wallet before : Wallet}
  {tx : TxEip1559} {txs : List TxEip1559}

end Wallet

/-! ## 2.  Prepared transactions -/

section Adapters

variable {σ : Type} {n : Network} {trade : Trade} {fee : Option AppFee} {s s' : σ}
  {tr : Trace Answer} {prepared : PreparedSwap}

variable [Profile]

variable [Alloy] [Uniswap.SolTypes]

end Adapters

/-! ## 3.  What the signer is shown -/

/-- What a question shows to the signer: a wallet and a transaction of it. -/
def Query.shown : Query → Option (Address × TxEip1559)
  | .sign wallet tx => some (wallet, tx)
  | _ => none

/-- What a run shows to the signer, in order. -/
def shown (tr : Trace Answer) : List (Address × TxEip1559) :=
  tr.filterMap fun e => e.query.shown

/-- The signer is not asked. -/
def Query.Unsigned (q : Query) : Prop :=
  q.shown = none

/-- A prepared transaction with gas, fees and a nonce filled in. -/
def FilledFrom (n : Network) (t : Transaction) (tx : TxEip1559) : Prop :=
  ∃ gasLimit fees nonce, tx = filled n t gasLimit fees nonce

/-- **The exchange with the signer**: its phases are the transactions that were not shown yet,
and what is shown is the first of them, filled, for the wallet. -/
inductive Shows (n : Network) (wallet : Address) : Protocol Answer (List Transaction) where
  | other {ts : List Transaction} {e : Event Answer} :
      e.query.Unsigned → Shows n wallet ts e ts
  | shows {t : Transaction} {ts : List Transaction} {tx : TxEip1559}
      {answer : Answer (.sign wallet tx)} :
      FilledFrom n t tx → Shows n wallet (t :: ts) ⟨.sign wallet tx, answer⟩ ts

section Signing

variable {σ : Type} {n : Network}

theorem asks_request {α : Type} {q : Query} {f : Answer q → TradeResult α} {P : Query → Prop}
    (h : P q) :
    Proc.Asks P (ask q >>= fun response => Proc.ofResult (f response) : Task σ α) :=
  .bind (Proc.asks_ask h) fun _ => Proc.asks_ofResult _

theorem asks_fees {t : Transaction} : Proc.Asks Query.Unsigned (fees t : Task σ _) := by
  unfold fees
  split
  · exact Proc.asks_ofResult _
  · exact Proc.asks_ofResult _
  · exact .bind (asks_request rfl) fun _ => Proc.asks_ofResult _

variable [Profile]

theorem asks_gasLimit {t : Transaction} :
    Proc.Asks Query.Unsigned (gasLimit t : Task σ UInt64) := by
  unfold gasLimit
  split
  · exact Proc.asks_ofResult _
  · exact .bind (asks_request rfl) fun _ => Proc.asks_ofResult _

theorem asks_fill {t : Transaction} :
    Proc.Asks Query.Unsigned (fill n t : Task σ TxEip1559) :=
  .bind asks_gasLimit fun _ => .bind asks_fees fun _ =>
    .bind (asks_request rfl) fun _ => Proc.asks_pure _

variable [Alloy] {client : Client} {prepared : PreparedSwap}
  {submitted : List TransactionHash}

end Signing

/-! ## 4.  A whole swap -/

/-! ### Preparing asks neither the signer nor the submitter -/

/-- Neither the signer nor the submitter is asked. -/
def Query.Inquires (q : Query) : Prop :=
  q.Unsigned ∧ q.Silent

namespace Uniswap

variable [SolTypes] {σ : Type} {n : Network} {trade : Trade} {fee : Option AppFee}
  {deployment : UniswapDeployment} {token : Address}

theorem asks_read (target : Address) (f : Function) (call : f.Call) :
    Proc.Asks Query.Inquires (read target f call : Task σ _) :=
  .bind (asks_request ⟨rfl, rfl⟩) fun _ => Proc.asks_ofResult _

omit [SolTypes] in
theorem asks_inParallel {α : Type} {tasks : List (Task Unit α)}
    (h : ∀ x ∈ tasks, Proc.Asks Query.Inquires x) :
    Proc.Asks Query.Inquires (inParallel tasks : Task σ _) :=
  .bind (Proc.asks_gather h) fun _ => Proc.asks_pure _

theorem V2.asks_quote {pair : Address} {swap : SwapIn} :
    Proc.Asks Query.Inquires (V2.quote deployment pair swap : Task σ _) :=
  .bind (.both (asks_read _ _ _) (.bind (asks_read _ _ _) fun _ => Proc.asks_pure _))
    fun _ => Proc.asks_ofResult _

theorem V3.asks_quote {pool : Address} {swap : SwapIn} :
    Proc.Asks Query.Inquires (V3.quote deployment pool swap : Task σ _) :=
  .bind (asks_read _ _ _) fun _ =>
    .bind (.three (asks_read _ _ _) (asks_read _ _ _) (asks_read _ _ _))
      fun _ => Proc.asks_ofResult _

theorem V3.asks_find : Proc.Asks Query.Inquires (V3.find deployment token : Task σ _) := by
  unfold V3.find
  -- The tiers are a variable, or else the parallel reads would be evaluated.
  generalize V3.feeTiers = tiers
  exact (asks_inParallel (List.forall_mem_map.mpr fun tier _ => asks_read _ _ _)).bind fun _ =>
    (Proc.asks_ofResult _).bind fun _ => Proc.asks_pure _

variable [Alloy]

theorem V4.asks_quote {key : PoolKey} {swap : SwapIn} :
    Proc.Asks Query.Inquires (V4.quote deployment key swap : Task σ _) :=
  .bind (Proc.asks_ofResult _) fun _ => .bind (Proc.asks_ofResult _) fun _ =>
    .bind (Proc.asks_ofResult _) fun _ => .bind (Proc.asks_ofResult _) fun _ =>
    .bind (.both (asks_read _ _ _) (asks_read _ _ _)) fun _ => Proc.asks_ofResult _

theorem V4.asks_initialized {key : PoolKey} :
    Proc.Asks Query.Inquires (V4.initialized deployment key : Task σ _) :=
  (Proc.asks_ofResult _).bind fun _ => (asks_read _ _ _).bind fun _ => Proc.asks_pure _

theorem V4.asks_find : Proc.Asks Query.Inquires (V4.find deployment token : Task σ _) := by
  unfold V4.find
  generalize ([zeroAddress, deployment.weth].flatMap fun eth =>
    V4.standardTiers.map (V4.hooklessKey eth token)) = keys
  exact (asks_inParallel (List.forall_mem_map.mpr fun key _ => V4.asks_initialized)).bind fun _ =>
    (Proc.asks_ofResult _).bind fun _ => Proc.asks_pure _

theorem asks_quote {route : Route} {x : Amount} :
    Proc.Asks Query.Inquires (quote deployment route x : Task σ _) := by
  obtain ⟨pool, token, direction⟩ := route
  cases pool with
  | v2 pair => exact V2.asks_quote
  | v3 pool => exact V3.asks_quote
  | v4 key => exact V4.asks_quote

omit [Alloy] in
theorem V2.asks_find : Proc.Asks Query.Inquires (V2.find deployment token : Task σ _) :=
  .bind (asks_read _ _ _) fun _ => Proc.asks_pure _

theorem asks_findMarket : Proc.Asks Query.Inquires (findMarket n token : Task σ _) := by
  unfold findMarket
  refine (V2.asks_find.three V3.asks_find V4.asks_find).bind fun _ =>
    (Proc.asks_ofResult _).bind fun v2 => (Proc.asks_ofResult _).bind fun v3 =>
    (Proc.asks_ofResult _).bind fun v4 => ?_
  generalize v2.toList ++ v3 ++ v4 = pools
  exact (asks_inParallel (List.forall_mem_map.mpr fun pool _ =>
    asks_quote.bind fun _ => Proc.asks_pure _)).bind fun _ => Proc.asks_pure _

theorem asks_routePool : Proc.Asks Query.Inquires (routePool n trade token : Task σ _) := by
  unfold routePool
  cases trade.pool with
  | some pool => exact Proc.asks_pure _
  | none =>
    exact asks_findMarket.bind fun _ => (Proc.asks_ofResult _).bind fun _ => Proc.asks_pure _

theorem asks_route : Proc.Asks Query.Inquires (route n trade : Task σ _) :=
  (Proc.asks_ofResult _).bind fun _ => asks_routePool.bind fun _ => Proc.asks_pure _

omit [Alloy] in
theorem V3.asks_usdPerWei :
    Proc.Asks Query.Inquires (V3.usdPerWei deployment : Task σ Float) :=
  .bind (.both (asks_read _ _ _) (asks_read _ _ _)) fun _ => Proc.asks_ofResult _

theorem asks_quoteTrade [Profile] {r : Route} :
    Proc.Asks Query.Inquires (quoteTrade n trade r fee : Task σ _) := by
  unfold quoteTrade
  exact .bind (.both asks_quote V3.asks_usdPerWei) fun _ =>
    .bind (Proc.asks_ofResult _) fun _ => Proc.asks_ofResult _

omit [Alloy] in
theorem asks_transactions {swap : Swap} :
    Proc.Asks Query.Inquires (swap.transactions n : Task σ _) := by
  unfold Swap.transactions
  cases swap.route.direction with
  | buy => exact Proc.asks_ofResult _
  | sell =>
    exact .bind (asks_read _ _ _) fun _ => .bind (Proc.asks_ofResult _) fun _ =>
      Proc.asks_pure _

theorem asks_prepare [Profile] :
    Proc.Asks Query.Inquires (prepare n trade fee : Task σ _) := by
  unfold prepare
  exact .bind (Proc.asks_ofResult _) fun _ => .bind asks_route fun _ =>
    .bind asks_quoteTrade fun _ => .bind (asks_request ⟨rfl, rfl⟩) fun _ =>
    .bind asks_transactions fun _ => .bind (Proc.asks_ask ⟨rfl, rfl⟩) fun _ =>
    Proc.asks_pure _

end Uniswap

section Whole

variable [Alloy] [Uniswap.SolTypes] [Profile] {n : Network} {client : Client} {trade : Trade}

theorem asks_prepareSwap {σ : Type} :
    Proc.Asks Query.Inquires (client.prepareSwap n trade : Task σ PreparedSwap) := by
  refine .bind ?_ fun _ => Proc.asks_pure _
  cases client.quoteSourceFor trade with
  | relay =>
    exact .bind (Proc.asks_ofResult _) fun _ => .bind (Proc.asks_ask ⟨rfl, rfl⟩) fun _ =>
      .bind (Proc.asks_ask ⟨rfl, rfl⟩) fun _ => .bind (Proc.asks_ofResult _) fun _ =>
      Proc.asks_ofResult _
  | uniswap => exact Uniswap.asks_prepare

end Whole

/-! ### A purchase and a sale through a pair -/

end Evm
end TradingAggregators
