import TradingAggregators.Evm.Dexes.Uniswap.V4

/-!
# `evm/dexes/uniswap/router.rs`

The transactions of one swap through the fee-taking router.
-/

namespace TradingAggregators
namespace Evm
namespace Uniswap

open Interaction Rust Wire
open Interaction.Proc (ofResult)

/-- The pool, token and direction one trade swaps through. -/
structure Route where
  pool : UniswapPool
  token : Address
  direction : Direction

/-- One router swap; `amountIn` is the full trade amount, fee included. -/
structure Swap where
  router : Address
  wallet : Address
  route : Route
  amountIn : Amount
  minOut : Amount
  fee : Option AppFee
  deadline : Amount

/-- What the router is asked to do for a wallet: at least one transaction, all of them of the
wallet and on one chain. -/
structure SwapTransactions (n : Network) (wallet : Address) where
  transactions : List Transaction
  nonempty : transactions ≠ []
  onChain : ∀ t ∈ transactions, t.chainId = n.chainId
  fromWallet : ∀ t ∈ transactions, t.sender = wallet

def emptyKey : AbiPoolKey where
  currency0 := zeroAddress
  currency1 := zeroAddress
  fee := 0
  tickSpacing := 0
  hooks := zeroAddress

/-- `Swap::router_pool`, of the pool. -/
def routerPool : UniswapPool → TradeResult RouterPool
  | .v2 pair => .ok { version := .v2, pool := pair, v4Key := emptyKey }
  | .v3 pool => .ok { version := .v3, pool := pool, v4Key := emptyKey }
  | .v4 key => do
      let key ← key.toAbi
      pure { version := .v4, pool := zeroAddress, v4Key := key }

namespace Swap

/-- The router pays its own stored fee wallet, so only the rate travels with the swap. -/
def feeBps (swap : Swap) : UInt16 :=
  match swap.fee with
  | some fee => fee.basisPoints
  | none => 0

def transaction (n : Network) (swap : Swap) (target : Address) (data : Bytes)
    (value : Amount) : Transaction where
  chainId := n.chainId
  sender := swap.wallet
  target := target
  data := data
  value := value
  gas := none
  gasPrice := none
  maxFeePerGas := none
  maxPriorityFeePerGas := none

def buyCall (swap : Swap) (pool : RouterPool) : BuyCall where
  pool := pool
  token := swap.route.token
  minOut := swap.minOut
  feeBps := swap.feeBps
  deadline := swap.deadline

def sellCall (swap : Swap) (pool : RouterPool) : SellCall where
  pool := pool
  token := swap.route.token
  amountIn := swap.amountIn
  minOut := swap.minOut
  feeBps := swap.feeBps
  deadline := swap.deadline

variable [SolTypes] {σ : Type}

/-- The call of the router in the direction of the swap. -/
def callData (swap : Swap) (pool : RouterPool) : Bytes :=
  match swap.route.direction with
  | .buy => SolTypes.abiEncode .buy (swap.buyCall pool)
  | .sell => SolTypes.abiEncode .sell (swap.sellCall pool)

/-- The value that travels with the call of the router. -/
def callValue (swap : Swap) : Amount :=
  match swap.route.direction with
  | .buy => swap.amountIn
  | .sell => 0

/-- The transaction that swaps. -/
def swapTransaction (n : Network) (swap : Swap) (pool : RouterPool) : Transaction :=
  swap.transaction n swap.router (swap.callData pool) swap.callValue

/-- The approval of exactly this amount. -/
def approveTransaction (n : Network) (swap : Swap) : Transaction :=
  swap.transaction n swap.route.token
    (SolTypes.abiEncode .approve { spender := swap.router, amount := swap.amountIn }) 0

/-- Approvals and the swap, as what the router is asked to do. -/
def collected (n : Network) (swap : Swap) (approve : Bool) (pool : RouterPool) :
    SwapTransactions n swap.wallet where
  transactions :=
    (if approve then [swap.approveTransaction n] else []) ++ [swap.swapTransaction n pool]
  nonempty := List.append_ne_nil_of_right_ne_nil _ (List.cons_ne_nil _ _)
  onChain := by cases approve <;> simp [approveTransaction, swapTransaction, transaction]
  fromWallet := by cases approve <;> simp [approveTransaction, swapTransaction, transaction]

def buy (n : Network) (swap : Swap) : TradeResult (SwapTransactions n swap.wallet) := do
  let pool ← routerPool swap.route.pool
  pure (swap.collected n false pool)

/-- Approves exactly this amount first when the router's allowance is short. -/
def sellWithApproval (n : Network) (swap : Swap) :
    Task σ (SwapTransactions n swap.wallet) := do
  let allowance ← read swap.route.token .allowance
    { owner := swap.wallet, spender := swap.router }
  let pool ← ofResult (routerPool swap.route.pool)
  pure (swap.collected n (decide (allowance < swap.amountIn)) pool)

def transactions (n : Network) (swap : Swap) : Task σ (SwapTransactions n swap.wallet) :=
  match swap.route.direction with
  | .buy => ofResult (swap.buy n)
  | .sell => swap.sellWithApproval n

/-! ## What is built -/

/-- **What the router is asked to do**: the swap through the pool of the route comes last, and
at most an approval before it. -/
theorem runs_transactions_ok {n : Network} {swap : Swap} {s s' : σ} {tr : Trace Answer}
    {built : SwapTransactions n swap.wallet}
    (h : (swap.transactions n).Runs s tr (.ok built) s') :
    ∃ approve pool, routerPool swap.route.pool = .ok pool ∧
      built = swap.collected n approve pool := by
  unfold transactions at h
  cases hdirection : swap.route.direction with
  | buy =>
    rw [hdirection] at h
    obtain ⟨-, hbuy, -⟩ := Proc.runs_ofResult.mp h
    obtain ⟨pool, hpool, hbuilt⟩ := bind_eq_ok.mp hbuy.symm
    exact ⟨false, pool, hpool, (pure_eq_ok.mp hbuilt).symm⟩
  | sell =>
    rw [hdirection] at h
    obtain ⟨allowance, _, _, _, -, -, h₁⟩ := Proc.runs_bind_ok.mp h
    obtain ⟨pool, hpool, h₂⟩ := Proc.runs_ofResult_bind_ok.mp h₁
    obtain ⟨-, hbuilt, -⟩ := Proc.runs_pure.mp h₂
    exact ⟨_, pool, hpool, Except.ok.inj hbuilt⟩

/-- No transaction of the adapter carries gas prices of its own. -/
theorem gas_of_mem_collected {n : Network} {swap : Swap} {approve : Bool} {pool : RouterPool}
    {t : Transaction} (h : t ∈ (swap.collected n approve pool).transactions) :
    t.gasPrice = none ∧ t.maxFeePerGas = none ∧ t.maxPriorityFeePerGas = none := by
  rcases List.mem_append.mp h with h | h
  · cases approve with
    | false => exact absurd h List.not_mem_nil
    | true =>
      rw [List.mem_singleton.mp h]
      exact ⟨rfl, rfl, rfl⟩
  · rw [List.mem_singleton.mp h]
    exact ⟨rfl, rfl, rfl⟩

end Swap

end Uniswap
end Evm
end TradingAggregators
