import TradingAggregators.Evm.Dexes.Uniswap.Router
import TradingAggregators.Evm.Dexes.Uniswap.V2
import TradingAggregators.Evm.Dexes.Uniswap.V3

/-!
# `evm/dexes/uniswap/mod.rs`

Uniswap v2/v3/v4 swaps of ETH pairs through the fee-taking router, one pool per trade.
-/

namespace TradingAggregators
namespace Evm
namespace Uniswap

open Interaction Rust Wire
open Interaction.Proc (ofResult)

/-- The router rejects the swap after this; in nanoseconds. -/
def deadlineAfter : ℕ := 120 * 10 ^ 9

/-- 0.1 ETH: large enough that thin pools rank below deep ones. -/
def discoveryProbeWei : Amount := 100000000000000000

/-! ## The pair of a trade -/

/-- Exactly one side must be ETH; the other is the token. -/
def ethPair (trade : Trade) : TradeResult (Direction × Address) :=
  match trade.input, trade.output with
  | .native, .token token => .ok (.buy, token)
  | .token token, .native => .ok (.sell, token)
  | _, _ => buildError "Uniswap trades ETH pairs only; use Relay for other pairs"

def feeOn (fee : Option AppFee) (x : Amount) : Amount :=
  match fee with
  | some fee => fee.of x
  | none => 0

/-- `fee_in`: the router's fee is taken from the ETH side, off the input on buys. -/
def feeIn (direction : Direction) (fee : Option AppFee) (x : Amount) : Amount :=
  match direction with
  | .buy => feeOn fee x
  | .sell => 0

/-- `fee_out`: off the output on sells. -/
def feeOut (direction : Direction) (fee : Option AppFee) (amountOut : Amount) : Amount :=
  match direction with
  | .buy => 0
  | .sell => feeOn fee amountOut

/-- `duration_since(UNIX_EPOCH)` of `now`, and two minutes more, in seconds. -/
def deadlineAt (now : Int) : TradeResult Amount :=
  if now < 0 then buildError "system clock is before 1970"
  else .ok (amount ((now.toNat + deadlineAfter) / 10 ^ 9))

def deadline {σ : Type} : Task σ Amount := do
  let now ← ask .systemTime
  ofResult (deadlineAt now)

/-- `Iterator::max_by_key`: of several largest elements the last. -/
def maxByKey {α : Type} (key : α → Amount) (as : List α) : Option α :=
  as.foldl (fun best a => match best with
    | none => some a
    | some b => if key b ≤ key a then some a else some b) none

section Prices

variable [SolTypes]

/-- Paid and received in USD from pool spot prices; `none` when a price is unusable. -/
def usdValue (direction : Direction) (amountIn expectedOut : Amount) (pool : PoolQuote)
    (usdPerWei : Float) : Option UsdValue :=
  let usdPerTokenUnit := pool.ethPerToken * usdPerWei
  match direction with
  | .buy => UsdValue.new (toF64 amountIn * usdPerWei) (toF64 expectedOut * usdPerTokenUnit)
  | .sell => UsdValue.new (toF64 amountIn * usdPerTokenUnit) (toF64 expectedOut * usdPerWei)

/-- The part of `quote_trade` that follows the reads. -/
def tradeQuote [Profile] (n : Network) (trade : Trade) (route : Route) (fee : Option AppFee)
    (poolQuote : PoolQuote) (usdPerWei : TradeResult Float) :
    TradeResult { quote : Quote // quote.chainId = n.chainId } := do
  let feeIn := feeIn route.direction fee trade.amount
  let feeOut := feeOut route.direction fee poolQuote.amountOut
  let expectedOut := poolQuote.amountOut - feeOut
  let minOut ← trade.minOut expectedOut
  failIf (minOut = 0) (.err (venueError "quoted output is zero"))
  let charged := feeIn + feeOut
  pure ⟨{
    chainId := n.chainId
    source := venue
    input := trade.input
    output := trade.output
    inAmount := trade.amount
    expectedOut := expectedOut
    minOut := minOut
    applicationFee :=
      if charged ≠ 0 then some { currency := .native, amount := charged } else none
    usdValue := do
      usdValue route.direction trade.amount expectedOut poolQuote (← usdPerWei.toOption) }, rfl⟩

end Prices

section Calls

variable [SolTypes] {σ : Type}

/-! ## Pools -/

/-- The token of a pair, where exactly one of the two is WETH. -/
def tokenBeside (weth token0 token1 : Address) : Option Address :=
  match decide (token0 = weth), decide (token1 = weth) with
  | true, false => some token1
  | false, true => some token0
  | _, _ => none

/-- The part of `address_eth_pool` that follows the look at the tokens. -/
def officialAddress (deployment : UniswapDeployment) (address token : Address) :
    Task σ (Option EthPool) := do
  let v3 ← V3.officialPool deployment address token
  let pool ← (match v3 with
    | some pool => pure (some pool)
    | none => V2.officialPair deployment address token : Task σ (Option UniswapPool))
  pure (pool.map fun pool => { token := token, pool := pool })

/-- v2 pairs and v3 pools both expose their tokens; the factories decide which one it is. -/
def addressEthPool (deployment : UniswapDeployment) (address : Address) :
    Task σ (Option EthPool) := do
  let answers ← Proc.both (tryRead address .token0 ()) (tryRead address .token1 ())
  let token0 ← ofResult answers.1
  let token1 ← ofResult answers.2
  match (do tokenBeside deployment.weth (← token0) (← token1) : Option Address) with
  | none => pure none
  | some token => officialAddress deployment address token

variable [Alloy]

/-- `Uniswap::eth_pool`: `some` when `pool` is an official Uniswap pool pairing a token with
ETH that the router can trade; `none` means use Relay. -/
def ethPool (n : Network) : PoolRef → Task σ (Option EthPool)
  | .address address => addressEthPool n.uniswap address
  | .v4Id id => V4.ethPool n.uniswap id

def quote (deployment : UniswapDeployment) (route : Route) (amountIn : Amount) :
    Task σ PoolQuote :=
  let swap : SwapIn :=
    { token := route.token, direction := route.direction, amount := amountIn }
  match route.pool with
  | .v2 pair => V2.quote deployment pair swap
  | .v3 pool => V3.quote deployment pool swap
  | .v4 key => V4.quote deployment key swap

/-- One probe of `find_market`. -/
def probe (n : Network) (token : Address) (pool : UniswapPool) :
    Task Unit (UniswapPool × Amount) := do
  let quoted ← quote n.uniswap { pool := pool, token := token, direction := .buy }
    discoveryProbeWei
  pure (pool, quoted.amountOut)

/-- The probes that succeeded, and the deepest pool among them. -/
def deepest (probes : List (Except TradeError (UniswapPool × Amount))) : Option NativeMarket :=
  (maxByKey Prod.snd (probes.filterMap Except.toOption)).map fun found =>
    { source := .uniswap, pool := found.1 }

/-- `none` when the token has no usable ETH pool on v2, v3 or hookless v4; use Relay then. -/
def findMarket (n : Network) (token : Address) : Task σ (Option NativeMarket) := do
  let found ← Proc.three (V2.find n.uniswap token) (V3.find n.uniswap token)
    (V4.find n.uniswap token)
  let v2 ← ofResult found.1
  let v3 ← ofResult found.2.1
  let v4 ← ofResult found.2.2
  let probes ← inParallel ((v2.toList ++ v3 ++ v4).map (probe n token))
  pure (deepest probes)

/-! ## Preparing -/

/-- The trade's own pool, or the deepest one when it names none. -/
def routePool (n : Network) (trade : Trade) (token : Address) : Task σ UniswapPool :=
  match trade.pool with
  | some pool => pure pool
  | none => do
      let market ← findMarket n token
      let market ← ofResult (okOr market (venueError "no ETH pool for this token; use Relay"))
      pure market.pool

def route (n : Network) (trade : Trade) : Task σ Route := do
  let pair ← ofResult (ethPair trade)
  let pool ← routePool n trade pair.2
  pure { pool := pool, token := pair.2, direction := pair.1 }

variable [Profile]

def quoteTrade (n : Network) (trade : Trade) (route : Route) (fee : Option AppFee) :
    Task σ { quote : Quote // quote.chainId = n.chainId } := do
  let answers ← Proc.both
    (quote n.uniswap route (trade.amount - feeIn route.direction fee trade.amount))
    (V3.usdPerWei n.uniswap)
  let poolQuote ← ofResult answers.1
  ofResult (tradeQuote n trade route fee poolQuote answers.2)

/-- The router swap of a quoted trade. -/
def routerSwap (n : Network) (trade : Trade) (route : Route) (fee : Option AppFee)
    (minOut deadline : Amount) : Swap where
  router := n.uniswap.cswapRouter
  wallet := trade.wallet
  route := route
  amountIn := trade.amount
  minOut := minOut
  fee := fee
  deadline := deadline

def prepare (n : Network) (trade : Trade) (fee : Option AppFee) : Task σ PreparedSwap := do
  ofResult trade.validate
  let route ← route n trade
  let quote ← quoteTrade n trade route fee
  let deadline ← deadline
  let swap ← (routerSwap n trade route fee quote.1.minOut deadline).transactions n
  let createdAt ← ask .instant
  pure {
    quote := quote.1
    wallet := trade.wallet
    transactions := swap.transactions
    createdAt := createdAt
    nonempty := swap.nonempty
    onChain := fun t ht => (swap.onChain t ht).trans quote.2.symm
    fromWallet := swap.fromWallet }

end Calls

end Uniswap
end Evm
end TradingAggregators
