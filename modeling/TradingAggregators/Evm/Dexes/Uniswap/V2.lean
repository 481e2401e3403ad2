import TradingAggregators.Evm.Dexes.Uniswap.Reading

/-!
# `evm/dexes/uniswap/v2.rs`

A v2 pair is identified by the factory, and priced from its reserves.
-/

namespace TradingAggregators
namespace Evm
namespace Uniswap
namespace V2

open Interaction Rust Wire
open Interaction.Proc (ofResult)

/-- Uniswap v2 keeps 0.3% of every input. -/
def inputKeptPerMille : Amount := 997
def perMille : Amount := 1000

/-- `/`, which panics on a zero divisor. -/
def divide (x y : Amount) : TradeResult Amount :=
  if y = 0 then .error .panicked else .ok (x / y)

/-- The output of a constant-product pair for an input that pays the pool's fee. -/
def amountOut (x reserveIn reserveOut : Amount) : TradeResult Amount :=
  let inAfterFee := x * inputKeptPerMille
  divide (inAfterFee * reserveOut) (reserveIn * perMille + inAfterFee)

/-- `(reserve_in, reserve_out)`, of `(eth, token)`. -/
def orient : Direction → Amount × Amount → Amount × Amount
  | .buy, (eth, token) => (eth, token)
  | .sell, (eth, token) => (token, eth)

/-- The pair named for a token is not the one the factory names. -/
def notOfficial : Fault TradeError :=
  .err (venueError "pair is not the token's Uniswap v2 ETH pair")

section Calls

variable [SolTypes] {σ : Type}

def ethPair (deployment : UniswapDeployment) (token : Address) : Task σ Address :=
  read deployment.v2Factory .getPair { tokenA := token, tokenB := deployment.weth }

/-- `(eth, token)` reserves; v2 pairs order their tokens by address. -/
def reserves (pair weth token : Address) : Task σ (Amount × Amount) := do
  let reserves ← read pair .getReserves ()
  let reserve0 := reserves.reserve0.setWidth 256
  let reserve1 := reserves.reserve1.setWidth 256
  pure (if weth < token then (reserve0, reserve1) else (reserve1, reserve0))

def find (deployment : UniswapDeployment) (token : Address) : Task σ (Option UniswapPool) := do
  let pair ← ethPair deployment token
  pure (if pair ≠ zeroAddress then some (.v2 pair) else none)

/-- `some` when `pair` is the v2 factory's ETH pair for `token`. -/
def officialPair (deployment : UniswapDeployment) (pair token : Address) :
    Task σ (Option UniswapPool) := do
  let official ← ethPair deployment token
  pure (if official = pair then some (.v2 pair) else none)

/-- The part of `quote` that follows the reads. -/
def price (pair : Address) (swap : SwapIn) (expectedPair : TradeResult Address)
    (reserves : TradeResult (Amount × Amount)) : TradeResult PoolQuote := do
  let expectedPair ← expectedPair
  failIf (expectedPair ≠ pair) notOfficial
  let reserves ← reserves
  let (reserveIn, reserveOut) := orient swap.direction reserves
  failIf (reserveIn = 0 ∨ reserveOut = 0) (.err (venueError "v2 pair has no liquidity"))
  let amountOut ← amountOut swap.amount reserveIn reserveOut
  pure {
    amountOut := amountOut
    ethPerToken := toF64 reserves.1 / toF64 reserves.2 }

def quote (deployment : UniswapDeployment) (pair : Address) (swap : SwapIn) :
    Task σ PoolQuote := do
  let answers ← Proc.both (ethPair deployment swap.token)
    (reserves pair deployment.weth swap.token)
  ofResult (price pair swap answers.1 answers.2)

end Calls

end V2
end Uniswap
end Evm
end TradingAggregators
