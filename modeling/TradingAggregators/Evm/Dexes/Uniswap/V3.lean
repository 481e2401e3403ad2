import TradingAggregators.Evm.Dexes.Uniswap.Reading

/-!
# `evm/dexes/uniswap/v3.rs`

A v3 pool is identified by the factory at the fee that the pool reports, and priced by the
quoter.
-/

namespace TradingAggregators
namespace Evm
namespace Uniswap
namespace V3

open Interaction Rust Wire
open Interaction.Proc (ofResult)

def feeTiers : List U24 := [100, 500, 3000, 10000]

/-- The pool named for a token is not the one the factory names. -/
def notOfficial : Fault TradeError :=
  .err (venueError "pool is not a Uniswap v3 ETH pool for this token")

variable [SolTypes] {σ : Type}

def ethPool (deployment : UniswapDeployment) (token : Address) (fee : U24) : Task σ Address :=
  read deployment.v3Factory .getPool { tokenA := token, tokenB := deployment.weth, fee := fee }

def find (deployment : UniswapDeployment) (token : Address) : Task σ (List UniswapPool) := do
  let results ← inParallel (feeTiers.map (ethPool deployment token))
  let pools ← ofResult (collect results)
  pure ((pools.filter fun pool => pool ≠ zeroAddress).map .v3)

/-- `some` when `pool` is the v3 factory's ETH pool for `token` at its fee tier. -/
def officialPool (deployment : UniswapDeployment) (pool token : Address) :
    Task σ (Option UniswapPool) := do
  match ← tryRead pool .fee () with
  | none => pure none
  | some fee => do
      let official ← ethPool deployment token fee
      pure (if official = pool then some (.v3 pool) else none)

/-- `(token_in, token_out)`. -/
def orient (weth token : Address) : Direction → Address × Address
  | .buy => (weth, token)
  | .sell => (token, weth)

def quoteParams (deployment : UniswapDeployment) (fee : U24) (swap : SwapIn) :
    QuoteExactInputSingleParams where
  tokenIn := (orient deployment.weth swap.token swap.direction).1
  tokenOut := (orient deployment.weth swap.token swap.direction).2
  amountIn := swap.amount
  fee := fee
  sqrtPriceLimitX96 := 0

/-- The part of `quote` that follows the reads. -/
def price (deployment : UniswapDeployment) (pool : Address) (swap : SwapIn)
    (expectedPool : TradeResult Address) (slot0 : TradeResult Slot0Return)
    (quoted : TradeResult QuoteExactInputSingleReturn) : TradeResult PoolQuote := do
  let expectedPool ← expectedPool
  failIf (expectedPool ≠ pool) notOfficial
  let slot0 ← slot0
  let quoted ← quoted
  pure {
    amountOut := quoted.amountOut
    ethPerToken :=
      ethPerToken (priceFromSqrt (slot0.sqrtPriceX96.setWidth 256)) (deployment.weth < swap.token) }

def quote (deployment : UniswapDeployment) (pool : Address) (swap : SwapIn) :
    Task σ PoolQuote := do
  let fee ← read pool .fee ()
  let answers ← Proc.three (ethPool deployment swap.token fee) (read pool .slot0 ())
    (read deployment.v3Quoter .quoteExactInputSingle (quoteParams deployment fee swap))
  ofResult (price deployment pool swap answers.1 answers.2.1 answers.2.2)

/-- USD per wei, from the answers about the deployment's WETH/stablecoin pool. -/
def usdPrice (deployment : UniswapDeployment) (token0 : TradeResult Address)
    (slot0 : TradeResult Slot0Return) : TradeResult Float := do
  let slot0 ← slot0
  let token0 ← token0
  let price := priceFromSqrt (slot0.sqrtPriceX96.setWidth 256)
  let usdUnitsPerWei := 1.0 / ethPerToken price (token0 = deployment.weth)
  pure (usdUnitsPerWei / powi 10.0 deployment.usdDecimals.toNat)

def usdPerWei (deployment : UniswapDeployment) : Task σ Float := do
  let answers ← Proc.both (read deployment.ethUsdPool .token0 ())
    (read deployment.ethUsdPool .slot0 ())
  ofResult (usdPrice deployment answers.1 answers.2)

end V3
end Uniswap
end Evm
end TradingAggregators
