import TradingAggregators.Evm.Types

/-!
# `evm/dexes/uniswap/abi.rs`

The contract functions the adapter calls, with what they take and return.  `SolTypes` is the
code that the `sol!` macro and its crates make of them, which is not part of the repository:
nothing is assumed about it.
-/

namespace TradingAggregators
namespace Evm
namespace Uniswap

open Wire

/-! ## Words -/

abbrev U24 := BitVec 24

/-- A signed word: its value is `toInt`. -/
abbrev I24 := BitVec 24

abbrev U112 := BitVec 112

abbrev U160 := BitVec 160

/-! ## Structures -/

/-- `PoolKey` as it is encoded. -/
structure AbiPoolKey where
  currency0 : Address
  currency1 : Address
  fee : U24
  tickSpacing : I24
  hooks : Address
  deriving DecidableEq

/-- `getPair`. -/
structure GetPairCall where
  tokenA : Address
  tokenB : Address

structure GetReservesReturn where
  reserve0 : U112
  reserve1 : U112
  blockTimestampLast : UInt32

/-- `getPool`. -/
structure GetPoolCall where
  tokenA : Address
  tokenB : Address
  fee : U24

/-- `slot0` of a v3 pool. -/
structure Slot0Return where
  sqrtPriceX96 : U160
  tick : I24
  observationIndex : UInt16
  observationCardinality : UInt16
  observationCardinalityNext : UInt16
  feeProtocol : UInt8
  unlocked : Bool

structure QuoteExactInputSingleParams where
  tokenIn : Address
  tokenOut : Address
  amountIn : Amount
  fee : U24
  sqrtPriceLimitX96 : U160

structure QuoteExactInputSingleReturn where
  amountOut : Amount
  sqrtPriceX96After : U160
  initializedTicksCrossed : UInt32
  gasEstimate : Amount

/-- `getSlot0` of v4's state view. -/
structure GetSlot0Return where
  sqrtPriceX96 : U160
  tick : I24
  protocolFee : U24
  lpFee : U24

structure QuoteExactSingleParams where
  poolKey : AbiPoolKey
  zeroForOne : Bool
  exactAmount : U128
  hookData : Bytes

structure QuoteExactSingleReturn where
  amountOut : Amount
  gasEstimate : Amount

structure AllowanceCall where
  owner : Address
  spender : Address

structure ApproveCall where
  spender : Address
  amount : Amount

/-- `ICswapRouter::Version`. -/
inductive Version where
  | v2
  | v3
  | v4
  deriving DecidableEq

/-- `ICswapRouter::Pool`. -/
structure RouterPool where
  version : Version
  pool : Address
  v4Key : AbiPoolKey
  deriving DecidableEq

structure BuyCall where
  pool : RouterPool
  token : Address
  minOut : Amount
  feeBps : UInt16
  deadline : Amount

structure SellCall where
  pool : RouterPool
  token : Address
  amountIn : Amount
  minOut : Amount
  feeBps : UInt16
  deadline : Amount

/-! ## Functions -/

/-- The functions of the interfaces that the adapter calls. -/
inductive Function where
  /-- Of `IUniswapV2Factory`. -/
  | getPair
  /-- Of `IUniswapV2Pair` and of `IUniswapV3Pool`. -/
  | token0
  | token1
  | getReserves
  /-- Of `IUniswapV3Factory`. -/
  | getPool
  /-- Of `IUniswapV3Pool`. -/
  | fee
  | slot0
  /-- Of `IQuoterV2`. -/
  | quoteExactInputSingle
  /-- Of `IPositionManager`. -/
  | poolKeys
  /-- Of `IStateView`. -/
  | getSlot0
  /-- `quoteExactInputSingle` of `IV4Quoter`. -/
  | v4QuoteExactInputSingle
  /-- Of `IERC20`. -/
  | allowance
  | approve
  /-- Of `ICswapRouter`. -/
  | buy
  | sell
  deriving DecidableEq

namespace Function

/-- What a function takes. -/
abbrev Call : Function → Type
  | .getPair => GetPairCall
  | .token0 | .token1 | .getReserves | .fee | .slot0 => Unit
  | .getPool => GetPoolCall
  | .quoteExactInputSingle => QuoteExactInputSingleParams
  | .poolKeys => FixedBytes 25
  | .getSlot0 => FixedBytes 32
  | .v4QuoteExactInputSingle => QuoteExactSingleParams
  | .allowance => AllowanceCall
  | .approve => ApproveCall
  | .buy => BuyCall
  | .sell => SellCall

/-- What a function returns. -/
abbrev Return : Function → Type
  | .getPair | .token0 | .token1 | .getPool => Address
  | .getReserves => GetReservesReturn
  | .fee => U24
  | .slot0 => Slot0Return
  | .quoteExactInputSingle => QuoteExactInputSingleReturn
  | .poolKeys => AbiPoolKey
  | .getSlot0 => GetSlot0Return
  | .v4QuoteExactInputSingle => QuoteExactSingleReturn
  | .allowance | .buy | .sell => Amount
  | .approve => Bool

/-- `SolCall::SIGNATURE`. -/
def signature : Function → String
  | .getPair => "getPair(address,address)"
  | .token0 => "token0()"
  | .token1 => "token1()"
  | .getReserves => "getReserves()"
  | .getPool => "getPool(address,address,uint24)"
  | .fee => "fee()"
  | .slot0 => "slot0()"
  | .quoteExactInputSingle =>
      "quoteExactInputSingle((address,address,uint256,uint24,uint160))"
  | .poolKeys => "poolKeys(bytes25)"
  | .getSlot0 => "getSlot0(bytes32)"
  | .v4QuoteExactInputSingle =>
      "quoteExactInputSingle(((address,address,uint24,int24,address),bool,uint128,bytes))"
  | .allowance => "allowance(address,address)"
  | .approve => "approve(address,uint256)"
  | .buy => "buy((uint8,address,(address,address,uint24,int24,address)),address,uint256,uint16,uint256)"
  | .sell =>
      "sell((uint8,address,(address,address,uint24,int24,address)),address,uint256,uint256,uint16,uint256)"

end Function

/-- The functions that the adapter calls in the crates behind `sol!` and `U256`. -/
class SolTypes where
  /-- `SolCall::abi_encode`. -/
  abiEncode : (f : Function) → f.Call → Bytes
  /-- `SolCall::abi_decode_returns`. -/
  abiDecodeReturns : (f : Function) → Bytes → Except String f.Return
  /-- `SolValue::abi_encode` of a pool key. -/
  abiEncodeKey : AbiPoolKey → Bytes
  /-- `f64::from`. -/
  f64FromAmount : Amount → Float

end Uniswap
end Evm
end TradingAggregators
