import TradingAggregators.Evm.Dexes.Uniswap.Abi

/-!
# One concrete contract ABI

The calls and returns of the adapter as Solidity encodes them: a selector and one word for each
value.  Only the v4 quoter takes a dynamic argument.
-/

namespace TradingAggregators
namespace Evm
namespace Uniswap

open Wire

/-! ## Words -/

/-- One word. -/
def word (n : ℕ) : Bytes :=
  beBytes 32 n

/-- An address, on the right of its word. -/
def addressWord (a : Address) : Bytes :=
  List.replicate 12 0 ++ a.bytes

/-- A signed word. -/
def signedWord (x : I24) : Bytes :=
  word (x.signExtend 256).toNat

def boolWord (b : Bool) : Bytes :=
  word (if b then 1 else 0)

/-- The `i`-th word of a return value. -/
def readWord (data : Bytes) (i : ℕ) : Except String ℕ :=
  if 32 * (i + 1) ≤ data.length then .ok (ofBeBytes ((data.drop (32 * i)).take 32))
  else .error "ABI decoding failed: buffer overrun while deserializing"

/-- The low bytes of a word. -/
def addressOf (n : ℕ) : Address :=
  .ofBytes 20 (beBytes 20 n)

/-! ## Calls -/

def selector : Function → Bytes
  | .getPair => [0xe6, 0xa4, 0x39, 0x05]
  | .token0 => [0x0d, 0xfe, 0x16, 0x81]
  | .token1 => [0xd2, 0x12, 0x20, 0xa7]
  | .getReserves => [0x09, 0x02, 0xf1, 0xac]
  | .getPool => [0x16, 0x98, 0xee, 0x82]
  | .fee => [0xdd, 0xca, 0x3f, 0x43]
  | .slot0 => [0x38, 0x50, 0xc7, 0xbd]
  | .quoteExactInputSingle => [0xc6, 0xa5, 0x02, 0x6a]
  | .poolKeys => [0x86, 0xb6, 0xbe, 0x7d]
  | .getSlot0 => [0xc8, 0x15, 0x64, 0x1c]
  | .v4QuoteExactInputSingle => [0xaa, 0x9d, 0x21, 0xcb]
  | .allowance => [0xdd, 0x62, 0xed, 0x3e]
  | .approve => [0x09, 0x5e, 0xa7, 0xb3]
  | .buy => [0xd8, 0x98, 0xff, 0xa1]
  | .sell => [0x29, 0xa8, 0x0d, 0x4c]

def keyWords (key : AbiPoolKey) : Bytes :=
  addressWord key.currency0 ++ addressWord key.currency1 ++ word key.fee.toNat ++
    signedWord key.tickSpacing ++ addressWord key.hooks

def versionNumber : Version → ℕ
  | .v2 => 0
  | .v3 => 1
  | .v4 => 2

def poolWords (pool : RouterPool) : Bytes :=
  word (versionNumber pool.version) ++ addressWord pool.pool ++ keyWords pool.v4Key

def arguments : (f : Function) → f.Call → Bytes
  | .getPair, call => addressWord call.tokenA ++ addressWord call.tokenB
  | .token0, _ | .token1, _ | .getReserves, _ | .fee, _ | .slot0, _ => []
  | .getPool, call =>
      addressWord call.tokenA ++ addressWord call.tokenB ++ word call.fee.toNat
  | .quoteExactInputSingle, params =>
      addressWord params.tokenIn ++ addressWord params.tokenOut ++ word params.amountIn.toNat ++
        word params.fee.toNat ++ word params.sqrtPriceLimitX96.toNat
  | .poolKeys, id => id.bytes ++ List.replicate 7 0
  | .getSlot0, id => id.bytes
  | .v4QuoteExactInputSingle, params =>
      word 32 ++ keyWords params.poolKey ++ boolWord params.zeroForOne ++
        word params.exactAmount.toNat ++ word 256 ++ word params.hookData.length ++
        params.hookData ++ List.replicate ((32 - params.hookData.length % 32) % 32) 0
  | .allowance, call => addressWord call.owner ++ addressWord call.spender
  | .approve, call => addressWord call.spender ++ word call.amount.toNat
  | .buy, call =>
      poolWords call.pool ++ addressWord call.token ++ word call.minOut.toNat ++
        word call.feeBps.toNat ++ word call.deadline.toNat
  | .sell, call =>
      poolWords call.pool ++ addressWord call.token ++ word call.amountIn.toNat ++
        word call.minOut.toNat ++ word call.feeBps.toNat ++ word call.deadline.toNat

/-! ## Returns -/

def decode : (f : Function) → Bytes → Except String f.Return
  | .getPair, data | .token0, data | .token1, data | .getPool, data => do
      pure (addressOf (← readWord data 0))
  | .getReserves, data => do
      pure {
        reserve0 := BitVec.ofNat 112 (← readWord data 0)
        reserve1 := BitVec.ofNat 112 (← readWord data 1)
        blockTimestampLast := UInt32.ofNat (← readWord data 2) }
  | .fee, data => do
      pure (BitVec.ofNat 24 (← readWord data 0))
  | .slot0, data => do
      pure {
        sqrtPriceX96 := BitVec.ofNat 160 (← readWord data 0)
        tick := BitVec.ofNat 24 (← readWord data 1)
        observationIndex := UInt16.ofNat (← readWord data 2)
        observationCardinality := UInt16.ofNat (← readWord data 3)
        observationCardinalityNext := UInt16.ofNat (← readWord data 4)
        feeProtocol := UInt8.ofNat (← readWord data 5)
        unlocked := (← readWord data 6) ≠ 0 }
  | .quoteExactInputSingle, data => do
      pure {
        amountOut := amount (← readWord data 0)
        sqrtPriceX96After := BitVec.ofNat 160 (← readWord data 1)
        initializedTicksCrossed := UInt32.ofNat (← readWord data 2)
        gasEstimate := amount (← readWord data 3) }
  | .poolKeys, data => do
      pure {
        currency0 := addressOf (← readWord data 0)
        currency1 := addressOf (← readWord data 1)
        fee := BitVec.ofNat 24 (← readWord data 2)
        tickSpacing := BitVec.ofNat 24 (← readWord data 3)
        hooks := addressOf (← readWord data 4) }
  | .getSlot0, data => do
      pure {
        sqrtPriceX96 := BitVec.ofNat 160 (← readWord data 0)
        tick := BitVec.ofNat 24 (← readWord data 1)
        protocolFee := BitVec.ofNat 24 (← readWord data 2)
        lpFee := BitVec.ofNat 24 (← readWord data 3) }
  | .v4QuoteExactInputSingle, data => do
      pure {
        amountOut := amount (← readWord data 0)
        gasEstimate := amount (← readWord data 1) }
  | .allowance, data | .buy, data | .sell, data => do
      pure (amount (← readWord data 0))
  | .approve, data => do
      pure ((← readWord data 0) ≠ 0)

/-- The conversion to a double is exact for the numbers that a double holds. -/
@[reducible] def referenceAbi : SolTypes where
  abiEncode f call := selector f ++ arguments f call
  abiDecodeReturns := decode
  abiEncodeKey := keyWords
  f64FromAmount x := Float.ofNat x.toNat

end Uniswap
end Evm
end TradingAggregators
