import TradingAggregators.Evm.Dexes.Uniswap.Reading

/-!
# `evm/dexes/uniswap/v4.rs`

A v4 pool is its key: the two currencies, the fee and the hooks.  Its id is the hash of the
encoded key.
-/

namespace TradingAggregators
namespace Evm

open Interaction Rust Wire

/-! ## Keys -/

/-- Which currency is ETH (native zero address or WETH) and which is the token. -/
structure EthSide where
  isCurrency0 : Bool
  token : Address
  deriving DecidableEq

namespace PoolKey

open Uniswap

def isEth (weth currency : Address) : Bool :=
  currency = zeroAddress ∨ currency = weth

def ethSide (key : PoolKey) (weth : Address) : Option EthSide :=
  match isEth weth key.currency0, isEth weth key.currency1 with
  | true, false => some { isCurrency0 := true, token := key.currency1 }
  | false, true => some { isCurrency0 := false, token := key.currency0 }
  | _, _ => none

def fromAbi (key : AbiPoolKey) : PoolKey where
  currency0 := key.currency0
  currency1 := key.currency1
  fee := UInt32.ofNat key.fee.toNat
  tickSpacing := Int32.ofInt key.tickSpacing.toInt
  hooks := key.hooks

/-- `U24::try_from`. -/
def feeWord (fee : UInt32) : TradeResult U24 :=
  if fee.toNat < 2 ^ 24 then .ok (BitVec.ofNat 24 fee.toNat)
  else fail (venueError "v4 fee exceeds 24 bits")

/-- `I24::try_from`. -/
def tickSpacingWord (tickSpacing : Int32) : TradeResult I24 :=
  if -2 ^ 23 ≤ tickSpacing.toInt ∧ tickSpacing.toInt < 2 ^ 23 then
    .ok (BitVec.ofInt 24 tickSpacing.toInt)
  else fail (venueError "v4 tick spacing exceeds 24 bits")

def toAbi (key : PoolKey) : TradeResult AbiPoolKey := do
  let fee ← feeWord key.fee
  let tickSpacing ← tickSpacingWord key.tickSpacing
  pure {
    currency0 := key.currency0
    currency1 := key.currency1
    fee := fee
    tickSpacing := tickSpacing
    hooks := key.hooks }

/-- `keccak256(abi.encode(key))`, the id v4 stores pool state under. -/
def id [Alloy] [SolTypes] (key : PoolKey) : TradeResult (FixedBytes 32) := do
  let key ← key.toAbi
  pure (Alloy.keccak256 (SolTypes.abiEncodeKey key))

end PoolKey

namespace Uniswap
namespace V4

open Interaction.Proc (ofResult)

/-- Fee (hundredths of a bip) and tick spacing of the standard hookless tiers. -/
def standardTiers : List (UInt32 × Int32) := [(100, 1), (500, 10), (3000, 60), (10000, 200)]

def positionManagerIdLen : ℕ := 25

/-- v4 orders currencies by address; the native zero address always comes first. -/
def hooklessKey (eth token : Address) (tier : UInt32 × Int32) : PoolKey where
  currency0 := if eth < token then eth else token
  currency1 := if eth < token then token else eth
  fee := tier.1
  tickSpacing := tier.2
  hooks := zeroAddress

/-- The key named for a token is no hookless ETH pool of it. -/
def notOfficial : Fault TradeError :=
  .err (venueError "v4 key must be a hookless ETH pool for this token")

/-- The ETH side of a key, where the key is a hookless ETH pool of the token. -/
def tradedSide (key : PoolKey) (weth token : Address) : Result TradeError EthSide :=
  match (key.ethSide weth).filter fun side => side.token = token ∧ key.hooks = zeroAddress with
  | some side => .ok side
  | none => .error notOfficial

/-- `try_into::<u128>`. -/
def exactAmount (x : Amount) : TradeResult U128 :=
  if x.toNat < 2 ^ 128 then .ok (x.setWidth 128)
  else fail (venueError "amount too large for a v4 quote")

variable [Alloy] [SolTypes] {σ : Type}

def initialized (deployment : UniswapDeployment) (key : PoolKey) :
    Task σ (Option UniswapPool) := do
  let id ← ofResult key.id
  let slot0 ← read deployment.v4StateView .getSlot0 id
  -- An uninitialized pool reads as all zeros.
  pure (if slot0.sqrtPriceX96 ≠ 0 then some (.v4 key) else none)

def find (deployment : UniswapDeployment) (token : Address) : Task σ (List UniswapPool) := do
  let keys := [zeroAddress, deployment.weth].flatMap fun eth =>
    standardTiers.map (hooklessKey eth token)
  let results ← inParallel (keys.map (initialized deployment))
  let found ← ofResult (collect results)
  pure found.reduceOption

/-- A hookless key with the id that was asked for; an unknown id reads back as an all-zero
key, which fails the id check. -/
def routable (key : PoolKey) (id : FixedBytes 32) : TradeResult Bool :=
  if key.hooks = zeroAddress then key.id.map fun keyId => decide (keyId = id) else .ok false

/-- The part of `eth_pool` that follows the lookup of the key. -/
def keyEthPool (deployment : UniswapDeployment) (id : FixedBytes 32) (key : PoolKey) :
    Task σ (Option EthPool) := do
  let routable ← ofResult (routable key id)
  match (key.ethSide deployment.weth).filter fun _ => routable with
  | none => pure none
  | some eth => do
      let pool ← initialized deployment key
      pure (pool.map fun pool => { token := eth.token, pool := pool })

/-- The PositionManager records the key of every pool it has minted into. -/
def ethPool (deployment : UniswapDeployment) (id : FixedBytes 32) : Task σ (Option EthPool) := do
  match ← tryRead deployment.v4PositionManager .poolKeys
      (.ofBytes positionManagerIdLen (id.bytes.take positionManagerIdLen)) with
  | none => pure none
  | some key => keyEthPool deployment id (.fromAbi key)

def quoteParams (key : AbiPoolKey) (swap : SwapIn) (eth : EthSide) (exactAmount : U128) :
    QuoteExactSingleParams where
  poolKey := key
  zeroForOne := decide (swap.direction = .buy) == eth.isCurrency0
  exactAmount := exactAmount
  hookData := []

/-- The part of `quote` that follows the reads. -/
def price (eth : EthSide) (slot0 : TradeResult GetSlot0Return)
    (quoted : TradeResult QuoteExactSingleReturn) : TradeResult PoolQuote := do
  let slot0 ← slot0
  let quoted ← quoted
  pure {
    amountOut := quoted.amountOut
    ethPerToken := ethPerToken (priceFromSqrt (slot0.sqrtPriceX96.setWidth 256)) eth.isCurrency0 }

def quote (deployment : UniswapDeployment) (key : PoolKey) (swap : SwapIn) :
    Task σ PoolQuote := do
  let eth ← ofResult (tradedSide key deployment.weth swap.token)
  let abiKey ← ofResult key.toAbi
  let exactAmount ← ofResult (exactAmount swap.amount)
  let id ← ofResult key.id
  let answers ← Proc.both (read deployment.v4StateView .getSlot0 id)
    (read deployment.v4Quoter .v4QuoteExactInputSingle (quoteParams abiKey swap eth exactAmount))
  ofResult (price eth answers.1 answers.2)

end V4
end Uniswap
end Evm
end TradingAggregators
