import TradingAggregators.Evm.Config
import TradingAggregators.Evm.Dexes.Uniswap.Abi
import TradingAggregators.Evm.World
import TradingAggregators.Interaction.Parallel

/-!
# `evm/dexes/uniswap/mod.rs`: what the pool versions share

Reads of contracts, prices, and the types that a quote of one pool takes and returns.
-/

namespace TradingAggregators
namespace Evm
namespace Uniswap

open Interaction Rust Wire
open Interaction.Proc (ofResult)

def venue : String := "uniswap"

def venueError (message : String) : TradeError :=
  .venue venue message

/-! ## Types -/

/-- A pool as users and explorers identify it: a v2/v3 address, or a v4 pool id. -/
inductive PoolRef where
  | address (address : Address)
  | v4Id (id : FixedBytes 32)

/-- An official Uniswap pool pairing `token` with ETH that the adapter can trade. -/
structure EthPool where
  token : Address
  pool : UniswapPool
  deriving DecidableEq

/-- The deepest ETH pool for a token. -/
structure NativeMarket where
  source : QuoteSource
  pool : UniswapPool
  deriving DecidableEq

inductive Direction where
  /-- ETH in, token out. -/
  | buy
  /-- Token in, ETH out. -/
  | sell
  deriving DecidableEq

/-- What one pool says about a swap before it happens. -/
structure PoolQuote where
  amountOut : Amount
  /-- Wei per token base unit at the pre-trade price. -/
  ethPerToken : Float

/-- One exact-input swap to price against a pool. -/
structure SwapIn where
  token : Address
  direction : Direction
  amount : Amount

section Reads

variable [SolTypes] {σ α : Type}

/-! ## Prices -/

def q96 : Float := 79228162514264337593543950336.0

/-- USD display only; amounts stay exact integers. -/
def toF64 (x : Amount) : Float :=
  SolTypes.f64FromAmount x

/-- token1 base units per token0 base unit, from a Q64.96 square-root price. -/
def priceFromSqrt (sqrtPriceX96 : Amount) : Float :=
  let sqrtPrice := toF64 sqrtPriceX96 / q96
  sqrtPrice * sqrtPrice

/-- Wei per token base unit, given which side of the pool ETH is on. -/
def ethPerToken (token1PerToken0 : Float) (ethIsToken0 : Bool) : Float :=
  if ethIsToken0 then 1.0 / token1PerToken0 else token1PerToken0

/-- `f64::powi`. -/
def powi (x : Float) : ℕ → Float
  | 0 => 1.0
  | n + 1 => powi x n * x

/-! ## Reads -/

/-- The decoded output of a call. -/
def decodeReturns (f : Function) (data : Bytes) : TradeResult f.Return :=
  (SolTypes.abiDecodeReturns f data).mapError fun error =>
    .err (venueError ("decode " ++ f.signature ++ ": " ++ error))

@[simp] theorem decodeReturns_eq_ok {f : Function} {data : Bytes} {value : f.Return} :
    decodeReturns f data = .ok value ↔ SolTypes.abiDecodeReturns f data = .ok value :=
  mapError_eq_ok

def read (target : Address) (f : Function) (call : f.Call) : Task σ f.Return := do
  let data ← Node.call target (SolTypes.abiEncode f call)
  ofResult (decodeReturns f data)

/-- `none` when the call reverts or returns something else, i.e. the target is not that
contract. -/
def tryRead (target : Address) (f : Function) (call : f.Call) : Task σ (Option f.Return) := do
  let output ← Node.tryCall target (SolTypes.abiEncode f call)
  pure (output.bind fun data => (SolTypes.abiDecodeReturns f data).toOption)

/-! A read asks one question, and its result is a function of the answer. -/

/-- The result of `read` for an answer. -/
def readResult (f : Function) (response : Except CallError Bytes) : TradeResult f.Return :=
  Node.rpcResult "eth_call" (response.mapError CallError.text) >>= decodeReturns f

theorem runs_read {target : Address} {f : Function} {call : f.Call} {s s' : σ}
    {tr : Trace Answer} {r : TradeResult f.Return} (h : (read target f call).Runs s tr r s') :
    ∃ response : Except CallError Bytes,
      tr = [⟨.call target (SolTypes.abiEncode f call), response⟩] ∧ r = readResult f response := by
  unfold read at h
  rcases Proc.runs_bind.mp h with ⟨e, rfl, h₁⟩ | ⟨data, s₁, tr₁, tr₂, rfl, h₁, h₂⟩
  · obtain ⟨-, response, rfl, hr⟩ := Proc.runs_ask_ofResult.mp h₁
    exact ⟨response, rfl, by rw [readResult, ← hr]; rfl⟩
  · obtain ⟨-, response, rfl, hr⟩ := Proc.runs_ask_ofResult.mp h₁
    obtain ⟨rfl, rfl, -⟩ := Proc.runs_ofResult.mp h₂
    exact ⟨response, rfl, by rw [readResult, ← hr]; rfl⟩

theorem readResult_eq_ok {f : Function} {response : Except CallError Bytes}
    {value : f.Return} :
    readResult f response = .ok value ↔
      ∃ data, response = .ok data ∧ SolTypes.abiDecodeReturns f data = .ok value := by
  rw [readResult, bind_eq_ok]
  simp only [Node.rpcResult_eq_ok, mapError_eq_ok, decodeReturns_eq_ok]

/-- A read that is not answered as expected fails with an error of the node or of the decoder. -/
theorem readResult_eq_error {f : Function} {response : Except CallError Bytes}
    {e : Fault TradeError} (h : readResult f response = .error e) :
    (∃ text, e = .err (Node.rpcError "eth_call" text)) ∨
      ∃ text, e = .err (venueError ("decode " ++ text)) := by
  rcases bind_eq_error.mp h with h₁ | ⟨data, -, h₁⟩
  · cases response with
    | error error => exact Or.inl ⟨error.text, (Except.error.inj h₁).symm⟩
    | ok data => exact nomatch h₁
  · unfold decodeReturns at h₁
    cases hdecode : SolTypes.abiDecodeReturns f data with
    | error error =>
      rw [hdecode] at h₁
      refine Or.inr ⟨f.signature ++ ": " ++ error, ?_⟩
      rw [← String.append_assoc, ← String.append_assoc]
      exact (Except.error.inj h₁).symm
    | ok value =>
      rw [hdecode] at h₁
      exact nomatch h₁

theorem runs_tryRead_some {target : Address} {f : Function} {call : f.Call} {s s' : σ}
    {tr : Trace Answer} {value : f.Return}
    (h : (tryRead target f call).Runs s tr (.ok (some value)) s') :
    ∃ data, tr = [⟨.call target (SolTypes.abiEncode f call), .ok data⟩] ∧
      SolTypes.abiDecodeReturns f data = .ok value := by
  unfold tryRead at h
  obtain ⟨output, s₁, tr₁, tr₂, rfl, h₁, h₂⟩ := Proc.runs_bind_ok.mp h
  obtain ⟨-, response, rfl, hr⟩ := Proc.runs_ask_ofResult.mp h₁
  obtain ⟨rfl, hvalue, -⟩ := Proc.runs_pure.mp h₂
  obtain ⟨data, hdata, hdecode⟩ := Option.bind_eq_some_iff.mp (Except.ok.inj hvalue).symm
  rw [hdata, eq_comm, Node.revertAsNone_eq_some] at hr
  rw [hr, List.append_nil]
  refine ⟨data, rfl, ?_⟩
  cases hreturn : SolTypes.abiDecodeReturns f data with
  | error error =>
    rw [hreturn] at hdecode
    exact nomatch hdecode
  | ok decoded =>
    rw [hreturn] at hdecode
    rw [Option.some.inj hdecode]

end Reads

variable {σ α : Type}

/-- What `join_next` makes of the outcome of a task: no value when it panicked. -/
def joined : TradeResult α → Option (Except TradeError α)
  | .ok a => some (.ok a)
  | .error (.err e) => some (.error e)
  | .error .panicked => none

/-- Runs independent reads concurrently; results come back in completion order. -/
def inParallel (tasks : List (Task Unit α)) : Task σ (List (Except TradeError α)) := do
  let outcomes ← Proc.gather tasks
  pure (outcomes.filterMap joined)

/-- `collect::<Result<Vec<_>>>()?` over results in completion order. -/
def collect (results : List (Except TradeError α)) : TradeResult (List α) :=
  (results.mapM id).mapError .err

end Uniswap
end Evm
end TradingAggregators
