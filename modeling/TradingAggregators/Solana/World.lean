import TradingAggregators.Aggregators
import TradingAggregators.Interaction.Procedure
import TradingAggregators.Solana.Types

/-!
# What the Solana code asks its environment

Every call that leaves the process is a question: the RPC node, the provider APIs, the
price feed, the clock, the signers and the submitter.  The answers are arbitrary values of
the type the Rust call returns, so nothing is assumed about the parties behind them.
-/

namespace TradingAggregators
namespace Solana

open Aggregators Interaction Rust Wire

/-! ## RPC types -/

structure Account where
  owner : Pubkey
  data : Bytes

/-- The commitment of a read: the RPC client's own, or `confirmed`. -/
inductive Commitment where
  | client
  | confirmed
  deriving DecidableEq

/-- The value of a simulation response; `err` is the debug text of the error. -/
structure SimulationResult where
  err : Option String
  logs : Option (List String)
  unitsConsumed : Option UInt64
  preBalances : Option (List UInt64)
  postBalances : Option (List UInt64)
  fee : Option UInt64

/-- Nanoseconds since the Unix epoch. -/
abbrev SystemTime := Int

structure SolUsdcPrice where
  usdcUnitsPerSol : UInt64
  observedAt : SystemTime

/-! ## Relay's request options and transaction data for Solana -/

/-- `SolanaOptions` of `sources/relay/mod.rs`. -/
structure SolanaOptions where
  includeComputeUnitLimit : Bool
  depositFeePayer : Option String
  useV1Transaction : Bool

/-- `TransactionData` of `sources/relay/mod.rs`. -/
structure TransactionData where
  chainId : Option UInt64
  instructions : List ApiInstruction
  transactionVersion : Option UInt8
  transactionConfig : TransactionConfig

/-! ## Questions -/

inductive Query where
  | getAccount (key : Pubkey)
  | getAccountWithCommitment (key : Pubkey) (commitment : Commitment)
  | getMultipleAccounts (keys : List Pubkey)
  | getTokenAccountBalance (key : Pubkey)
  | getBalance (key : Pubkey) (commitment : Commitment)
  | getLatestBlockhash
  | simulateTransaction (tx : VersionedTransaction) (replaceRecentBlockhash : Bool)
  | getSignatureStatus (sig : Signature)
  | jupiterBuild (request : Jupiter.BuildRequest)
  | dflowQuote (request : DFlow.QuoteRequest)
  | dflowInstructions (request : DFlow.InstructionsRequest)
  | bloxrouteInstructions (request : Bloxroute.InstructionsRequest)
  | relayQuote (request : Relay.QuoteRequest String SolanaOptions)
  | solUsdcPrice
  | now
  | userSign (wallet : Pubkey) (tx : VersionedTransaction)
  | sponsorSign (wallet : Pubkey) (tx : VersionedTransaction)
  | submit (tx : VersionedTransaction)

/-- A response with the slot it was read at. -/
structure RpcResponse (α : Type) where
  slot : UInt64
  value : α

abbrev Answer : Query → Type
  | .getAccount _ => Except ClientError Account
  | .getAccountWithCommitment _ _ => Except ClientError (RpcResponse (Option Account))
  | .getMultipleAccounts _ => Except ClientError (List (Option Account))
  | .getTokenAccountBalance _ => Except ClientError String
  | .getBalance _ _ => Except ClientError UInt64
  | .getLatestBlockhash => Except ClientError Hash
  | .simulateTransaction _ _ => Except ClientError SimulationResult
  | .getSignatureStatus _ => Except ClientError (Option (Except String Unit))
  | .jupiterBuild _ => Except TradeError Jupiter.BuildResponse
  | .dflowQuote _ => Except TradeError (Value × DFlow.QuoteResponse)
  | .dflowInstructions _ => Except TradeError DFlow.InstructionsResponse
  | .bloxrouteInstructions _ => Except TradeError Bloxroute.InstructionsResponse
  | .relayQuote _ => Except TradeError (Relay.QuoteResponse String TransactionData)
  | .solUsdcPrice => Except String SolUsdcPrice
  | .now => SystemTime
  | .userSign _ _ => Except String Signature
  | .sponsorSign _ _ => Except String Signature
  | .submit _ => Except String Signature

/-- An asynchronous function of the crate with a mutable variable of type `σ`. -/
abbrev Task (σ α : Type) := Proc Answer σ (Fault TradeError) α

/-- An asynchronous function that returns `anyhow::Result`. -/
abbrev AnyTask (σ α : Type) := Proc Answer σ (Fault AnyError) α

/-- Ask the environment. -/
abbrev ask {σ ε : Type} (q : Query) : Proc Answer σ ε (Answer q) :=
  Proc.ask q

/-- The transaction that a question hands to a key or to the network. -/
def Query.released : Query → Option VersionedTransaction
  | .userSign _ tx | .sponsorSign _ tx | .submit tx => some tx
  | _ => none

/-- A question that releases nothing. -/
def Query.Harmless (q : Query) : Prop :=
  q.released = none

theorem asks_harmless {σ ε : Type} {q : Query} (h : q.released = none) :
    (ask q : Proc Answer σ ε (Answer q)).Asks Query.Harmless :=
  Proc.asks_ask h

/-! ## Answers as results -/

variable {σ α : Type}

/-- `map_err(|source| TradeError::Rpc { context, source })`. -/
def rpcResult (context : String) (r : Except ClientError α) : TradeResult α :=
  r.mapError fun source => .err (.rpc context source)

/-- A `?` on an RPC answer inside an `anyhow` function. -/
def clientResult (r : Except ClientError α) : Result AnyError α :=
  r.mapError fun source => .err (.other source)

/-- A `?` on an answer of a provider API. -/
def apiResult (r : Except TradeError α) : TradeResult α :=
  r.mapError .err

@[simp] theorem rpcResult_eq_ok {context : String} {r : Except ClientError α} {a : α} :
    rpcResult context r = .ok a ↔ r = .ok a :=
  mapError_eq_ok

@[simp] theorem clientResult_eq_ok {r : Except ClientError α} {a : α} :
    clientResult r = .ok a ↔ r = .ok a :=
  mapError_eq_ok

@[simp] theorem apiResult_eq_ok {r : Except TradeError α} {a : α} :
    apiResult r = .ok a ↔ r = .ok a :=
  mapError_eq_ok

/-- A `?` in an `anyhow` function on a call that returns a `TradeError`. -/
def anyhowTask (x : Task σ α) : AnyTask σ α :=
  Proc.mapErr (fun
    | .err e => .err (.trade e)
    | .panicked => .panicked) x

/-- `dex_err`: an adapter's error is its `TradeError` when it holds one. -/
def dexErr (venue : String) (x : AnyTask σ α) : Task σ α :=
  Proc.mapErr (fun
    | .err (.trade e) => .err e
    | .err (.other msg) => .err (.venue venue msg)
    | .panicked => .panicked) x

theorem runs_anyhowTask_ok {x : Task σ α} {s s' : σ} {tr : Trace Answer} {a : α}
    (h : (anyhowTask x).Runs s tr (.ok a) s') : x.Runs s tr (.ok a) s' := by
  obtain ⟨c, hc, ha⟩ := Proc.runs_mapErr.mp h
  rw [mapError_eq_ok.mp ha.symm] at hc
  exact hc

theorem runs_dexErr_ok {venue : String} {x : AnyTask σ α} {s s' : σ} {tr : Trace Answer} {a : α}
    (h : (dexErr venue x).Runs s tr (.ok a) s') : x.Runs s tr (.ok a) s' := by
  obtain ⟨c, hc, ha⟩ := Proc.runs_mapErr.mp h
  rw [mapError_eq_ok.mp ha.symm] at hc
  exact hc

end Solana
end TradingAggregators
