import TradingAggregators.Rust.Result

/-!
# Errors

`TradeError` is the library's error type.  Adapters return `anyhow` errors, which hold
either a `TradeError` or a rendered message; `AnyError` is that pair of cases.
-/

namespace TradingAggregators

/-- The text of an RPC client error. -/
abbrev ClientError := String

/-- `TradeError`. -/
inductive TradeError where
  | config (what url detail : String)
  | http (venue : String) (status : UInt16) (body : String)
  | network (context source : String)
  | rpc (context : String) (source : ClientError)
  | decode (venue detail : String)
  | build (msg : String)
  | simulation (error : String) (logs : List String)
  | venue (venue msg : String)
  | sign (msg : String)
  | submit (msg : String)
  deriving DecidableEq

/-- An `anyhow::Error`: a `TradeError` that can be downcast again, or any other error, kept
as its `{:#}` rendering. -/
inductive AnyError where
  | trade (e : TradeError)
  | other (msg : String)
  deriving DecidableEq

/-- Every text an error carries. -/
def TradeError.texts : TradeError → List String
  | .config what url detail => [what, url, detail]
  | .http name _ body => [name, body]
  | .network context source => [context, source]
  | .rpc context source => [context, source]
  | .decode name detail => [name, detail]
  | .build msg => [msg]
  | .simulation error logs => error :: logs
  | .venue name msg => [name, msg]
  | .sign msg => [msg]
  | .submit msg => [msg]

open Interaction Rust

variable {α : Type}

/-- Results of the library's own functions. -/
abbrev TradeResult (α : Type) := Result TradeError α

/-- `TradeError::Build`, returned. -/
def buildError (msg : String) : TradeResult α :=
  fail (.build msg)

/-- A `?` that turns a `TradeError` into an `anyhow` error. -/
def anyhow (r : TradeResult α) : Result AnyError α :=
  r.mapError fun
    | .err e => .err (.trade e)
    | .panicked => .panicked

end TradingAggregators
