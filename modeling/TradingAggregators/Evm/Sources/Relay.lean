import TradingAggregators.Evm.RelaySteps

/-!
# `evm/sources/relay/mod.rs`

Quoting one same-chain swap with Relay and checking what comes back: the echoed request, the
amounts, the slippage, the app fee and the steps.
-/

namespace TradingAggregators
namespace Evm
namespace Relay

open Aggregators.Relay (AppFeeRequest CurrencyAmount Fees QuoteRequest QuoteResponse Swap
  decodeError venue)
open Interaction Rust
open Interaction.Proc (ofResult)

/-- What Relay answers on EVM chains. -/
abbrev Response := QuoteResponse Address ApiTransaction

def swap (n : Network) (trade : Trade) : Swap Address where
  wallet := trade.wallet
  chainId := n.chainId
  input := trade.input.address
  output := trade.output.address
  amount := toString trade.amount.toNat
  slippageBps := toString trade.slippageBps.toNat

def options : EvmOptions where
  usePermit := false
  subsidizeFees := false

def appFees (fee : Option AppFee) : List (AppFeeRequest Address) :=
  (fee.map fun fee =>
    { recipient := fee.recipient, fee := toString fee.basisPoints.toNat }).toList

/-! ## Fees -/

/-- The fees that are charged in a currency. -/
def feesIn (fees : Fees Address) (currency : Aggregators.Relay.Currency Address) :
    List (CurrencyAmount Address) :=
  [fees.relayer, fees.app].reduceOption.filter fun fee =>
    fee.currency.chainId = currency.chainId ∧ fee.currency.address = currency.address

/-- One step of the fold in `fees_from_output`. -/
def addFee (sum : Amount) (fee : CurrencyAmount Address) : TradeResult Amount := do
  let charged ← decimal fee.amount
  pure (sum + charged)

def feesFromOutput (fees : Fees Address) (output : Aggregators.Relay.Currency Address) :
    TradeResult Amount :=
  (feesIn fees output).foldlM addFee 0

def appFee (n : Network) (fees : Fees Address) (trade : Trade) (requested : Option AppFee) :
    TradeResult (Option FeeAmount) :=
  match fees.app with
  | none =>
      if requested.isSome then .error (decodeFault "missing requested app fee") else .ok none
  | some app => do
      let charged ← decimal app.amount
      match requested with
      | none =>
          if charged = 0 then pure none else .error (decodeFault "unexpected app fee")
      | some requested => do
          failIf (app.currency.chainId ≠ n.chainId)
            (decodeFault "app fee is on a different chain")
          -- Relay may collect another currency via a conversion; its units are preserved
          -- instead of being treated as input units.
          failIf (app.currency.address = trade.input.address ∧
              charged ≠ requested.of trade.amount)
            (decodeFault "app fee differs from the requested rate")
          pure (some {
            currency :=
              if app.currency.address = zeroAddress then .native else .token app.currency.address
            amount := charged })

/-! ## The quote -/

section Quote

variable [Profile]

/-- Relay applies slippage to the output before taking its own and the app fee from it. -/
def slippageFloor (trade : Trade) (output feesFromOutput : Amount) : TradeResult Amount := do
  let floor ← trade.minOut (output + feesFromOutput)
  pure (saturatingSub floor feesFromOutput)

/-- The amount checks of `quote`; the floor is only computed when the others have passed. -/
def checkAmounts (trade : Trade) (input output minimum feesFromOutput : Amount) :
    TradeResult Unit := do
  let invalid := decodeFault "invalid quote amounts or slippage"
  failIf (input ≠ trade.amount ∨ minimum = 0 ∨ minimum > output) invalid
  let floor ← slippageFloor trade output feesFromOutput
  failIf (minimum < floor) invalid

def quote (n : Network) (response : Response) (swap : Swap Address) (trade : Trade)
    (fee : Option AppFee) : TradeResult Quote := do
  let details := response.details
  failIf (details.matches swap ≠ true)
    (decodeFault "quote does not match the requested chain, wallet or currencies")
  let input ← decimal details.currencyIn.amount
  let output ← decimal details.currencyOut.amount
  let minimum ← decimal details.currencyOut.minimumAmount
  let feesFromOutput ← feesFromOutput response.fees details.currencyOut.currency
  checkAmounts trade input output minimum feesFromOutput
  let applicationFee ← appFee n response.fees trade fee
  pure {
    chainId := n.chainId
    source := venue
    input := trade.input
    output := trade.output
    inAmount := input
    expectedOut := output
    minOut := minimum
    applicationFee := applicationFee
    usdValue := details.usdValue }

/-- What is known of the parts of an accepted response. -/
structure Quoted (n : Network) (response : Response) (swap : Swap Address) (trade : Trade)
    (fee : Option AppFee) (q : Quote) (feesTaken : Amount) : Prop where
  matched : response.details.matches swap = true
  input : decimal response.details.currencyIn.amount = .ok q.inAmount
  output : decimal response.details.currencyOut.amount = .ok q.expectedOut
  minimum : decimal response.details.currencyOut.minimumAmount = .ok q.minOut
  fees : feesFromOutput response.fees response.details.currencyOut.currency = .ok feesTaken
  amounts : checkAmounts trade q.inAmount q.expectedOut q.minOut feesTaken = .ok ()
  applicationFee : appFee n response.fees trade fee = .ok q.applicationFee
  chainId : q.chainId = n.chainId
  source : q.source = venue
  sides : q.input = trade.input ∧ q.output = trade.output
  usdValue : q.usdValue = response.details.usdValue

theorem quote_eq_ok {n : Network} {response : Response} {swap : Swap Address} {trade : Trade}
    {fee : Option AppFee} {q : Quote} :
    quote n response swap trade fee = .ok q ↔
      ∃ feesTaken, Quoted n response swap trade fee q feesTaken := by
  unfold quote
  constructor
  · intro h
    obtain ⟨_, hmatched, h₁⟩ := bind_eq_ok.mp h
    obtain ⟨input, hinput, h₂⟩ := bind_eq_ok.mp h₁
    obtain ⟨output, houtput, h₃⟩ := bind_eq_ok.mp h₂
    obtain ⟨minimum, hminimum, h₄⟩ := bind_eq_ok.mp h₃
    obtain ⟨feesTaken, hfees, h₅⟩ := bind_eq_ok.mp h₄
    obtain ⟨_, hamounts, h₆⟩ := bind_eq_ok.mp h₅
    obtain ⟨applicationFee, happ, h₇⟩ := bind_eq_ok.mp h₆
    rw [failIf_eq_ok, not_not] at hmatched
    cases pure_eq_ok.mp h₇
    exact ⟨feesTaken, hmatched, hinput, houtput, hminimum, hfees, hamounts, happ, rfl, rfl,
      ⟨rfl, rfl⟩, rfl⟩
  · rintro ⟨feesTaken, h⟩
    refine bind_eq_ok.mpr ⟨(), failIf_eq_ok.mpr (not_not.mpr h.matched), ?_⟩
    refine bind_eq_ok.mpr ⟨_, h.input, bind_eq_ok.mpr ⟨_, h.output, ?_⟩⟩
    refine bind_eq_ok.mpr ⟨_, h.minimum, bind_eq_ok.mpr ⟨_, h.fees, ?_⟩⟩
    refine bind_eq_ok.mpr ⟨(), h.amounts, bind_eq_ok.mpr ⟨_, h.applicationFee, ?_⟩⟩
    rw [pure_eq_ok]
    obtain ⟨chainId, source, input, output, inAmount, expectedOut, minOut, app, usdValue⟩ := q
    have hchain := h.chainId
    have hsource := h.source
    obtain ⟨hin, hout⟩ := h.sides
    have husd := h.usdValue
    cases hchain
    cases hsource
    cases hin
    cases hout
    cases husd
    rfl

end Quote

/-! ## Preparing -/

/-- A decoded response is something to execute: nothing else comes out of `decode`. -/
theorem decode_sound {n : Network} {trade : Trade}
    {steps : List (Aggregators.Relay.Step ApiTransaction)} {txs : List Transaction}
    (h : decode n trade steps = .ok txs) :
    txs ≠ [] ∧ ∀ t ∈ txs, t.chainId = n.chainId ∧ t.sender = trade.wallet := by
  obtain ⟨apis, api, approvals, swap, -, rfl, happrovals, -, hswap⟩ := decode_eq_ok h
  refine ⟨List.append_ne_nil_of_right_ne_nil _ (List.cons_ne_nil _ _), fun t ht => ?_⟩
  rcases List.mem_append.mp ht with ht | ht
  · obtain ⟨api', -, haccepts⟩ := exists_of_forall₂ happrovals ht
    have hdecoded := haccepts.isApproval.decoded
    exact ⟨hdecoded.onChain, hdecoded.fromWallet⟩
  · rw [List.mem_singleton.mp ht]
    exact ⟨hswap.decoded.onChain, hswap.decoded.fromWallet⟩

variable [Profile] {σ : Type}

/-- The part of `Relay::prepare` that follows the response. -/
def prepareResponse (n : Network) (trade : Trade) (fee : Option AppFee) (createdAt : Instant)
    (response : Response) : TradeResult PreparedSwap :=
  match hquote : quote n response (swap n trade) trade fee with
  | .error e => .error e
  | .ok q =>
      match hdecode : decode n trade response.steps with
      | .error e => .error e
      | .ok transactions =>
          have hchain : q.chainId = n.chainId :=
            (quote_eq_ok.mp hquote).choose_spec.chainId
          .ok {
            quote := q
            wallet := trade.wallet
            transactions := transactions
            createdAt := createdAt
            nonempty := (decode_sound hdecode).1
            onChain := fun t ht => ((decode_sound hdecode).2 t ht).1.trans hchain.symm
            fromWallet := fun t ht => ((decode_sound hdecode).2 t ht).2 }

def prepare (n : Network) (trade : Trade) (fee : Option AppFee) : Task σ PreparedSwap := do
  ofResult trade.validate
  let createdAt ← ask .instant
  let response ← ask (.relayQuote (.new (swap n trade) options (appFees fee)))
  let response ← ofResult (response.mapError .err)
  ofResult (prepareResponse n trade fee createdAt response)

end Relay
end Evm
end TradingAggregators
