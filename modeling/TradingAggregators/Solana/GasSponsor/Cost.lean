import TradingAggregators.Solana.World

/-!
# `solana/gas_sponsor/cost.rs`

Recovering a sponsor's cost: the transaction is simulated, the reimbursement transfer is
lowered from the reserved ceiling to the charge, and the result is simulated again.
`replaceReimbursement` and `finalizeFee` mutate the transaction, so it is their variable.
-/

namespace TradingAggregators
namespace Solana

open Interaction Rust Wire
open Interaction.Proc (ofResult within both attempt scope read update call)

def lamportsPerSol : ℕ := 1000000000
def oneUsdc : UInt64 := 1000000
/-- 30 s. -/
def maxPriceAge : Int := 30000000000

/-- Limits of a sponsor, with what its constructors keep true. -/
structure SponsorCostPolicy where
  maxCostLamports : UInt64
  maxFeeUsdc : UInt64
  serviceFeeUsdc : UInt64
  maxCost_pos : 0 < maxCostLamports
  serviceFee_lt : serviceFeeUsdc < maxFeeUsdc

namespace SponsorCostPolicy

/-- The price source is the environment's `solUsdcPrice`. -/
def new (maxCostLamports maxFeeUsdc : UInt64) : TradeResult SponsorCostPolicy :=
  if h : maxCostLamports = 0 ∨ maxFeeUsdc ≤ oneUsdc then
    buildError "cost cap must be positive and USDC cap must exceed 1 USDC"
  else
    .ok {
      maxCostLamports := maxCostLamports
      maxFeeUsdc := maxFeeUsdc
      serviceFeeUsdc := oneUsdc
      maxCost_pos := UInt64.pos_iff_ne_zero.mpr fun he => h (Or.inl he)
      serviceFee_lt := UInt64.not_le.mp fun he => h (Or.inr he) }

def withServiceFeeUsdc (p : SponsorCostPolicy) (amount : UInt64) :
    TradeResult SponsorCostPolicy :=
  if h : amount ≥ p.maxFeeUsdc then
    buildError "service fee must be below the USDC cap"
  else
    .ok { p with serviceFeeUsdc := amount, serviceFee_lt := UInt64.not_le.mp h }

def withLimits (p : SponsorCostPolicy) (maxCostLamports maxFeeUsdc : UInt64) :
    TradeResult SponsorCostPolicy :=
  if h : maxCostLamports = 0 ∨ maxFeeUsdc ≤ p.serviceFeeUsdc then
    buildError "cost cap must be positive and USDC cap must exceed the service fee"
  else
    .ok { p with
      maxCostLamports := maxCostLamports
      maxFeeUsdc := maxFeeUsdc
      maxCost_pos := UInt64.pos_iff_ne_zero.mpr fun he => h (Or.inl he)
      serviceFee_lt := UInt64.not_le.mp fun he => h (Or.inr he) }

def charge (p : SponsorCostPolicy) (cost : UInt64) (price : SolUsdcPrice) (now : SystemTime) :
    TradeResult UInt64 := do
  failIf (now < price.observedAt) (.err (.build "SOL/USDC price timestamp is in the future"))
  let age := now - price.observedAt
  failIf (price.usdcUnitsPerSol = 0 ∨ age > maxPriceAge)
    (.err (.build "SOL/USDC price must be positive and no older than 30 seconds"))
  failIf (cost > p.maxCostLamports)
    (.err (.build "simulated sponsor SOL cost exceeds the configured cap"))
  let reimbursement :=
    (cost.toNat * price.usdcUnitsPerSol.toNat + (lamportsPerSol - 1)) / lamportsPerSol
  let charge := reimbursement + p.serviceFeeUsdc.toNat
  failIf (charge > p.maxFeeUsdc.toNat)
    (.err (.build "sponsor reimbursement exceeds the configured USDC cap"))
  pure (UInt64.ofNat charge)

end SponsorCostPolicy

/-! ## Simulation -/

/-- What a simulation says the first account paid. -/
def simulationCost (simulation : SimulationResult) : TradeResult UInt64 := do
  match simulation.err with
  | some error => fail (.simulation error (simulation.logs.getD []))
  | none =>
      -- Same-simulation balances avoid attributing concurrent sponsor transactions.
      let before := simulation.preBalances.bind List.head?
      let after := simulation.postBalances.bind List.head?
      let fee ← okOr simulation.fee (.build "RPC omitted simulated network fee")
      let cost ← okOr (do checkedSub64 (← before) (← after))
        (.build "RPC omitted valid pre/post sponsor balances; cost recovery requires simulation balance metadata")
      failIf (cost < fee) (.err (.build "simulated sponsor debit is below the network fee"))
      pure cost

variable {σ : Type}

def simulatedCost (transaction : VersionedTransaction) : Task σ UInt64 := do
  let response ← ask (.simulateTransaction transaction false)
  let simulation ← ofResult (rpcResult "simulate sponsor cost" response)
  ofResult (simulationCost simulation)

/-! ## The reimbursement transfer -/

/-- Replace the instructions of a message. -/
def VersionedMessage.setInstructions (instructions : List CompiledInstruction) :
    VersionedMessage → VersionedMessage
  | .legacy m => .legacy { m with instructions := instructions }
  | .v0 m => .v0 { m with instructions := instructions }
  | .v1 m => .v1 { m with instructions := instructions }

/-- The instructions of a v0 or v1 message. -/
def VersionedMessage.replaceable : VersionedMessage → TradeResult (List CompiledInstruction)
  | .v0 m => .ok m.instructions
  | .v1 m => .ok m.instructions
  | .legacy _ => buildError "sponsor cost recovery requires a v0 or v1 transaction"

/-- Overwrite the amount of the transfer at `index`. -/
def VersionedTransaction.setAmount (index : ℕ) (charge : UInt64)
    (transaction : VersionedTransaction) : VersionedTransaction :=
  { transaction with
    message := transaction.message.setInstructions
      (transaction.message.instructions.modify index fun c =>
        { c with data := patch 1 (le64 charge) c.data }) }

def replaceReimbursement (index : ℕ) (reserved charge : UInt64) :
    Task VersionedTransaction Unit := do
  let transaction ← read
  let instructions ← ofResult transaction.message.replaceable
  let instruction ← ofResult (okOr instructions[index]? (.build "missing sponsorship transfer"))
  let expected : Bytes := [12] ++ le64 reserved ++ [6]
  Proc.failIf (instruction.data ≠ expected ∨ charge > reserved)
    (.err (.build "unexpected sponsorship transfer"))
  update (VersionedTransaction.setAmount index charge)

/-! ## Pricing a transaction -/

/-- The price request, bounded by `PRICE_TIMEOUT`. -/
def requestPrice : Task σ SolUsdcPrice :=
  within (.err (.build "SOL/USDC price request timed out")) do
    let response ← ask .solUsdcPrice
    ofResult (response.mapError fun error => .err (.build ("SOL/USDC price: " ++ error)))

def SponsorCostPolicy.finalizeFee (p : SponsorCostPolicy) (transferIndex : ℕ) :
    Task VersionedTransaction UInt64 := do
  let cost ← simulatedCost (← read)
  let price ← requestPrice
  let now ← ask .now
  let charge ← ofResult (p.charge cost price now)
  replaceReimbursement transferIndex p.maxFeeUsdc charge
  -- Account state can change between simulations and execution.
  let again ← simulatedCost (← read)
  Proc.failIf (again ≠ cost)
    (.err (.build "sponsor cost changed during preparation; request a fresh swap"))
  let now ← ask .now
  let _ ← ofResult (p.charge cost price now)
  pure charge

end Solana
end TradingAggregators
