import TradingAggregators.Interaction.Procedure
import TradingAggregators.Wire.Base58
import TradingAggregators.Rust.Result
import TradingAggregators.Error
import TradingAggregators.Solana.Sdk
import TradingAggregators.Solana.Common
import TradingAggregators.Aggregators
import TradingAggregators.Solana.Types
import TradingAggregators.Wire.Borsh
import TradingAggregators.Solana.ProviderFee
import TradingAggregators.Solana.World
import TradingAggregators.Solana.GasSponsor
import TradingAggregators.Solana.LookupTable
import TradingAggregators.Solana.Executor
import TradingAggregators.Solana.Building
import TradingAggregators.Solana.Reimbursement
import TradingAggregators.Solana.ReferenceSdk
import TradingAggregators.Solana.SponsoredRun
import TradingAggregators.Solana.Sources.Common
import TradingAggregators.Solana.Dex
import TradingAggregators.Solana.Sources.Bloxroute
import TradingAggregators.Solana.Sources.DFlow
import TradingAggregators.Solana.Sources.Jupiter
import TradingAggregators.Solana.Sources.Relay
import TradingAggregators.Solana.Dexes.PumpFun
import TradingAggregators.Solana.Dexes.PumpSwap
import TradingAggregators.Solana.Client
import TradingAggregators.Solana.Conservation
import TradingAggregators.Solana.Preparing
import TradingAggregators.Solana.Identification
import TradingAggregators.Solana.ComputeBudget
import TradingAggregators.Solana.PoolBinding
import TradingAggregators.Solana.PoolTrades
import TradingAggregators.Market.ConstantProduct
import TradingAggregators.Solana.CurveQuote
import TradingAggregators.Evm.Types
import TradingAggregators.Evm.Alloy
import TradingAggregators.Evm.World
import TradingAggregators.Evm.Config
import TradingAggregators.Evm.Execution
import TradingAggregators.Evm.Executing
import TradingAggregators.Evm.ExecutionSafety
import TradingAggregators.Evm.Sources.Relay.Transactions
import TradingAggregators.Evm.RelaySteps
import TradingAggregators.Rust.Exact
import TradingAggregators.Solana.SponsorCharge
import TradingAggregators.Market.Rounding
import TradingAggregators.Solana.ExactQuotes
import TradingAggregators.Solana.NativeQuotes
import TradingAggregators.Solana.ProviderFees
import TradingAggregators.Solana.NativeSettlement
import TradingAggregators.Solana.SignatureSlots
import TradingAggregators.Solana.SponsoredSetup
import TradingAggregators.Evm.QuoteAge
import TradingAggregators.Evm.Sources.Relay
import TradingAggregators.Evm.SlippageBound
import TradingAggregators.Evm.Allowances
import TradingAggregators.Evm.Dexes.Uniswap.Abi
import TradingAggregators.Evm.Dexes.Uniswap.Reading
import TradingAggregators.Evm.Dexes.Uniswap.V2
import TradingAggregators.Evm.Dexes.Uniswap.V3
import TradingAggregators.Evm.Dexes.Uniswap.V4
import TradingAggregators.Evm.Dexes.Uniswap
import TradingAggregators.Evm.OfficialPools
import TradingAggregators.Evm.FeePairs
import TradingAggregators.Evm.QuoteAmounts
import TradingAggregators.Evm.PairQuote
import TradingAggregators.Evm.Discovery
import TradingAggregators.Evm.DiscoveredMarkets
import TradingAggregators.Solana.BudgetSettings
import TradingAggregators.Solana.AccountBudget
import TradingAggregators.Solana.PriorityFee
import TradingAggregators.Rust.FirstWins
import TradingAggregators.Solana.SharedTables
import TradingAggregators.Solana.AccountLayouts
import TradingAggregators.Rust.AsciiText
import TradingAggregators.Interaction.Protocol
import TradingAggregators.Solana.HexData
import TradingAggregators.Solana.SwapProtocol
import TradingAggregators.Solana.MeasuredOutput
import TradingAggregators.Solana.QuoteProtocol
import TradingAggregators.Solana.SlippageGuarantee
import TradingAggregators.Evm.Client
import TradingAggregators.Evm.Spending
import TradingAggregators.Solana.SignerClosure
import TradingAggregators.Interaction.Crash
import TradingAggregators.Solana.TableCreator
import TradingAggregators.Solana.TablePopulation
import TradingAggregators.Interaction.OnceLock
import TradingAggregators.Solana.SharedVenues
