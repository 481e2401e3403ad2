import TradingAggregators.Solana.Dex

/-!
# `solana/dexes/pumpfun/mod.rs`

Quotes and swaps on a Pump.fun bonding curve, computed from the curve account itself.  The
`OnceLock` of the fee settings is written at most once, so what it holds when a call starts
is a parameter of the functions that read it.
-/

namespace TradingAggregators
namespace Solana
namespace PumpFun

open Interaction Rust Wire
open Interaction.Proc (ofResult)

def programId : Pubkey := pubkey "6EF8rrecthR5Dkzon8Nwu78hRvfCKubJ14M5uBEwF6P"
def feeProgramId : Pubkey := pubkey "pfeeUxB6jkeY1Hxd7CsFCAjcbHA9rWtchMGdZ6VojVZ"

def name : String := "pumpfun"
def buyIxName : String := "buy_exact_sol_in"
def sellIxName : String := "sell"
def solOnly : String := "pumpfun trades SOL only; use an aggregator for USDC"

/-- The venue is none of the programs that the SDK's own instructions call. -/
theorem programId_ne :
    programId ≠ systemProgram ∧ programId ≠ tokenProgram ∧ programId ≠ ataProgram ∧
      programId ≠ computeBudgetProgram := by
  decide +kernel

/-! ## Accounts -/

/-- Discriminator, 5 u64 amounts, complete, creator, 2 flags, quote mint. -/
def bondingCurveLen : ℕ := 8 + 5 * 8 + 1 + 32 + 1 + 1 + 32

structure BondingCurveAccount where
  discriminator : UInt64
  virtualTokenReserves : UInt64
  virtualQuoteReserves : UInt64
  realTokenReserves : UInt64
  realQuoteReserves : UInt64
  tokenTotalSupply : UInt64
  complete : Bool
  creator : Pubkey
  isMayhemMode : Bool
  isCashbackCoin : Bool
  quoteMint : Pubkey

namespace BondingCurveAccount

def codec : Codec BondingCurveAccount :=
  (Codec.u64.seq <| Codec.u64.seq <| Codec.u64.seq <| Codec.u64.seq <| Codec.u64.seq <|
    Codec.u64.seq <| Codec.bool.seq <| (Codec.fixed 32).seq <| Codec.bool.seq <|
    Codec.bool.seq <| Codec.fixed 32).iso
    (fun (discriminator, virtualToken, virtualQuote, realToken, realQuote, supply, complete,
        creator, mayhem, cashback, quoteMint) =>
      ⟨discriminator, virtualToken, virtualQuote, realToken, realQuote, supply, complete,
        creator, mayhem, cashback, quoteMint⟩)
    (fun c => (c.discriminator, c.virtualTokenReserves, c.virtualQuoteReserves,
      c.realTokenReserves, c.realQuoteReserves, c.tokenTotalSupply, c.complete, c.creator,
      c.isMayhemMode, c.isCashbackCoin, c.quoteMint))
    fun _ => rfl

/-- SOL curves leave `quote_mint` unset; other currencies are not supported here. -/
def isSolQuoted (c : BondingCurveAccount) : Bool :=
  c.quoteMint = .zero 32 || c.quoteMint = wsol

end BondingCurveAccount

/-- The oldest curves end right after `complete`.  Zero-filling reads their missing fields as
unset: no creator (so no creator fee), both flags false, and a SOL quote. -/
def decodeCurve (data : Bytes) : Result AnyError BondingCurveAccount :=
  decodeAccount BondingCurveAccount.codec
    (data ++ List.replicate (bondingCurveLen - data.length) 0)

structure GlobalAccount where
  discriminator : UInt64
  initialized : Bool
  authority : Pubkey
  feeRecipient : Pubkey
  initialVirtualTokenReserves : UInt64
  initialVirtualSolReserves : UInt64
  initialRealTokenReserves : UInt64
  tokenTotalSupply : UInt64
  feeBasisPoints : UInt64
  withdrawAuthority : Pubkey
  enableMigrate : Bool
  poolMigrationFee : UInt64
  creatorFeeBasisPoints : UInt64
  feeRecipients : Vector Pubkey 7
  setCreatorAuthority : Pubkey
  adminSetCreatorAuthority : Pubkey
  createV2Enabled : Bool
  whitelistPda : Pubkey
  reservedFeeRecipient : Pubkey
  mayhemModeEnabled : Bool
  reservedFeeRecipients : Vector Pubkey 7
  isCashbackEnabled : Bool
  buybackFeeRecipients : Vector Pubkey 8

def GlobalAccount.codec : Codec GlobalAccount :=
  let key := Codec.fixed 32
  (Codec.u64.seq <| Codec.bool.seq <| key.seq <| key.seq <| Codec.u64.seq <| Codec.u64.seq <|
    Codec.u64.seq <| Codec.u64.seq <| Codec.u64.seq <| key.seq <| Codec.bool.seq <|
    Codec.u64.seq <| Codec.u64.seq <| (key.array 7).seq <| key.seq <| key.seq <|
    Codec.bool.seq <| key.seq <| key.seq <| Codec.bool.seq <| (key.array 7).seq <|
    Codec.bool.seq <| key.array 8).iso
    (fun (discriminator, initialized, authority, feeRecipient, virtualToken, virtualSol,
        realToken, supply, feeBps, withdraw, migrate, migrationFee, creatorBps, recipients,
        setCreator, adminSetCreator, createV2, whitelist, reserved, mayhem, reservedRecipients,
        cashback, buyback) =>
      ⟨discriminator, initialized, authority, feeRecipient, virtualToken, virtualSol,
        realToken, supply, feeBps, withdraw, migrate, migrationFee, creatorBps, recipients,
        setCreator, adminSetCreator, createV2, whitelist, reserved, mayhem, reservedRecipients,
        cashback, buyback⟩)
    (fun g => (g.discriminator, g.initialized, g.authority, g.feeRecipient,
      g.initialVirtualTokenReserves, g.initialVirtualSolReserves, g.initialRealTokenReserves,
      g.tokenTotalSupply, g.feeBasisPoints, g.withdrawAuthority, g.enableMigrate,
      g.poolMigrationFee, g.creatorFeeBasisPoints, g.feeRecipients, g.setCreatorAuthority,
      g.adminSetCreatorAuthority, g.createV2Enabled, g.whitelistPda, g.reservedFeeRecipient,
      g.mayhemModeEnabled, g.reservedFeeRecipients, g.isCashbackEnabled,
      g.buybackFeeRecipients))
    fun _ => rfl

structure FeeSettings where
  standardRecipient : Pubkey
  mayhemRecipient : Pubkey
  buybackRecipient : Pubkey
  protocolBps : UInt64
  creatorBps : UInt64

def FeeSettings.recipient (fees : FeeSettings) (isMayhem : Bool) : Pubkey :=
  if isMayhem then fees.mayhemRecipient else fees.standardRecipient

structure Curve where
  creator : Pubkey
  baseReserves : UInt64
  quoteReserves : UInt64
  realTokenReserves : UInt64
  isMayhem : Bool
  isCashback : Bool
  tokenProgram : Pubkey

/-! ## Quoting -/

section Quote

variable [Profile]

/-- The bps a buy pays on top of what goes into the curve. -/
def totalBps (curve : Curve) (fees : FeeSettings) : Result AnyError UInt64 :=
  add64 fees.protocolBps (if curve.creator ≠ .zero 32 then fees.creatorBps else 0)

def solIntoCurve (amount totalBps : UInt64) : UInt64 :=
  UInt64.ofNat ((amount.toNat - 1) * 10000 / (totalBps.toNat + 10000))

def computeQuote (curve : Curve) (fees : FeeSettings) (side : Side)
    (amount slippageBps : UInt64) : Result AnyError Quote :=
  match side with
  | .buy => do
      let totalBps ← totalBps curve fees
      let solIntoCurve := solIntoCurve amount totalBps
      let curveOutput := baseOutForQuoteIn curve.quoteReserves curve.baseReserves solIntoCurve
      let expectedOut := min curveOutput curve.realTokenReserves
      let minOut ← slippageDown expectedOut slippageBps
      pure {
        inAmount := amount
        usdValue := none
        applicationFee := 0
        sponsorshipFee := 0
        expectedOut := expectedOut
        minOut := minOut
        fee := saturatingSub64 amount solIntoCurve }
  | .sell => do
      let grossSolOut := quoteOutForBaseIn curve.quoteReserves curve.baseReserves amount
      let fee ← add64 (feeCeil grossSolOut fees.protocolBps)
        (if curve.creator ≠ .zero 32 then feeCeil grossSolOut fees.creatorBps else 0)
      let expectedOut := saturatingSub64 grossSolOut fee
      let minOut ← slippageDown expectedOut slippageBps
      pure {
        inAmount := amount
        usdValue := none
        applicationFee := 0
        sponsorshipFee := 0
        expectedOut := expectedOut
        minOut := minOut
        fee := fee }

/-- Without overflow checks every quote is computed. -/
theorem exists_computeQuote (hprofile : Profile.overflowChecks = false)
    (curve : Curve) (fees : FeeSettings) (side : Side) (amount slippageBps : UInt64) :
    ∃ q, computeQuote curve fees side amount slippageBps = .ok q := by
  unfold computeQuote totalBps slippageDown add64 sub64
  simp only [plain_of_unchecked hprofile]
  cases side with
  | buy => exact ⟨_, rfl⟩
  | sell => exact ⟨_, rfl⟩

/-- Fees with nothing to pay. -/
def noFees : FeeSettings where
  standardRecipient := .zero 32
  mayhemRecipient := .zero 32
  buybackRecipient := .zero 32
  protocolBps := 0
  creatorBps := 0

end Quote

/-! ## Derived addresses -/

section Venue

variable [Sdk]

/-- A byte-string literal `b"…"`. -/
def seed (text : String) : Bytes :=
  textBytes text

def bondingCurvePda (mint : Pubkey) : Pubkey :=
  pda [seed "bonding-curve", mint.bytes] programId

def globalPda : Pubkey :=
  pda [seed "global"] programId

def eventAuthorityPda : Pubkey :=
  pda [seed "__event_authority"] programId

def creatorVaultPda (creator : Pubkey) : Pubkey :=
  pda [seed "creator-vault", creator.bytes] programId

def globalVolumePda : Pubkey :=
  pda [seed "global_volume_accumulator"] programId

def userVolumePda (user : Pubkey) : Pubkey :=
  pda [seed "user_volume_accumulator", user.bytes] programId

def feeConfigPda : Pubkey :=
  pda [seed "fee_config", programId.bytes] feeProgramId

def bondingCurveV2Pda (mint : Pubkey) : Pubkey :=
  pda [seed "bonding-curve-v2", mint.bytes] programId

/-! ## Reading the chain -/

/-- Lamports per token base unit at the curve's pre-trade price.  A curve stores no mint, so
its address is checked against the mint's derived curve. -/
def curveSpotPrice (curveAddress mint : Pubkey) (curveData : Bytes) : Result AnyError Float := do
  failIf (curveAddress ≠ bondingCurvePda mint)
    (.err (.other ("pumpfun: " ++ keyText curveAddress ++ " is not the bonding curve of " ++
      keyText mint)))
  let curve ← decodeCurve curveData
  failIf (¬ (curve.isSolQuoted ∧ curve.virtualTokenReserves > 0))
    (.err (.other "pumpfun: curve has no SOL price"))
  pure (curve.virtualQuoteReserves.toFloat / curve.virtualTokenReserves.toFloat)

/-- `none` once graduated, never launched here, or priced in a currency other than SOL. -/
def findMarket (mint : Pubkey) : AnyTask Unit (Option NativeMarket) := do
  let response ← ask (.getAccountWithCommitment (bondingCurvePda mint) .client)
  let response ← ofResult (clientResult response)
  match response.value.filter fun account => account.owner = programId with
  | none => pure none
  | some account => do
      let curve ← ofResult (decodeCurve account.data)
      pure (if !curve.complete && curve.isSolQuoted then
        some { source := .pumpFun, pool := bondingCurvePda mint } else none)

def feeSettings (cached : Option FeeSettings) : AnyTask Unit FeeSettings :=
  match cached with
  | some fees => pure fees
  | none => do
      let response ← ask (.getAccount globalPda)
      let account ← ofResult (clientResult response)
      let global ← ofResult (decodeAccount GlobalAccount.codec account.data)
      pure {
        standardRecipient := global.feeRecipient
        mayhemRecipient := global.reservedFeeRecipient
        buybackRecipient := firstRecipient global.buybackFeeRecipients
        protocolBps := global.feeBasisPoints
        creatorBps := global.creatorFeeBasisPoints }

/-- The checks of `load_curve` on the two accounts it read. -/
def curveOf (curveAddress mint : Pubkey) (accounts : List (Option Account)) :
    Result AnyError Curve := do
  let curveAccount ← index accounts 0
  let curveAccount ← okOr curveAccount
    (.other ("pumpfun: bonding curve not found: " ++ keyText curveAddress))
  let mintAccount ← index accounts 1
  let mintAccount ← okOr mintAccount (.other ("pumpfun: mint not found: " ++ keyText mint))
  let c ← (decodeCurve curveAccount.data).mapError
    (inContext ("pumpfun: bad bonding curve " ++ keyText curveAddress ++ ": "))
  failIf c.complete
    (.err (.other ("pumpfun: bonding curve complete — " ++ keyText mint ++
      " graduated; trade it via PumpSwap/Jupiter")))
  failIf (¬ c.isSolQuoted)
    (.err (.other ("pumpfun: " ++ keyText mint ++ " is priced in " ++ keyText c.quoteMint ++
      "; only SOL-quoted curves are supported, use an aggregator")))
  pure {
    creator := c.creator
    baseReserves := c.virtualTokenReserves
    quoteReserves := c.virtualQuoteReserves
    realTokenReserves := c.realTokenReserves
    isMayhem := c.isMayhemMode
    isCashback := c.isCashbackCoin
    tokenProgram := mintAccount.owner }

def loadCurve (curveAddress mint : Pubkey) : AnyTask Unit Curve := do
  let response ← ask (.getMultipleAccounts [curveAddress, mint])
  let accounts ← ofResult (clientResult response)
  ofResult (curveOf curveAddress mint accounts)

/-! ## Instructions -/

def buyIx (p : Trade) (pool : Pubkey) (curve : Curve) (fees : FeeSettings)
    (spendableSol minTokens : UInt64) : Instruction where
  programId := programId
  accounts :=
    [.readonly globalPda false,
      .writable (fees.recipient curve.isMayhem) false,
      .readonly p.mint false,
      .writable pool false,
      .writable (ata pool p.mint curve.tokenProgram) false,
      .writable (ata p.wallet p.mint curve.tokenProgram) false,
      .writable p.wallet true,
      .readonly systemProgram false,
      .readonly curve.tokenProgram false,
      .writable (creatorVaultPda curve.creator) false,
      .readonly eventAuthorityPda false,
      .readonly programId false,
      .readonly globalVolumePda false,
      .writable (userVolumePda p.wallet) false,
      .readonly feeConfigPda false,
      .readonly feeProgramId false,
      .readonly (bondingCurveV2Pda p.mint) false,
      .writable fees.buybackRecipient false]
  data := anchorDiscriminator buyIxName ++ le64 spendableSol ++ le64 minTokens ++ [trackVolume]

def sellIx (p : Trade) (pool : Pubkey) (curve : Curve) (fees : FeeSettings)
    (baseIn minSol : UInt64) : Instruction where
  programId := programId
  accounts :=
    [.readonly globalPda false,
      .writable (fees.recipient curve.isMayhem) false,
      .readonly p.mint false,
      .writable pool false,
      .writable (ata pool p.mint curve.tokenProgram) false,
      .writable (ata p.wallet p.mint curve.tokenProgram) false,
      .writable p.wallet true,
      .readonly systemProgram false,
      .writable (creatorVaultPda curve.creator) false,
      .readonly curve.tokenProgram false,
      .readonly eventAuthorityPda false,
      .readonly programId false,
      .readonly feeConfigPda false,
      .readonly feeProgramId false] ++
    -- Cashback coins require the user volume accumulator before `bonding_curve_v2`.
    (if curve.isCashback then [.writable (userVolumePda p.wallet) false] else []) ++
    [.readonly (bondingCurveV2Pda p.mint) false,
      .writable fees.buybackRecipient false]
  data := anchorDiscriminator sellIxName ++ le64 baseIn ++ le64 minSol

/-! ## The venue -/

section Trading

variable [Profile]

/-- The curve a trade names, or its mint's own. -/
def poolOf (p : Trade) : Pubkey :=
  p.pool.getD (bondingCurvePda p.mint)

def quote (cached : Option FeeSettings) (p : Trade) : AnyTask Unit Quote := do
  Proc.failIf (p.settlement ≠ .sol) (.err (.other solOnly))
  let curve ← loadCurve (poolOf p) p.mint
  let fees ← feeSettings cached
  ofResult (computeQuote curve fees p.side p.amount p.slippageBps)

def swapInstructions (p : Trade) (curve : Curve) (fees : FeeSettings) (quote : Quote) :
    List Instruction :=
  match p.side with
  | .buy =>
      [createAtaIdempotent p.wallet p.wallet p.mint curve.tokenProgram,
        buyIx p (poolOf p) curve fees p.amount quote.minOut]
  | .sell => [sellIx p (poolOf p) curve fees p.amount quote.minOut]

def prepareSwap (cached : Option FeeSettings) (p : Trade) : AnyTask Unit PreparedSwap := do
  Proc.failIf (p.settlement ≠ .sol) (.err (.other solOnly))
  let curve ← loadCurve (poolOf p) p.mint
  let fees ← feeSettings cached
  let quote ← ofResult (computeQuote curve fees p.side p.amount p.slippageBps)
  pure {
    venue := name
    quote := quote
    instructions := swapInstructions p curve fees quote
    lookupTables := []
    format := .v0 }

def dex (cached : Option FeeSettings) : Dex where
  name := name
  quote := quote cached
  prepareSwap := prepareSwap cached
  prepareSponsoredSwap := Dex.unsponsored name

end Trading
end Venue
end PumpFun
end Solana
end TradingAggregators
