import TradingAggregators.Solana.Dex

/-!
# `solana/dexes/pumpswap/mod.rs`

Quotes and swaps on a PumpSwap pool, computed from the pool account and the balances of its
vaults.  What the two `OnceLock`s hold when a call starts is a parameter, as for Pump.fun.
-/

namespace TradingAggregators
namespace Solana
namespace PumpSwap

open Interaction Rust Wire
open Interaction.Proc (ofResult tryBoth)

def programId : Pubkey := pubkey "pAMMBay6oceH9fJKBRHGP5D4bD4sWpmSwMn52FMfXEA"
def feeProgramId : Pubkey := pubkey "pfeeUxB6jkeY1Hxd7CsFCAjcbHA9rWtchMGdZ6VojVZ"
def defaultSolUsdcPool : Pubkey := pubkey "Gf7sXMoP8iRw4iiXmJ1nq4vxcRycbGXy5RL8a8LnTd3v"

def pumpfunProgramId : Pubkey := pubkey "6EF8rrecthR5Dkzon8Nwu78hRvfCKubJ14M5uBEwF6P"

def name : String := "pumpswap"
def buyExactQuoteInIxName : String := "buy_exact_quote_in"
def sellIxName : String := "sell"
def solOnly : String := "pumpswap trades SOL-paired pools only; use an aggregator for USDC"
/-- Graduation always creates pool index 0 for a token. -/
def canonicalPoolIndex : UInt16 := 0

/-- The venue is none of the programs that the SDK's own instructions call. -/
theorem programId_ne :
    programId ≠ systemProgram ∧ programId ≠ tokenProgram ∧ programId ≠ ataProgram ∧
      programId ≠ computeBudgetProgram := by
  decide +kernel

/-! ## Accounts -/

structure PoolAccount where
  discriminator : UInt64
  poolBump : UInt8
  index : UInt16
  creator : Pubkey
  baseMint : Pubkey
  quoteMint : Pubkey
  lpMint : Pubkey
  poolBaseTokenAccount : Pubkey
  poolQuoteTokenAccount : Pubkey
  lpSupply : UInt64
  coinCreator : Pubkey
  isMayhemMode : Bool
  isCashbackCoin : Bool

def PoolAccount.codec : Codec PoolAccount :=
  let key := Codec.fixed 32
  (Codec.u64.seq <| Codec.u8.seq <| Codec.u16.seq <| key.seq <| key.seq <| key.seq <|
    key.seq <| key.seq <| key.seq <| Codec.u64.seq <| key.seq <| Codec.bool.seq <|
    Codec.bool).iso
    (fun (discriminator, bump, index, creator, base, quote, lp, baseVault, quoteVault, supply,
        coinCreator, mayhem, cashback) =>
      ⟨discriminator, bump, index, creator, base, quote, lp, baseVault, quoteVault, supply,
        coinCreator, mayhem, cashback⟩)
    (fun p => (p.discriminator, p.poolBump, p.index, p.creator, p.baseMint, p.quoteMint,
      p.lpMint, p.poolBaseTokenAccount, p.poolQuoteTokenAccount, p.lpSupply, p.coinCreator,
      p.isMayhemMode, p.isCashbackCoin))
    fun _ => rfl

/-- A `?` in an `anyhow` function on an error that is kept as its text. -/
def anyText {α : Type} (r : Except String α) : Result AnyError α :=
  r.mapError fun msg => .err (.other msg)

def decodePool (data : Bytes) : Result AnyError (PoolAccount × Int) := do
  let (pool, remaining) ← anyText (PoolAccount.codec.decode data)
  -- Older accounts predate the appended virtual quote reserve field.
  if remaining = [] then pure (pool, 0)
  else do
    let (reserves, _) ← anyText (Codec.i128.decode remaining)
    pure (pool, reserves.toInt)

def effectiveQuoteReserves (vaultBalance : UInt64) (virtualReserves : Int) :
    Result AnyError UInt64 := do
  let reserves := (vaultBalance.toNat : Int) + virtualReserves
  failIf (reserves ≥ 2 ^ 127) (.err (.other "pumpswap: effective quote reserves overflow"))
  failIf (¬ (0 ≤ reserves ∧ reserves < 2 ^ 64))
    (.err (.other "pumpswap: effective quote reserves outside u64 range"))
  pure (UInt64.ofNat reserves.toNat)

/-- The vaults and virtual reserves behind a pool's spot price. -/
structure PoolVaults where
  quoteMint : Pubkey
  baseVault : Pubkey
  quoteVault : Pubkey
  virtualQuoteReserves : Int

namespace PoolVaults

def decode (poolData : Bytes) (baseMint : Pubkey) : Result AnyError PoolVaults := do
  let (pool, virtualQuoteReserves) ← decodePool poolData
  failIf (pool.baseMint ≠ baseMint)
    (.err (.other ("pumpswap: pool is not for " ++ keyText baseMint)))
  pure {
    quoteMint := pool.quoteMint
    baseVault := pool.poolBaseTokenAccount
    quoteVault := pool.poolQuoteTokenAccount
    virtualQuoteReserves := virtualQuoteReserves }

/-- Quote base units per base-token base unit before the trade. -/
def spotPrice (vaults : PoolVaults) (baseBalance quoteBalance : UInt64) :
    Result AnyError Float := do
  failIf (¬ baseBalance > 0) (.err (.other "pumpswap: pool has no base reserves"))
  let quoteReserves ← effectiveQuoteReserves quoteBalance vaults.virtualQuoteReserves
  pure (quoteReserves.toFloat / baseBalance.toFloat)

end PoolVaults

structure GlobalConfigAccount where
  discriminator : UInt64
  admin : Pubkey
  lpFeeBasisPoints : UInt64
  protocolFeeBasisPoints : UInt64
  disableFlags : UInt8
  protocolFeeRecipients : Vector Pubkey 8
  coinCreatorFeeBasisPoints : UInt64
  adminSetCoinCreatorAuthority : Pubkey
  whitelistPda : Pubkey
  reservedFeeRecipient : Pubkey
  mayhemModeEnabled : Bool
  reservedFeeRecipients : Vector Pubkey 7
  isCashbackEnabled : Bool
  buybackFeeRecipients : Vector Pubkey 8

def GlobalConfigAccount.codec : Codec GlobalConfigAccount :=
  let key := Codec.fixed 32
  (Codec.u64.seq <| key.seq <| Codec.u64.seq <| Codec.u64.seq <| Codec.u8.seq <|
    (key.array 8).seq <| Codec.u64.seq <| key.seq <| key.seq <| key.seq <| Codec.bool.seq <|
    (key.array 7).seq <| Codec.bool.seq <| key.array 8).iso
    (fun (discriminator, admin, lpBps, protocolBps, flags, recipients, creatorBps, setAuthority,
        whitelist, reserved, mayhem, reservedRecipients, cashback, buyback) =>
      ⟨discriminator, admin, lpBps, protocolBps, flags, recipients, creatorBps, setAuthority,
        whitelist, reserved, mayhem, reservedRecipients, cashback, buyback⟩)
    (fun g => (g.discriminator, g.admin, g.lpFeeBasisPoints, g.protocolFeeBasisPoints,
      g.disableFlags, g.protocolFeeRecipients, g.coinCreatorFeeBasisPoints,
      g.adminSetCoinCreatorAuthority, g.whitelistPda, g.reservedFeeRecipient,
      g.mayhemModeEnabled, g.reservedFeeRecipients, g.isCashbackEnabled,
      g.buybackFeeRecipients))
    fun _ => rfl

structure FeeSettings where
  standardProtocolRecipient : Pubkey
  mayhemProtocolRecipient : Pubkey
  buybackRecipient : Pubkey
  lpBps : UInt64
  protocolBps : UInt64
  creatorBps : UInt64

def FeeSettings.protocolRecipient (fees : FeeSettings) (isMayhem : Bool) : Pubkey :=
  if isMayhem then fees.mayhemProtocolRecipient else fees.standardProtocolRecipient

structure PoolState where
  coinCreator : Pubkey
  baseMint : Pubkey
  quoteMint : Pubkey
  baseVault : Pubkey
  quoteVault : Pubkey
  baseReserves : UInt64
  quoteReserves : UInt64
  isMayhem : Bool
  isCashback : Bool
  baseTokenProgram : Pubkey
  quoteTokenProgram : Pubkey

structure BuyAmounts where
  quoteIn : UInt64
  minBaseOut : UInt64

/-! ## Quoting -/

section Quote

variable [Profile]

/-- The three fees on an amount, each rounded down. -/
def poolFee (fees : FeeSettings) (creatorBps amount : UInt64) : Result AnyError UInt64 := do
  let fee ← add64 (feeFloor amount fees.lpBps) (feeFloor amount fees.protocolBps)
  add64 fee (feeFloor amount creatorBps)

/-- What of a buy's amount goes into the pool. -/
def quoteIntoPool (fees : FeeSettings) (creatorBps amount : UInt64) :
    Result AnyError UInt64 := do
  let lpAndProtocol ← add64 fees.lpBps fees.protocolBps
  let totalBps ← add64 lpAndProtocol creatorBps
  let quoteIntoPool := UInt64.ofNat (amount.toNat * 10000 / (10000 + totalBps.toNat))
  let fee ← poolFee fees creatorBps quoteIntoPool
  let cost ← add64 quoteIntoPool fee
  if cost > amount then do
    let cost ← add64 quoteIntoPool fee
    let excess ← sub64 cost amount
    pure (saturatingSub64 quoteIntoPool excess)
  else pure quoteIntoPool

def computeQuote (pool : PoolState) (fees : FeeSettings) (side : Side)
    (amount slippageBps : UInt64) : Result AnyError Quote :=
  let creatorBps := if pool.coinCreator ≠ .zero 32 then fees.creatorBps else 0
  match side with
  | .buy => do
      let quoteIntoPool ← quoteIntoPool fees creatorBps amount
      let expectedOut := baseOutForQuoteIn pool.quoteReserves pool.baseReserves
        (saturatingSub64 quoteIntoPool 1)
      let minOut ← slippageDown expectedOut slippageBps
      pure {
        inAmount := amount
        usdValue := none
        applicationFee := 0
        sponsorshipFee := 0
        expectedOut := expectedOut
        minOut := minOut
        fee := saturatingSub64 amount quoteIntoPool }
  | .sell => do
      let grossQuoteOut := quoteOutForBaseIn pool.quoteReserves pool.baseReserves amount
      let fee ← poolFee fees creatorBps grossQuoteOut
      let expectedOut := saturatingSub64 grossQuoteOut fee
      let minOut ← slippageDown expectedOut slippageBps
      pure {
        inAmount := amount
        usdValue := none
        applicationFee := 0
        sponsorshipFee := 0
        expectedOut := expectedOut
        minOut := minOut
        fee := fee }

/-- Without overflow checks every quote is computed. -/
theorem exists_computeQuote (hprofile : Profile.overflowChecks = false)
    (pool : PoolState) (fees : FeeSettings) (side : Side) (amount slippageBps : UInt64) :
    ∃ q, computeQuote pool fees side amount slippageBps = .ok q := by
  cases side with
  | buy =>
    obtain ⟨into, hinto⟩ : ∃ into, quoteIntoPool fees
        (if pool.coinCreator ≠ .zero 32 then fees.creatorBps else 0) amount = .ok into := by
      unfold quoteIntoPool poolFee add64 sub64
      simp only [plain_of_unchecked hprofile, ok_bind]
      split_ifs <;> exact ⟨_, rfl⟩
    unfold computeQuote slippageDown sub64
    simp only [plain_of_unchecked hprofile, hinto]
    exact ⟨_, rfl⟩
  | sell =>
    unfold computeQuote slippageDown poolFee add64 sub64
    simp only [plain_of_unchecked hprofile]
    exact ⟨_, rfl⟩

end Quote

/-! ## Derived addresses -/

section Venue

variable [Sdk]

/-- The token's graduated SOL pool. -/
def canonicalPoolPda (mint : Pubkey) : Pubkey :=
  let poolAuthority := pda [textBytes "pool-authority", mint.bytes] pumpfunProgramId
  pda [textBytes "pool", leBytes 2 canonicalPoolIndex.toNat, poolAuthority.bytes, mint.bytes,
    wsol.bytes] programId

def globalConfigPda : Pubkey :=
  pda [textBytes "global_config"] programId

def eventAuthorityPda : Pubkey :=
  pda [textBytes "__event_authority"] programId

def coinCreatorVaultAuthorityPda (coinCreator : Pubkey) : Pubkey :=
  pda [textBytes "creator_vault", coinCreator.bytes] programId

def globalVolumePda : Pubkey :=
  pda [textBytes "global_volume_accumulator"] programId

def userVolumePda (user : Pubkey) : Pubkey :=
  pda [textBytes "user_volume_accumulator", user.bytes] programId

def feeConfigPda : Pubkey :=
  pda [textBytes "fee_config", programId.bytes] feeProgramId

def poolV2Pda (baseMint : Pubkey) : Pubkey :=
  pda [textBytes "pool-v2", baseMint.bytes] programId

/-! ## Reading the chain -/

/-- The SOL/USDC pool and its vaults, which never change. -/
def solUsdcPriceAccounts (solUsdcPool : Pubkey) (cached : Option (Pubkey × Pubkey)) :
    AnyTask Unit (Pubkey × Pubkey × Pubkey) :=
  match cached with
  | some (usdcVault, solVault) => pure (solUsdcPool, usdcVault, solVault)
  | none => do
      let response ← ask (.getAccount solUsdcPool)
      let account ← ofResult (clientResult response)
      let vaults ← ofResult (PoolVaults.decode account.data usdcMint)
      pure (solUsdcPool, vaults.baseVault, vaults.quoteVault)

/-- `none` for tokens without a graduated SOL pool, including USDC-paired ones. -/
def findMarket (mint : Pubkey) : AnyTask Unit (Option NativeMarket) := do
  let address := canonicalPoolPda mint
  let response ← ask (.getAccountWithCommitment address .client)
  let response ← ofResult (clientResult response)
  match response.value.filter fun account => account.owner = programId with
  | none => pure none
  | some account => do
      let (pool, _) ← ofResult (decodePool account.data)
      pure (if pool.baseMint = mint && pool.quoteMint = wsol then
        some { source := .pumpSwap, pool := address } else none)

def feeSettings (cached : Option FeeSettings) : AnyTask Unit FeeSettings :=
  match cached with
  | some fees => pure fees
  | none => do
      let response ← ask (.getAccount globalConfigPda)
      let account ← ofResult (clientResult response)
      let gc ← ofResult (decodeAccount GlobalConfigAccount.codec account.data)
      pure {
        standardProtocolRecipient := firstRecipient gc.protocolFeeRecipients
        mayhemProtocolRecipient := gc.reservedFeeRecipient
        buybackRecipient := firstRecipient gc.buybackFeeRecipients
        lpBps := gc.lpFeeBasisPoints
        protocolBps := gc.protocolFeeBasisPoints
        creatorBps := gc.coinCreatorFeeBasisPoints }

/-- The checks of `load_pool` on the pool account itself. -/
def poolOfMint (poolAddress mint : Pubkey) (data : Bytes) :
    Result AnyError (PoolAccount × Int) := do
  let (pool, virtualQuoteReserves) ← (decodePool data).mapError
    (inContext ("pumpswap: bad pool " ++ keyText poolAddress ++ ": "))
  failIf (pool.baseMint ≠ mint)
    (.err (.other ("pumpswap: pool base mint " ++ keyText pool.baseMint ++
      " != requested mint " ++ keyText mint)))
  pure (pool, virtualQuoteReserves)

/-- The token programs that own the two mints. -/
def tokenPrograms (mints : List (Option Account)) : Result AnyError (Pubkey × Pubkey) := do
  let base ← index mints 0
  let base ← okOr base (.other "pumpswap: base mint not found")
  let quote ← index mints 1
  let quote ← okOr quote (.other "pumpswap: quote mint not found")
  pure (base.owner, quote.owner)

def tokenAccountBalance (account : Pubkey) : AnyTask Unit String := do
  let response ← ask (.getTokenAccountBalance account)
  ofResult (clientResult response)

/-- The pool's state from the texts of its vault balances. -/
def poolState (pool : PoolAccount) (virtualQuoteReserves : Int) (programs : Pubkey × Pubkey)
    (baseBalance quoteBalance : String) : Result AnyError PoolState := do
  let baseReserves ← anyText (parseU64 baseBalance)
  let quoteBalance ← anyText (parseU64 quoteBalance)
  let quoteReserves ← effectiveQuoteReserves quoteBalance virtualQuoteReserves
  pure {
    coinCreator := pool.coinCreator
    baseMint := pool.baseMint
    quoteMint := pool.quoteMint
    baseVault := pool.poolBaseTokenAccount
    quoteVault := pool.poolQuoteTokenAccount
    baseReserves := baseReserves
    quoteReserves := quoteReserves
    isMayhem := pool.isMayhemMode
    isCashback := pool.isCashbackCoin
    baseTokenProgram := programs.1
    quoteTokenProgram := programs.2 }

def loadPool (poolAddress mint : Pubkey) : AnyTask Unit PoolState := do
  let response ← ask (.getAccount poolAddress)
  let account ← ofResult (clientResult response)
  let (pool, virtualQuoteReserves) ← ofResult (poolOfMint poolAddress mint account.data)
  let response ← ask (.getMultipleAccounts [pool.baseMint, pool.quoteMint])
  let mints ← ofResult (clientResult response)
  let programs ← ofResult (tokenPrograms mints)
  let (baseBalance, quoteBalance) ← tryBoth (tokenAccountBalance pool.poolBaseTokenAccount)
    (tokenAccountBalance pool.poolQuoteTokenAccount)
  ofResult (poolState pool virtualQuoteReserves programs baseBalance quoteBalance)

/-! ## Instructions -/

def namedAccounts (p : Trade) (poolAddress : Pubkey) (pool : PoolState) (fees : FeeSettings) :
    List AccountMeta :=
  let creatorVaultAuthority := coinCreatorVaultAuthorityPda pool.coinCreator
  let protocolRecipient := fees.protocolRecipient pool.isMayhem
  [.writable poolAddress false,
    .writable p.wallet true,
    .readonly globalConfigPda false,
    .readonly pool.baseMint false,
    .readonly pool.quoteMint false,
    .writable (ata p.wallet pool.baseMint pool.baseTokenProgram) false,
    .writable (ata p.wallet pool.quoteMint pool.quoteTokenProgram) false,
    .writable pool.baseVault false,
    .writable pool.quoteVault false,
    .readonly protocolRecipient false,
    .writable (ata protocolRecipient pool.quoteMint pool.quoteTokenProgram) false,
    .readonly pool.baseTokenProgram false,
    .readonly pool.quoteTokenProgram false,
    .readonly systemProgram false,
    .readonly ataProgram false,
    .readonly eventAuthorityPda false,
    .readonly programId false,
    .writable (ata creatorVaultAuthority pool.quoteMint pool.quoteTokenProgram) false,
    .readonly creatorVaultAuthority false]

def remainingAccounts (p : Trade) (pool : PoolState) (fees : FeeSettings) (side : Side) :
    List AccountMeta :=
  (if pool.isCashback then
    .writable (ata (userVolumePda p.wallet) pool.quoteMint pool.quoteTokenProgram) false ::
      (if side = .sell then [.writable (userVolumePda p.wallet) false] else [])
  else []) ++
  (if pool.coinCreator ≠ .zero 32 then [.readonly (poolV2Pda pool.baseMint) false] else []) ++
  [.readonly fees.buybackRecipient false,
    .writable (ata fees.buybackRecipient pool.quoteMint pool.quoteTokenProgram) false]

def swapAccounts (p : Trade) (poolAddress : Pubkey) (pool : PoolState) (fees : FeeSettings) :
    List AccountMeta :=
  namedAccounts p poolAddress pool fees ++
  (if p.side = .buy then
    [.readonly globalVolumePda false, .writable (userVolumePda p.wallet) false] else []) ++
  [.readonly feeConfigPda false, .readonly feeProgramId false] ++
  remainingAccounts p pool fees p.side

def buyInstructions (p : Trade) (poolAddress : Pubkey) (pool : PoolState) (fees : FeeSettings)
    (amounts : BuyAmounts) : List Instruction :=
  let userQuoteAta := ata p.wallet pool.quoteMint pool.quoteTokenProgram
  [createAtaIdempotent p.wallet p.wallet pool.baseMint pool.baseTokenProgram,
    createAtaIdempotent p.wallet p.wallet pool.quoteMint pool.quoteTokenProgram,
    systemTransfer p.wallet userQuoteAta amounts.quoteIn,
    syncNative userQuoteAta,
    { programId := programId
      accounts := swapAccounts p poolAddress pool fees
      data := anchorDiscriminator buyExactQuoteInIxName ++ le64 amounts.quoteIn ++
        le64 amounts.minBaseOut ++ [trackVolume] },
    closeAccount userQuoteAta p.wallet p.wallet]

def sellInstructions (trade : Trade) (poolAddress : Pubkey) (pool : PoolState)
    (fees : FeeSettings) (minQuoteOut : UInt64) : List Instruction :=
  let quoteAta := ata trade.wallet wsol pool.quoteTokenProgram
  [createAtaIdempotent trade.wallet trade.wallet pool.quoteMint pool.quoteTokenProgram,
    { programId := programId
      accounts := swapAccounts trade poolAddress pool fees
      data := anchorDiscriminator sellIxName ++ le64 trade.amount ++ le64 minQuoteOut },
    closeAccount quoteAta trade.wallet trade.wallet]

/-! ## The venue -/

/-- The pool a trade names, or its mint's graduated pool. -/
def poolOf (trade : Trade) : Pubkey :=
  trade.pool.getD (canonicalPoolPda trade.mint)

/-- Loads the trade's pool and fees, accepting only SOL-settled trades on SOL pools. -/
def loadSolPool (cached : Option FeeSettings) (trade : Trade) :
    AnyTask Unit (Pubkey × PoolState × FeeSettings) := do
  Proc.failIf (trade.settlement ≠ .sol) (.err (.other solOnly))
  let pool ← loadPool (poolOf trade) trade.mint
  Proc.failIf (pool.quoteMint ≠ wsol) (.err (.other solOnly))
  let fees ← feeSettings cached
  pure (poolOf trade, pool, fees)

section Trading

variable [Profile]

def quote (cached : Option FeeSettings) (p : Trade) : AnyTask Unit Quote := do
  let (_, pool, fees) ← loadSolPool cached p
  ofResult (computeQuote pool fees p.side p.amount p.slippageBps)

def swapInstructions (p : Trade) (poolAddress : Pubkey) (pool : PoolState)
    (fees : FeeSettings) (quote : Quote) : List Instruction :=
  match p.side with
  | .buy => buyInstructions p poolAddress pool fees ⟨p.amount, quote.minOut⟩
  | .sell => sellInstructions p poolAddress pool fees quote.minOut

def prepareSwap (cached : Option FeeSettings) (p : Trade) : AnyTask Unit PreparedSwap := do
  let (poolAddress, pool, fees) ← loadSolPool cached p
  let quote ← ofResult (computeQuote pool fees p.side p.amount p.slippageBps)
  pure {
    venue := name
    quote := quote
    instructions := swapInstructions p poolAddress pool fees quote
    lookupTables := []
    format := .v0 }

def dex (cached : Option FeeSettings) : Dex where
  name := name
  quote := quote cached
  prepareSwap := prepareSwap cached
  prepareSponsoredSwap := Dex.unsponsored name

end Trading
end Venue
end PumpSwap
end Solana
end TradingAggregators
