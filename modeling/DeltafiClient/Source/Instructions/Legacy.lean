import DeltafiClient.Source.Struct
import DeltafiClient.Source.Web3

/-!
# `src/lib/client/src/instructions.ts`: the older swap encoders and the farm encoders

These encoders give every 64-bit field `new NumberU64(x).toBuffer()` of a `number |
NumberU64` argument, under `Uint64Layout`. `layout.ts` does not export `Uint64Layout` any
more and the module `./fees` they take `Fees` from is not in the snapshot; both are
modelled from the spec. `farmWithdrawInstruction` passes its amount as the number itself.

The file's second part repeats the admin encoders of `instructions/admin.ts` from
`createRampAInstruction` on, with the same `AdminInstruction` numbers and `Account` for
`Keypair`; it is those definitions (`Instructions/Admin.lean`).
-/

namespace DeltafiClient.Source.Instructions.Legacy

open Runtime Runtime.Layout

/-- Modelled from the spec: `Uint64Layout` is missing from `layout.ts`; the spec gives a
64-bit field 8 bytes on the wire. It is taken to be the `uint64` layout of
`@solana/spl-token`, `BufferLayout.blob(8, property)`, which is what the encoders expect of
it: they hand it the 8-byte buffer of `toBuffer()`. -/
def Uint64Layout (property : String) : Layout := blob 8 property

/-- Modelled from the spec: the module `./fees` is missing. Its shape is read off the
encoders that use it: they read the eight fee fields by name and pass each to
`new NumberU64(...)`. -/
structure Fees where
  adminTradeFeeNumerator : NumericArg
  adminTradeFeeDenominator : NumericArg
  adminWithdrawFeeNumerator : NumericArg
  adminWithdrawFeeDenominator : NumericArg
  tradeFeeNumerator : NumericArg
  tradeFeeDenominator : NumericArg
  withdrawFeeNumerator : NumericArg
  withdrawFeeDenominator : NumericArg
  deriving DecidableEq, Repr

/-- `new NumberU64(x).toBuffer()`. -/
def u64Buffer (x : NumericArg) : Except JsError Buffer := NumberU64.ofArg x >>= NumberU64.toBuffer

/-- The eight fee fields by name, in the order of the layouts and of the object literals. -/
def Fees.fields (fees : Fees) : List (String × NumericArg) :=
  [ ("adminTradeFeeNumerator", fees.adminTradeFeeNumerator),
    ("adminTradeFeeDenominator", fees.adminTradeFeeDenominator),
    ("adminWithdrawFeeNumerator", fees.adminWithdrawFeeNumerator),
    ("adminWithdrawFeeDenominator", fees.adminWithdrawFeeDenominator),
    ("tradeFeeNumerator", fees.tradeFeeNumerator),
    ("tradeFeeDenominator", fees.tradeFeeDenominator),
    ("withdrawFeeNumerator", fees.withdrawFeeNumerator),
    ("withdrawFeeDenominator", fees.withdrawFeeDenominator) ]

/-- The data of the encoders that send `u8` fields and then 64-bit amounts: the layout
`struct([u8(name), ..., Uint64Layout(name), ...])` and the object literal with the numbers
as given and each amount as `new NumberU64(amount).toBuffer()`, evaluated in order. -/
def amountsData (bytes : List (String × JsNumber)) (amounts : List (String × NumericArg))
    (sliced : Bool) : Except JsError Buffer := do
  let buffers ← amounts.mapM fun (name, x) => do
    let b ← u64Buffer x
    pure (name, JsValue.buffer b)
  encodeData
    (struct (bytes.map (fun (name, _) => u8 name) ++ amounts.map fun (name, _) => Uint64Layout name)
      none)
    (.object (bytes.map (fun (name, n) => (name, JsValue.number n)) ++ buffers)) sliced

/-- A tag as the number literal of the source. -/
def tagNumber (n : Nat) : JsNumber := .finite n

def createInitSwapInstruction (tokenSwapAccount : Keypair) (authority adminAccount adminFeeAccountA
    adminFeeAccountB tokenMintA tokenAccountA tokenMintB tokenAccountB poolTokenMint
    poolTokenAccount swapProgramId tokenProgramId : PublicKey) (nonce : JsNumber)
    (ampFactor : NumericArg) (fees : Fees) : Except JsError TransactionInstruction := do
  let keys : List AccountMeta :=
    [ ⟨tokenSwapAccount.publicKey, false, true⟩, ⟨authority, false, false⟩,
      ⟨adminAccount, false, false⟩, ⟨adminFeeAccountA, false, false⟩,
      ⟨adminFeeAccountB, false, false⟩, ⟨tokenMintA, false, false⟩,
      ⟨tokenAccountA, false, false⟩, ⟨tokenMintB, false, false⟩,
      ⟨tokenAccountB, false, false⟩, ⟨poolTokenMint, false, true⟩,
      ⟨poolTokenAccount, false, true⟩, ⟨tokenProgramId, false, false⟩ ]
  let data ← amountsData [("instruction", tagNumber 0), ("nonce", nonce)]
    (("ampFactor", ampFactor) :: fees.fields) true
  pure { keys, programId := swapProgramId, data }

def swapInstruction (tokenSwap authority userSource poolSource poolDestination userDestination
    adminDestination swapProgramId tokenProgramId : PublicKey)
    (amountIn minimumAmountOut : NumericArg) : Except JsError TransactionInstruction := do
  let data ← amountsData [("instruction", tagNumber 1)]
    [("amountIn", amountIn), ("minimumAmountOut", minimumAmountOut)] false
  let keys : List AccountMeta :=
    [ ⟨tokenSwap, false, false⟩, ⟨authority, false, false⟩, ⟨userSource, false, true⟩,
      ⟨poolSource, false, true⟩, ⟨poolDestination, false, true⟩,
      ⟨userDestination, false, true⟩, ⟨adminDestination, false, true⟩,
      ⟨tokenProgramId, false, false⟩, ⟨SYSVAR_CLOCK_PUBKEY, false, false⟩ ]
  pure { keys, programId := swapProgramId, data }

def depositInstruction (tokenSwap authority sourceA sourceB intoA intoB poolTokenMint
    poolTokenAccount swapProgramId tokenProgramId : PublicKey)
    (tokenAmountA tokenAmountB minimumPoolTokenAmount : NumericArg) :
    Except JsError TransactionInstruction := do
  let data ← amountsData [("instruction", tagNumber 2)]
    [ ("tokenAmountA", tokenAmountA), ("tokenAmountB", tokenAmountB),
      ("minimumPoolTokenAmount", minimumPoolTokenAmount) ] false
  let keys : List AccountMeta :=
    [ ⟨tokenSwap, false, false⟩, ⟨authority, false, false⟩, ⟨sourceA, false, true⟩,
      ⟨sourceB, false, true⟩, ⟨intoA, false, true⟩, ⟨intoB, false, true⟩,
      ⟨poolTokenMint, false, true⟩, ⟨poolTokenAccount, false, true⟩,
      ⟨tokenProgramId, false, false⟩, ⟨SYSVAR_CLOCK_PUBKEY, false, false⟩ ]
  pure { keys, programId := swapProgramId, data }

def withdrawInstruction (tokenSwap authority poolMint sourcePoolAccount fromA fromB userAccountA
    userAccountB adminFeeAccountA adminFeeAccountB swapProgramId tokenProgramId : PublicKey)
    (poolTokenAmount minimumTokenA minimumTokenB : NumericArg) :
    Except JsError TransactionInstruction := do
  let data ← amountsData [("instruction", tagNumber 3)]
    [ ("poolTokenAmount", poolTokenAmount), ("minimumTokenA", minimumTokenA),
      ("minimumTokenB", minimumTokenB) ] false
  let keys : List AccountMeta :=
    [ ⟨tokenSwap, false, false⟩, ⟨authority, false, false⟩, ⟨poolMint, false, true⟩,
      ⟨sourcePoolAccount, false, true⟩, ⟨fromA, false, true⟩, ⟨fromB, false, true⟩,
      ⟨userAccountA, false, true⟩, ⟨userAccountB, false, true⟩,
      ⟨adminFeeAccountA, false, true⟩, ⟨adminFeeAccountB, false, true⟩,
      ⟨tokenProgramId, false, false⟩ ]
  pure { keys, programId := swapProgramId, data }

def createInitFarmInstruction (farmAccount farmBaseAccount : Keypair) (authority adminAccount
    adminFeeAccountPool tokenMintPool tokenAccountPool deltafiTokenMint deltafiTokenAccount
    farmProgramId tokenProgramId : PublicKey) (nonce : JsNumber) (fees : Fees) :
    Except JsError TransactionInstruction := do
  let keys : List AccountMeta :=
    [ ⟨farmBaseAccount.publicKey, false, true⟩, ⟨farmAccount.publicKey, false, true⟩,
      ⟨authority, false, false⟩, ⟨adminAccount, false, false⟩,
      ⟨adminFeeAccountPool, false, false⟩, ⟨tokenMintPool, false, false⟩,
      ⟨tokenAccountPool, false, false⟩, ⟨deltafiTokenMint, false, true⟩,
      ⟨deltafiTokenAccount, false, true⟩, ⟨tokenProgramId, false, false⟩ ]
  let data ← amountsData [("instruction", tagNumber 108), ("nonce", nonce)] fees.fields true
  pure { keys, programId := farmProgramId, data }

def farmEnableUserInstruction (farmAccount authority userFarmingAccount owner
    farmProgramId : PublicKey) : Except JsError TransactionInstruction := do
  let keys : List AccountMeta :=
    [ ⟨farmAccount, false, true⟩, ⟨authority, false, false⟩,
      ⟨userFarmingAccount, false, false⟩, ⟨owner, false, false⟩ ]
  let data ← amountsData [("instruction", tagNumber 30)] [] true
  pure { keys, programId := farmProgramId, data }

def farmDepositInstruction (farmBaseAccount farmAccount authority adminFeeAccountDeltafi sourcePool
    userFarming farmPool deltafiTokenMint destDeltafi farmProgramId tokenProgramId : PublicKey)
    (tokenAmountPool : JsNumber) : Except JsError TransactionInstruction := do
  let data ← amountsData [("instruction", tagNumber 31)]
    [("tokenAmountPool", .number tokenAmountPool)] false
  let keys : List AccountMeta :=
    [ ⟨farmBaseAccount, false, true⟩, ⟨farmAccount, false, true⟩, ⟨authority, false, false⟩,
      ⟨adminFeeAccountDeltafi, false, false⟩, ⟨sourcePool, false, false⟩,
      ⟨userFarming, false, false⟩, ⟨farmPool, false, false⟩, ⟨deltafiTokenMint, false, true⟩,
      ⟨destDeltafi, false, false⟩, ⟨tokenProgramId, false, false⟩,
      ⟨SYSVAR_CLOCK_PUBKEY, false, false⟩ ]
  pure { keys, programId := farmProgramId, data }

/-- Unlike `farmDepositInstruction`, the amount goes to `Uint64Layout` as the number itself. -/
def farmWithdrawInstruction (farmBaseAccount farmAccount authority adminFeeAccountDeltafi
    userPoolAccount userFarming tokenMintPool deltafiTokenMint deltafiTokenAccount farmProgramId
    tokenProgramId : PublicKey) (tokenAmountPool : JsNumber) :
    Except JsError TransactionInstruction := do
  let keys : List AccountMeta :=
    [ ⟨farmBaseAccount, false, true⟩, ⟨farmAccount, false, true⟩, ⟨authority, false, false⟩,
      ⟨adminFeeAccountDeltafi, false, false⟩, ⟨userPoolAccount, false, false⟩,
      ⟨userFarming, false, false⟩, ⟨tokenMintPool, false, false⟩,
      ⟨deltafiTokenMint, false, true⟩, ⟨deltafiTokenAccount, false, true⟩,
      ⟨tokenProgramId, false, false⟩, ⟨SYSVAR_CLOCK_PUBKEY, false, false⟩ ]
  let data ← encodeData (struct [u8 "instruction", Uint64Layout "tokenAmountPool"] none)
    (.object [("instruction", .number (tagNumber 32)), ("tokenAmountPool", .number tokenAmountPool)])
    false
  pure { keys, programId := farmProgramId, data }

def farmEmergencyWithdrawInstruction (farmBaseAccount farmAccount authority adminFeeAccountDeltafi
    userPoolAccount userFarming tokenMintPool deltafiTokenMint deltafiTokenAccount farmProgramId
    tokenProgramId : PublicKey) : Except JsError TransactionInstruction := do
  let keys : List AccountMeta :=
    [ ⟨farmBaseAccount, false, true⟩, ⟨farmAccount, false, true⟩, ⟨authority, false, false⟩,
      ⟨adminFeeAccountDeltafi, false, false⟩, ⟨userPoolAccount, false, false⟩,
      ⟨userFarming, false, false⟩, ⟨tokenMintPool, false, false⟩,
      ⟨deltafiTokenMint, false, true⟩, ⟨deltafiTokenAccount, false, true⟩,
      ⟨tokenProgramId, false, false⟩, ⟨SYSVAR_CLOCK_PUBKEY, false, false⟩ ]
  let data ← amountsData [("instruction", tagNumber 33)] [] false
  pure { keys, programId := farmProgramId, data }

def farmPrintPendingDeltafiInstruction (farmAccount : Keypair) (authority adminAccount
    adminFeeAccountPool tokenMintPool tokenAccountPool deltafiTokenMint deltafiTokenAccount
    farmProgramId tokenProgramId : PublicKey) (nonce : JsNumber) (fees : Fees) :
    Except JsError TransactionInstruction := do
  let keys : List AccountMeta :=
    [ ⟨farmAccount.publicKey, false, true⟩, ⟨authority, false, false⟩,
      ⟨adminAccount, false, false⟩, ⟨adminFeeAccountPool, false, false⟩,
      ⟨tokenMintPool, false, false⟩, ⟨tokenAccountPool, false, false⟩,
      ⟨deltafiTokenMint, false, true⟩, ⟨deltafiTokenAccount, false, true⟩,
      ⟨tokenProgramId, false, false⟩ ]
  let data ← amountsData [("instruction", tagNumber 34), ("nonce", nonce)] fees.fields true
  pure { keys, programId := farmProgramId, data }

end DeltafiClient.Source.Instructions.Legacy
