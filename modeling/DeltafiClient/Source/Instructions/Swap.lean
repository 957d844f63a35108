import DeltafiClient.Source.Struct
import DeltafiClient.Source.Web3

/-!
# `instructions/admin.ts`, second part: the `SwapInstruction` encoders

The part of the file after `createSetNewRewardsInstruction`. As in the admin encoders, the
64-bit arguments reach their `nu64` fields as the buffers of `toBuffer()`, and
`createInitSwapInstruction` puts the buffer of `fees.toBuffer()` under the `FeesLayout`
field. `createWithdrawOneInstruction` puts its minimum under the key `minimumTokenA`, which
its layout does not have. None of these encoders slices its data.
-/

namespace DeltafiClient.Source.Instructions.Swap

open Runtime Runtime.Layout Layouts

inductive SwapInstruction where
  | Initialize
  | Swap
  | Deposit
  | Withdraw
  | WithdrawOne
  deriving DecidableEq, Repr

/-- `Initialize = 0` and each later member one more. -/
def SwapInstruction.value (op : SwapInstruction) : Nat := op.toCtorIdx

def createInitSwapInstruction (tokenSwap authority adminAccount adminFeeAccountA
    adminFeeAccountB tokenMintA tokenAccountA tokenMintB tokenAccountB poolTokenMint
    poolTokenAccount rewardTokenAccount rewardMint tokenProgramId : PublicKey) (nonce : JsNumber)
    (ampFactor : Int) (fees : IFees) (rewards : IRewards) (k i isOpenTwap : Int)
    (programId : PublicKey) : Except JsError TransactionInstruction := do
  let keys : List AccountMeta :=
    [ ⟨tokenSwap, true, false⟩, ⟨authority, false, false⟩, ⟨adminAccount, false, false⟩,
      ⟨adminFeeAccountA, false, false⟩, ⟨adminFeeAccountB, false, false⟩,
      ⟨tokenMintA, false, false⟩, ⟨tokenAccountA, false, false⟩, ⟨tokenMintB, false, false⟩,
      ⟨tokenAccountB, false, false⟩, ⟨poolTokenMint, false, true⟩,
      ⟨poolTokenAccount, false, true⟩, ⟨rewardMint, false, false⟩,
      ⟨rewardTokenAccount, false, false⟩, ⟨tokenProgramId, false, false⟩ ]
  let dataLayout :=
    struct
      [ u8 "instruction", u8 "nonce", nu64 "ampFactor", FeesLayout "fees", nu64 "k", nu64 "i",
        nu64 "isOpenTwap" ]
      none
  let ampFactor ← NumberU64.toBuffer ampFactor
  let fees ← (Fees fees).toBuffer
  let rewards ← (Rewards rewards).toBuffer
  let k ← NumberU64.toBuffer k
  let i ← NumberU64.toBuffer i
  let isOpenTwap ← NumberU64.toBuffer isOpenTwap
  let data ← encodeData dataLayout
    (.object
      [ ("instruction", tag SwapInstruction.Initialize.value),
        ("nonce", .number nonce),
        ("ampFactor", .buffer ampFactor),
        ("fees", .buffer fees),
        ("rewards", .buffer rewards),
        ("k", .buffer k),
        ("i", .buffer i),
        ("isOpenTwap", .buffer isOpenTwap) ])
    false
  pure { keys, programId, data }

def createSwapInstruction (tokenSwap authority userSource poolSource poolDestination
    userDestination adminDestination rewardDestination rewardMint tokenProgramId : PublicKey)
    (amountIn minimumAmountOut swapDirection : Int) (programId : PublicKey) :
    Except JsError TransactionInstruction := do
  let keys : List AccountMeta :=
    [ ⟨tokenSwap, false, false⟩, ⟨authority, false, false⟩, ⟨userSource, false, true⟩,
      ⟨poolSource, false, true⟩, ⟨poolDestination, false, true⟩,
      ⟨userDestination, false, true⟩, ⟨rewardDestination, false, true⟩,
      ⟨rewardMint, false, true⟩, ⟨adminDestination, false, true⟩,
      ⟨tokenProgramId, false, false⟩, ⟨SYSVAR_CLOCK_PUBKEY, false, false⟩ ]
  let dataLayout :=
    struct [u8 "instruction", nu64 "amountIn", nu64 "minimumAmountOut", nu64 "swapDirection"] none
  let amountIn ← NumberU64.toBuffer amountIn
  let minimumAmountOut ← NumberU64.toBuffer minimumAmountOut
  let swapDirection ← NumberU64.toBuffer swapDirection
  let data ← encodeData dataLayout
    (.object
      [ ("instruction", tag SwapInstruction.Swap.value),
        ("amountIn", .buffer amountIn),
        ("minimumAmountOut", .buffer minimumAmountOut),
        ("swapDirection", .buffer swapDirection) ])
    false
  pure { keys, programId, data }

def createDepositInstruction (tokenSwap authority sourceA sourceB intoA intoB poolTokenMint
    poolTokenAccount tokenProgramId : PublicKey)
    (tokenAmountA tokenAmountB minimumPoolTokenAmount : Int) (programId : PublicKey) :
    Except JsError TransactionInstruction := do
  let keys : List AccountMeta :=
    [ ⟨tokenSwap, false, false⟩, ⟨authority, false, false⟩, ⟨sourceA, false, true⟩,
      ⟨sourceB, false, true⟩, ⟨intoA, false, true⟩, ⟨intoB, false, true⟩,
      ⟨poolTokenMint, false, true⟩, ⟨poolTokenAccount, false, true⟩,
      ⟨tokenProgramId, false, false⟩, ⟨SYSVAR_CLOCK_PUBKEY, false, false⟩ ]
  let dataLayout :=
    struct
      [u8 "instruction", nu64 "tokenAmountA", nu64 "tokenAmountB", nu64 "minimumPoolTokenAmount"]
      none
  let tokenAmountA ← NumberU64.toBuffer tokenAmountA
  let tokenAmountB ← NumberU64.toBuffer tokenAmountB
  let minimumPoolTokenAmount ← NumberU64.toBuffer minimumPoolTokenAmount
  let data ← encodeData dataLayout
    (.object
      [ ("instruction", tag SwapInstruction.Deposit.value),
        ("tokenAmountA", .buffer tokenAmountA),
        ("tokenAmountB", .buffer tokenAmountB),
        ("minimumPoolTokenAmount", .buffer minimumPoolTokenAmount) ])
    false
  pure { keys, programId, data }

def createWithdrawInstruction (tokenSwap authority poolMint sourcePoolAccount fromA fromB
    userAccountA userAccountB adminFeeAccountA adminFeeAccountB tokenProgramId : PublicKey)
    (poolTokenAmount minimumTokenA minimumTokenB : Int) (programId : PublicKey) :
    Except JsError TransactionInstruction := do
  let keys : List AccountMeta :=
    [ ⟨tokenSwap, false, false⟩, ⟨authority, false, false⟩, ⟨poolMint, false, true⟩,
      ⟨sourcePoolAccount, false, true⟩, ⟨fromA, false, true⟩, ⟨fromB, false, true⟩,
      ⟨userAccountA, false, true⟩, ⟨userAccountB, false, true⟩,
      ⟨adminFeeAccountA, false, true⟩, ⟨adminFeeAccountB, false, true⟩,
      ⟨tokenProgramId, false, false⟩ ]
  let dataLayout :=
    struct [u8 "instruction", nu64 "poolTokenAmount", nu64 "minimumTokenA", nu64 "minimumTokenB"]
      none
  let poolTokenAmount ← NumberU64.ofArg (.numberU64 poolTokenAmount) >>= NumberU64.toBuffer
  let minimumTokenA ← NumberU64.ofArg (.numberU64 minimumTokenA) >>= NumberU64.toBuffer
  let minimumTokenB ← NumberU64.ofArg (.numberU64 minimumTokenB) >>= NumberU64.toBuffer
  let data ← encodeData dataLayout
    (.object
      [ ("instruction", tag SwapInstruction.Withdraw.value),
        ("poolTokenAmount", .buffer poolTokenAmount),
        ("minimumTokenA", .buffer minimumTokenA),
        ("minimumTokenB", .buffer minimumTokenB) ])
    false
  pure { keys, programId, data }

def createWithdrawOneInstruction (tokenSwap authority poolMint sourcePool base quote
    userDestination adminDestination tokenProgramId : PublicKey)
    (poolTokenAmount minimumTokenAmount : Int) (programId : PublicKey) :
    Except JsError TransactionInstruction := do
  let keys : List AccountMeta :=
    [ ⟨tokenSwap, false, false⟩, ⟨authority, false, false⟩, ⟨poolMint, false, true⟩,
      ⟨sourcePool, false, true⟩, ⟨base, false, true⟩, ⟨quote, false, true⟩,
      ⟨userDestination, false, true⟩, ⟨adminDestination, false, true⟩,
      ⟨tokenProgramId, false, false⟩, ⟨SYSVAR_CLOCK_PUBKEY, false, false⟩ ]
  let dataLayout :=
    struct [u8 "instruction", nu64 "poolTokenAmount", nu64 "minimumTokenAmount"] none
  let poolTokenAmount ← NumberU64.toBuffer poolTokenAmount
  let minimumTokenAmount ← NumberU64.toBuffer minimumTokenAmount
  let data ← encodeData dataLayout
    (.object
      [ ("instruction", tag SwapInstruction.WithdrawOne.value),
        ("poolTokenAmount", .buffer poolTokenAmount),
        ("minimumTokenA", .buffer minimumTokenAmount) ])
    false
  pure { keys, programId, data }

end DeltafiClient.Source.Instructions.Swap
