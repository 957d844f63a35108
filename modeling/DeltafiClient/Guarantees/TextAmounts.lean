import DeltafiClient.Wire.Fresh
import DeltafiClient.Source.Instructions.Admin
import DeltafiClient.Source.Instructions.Swap

/-!
# What the `instructions/admin.ts` encoders send, for every argument

The encoders of `instructions/admin.ts` that take 64-bit arguments (`createInitSwapInstruction`,
`createSwapInstruction`, `createDepositInstruction`, `createWithdrawInstruction`,
`createWithdrawOneInstruction`, `createAdminInitializeInstruction`, `createRampAInstruction`)
hand each `nu64` field the buffer of `toBuffer()`. `amounts_sent_as_text` gives their data for
every argument, errors included, from the struct law of `Wire.Fresh` (`encodeData_object`):

* first every `toBuffer()` of the object literal runs, in the literal's order, and the first
  one that throws is the encoder's error;
* then each field writes in layout order: the tag, the nonce for `Initialize`, and for every
  64-bit argument `nu64OfBuffer` of its buffer, the number that the buffer's bytes spell as
  UTF-8 text; a schedule's buffer reaches a struct field, which writes zeros, and the minimum
  of `createWithdrawOneInstruction` reaches no field at all.

So an argument never travels as its value: its eight little-endian bytes travel as text.
Bytes with a zero among them read as NaN and are written as zeros, which is every argument
below `2 ^ 56`.

All seven encoders are evaluated by one proof: the struct law turns the encoding into the
fields' own results, the object literal is looked up field by field, and what is left is the
encoder's order of evaluation.
-/

namespace DeltafiClient.Guarantees.TextAmounts

open Runtime Wire Source Source.Instructions Source.Layouts

/-- Encoding into `Buffer.alloc(span)`, sliced to the count or not, is `fresh`. -/
theorem encodeData_eq_fresh (L : Layout) (src : JsValue) (sliced : Bool) :
    encodeData L src sliced = fresh L src := by
  have h := encode_zeros L src [] []
  simp only [List.nil_append, List.append_nil, List.length_nil] at h
  unfold encodeData
  rw [show Buffer.alloc L.span = List.replicate L.span 0 from rfl, h]
  cases hf : fresh L src with
  | error e => rfl
  | ok c =>
    cases sliced
    · rfl
    · simp [Buffer.slice, ← fresh_length hf]

/-- An encoder's object literal under a struct layout: each field's bytes side by side. -/
theorem encodeData_object (fields : List Layout) (props : List (String × JsValue))
    (sliced : Bool) :
    encodeData (.struct fields none) (.object props) sliced =
      (fields.mapM (fieldFresh (.object props))).map List.flatten := by
  rw [encodeData_eq_fresh, fresh_struct (by simp)]

theorem fresh_FeesLayout_buffer (p : String) (bytes : Buffer) :
    fresh (FeesLayout p) (.buffer bytes) = .ok (List.replicate 64 0) :=
  fresh_struct_buffer _ _ bytes

theorem fresh_RewardsLayout_buffer (p : String) (bytes : Buffer) :
    fresh (RewardsLayout p) (.buffer bytes) = .ok (List.replicate 24 0) :=
  fresh_struct_buffer _ _ bytes

/-- **Amounts travel as text.** Every encoder of `instructions/admin.ts` that takes 64-bit
arguments builds all their `toBuffer()` buffers first, in its object literal's order, and then
writes the tag, the nonce for `Initialize`, and for each argument the number its buffer spells
as text; schedules and the minimum of `createWithdrawOneInstruction` leave zeros. -/
theorem amounts_sent_as_text :
    (∀ (tokenSwap authority adminAccount adminFeeAccountA adminFeeAccountB tokenMintA
        tokenAccountA tokenMintB tokenAccountB poolTokenMint poolTokenAccount rewardTokenAccount
        rewardMint tokenProgramId : PublicKey) (nonce : JsNumber) (ampFactor : Int) (fees : IFees)
        (rewards : IRewards) (k i isOpenTwap : Int) (programId : PublicKey),
      (Swap.createInitSwapInstruction tokenSwap authority adminAccount adminFeeAccountA
        adminFeeAccountB tokenMintA tokenAccountA tokenMintB tokenAccountB poolTokenMint
        poolTokenAccount rewardTokenAccount rewardMint tokenProgramId nonce ampFactor fees rewards
        k i isOpenTwap programId).map (·.data) = (do
        let ampFactor ← NumberU64.toBuffer ampFactor
        let _ ← (Fees fees).toBuffer
        let _ ← (Rewards rewards).toBuffer
        let k ← NumberU64.toBuffer k
        let i ← NumberU64.toBuffer i
        let isOpenTwap ← NumberU64.toBuffer isOpenTwap
        let nonce ← u8Byte nonce
        let ampFactor ← nu64OfBuffer ampFactor
        let k ← nu64OfBuffer k
        let i ← nu64OfBuffer i
        let isOpenTwap ← nu64OfBuffer isOpenTwap
        pure ([0] ++ nonce ++ ampFactor ++ List.replicate 64 0 ++ k ++ i ++ isOpenTwap))) ∧
    (∀ (tokenSwap authority userSource poolSource poolDestination userDestination
        adminDestination rewardDestination rewardMint tokenProgramId : PublicKey)
        (amountIn minimumAmountOut swapDirection : Int) (programId : PublicKey),
      (Swap.createSwapInstruction tokenSwap authority userSource poolSource poolDestination
        userDestination adminDestination rewardDestination rewardMint tokenProgramId amountIn
        minimumAmountOut swapDirection programId).map (·.data) = (do
        let amountIn ← NumberU64.toBuffer amountIn
        let minimumAmountOut ← NumberU64.toBuffer minimumAmountOut
        let swapDirection ← NumberU64.toBuffer swapDirection
        let amountIn ← nu64OfBuffer amountIn
        let minimumAmountOut ← nu64OfBuffer minimumAmountOut
        let swapDirection ← nu64OfBuffer swapDirection
        pure ([1] ++ amountIn ++ minimumAmountOut ++ swapDirection))) ∧
    (∀ (tokenSwap authority sourceA sourceB intoA intoB poolTokenMint poolTokenAccount
        tokenProgramId : PublicKey) (tokenAmountA tokenAmountB minimumPoolTokenAmount : Int)
        (programId : PublicKey),
      (Swap.createDepositInstruction tokenSwap authority sourceA sourceB intoA intoB poolTokenMint
        poolTokenAccount tokenProgramId tokenAmountA tokenAmountB minimumPoolTokenAmount
        programId).map (·.data) = (do
        let tokenAmountA ← NumberU64.toBuffer tokenAmountA
        let tokenAmountB ← NumberU64.toBuffer tokenAmountB
        let minimumPoolTokenAmount ← NumberU64.toBuffer minimumPoolTokenAmount
        let tokenAmountA ← nu64OfBuffer tokenAmountA
        let tokenAmountB ← nu64OfBuffer tokenAmountB
        let minimumPoolTokenAmount ← nu64OfBuffer minimumPoolTokenAmount
        pure ([2] ++ tokenAmountA ++ tokenAmountB ++ minimumPoolTokenAmount))) ∧
    (∀ (tokenSwap authority poolMint sourcePoolAccount fromA fromB userAccountA userAccountB
        adminFeeAccountA adminFeeAccountB tokenProgramId : PublicKey)
        (poolTokenAmount minimumTokenA minimumTokenB : Int) (programId : PublicKey),
      (Swap.createWithdrawInstruction tokenSwap authority poolMint sourcePoolAccount fromA fromB
        userAccountA userAccountB adminFeeAccountA adminFeeAccountB tokenProgramId poolTokenAmount
        minimumTokenA minimumTokenB programId).map (·.data) = (do
        let poolTokenAmount ← NumberU64.toBuffer poolTokenAmount
        let minimumTokenA ← NumberU64.toBuffer minimumTokenA
        let minimumTokenB ← NumberU64.toBuffer minimumTokenB
        let poolTokenAmount ← nu64OfBuffer poolTokenAmount
        let minimumTokenA ← nu64OfBuffer minimumTokenA
        let minimumTokenB ← nu64OfBuffer minimumTokenB
        pure ([3] ++ poolTokenAmount ++ minimumTokenA ++ minimumTokenB))) ∧
    (∀ (tokenSwap authority poolMint sourcePool base quote userDestination adminDestination
        tokenProgramId : PublicKey) (poolTokenAmount minimumTokenAmount : Int)
        (programId : PublicKey),
      (Swap.createWithdrawOneInstruction tokenSwap authority poolMint sourcePool base quote
        userDestination adminDestination tokenProgramId poolTokenAmount minimumTokenAmount
        programId).map (·.data) = (do
        let poolTokenAmount ← NumberU64.toBuffer poolTokenAmount
        let _ ← NumberU64.toBuffer minimumTokenAmount
        let poolTokenAmount ← nu64OfBuffer poolTokenAmount
        pure ([4] ++ poolTokenAmount ++ List.replicate 8 0))) ∧
    (∀ (config adminKey deltafiMint : PublicKey) (ampFactor : Int) (fees : IFees)
        (rewards : IRewards) (programId : PublicKey),
      (Admin.createAdminInitializeInstruction config adminKey deltafiMint ampFactor fees rewards
        programId).map (·.data) = (do
        let ampFactor ← NumberU64.toBuffer ampFactor
        let _ ← (Fees fees).toBuffer
        let _ ← (Rewards rewards).toBuffer
        let ampFactor ← nu64OfBuffer ampFactor
        pure ([99] ++ ampFactor ++ List.replicate 64 0 ++ List.replicate 24 0))) ∧
    (∀ (tokenSwap authority adminAccount : PublicKey) (targetAmp stopRampTimestamp : Int)
        (programId : PublicKey),
      (Admin.createRampAInstruction tokenSwap authority adminAccount targetAmp stopRampTimestamp
        programId).map (·.data) = (do
        let targetAmp ← NumberU64.toBuffer targetAmp
        let stopRampTimestamp ← NumberU64.toBuffer stopRampTimestamp
        let targetAmp ← nu64OfBuffer targetAmp
        let stopRampTimestamp ← nu64OfBuffer stopRampTimestamp
        pure ([100] ++ targetAmp ++ stopRampTimestamp))) := by
  refine ⟨?_, ?_, ?_, ?_, ?_, ?_, ?_⟩ <;> intros <;>
  · simp only [Swap.createInitSwapInstruction, Swap.createSwapInstruction,
      Swap.createDepositInstruction, Swap.createWithdrawInstruction,
      Swap.createWithdrawOneInstruction, Admin.createAdminInitializeInstruction,
      Admin.createRampAInstruction, NumberU64.ofArg, encodeData_object, List.mapM_cons,
      List.mapM_nil, fieldFresh, fieldValue, Layout.property, Layout.span, Option.elim,
      field_object_cons, field_object_nil, String.reduceEq, ↓reduceIte, reduceCtorEq, fresh_u8,
      fresh_nu64_buffer, fresh_FeesLayout_buffer, fresh_RewardsLayout_buffer, tag,
      JsValue.toNumber_number, map_bind_except, bind_assoc, ok_bind, pure_eq_ok, map_ok]
    rw [u8Byte_of_lt (by decide)]
    simp only [ok_bind, List.flatten_cons, List.flatten_nil, List.append_nil, List.append_assoc]
    rfl

end DeltafiClient.Guarantees.TextAmounts
