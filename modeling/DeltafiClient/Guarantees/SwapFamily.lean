import DeltafiClient.Guarantees.Schedules
import DeltafiClient.Source.Instructions.Swap

/-!
# The data of the swap-program encoders

Two generations of encoders build the swap program's instructions.

* The older ones of `instructions.ts` (`createInitSwapInstruction`, `swapInstruction`,
  `depositInstruction`, `withdrawInstruction`) write each 64-bit argument as
  `new NumberU64(x).toBuffer()` under `Uint64Layout`. For every argument in the domain of
  `admitted` their data is the tag, the nonce where there is one, and the arguments' eight
  bytes in the layout's order (`swapInstruction_data` and its siblings). A number from
  `2 ^ 53` on makes `new BN` fail its assertion (`swapInstruction_two_pow_53`).
* The `SwapInstruction` encoders of `instructions/admin.ts` give their `nu64` fields the
  buffers of `toBuffer()`. Whatever those fields end up holding, data that comes back has the
  layout's span and starts with the tag, and the nonce for `Initialize`
  (`createSwapInstruction_head` and its siblings). A buffer reads as a number through its
  text, so every argument below `2 ^ 56`, whose top byte is zero, is written as eight zero
  bytes (`createSwapInstruction_small` and its siblings, `zeroed_amounts`), and
  `createWithdrawOneInstruction` never writes its minimum, whose key does not match its field
  (`withdrawOne_minimum_unwritten`).

For Deposit and Withdraw the two generations build the same accounts for the same program
(`createDepositInstruction_accounts`, `createWithdrawInstruction_accounts`), so they can be
compared instruction for instruction: on amounts below `2 ^ 56` the newer encoder returns the
older one's instruction exactly when every amount is zero (`generations_agree_iff`).
-/

namespace DeltafiClient.Guarantees.SwapFamily

open Runtime Wire Source Source.Instructions Encoding Schedules

/-! ## `instructions.ts` -/

theorem swapInstruction_data (tokenSwap authority userSource poolSource poolDestination
    userDestination adminDestination swapProgramId tokenProgramId : PublicKey)
    {amountIn minimumAmountOut : NumericArg} {a m : Int} (ha : admitted amountIn = some a)
    (hm : admitted minimumAmountOut = some m) :
    (Legacy.swapInstruction tokenSwap authority userSource poolSource poolDestination
        userDestination adminDestination swapProgramId tokenProgramId amountIn
        minimumAmountOut).map (·.data) = .ok ([1] ++ le 8 a ++ le 8 m) := by
  have hd := amountsData_eq [("instruction", 1)]
    [("amountIn", amountIn), ("minimumAmountOut", minimumAmountOut)] [a, m] (by decide)
    (.cons ha (.cons hm .nil)) (by simp) false
  have h1 : le 1 ((1 : ℕ) : ℤ) = [1] := by decide
  simp only [List.map_cons, List.map_nil, List.cons_append, List.nil_append, List.flatten_cons,
    List.flatten_nil, List.append_nil, h1] at hd
  simp only [Legacy.swapInstruction, Legacy.tagNumber, hd, ok_bind, pure_eq_ok, map_ok,
    List.cons_append, List.nil_append]

theorem depositInstruction_data (tokenSwap authority sourceA sourceB intoA intoB poolTokenMint
    poolTokenAccount swapProgramId tokenProgramId : PublicKey)
    {tokenAmountA tokenAmountB minimumPoolTokenAmount : NumericArg} {a b m : Int}
    (ha : admitted tokenAmountA = some a) (hb : admitted tokenAmountB = some b)
    (hm : admitted minimumPoolTokenAmount = some m) :
    (Legacy.depositInstruction tokenSwap authority sourceA sourceB intoA intoB poolTokenMint
        poolTokenAccount swapProgramId tokenProgramId tokenAmountA tokenAmountB
        minimumPoolTokenAmount).map (·.data) = .ok ([2] ++ le 8 a ++ le 8 b ++ le 8 m) := by
  have hd := amountsData_eq [("instruction", 2)]
    [("tokenAmountA", tokenAmountA), ("tokenAmountB", tokenAmountB),
      ("minimumPoolTokenAmount", minimumPoolTokenAmount)] [a, b, m] (by decide)
    (.cons ha (.cons hb (.cons hm .nil))) (by simp) false
  have h2 : le 1 ((2 : ℕ) : ℤ) = [2] := by decide
  simp only [List.map_cons, List.map_nil, List.cons_append, List.nil_append, List.flatten_cons,
    List.flatten_nil, List.append_nil, h2] at hd
  simp only [Legacy.depositInstruction, Legacy.tagNumber, hd, ok_bind, pure_eq_ok, map_ok,
    List.cons_append, List.nil_append, List.append_assoc]

theorem withdrawInstruction_data (tokenSwap authority poolMint sourcePoolAccount fromA fromB
    userAccountA userAccountB adminFeeAccountA adminFeeAccountB swapProgramId
    tokenProgramId : PublicKey) {poolTokenAmount minimumTokenA minimumTokenB : NumericArg}
    {p a b : Int} (hp : admitted poolTokenAmount = some p) (ha : admitted minimumTokenA = some a)
    (hb : admitted minimumTokenB = some b) :
    (Legacy.withdrawInstruction tokenSwap authority poolMint sourcePoolAccount fromA fromB
        userAccountA userAccountB adminFeeAccountA adminFeeAccountB swapProgramId tokenProgramId
        poolTokenAmount minimumTokenA minimumTokenB).map (·.data) =
      .ok ([3] ++ le 8 p ++ le 8 a ++ le 8 b) := by
  have hd := amountsData_eq [("instruction", 3)]
    [("poolTokenAmount", poolTokenAmount), ("minimumTokenA", minimumTokenA),
      ("minimumTokenB", minimumTokenB)] [p, a, b] (by decide)
    (.cons hp (.cons ha (.cons hb .nil))) (by simp) false
  have h3 : le 1 ((3 : ℕ) : ℤ) = [3] := by decide
  simp only [List.map_cons, List.map_nil, List.cons_append, List.nil_append, List.flatten_cons,
    List.flatten_nil, List.append_nil, h3] at hd
  simp only [Legacy.withdrawInstruction, Legacy.tagNumber, hd, ok_bind, pure_eq_ok, map_ok,
    List.cons_append, List.nil_append, List.append_assoc]

theorem createInitSwapInstruction_data (tokenSwapAccount : Keypair) (authority adminAccount
    adminFeeAccountA adminFeeAccountB tokenMintA tokenAccountA tokenMintB tokenAccountB
    poolTokenMint poolTokenAccount swapProgramId tokenProgramId : PublicKey) {nonce : Nat}
    (hn : nonce < 2 ^ 8) {ampFactor : NumericArg} {amp : Int} (ha : admitted ampFactor = some amp)
    {fees : Legacy.Fees} {fs : List Int}
    (hf : List.Forall₂ (fun f z => admitted f.2 = some z) fees.fields fs) :
    (Legacy.createInitSwapInstruction tokenSwapAccount authority adminAccount adminFeeAccountA
        adminFeeAccountB tokenMintA tokenAccountA tokenMintB tokenAccountB poolTokenMint
        poolTokenAccount swapProgramId tokenProgramId (.finite nonce) ampFactor fees).map (·.data) =
      .ok ([0] ++ le 1 nonce ++ le 8 amp ++ (fs.map (le 8)).flatten) := by
  have hd := amountsData_eq [("instruction", 0), ("nonce", nonce)]
    (("ampFactor", ampFactor) :: fees.fields) (amp :: fs) (by simpa using hn)
    (.cons ha hf) (by simp [Legacy.Fees.fields]) true
  have h0 : le 1 ((0 : ℕ) : ℤ) = [0] := by decide
  simp only [List.map_cons, List.map_nil, List.cons_append, List.nil_append, List.flatten_cons,
    List.flatten_nil, List.append_nil, h0] at hd
  simp only [Legacy.createInitSwapInstruction, Legacy.tagNumber, hd, ok_bind, pure_eq_ok, map_ok,
    List.cons_append, List.nil_append, List.append_assoc]

/-- `new BN(2 ** 53)` fails its assertion, so `swapInstruction` throws on the number `2 ^ 53`,
an integer in `[0, 2 ^ 64)`. -/
theorem swapInstruction_two_pow_53 :
    (Legacy.swapInstruction SYSVAR_CLOCK_PUBKEY SYSVAR_CLOCK_PUBKEY SYSVAR_CLOCK_PUBKEY
        SYSVAR_CLOCK_PUBKEY SYSVAR_CLOCK_PUBKEY SYSVAR_CLOCK_PUBKEY SYSVAR_CLOCK_PUBKEY
        SYSVAR_CLOCK_PUBKEY SYSVAR_CLOCK_PUBKEY (.number (.finite (2 ^ 53)))
        (.numberU64 0)).map (·.data) = .error (.error "Assertion failed") := by
  have hbn : bnOfNumber (.finite (2 ^ 53)) = .error (.error "Assertion failed") :=
    bnOfNumber_of_ge (by norm_num)
  simp only [Legacy.swapInstruction, Legacy.amountsData, List.mapM_cons, Legacy.u64Buffer,
    NumberU64.ofArg, hbn, error_bind, map_error]

/-! ## The `SwapInstruction` encoders -/

theorem createInitSwapInstruction_head (tokenSwap authority adminAccount adminFeeAccountA
    adminFeeAccountB tokenMintA tokenAccountA tokenMintB tokenAccountB poolTokenMint
    poolTokenAccount rewardTokenAccount rewardMint tokenProgramId : PublicKey) {nonce : Nat}
    (hn : nonce < 2 ^ 8) (ampFactor : Int) (fees : IFees) (rewards : IRewards) (k i isOpenTwap : Int)
    (programId : PublicKey) {ix : TransactionInstruction}
    (h : Swap.createInitSwapInstruction tokenSwap authority adminAccount adminFeeAccountA
      adminFeeAccountB tokenMintA tokenAccountA tokenMintB tokenAccountB poolTokenMint
      poolTokenAccount rewardTokenAccount rewardMint tokenProgramId (.finite nonce) ampFactor fees
      rewards k i isOpenTwap programId = .ok ix) :
    ix.data.length = 98 ∧ ix.data.take 2 = [0] ++ le 1 nonce := by
  simp only [Swap.createInitSwapInstruction, bind_eq_ok, pure_eq_ok, Except.ok.injEq] at h
  obtain ⟨_, -, _, -, _, -, _, -, _, -, _, -, data, hdata, rfl⟩ := h
  exact encodeData_prefix [.u8 "instruction", .u8 "nonce"] _ hdata (by simp)
    (.cons (fieldWrites_u8 rfl (by decide)) (.cons (fieldWrites_u8 rfl hn) .nil))

theorem createSwapInstruction_head (tokenSwap authority userSource poolSource poolDestination
    userDestination adminDestination rewardDestination rewardMint tokenProgramId : PublicKey)
    (amountIn minimumAmountOut swapDirection : Int) (programId : PublicKey)
    {ix : TransactionInstruction}
    (h : Swap.createSwapInstruction tokenSwap authority userSource poolSource poolDestination
      userDestination adminDestination rewardDestination rewardMint tokenProgramId amountIn
      minimumAmountOut swapDirection programId = .ok ix) :
    ix.data.length = 25 ∧ ix.data.take 1 = [1] := by
  simp only [Swap.createSwapInstruction, bind_eq_ok, pure_eq_ok, Except.ok.injEq] at h
  obtain ⟨_, -, _, -, _, -, data, hdata, rfl⟩ := h
  exact encodeData_prefix [.u8 "instruction"] _ hdata (by simp)
    (.cons (fieldWrites_u8 rfl (by decide)) .nil)

theorem createDepositInstruction_head (tokenSwap authority sourceA sourceB intoA intoB
    poolTokenMint poolTokenAccount tokenProgramId : PublicKey)
    (tokenAmountA tokenAmountB minimumPoolTokenAmount : Int) (programId : PublicKey)
    {ix : TransactionInstruction}
    (h : Swap.createDepositInstruction tokenSwap authority sourceA sourceB intoA intoB
      poolTokenMint poolTokenAccount tokenProgramId tokenAmountA tokenAmountB
      minimumPoolTokenAmount programId = .ok ix) :
    ix.data.length = 25 ∧ ix.data.take 1 = [2] := by
  simp only [Swap.createDepositInstruction, bind_eq_ok, pure_eq_ok, Except.ok.injEq] at h
  obtain ⟨_, -, _, -, _, -, data, hdata, rfl⟩ := h
  exact encodeData_prefix [.u8 "instruction"] _ hdata (by simp)
    (.cons (fieldWrites_u8 rfl (by decide)) .nil)

theorem createWithdrawInstruction_head (tokenSwap authority poolMint sourcePoolAccount fromA fromB
    userAccountA userAccountB adminFeeAccountA adminFeeAccountB tokenProgramId : PublicKey)
    (poolTokenAmount minimumTokenA minimumTokenB : Int) (programId : PublicKey)
    {ix : TransactionInstruction}
    (h : Swap.createWithdrawInstruction tokenSwap authority poolMint sourcePoolAccount fromA fromB
      userAccountA userAccountB adminFeeAccountA adminFeeAccountB tokenProgramId poolTokenAmount
      minimumTokenA minimumTokenB programId = .ok ix) :
    ix.data.length = 25 ∧ ix.data.take 1 = [3] := by
  simp only [Swap.createWithdrawInstruction, bind_eq_ok, pure_eq_ok, Except.ok.injEq] at h
  obtain ⟨_, -, _, -, _, -, data, hdata, rfl⟩ := h
  exact encodeData_prefix [.u8 "instruction"] _ hdata (by simp)
    (.cons (fieldWrites_u8 rfl (by decide)) .nil)

theorem createWithdrawOneInstruction_head (tokenSwap authority poolMint sourcePool base quote
    userDestination adminDestination tokenProgramId : PublicKey)
    (poolTokenAmount minimumTokenAmount : Int) (programId : PublicKey)
    {ix : TransactionInstruction}
    (h : Swap.createWithdrawOneInstruction tokenSwap authority poolMint sourcePool base quote
      userDestination adminDestination tokenProgramId poolTokenAmount minimumTokenAmount
      programId = .ok ix) :
    ix.data.length = 17 ∧ ix.data.take 1 = [4] := by
  simp only [Swap.createWithdrawOneInstruction, bind_eq_ok, pure_eq_ok, Except.ok.injEq] at h
  obtain ⟨_, -, _, -, data, hdata, rfl⟩ := h
  exact encodeData_prefix [.u8 "instruction"] _ hdata (by simp)
    (.cons (fieldWrites_u8 rfl (by decide)) .nil)

/-! ## What the `SwapInstruction` encoders write for small amounts -/

theorem createSwapInstruction_small (tokenSwap authority userSource poolSource poolDestination
    userDestination adminDestination rewardDestination rewardMint tokenProgramId : PublicKey)
    {amountIn minimumAmountOut swapDirection : Int} (programId : PublicKey)
    (ha : 0 ≤ amountIn ∧ amountIn < 2 ^ 56) (hm : 0 ≤ minimumAmountOut ∧ minimumAmountOut < 2 ^ 56)
    (hs : 0 ≤ swapDirection ∧ swapDirection < 2 ^ 56) :
    (Swap.createSwapInstruction tokenSwap authority userSource poolSource poolDestination
      userDestination adminDestination rewardDestination rewardMint tokenProgramId amountIn
      minimumAmountOut swapDirection programId).map (·.data) = .ok ([1] ++ List.replicate 24 0) := by
  obtain ⟨b1, e1, z1⟩ := toBuffer_of_lt_two_pow_56 ha.1 ha.2
  obtain ⟨b2, e2, z2⟩ := toBuffer_of_lt_two_pow_56 hm.1 hm.2
  obtain ⟨b3, e3, z3⟩ := toBuffer_of_lt_two_pow_56 hs.1 hs.2
  simp only [Swap.createSwapInstruction, e1, e2, e3, ok_bind]
  refine data_of_writes (writesOnZeros_struct_of (by simp)
    [le 1 1, List.replicate 8 0, List.replicate 8 0, List.replicate 8 0] ?_ rfl none) _ _ fun _ => rfl
  exact .cons (fieldWrites_u8 rfl (by decide)) (.cons (fieldWrites_nu64_buffer rfl z1)
    (.cons (fieldWrites_nu64_buffer rfl z2) (.cons (fieldWrites_nu64_buffer rfl z3) .nil)))

theorem createDepositInstruction_small (tokenSwap authority sourceA sourceB intoA intoB
    poolTokenMint poolTokenAccount tokenProgramId : PublicKey)
    {tokenAmountA tokenAmountB minimumPoolTokenAmount : Int} (programId : PublicKey)
    (ha : 0 ≤ tokenAmountA ∧ tokenAmountA < 2 ^ 56) (hb : 0 ≤ tokenAmountB ∧ tokenAmountB < 2 ^ 56)
    (hm : 0 ≤ minimumPoolTokenAmount ∧ minimumPoolTokenAmount < 2 ^ 56) :
    (Swap.createDepositInstruction tokenSwap authority sourceA sourceB intoA intoB poolTokenMint
      poolTokenAccount tokenProgramId tokenAmountA tokenAmountB minimumPoolTokenAmount
      programId).map (·.data) = .ok ([2] ++ List.replicate 24 0) := by
  obtain ⟨b1, e1, z1⟩ := toBuffer_of_lt_two_pow_56 ha.1 ha.2
  obtain ⟨b2, e2, z2⟩ := toBuffer_of_lt_two_pow_56 hb.1 hb.2
  obtain ⟨b3, e3, z3⟩ := toBuffer_of_lt_two_pow_56 hm.1 hm.2
  simp only [Swap.createDepositInstruction, e1, e2, e3, ok_bind]
  refine data_of_writes (writesOnZeros_struct_of (by simp)
    [le 1 2, List.replicate 8 0, List.replicate 8 0, List.replicate 8 0] ?_ rfl none) _ _ fun _ => rfl
  exact .cons (fieldWrites_u8 rfl (by decide)) (.cons (fieldWrites_nu64_buffer rfl z1)
    (.cons (fieldWrites_nu64_buffer rfl z2) (.cons (fieldWrites_nu64_buffer rfl z3) .nil)))

theorem createWithdrawInstruction_small (tokenSwap authority poolMint sourcePoolAccount fromA
    fromB userAccountA userAccountB adminFeeAccountA adminFeeAccountB tokenProgramId : PublicKey)
    {poolTokenAmount minimumTokenA minimumTokenB : Int} (programId : PublicKey)
    (hp : 0 ≤ poolTokenAmount ∧ poolTokenAmount < 2 ^ 56)
    (ha : 0 ≤ minimumTokenA ∧ minimumTokenA < 2 ^ 56)
    (hb : 0 ≤ minimumTokenB ∧ minimumTokenB < 2 ^ 56) :
    (Swap.createWithdrawInstruction tokenSwap authority poolMint sourcePoolAccount fromA fromB
      userAccountA userAccountB adminFeeAccountA adminFeeAccountB tokenProgramId poolTokenAmount
      minimumTokenA minimumTokenB programId).map (·.data) = .ok ([3] ++ List.replicate 24 0) := by
  obtain ⟨b1, e1, z1⟩ := toBuffer_of_lt_two_pow_56 hp.1 hp.2
  obtain ⟨b2, e2, z2⟩ := toBuffer_of_lt_two_pow_56 ha.1 ha.2
  obtain ⟨b3, e3, z3⟩ := toBuffer_of_lt_two_pow_56 hb.1 hb.2
  simp only [Swap.createWithdrawInstruction, NumberU64.ofArg, e1, e2, e3, ok_bind]
  refine data_of_writes (writesOnZeros_struct_of (by simp)
    [le 1 3, List.replicate 8 0, List.replicate 8 0, List.replicate 8 0] ?_ rfl none) _ _ fun _ => rfl
  exact .cons (fieldWrites_u8 rfl (by decide)) (.cons (fieldWrites_nu64_buffer rfl z1)
    (.cons (fieldWrites_nu64_buffer rfl z2) (.cons (fieldWrites_nu64_buffer rfl z3) .nil)))

/-- The minimum of `createWithdrawOneInstruction` is looked up under its field's key, finds
nothing and leaves its zeros, whatever its value in `[0, 2 ^ 64)`. -/
theorem createWithdrawOneInstruction_small (tokenSwap authority poolMint sourcePool base quote
    userDestination adminDestination tokenProgramId : PublicKey)
    {poolTokenAmount minimumTokenAmount : Int} (programId : PublicKey)
    (hp : 0 ≤ poolTokenAmount ∧ poolTokenAmount < 2 ^ 56)
    (hm : 0 ≤ minimumTokenAmount ∧ minimumTokenAmount < 2 ^ 64) :
    (Swap.createWithdrawOneInstruction tokenSwap authority poolMint sourcePool base quote
      userDestination adminDestination tokenProgramId poolTokenAmount minimumTokenAmount
      programId).map (·.data) = .ok ([4] ++ List.replicate 16 0) := by
  obtain ⟨b1, e1, z1⟩ := toBuffer_of_lt_two_pow_56 hp.1 hp.2
  simp only [Swap.createWithdrawOneInstruction, e1, NumberU64.toBuffer_of_lt hm.1 hm.2, ok_bind]
  refine data_of_writes (writesOnZeros_struct_of (by simp)
    [le 1 4, List.replicate 8 0, List.replicate 8 0] ?_ rfl none) _ _ fun _ => rfl
  exact .cons (fieldWrites_u8 rfl (by decide)) (.cons (fieldWrites_nu64_buffer rfl z1)
    (.cons (.inl ⟨rfl, rfl⟩) .nil))

/-- `Initialize` writes its tag and nonce; its fee struct finds a buffer and writes nothing. -/
theorem createInitSwapInstruction_small (tokenSwap authority adminAccount adminFeeAccountA
    adminFeeAccountB tokenMintA tokenAccountA tokenMintB tokenAccountB poolTokenMint
    poolTokenAccount rewardTokenAccount rewardMint tokenProgramId : PublicKey) {nonce : Nat}
    (hn : nonce < 2 ^ 8) {ampFactor : Int} {fees : IFees} {rewards : IRewards} {k i isOpenTwap : Int}
    (programId : PublicKey) (hamp : 0 ≤ ampFactor ∧ ampFactor < 2 ^ 56)
    {feeBytes rewardBytes : Buffer} (hf : (Fees fees).toBuffer = .ok feeBytes)
    (hr : (Rewards rewards).toBuffer = .ok rewardBytes) (hk : 0 ≤ k ∧ k < 2 ^ 56)
    (hi : 0 ≤ i ∧ i < 2 ^ 56) (ho : 0 ≤ isOpenTwap ∧ isOpenTwap < 2 ^ 56) :
    (Swap.createInitSwapInstruction tokenSwap authority adminAccount adminFeeAccountA
      adminFeeAccountB tokenMintA tokenAccountA tokenMintB tokenAccountB poolTokenMint
      poolTokenAccount rewardTokenAccount rewardMint tokenProgramId (.finite nonce) ampFactor fees
      rewards k i isOpenTwap programId).map (·.data) =
      .ok ([0] ++ le 1 nonce ++ List.replicate 96 0) := by
  obtain ⟨b1, e1, z1⟩ := toBuffer_of_lt_two_pow_56 hamp.1 hamp.2
  obtain ⟨b2, e2, z2⟩ := toBuffer_of_lt_two_pow_56 hk.1 hk.2
  obtain ⟨b3, e3, z3⟩ := toBuffer_of_lt_two_pow_56 hi.1 hi.2
  obtain ⟨b4, e4, z4⟩ := toBuffer_of_lt_two_pow_56 ho.1 ho.2
  simp only [Swap.createInitSwapInstruction, e1, hf, hr, e2, e3, e4, ok_bind]
  refine data_of_writes (writesOnZeros_struct_of (by simp)
    [le 1 0, le 1 nonce, List.replicate 8 0, List.replicate 64 0, List.replicate 8 0,
      List.replicate 8 0, List.replicate 8 0] ?_ ?_ none) _ _ fun _ => rfl
  · exact .cons (fieldWrites_u8 rfl (by decide)) (.cons (fieldWrites_u8 rfl hn)
      (.cons (fieldWrites_nu64_buffer rfl z1) (.cons (fieldWrites_struct_buffer rfl)
        (.cons (fieldWrites_nu64_buffer rfl z2) (.cons (fieldWrites_nu64_buffer rfl z3)
          (.cons (fieldWrites_nu64_buffer rfl z4) .nil))))))
  · simp only [List.flatten_cons, List.flatten_nil, List.append_nil, List.append_assoc,
      List.append_replicate_replicate]
    rfl

/-- Every `SwapInstruction` encoder given 64-bit arguments below `2 ^ 56` sends its tag (and
the nonce for `Initialize`) followed by zeros only: no argument reaches the data. -/
theorem zeroed_amounts :
    (∀ (tokenSwap authority adminAccount adminFeeAccountA adminFeeAccountB tokenMintA
        tokenAccountA tokenMintB tokenAccountB poolTokenMint poolTokenAccount rewardTokenAccount
        rewardMint tokenProgramId : PublicKey) (nonce : Nat), nonce < 2 ^ 8 →
      ∀ (ampFactor : Int) (fees : IFees) (rewards : IRewards) (k i isOpenTwap : Int)
        (programId : PublicKey), 0 ≤ ampFactor ∧ ampFactor < 2 ^ 56 →
      ∀ feeBytes rewardBytes : Buffer, (Fees fees).toBuffer = .ok feeBytes →
        (Rewards rewards).toBuffer = .ok rewardBytes → 0 ≤ k ∧ k < 2 ^ 56 →
        0 ≤ i ∧ i < 2 ^ 56 → 0 ≤ isOpenTwap ∧ isOpenTwap < 2 ^ 56 →
      (Swap.createInitSwapInstruction tokenSwap authority adminAccount adminFeeAccountA
          adminFeeAccountB tokenMintA tokenAccountA tokenMintB tokenAccountB poolTokenMint
          poolTokenAccount rewardTokenAccount rewardMint tokenProgramId (.finite nonce) ampFactor
          fees rewards k i isOpenTwap programId).map (·.data) =
        .ok ([0] ++ le 1 nonce ++ List.replicate 96 0)) ∧
    (∀ (tokenSwap authority userSource poolSource poolDestination userDestination adminDestination
        rewardDestination rewardMint tokenProgramId : PublicKey)
        (amountIn minimumAmountOut swapDirection : Int) (programId : PublicKey),
        0 ≤ amountIn ∧ amountIn < 2 ^ 56 → 0 ≤ minimumAmountOut ∧ minimumAmountOut < 2 ^ 56 →
        0 ≤ swapDirection ∧ swapDirection < 2 ^ 56 →
      (Swap.createSwapInstruction tokenSwap authority userSource poolSource poolDestination
          userDestination adminDestination rewardDestination rewardMint tokenProgramId amountIn
          minimumAmountOut swapDirection programId).map (·.data) =
        .ok ([1] ++ List.replicate 24 0)) ∧
    (∀ (tokenSwap authority sourceA sourceB intoA intoB poolTokenMint poolTokenAccount
        tokenProgramId : PublicKey) (tokenAmountA tokenAmountB minimumPoolTokenAmount : Int)
        (programId : PublicKey), 0 ≤ tokenAmountA ∧ tokenAmountA < 2 ^ 56 →
        0 ≤ tokenAmountB ∧ tokenAmountB < 2 ^ 56 →
        0 ≤ minimumPoolTokenAmount ∧ minimumPoolTokenAmount < 2 ^ 56 →
      (Swap.createDepositInstruction tokenSwap authority sourceA sourceB intoA intoB poolTokenMint
          poolTokenAccount tokenProgramId tokenAmountA tokenAmountB minimumPoolTokenAmount
          programId).map (·.data) = .ok ([2] ++ List.replicate 24 0)) ∧
    (∀ (tokenSwap authority poolMint sourcePoolAccount fromA fromB userAccountA userAccountB
        adminFeeAccountA adminFeeAccountB tokenProgramId : PublicKey)
        (poolTokenAmount minimumTokenA minimumTokenB : Int) (programId : PublicKey),
        0 ≤ poolTokenAmount ∧ poolTokenAmount < 2 ^ 56 → 0 ≤ minimumTokenA ∧ minimumTokenA < 2 ^ 56 →
        0 ≤ minimumTokenB ∧ minimumTokenB < 2 ^ 56 →
      (Swap.createWithdrawInstruction tokenSwap authority poolMint sourcePoolAccount fromA fromB
          userAccountA userAccountB adminFeeAccountA adminFeeAccountB tokenProgramId
          poolTokenAmount minimumTokenA minimumTokenB programId).map (·.data) =
        .ok ([3] ++ List.replicate 24 0)) ∧
    (∀ (tokenSwap authority poolMint sourcePool base quote userDestination adminDestination
        tokenProgramId : PublicKey) (poolTokenAmount minimumTokenAmount : Int)
        (programId : PublicKey), 0 ≤ poolTokenAmount ∧ poolTokenAmount < 2 ^ 56 →
        0 ≤ minimumTokenAmount ∧ minimumTokenAmount < 2 ^ 64 →
      (Swap.createWithdrawOneInstruction tokenSwap authority poolMint sourcePool base quote
          userDestination adminDestination tokenProgramId poolTokenAmount minimumTokenAmount
          programId).map (·.data) = .ok ([4] ++ List.replicate 16 0)) :=
  ⟨createInitSwapInstruction_small, createSwapInstruction_small, createDepositInstruction_small,
    createWithdrawInstruction_small, createWithdrawOneInstruction_small⟩

theorem zeroed_amounts_at_small_arguments :
    (Swap.createInitSwapInstruction SYSVAR_CLOCK_PUBKEY SYSVAR_CLOCK_PUBKEY SYSVAR_CLOCK_PUBKEY
      SYSVAR_CLOCK_PUBKEY SYSVAR_CLOCK_PUBKEY SYSVAR_CLOCK_PUBKEY SYSVAR_CLOCK_PUBKEY
      SYSVAR_CLOCK_PUBKEY SYSVAR_CLOCK_PUBKEY SYSVAR_CLOCK_PUBKEY SYSVAR_CLOCK_PUBKEY
      SYSVAR_CLOCK_PUBKEY SYSVAR_CLOCK_PUBKEY SYSVAR_CLOCK_PUBKEY (.finite 7) 100 DEFAULT_FEES
      DEFAULT_REWARDS 1 1 0 SYSVAR_CLOCK_PUBKEY).map (·.data) = .ok ([0] ++ le 1 7 ++
      List.replicate 96 0) ∧
    (Swap.createSwapInstruction SYSVAR_CLOCK_PUBKEY SYSVAR_CLOCK_PUBKEY SYSVAR_CLOCK_PUBKEY
      SYSVAR_CLOCK_PUBKEY SYSVAR_CLOCK_PUBKEY SYSVAR_CLOCK_PUBKEY SYSVAR_CLOCK_PUBKEY
      SYSVAR_CLOCK_PUBKEY SYSVAR_CLOCK_PUBKEY SYSVAR_CLOCK_PUBKEY 1 2 0 SYSVAR_CLOCK_PUBKEY).map
      (·.data) = .ok ([1] ++ List.replicate 24 0) ∧
    (Swap.createDepositInstruction SYSVAR_CLOCK_PUBKEY SYSVAR_CLOCK_PUBKEY SYSVAR_CLOCK_PUBKEY
      SYSVAR_CLOCK_PUBKEY SYSVAR_CLOCK_PUBKEY SYSVAR_CLOCK_PUBKEY SYSVAR_CLOCK_PUBKEY
      SYSVAR_CLOCK_PUBKEY SYSVAR_CLOCK_PUBKEY 1 2 3 SYSVAR_CLOCK_PUBKEY).map (·.data) = .ok ([2] ++
      List.replicate 24 0) ∧
    (Swap.createWithdrawInstruction SYSVAR_CLOCK_PUBKEY SYSVAR_CLOCK_PUBKEY SYSVAR_CLOCK_PUBKEY
      SYSVAR_CLOCK_PUBKEY SYSVAR_CLOCK_PUBKEY SYSVAR_CLOCK_PUBKEY SYSVAR_CLOCK_PUBKEY
      SYSVAR_CLOCK_PUBKEY SYSVAR_CLOCK_PUBKEY SYSVAR_CLOCK_PUBKEY SYSVAR_CLOCK_PUBKEY 1 2 3
      SYSVAR_CLOCK_PUBKEY).map (·.data) = .ok ([3] ++ List.replicate 24 0) ∧
    (Swap.createWithdrawOneInstruction SYSVAR_CLOCK_PUBKEY SYSVAR_CLOCK_PUBKEY SYSVAR_CLOCK_PUBKEY
      SYSVAR_CLOCK_PUBKEY SYSVAR_CLOCK_PUBKEY SYSVAR_CLOCK_PUBKEY SYSVAR_CLOCK_PUBKEY
      SYSVAR_CLOCK_PUBKEY SYSVAR_CLOCK_PUBKEY 1 2 SYSVAR_CLOCK_PUBKEY).map (·.data) = .ok ([4] ++
      List.replicate 16 0) := by
  obtain ⟨hI, hS, hD, hW, hO⟩ := zeroed_amounts
  exact ⟨hI _ _ _ _ _ _ _ _ _ _ _ _ _ _ _ (by decide) _ _ _ _ _ _ _ (by decide) _ _
      DEFAULT_FEES_toBuffer DEFAULT_REWARDS_toBuffer (by decide) (by decide) (by decide),
    hS _ _ _ _ _ _ _ _ _ _ _ _ _ _ (by decide) (by decide) (by decide),
    hD _ _ _ _ _ _ _ _ _ _ _ _ _ (by decide) (by decide) (by decide),
    hW _ _ _ _ _ _ _ _ _ _ _ _ _ _ _ (by decide) (by decide) (by decide),
    hO _ _ _ _ _ _ _ _ _ _ _ _ (by decide) (by decide)⟩

/-- `createWithdrawOneInstruction` never writes its minimum: whatever its arguments, data that
comes back ends with the eight zeros of the allocated buffer. -/
theorem withdrawOne_minimum_unwritten (tokenSwap authority poolMint sourcePool base quote
    userDestination adminDestination tokenProgramId : PublicKey)
    (poolTokenAmount minimumTokenAmount : Int) (programId : PublicKey)
    {ix : TransactionInstruction}
    (h : Swap.createWithdrawOneInstruction tokenSwap authority poolMint sourcePool base quote
      userDestination adminDestination tokenProgramId poolTokenAmount minimumTokenAmount
      programId = .ok ix) :
    ix.data.drop 9 = List.replicate 8 0 := by
  simp only [Swap.createWithdrawOneInstruction, bind_eq_ok, pure_eq_ok, Except.ok.injEq] at h
  obtain ⟨_, -, _, -, data, hdata, rfl⟩ := h
  obtain ⟨n, hr⟩ := encode_of_encodeData hdata
  exact encodeFields_last_unwritten (by simp) (by rfl)
    [.u8 "instruction", .nu64 "poolTokenAmount"] _ 0 0 0 0 _ hr

theorem withdrawOne_minimum_unwritten_at_one :
    ∃ ix, Swap.createWithdrawOneInstruction SYSVAR_CLOCK_PUBKEY SYSVAR_CLOCK_PUBKEY
      SYSVAR_CLOCK_PUBKEY SYSVAR_CLOCK_PUBKEY SYSVAR_CLOCK_PUBKEY SYSVAR_CLOCK_PUBKEY
      SYSVAR_CLOCK_PUBKEY SYSVAR_CLOCK_PUBKEY SYSVAR_CLOCK_PUBKEY 1 1 SYSVAR_CLOCK_PUBKEY = .ok ix ∧
      ix.data.drop 9 = List.replicate 8 0 := by
  exact exists_ok_of_map (createWithdrawOneInstruction_small _ _ _ _ _ _ _ _ _ _
    (show (0 : Int) ≤ 1 ∧ (1 : Int) < 2 ^ 56 by norm_num)
    (show (0 : Int) ≤ 1 ∧ (1 : Int) < 2 ^ 64 by norm_num))
    fun _ => withdrawOne_minimum_unwritten _ _ _ _ _ _ _ _ _ _ _ _

/-! ## The swap family -/

/-- The swap program's instruction data, over every argument. The older encoders send the tag,
the nonce where there is one, and each admitted argument's eight bytes in layout order. The
`SwapInstruction` encoders, whenever they return, send data of their layout's span that starts
with the tag, and with the nonce for `Initialize`. -/
theorem swapFamily_data :
    (∀ (tokenSwap authority userSource poolSource poolDestination userDestination adminDestination
        swapProgramId tokenProgramId : PublicKey) (amountIn minimumAmountOut : NumericArg)
        (a m : Int), admitted amountIn = some a → admitted minimumAmountOut = some m →
      (Legacy.swapInstruction tokenSwap authority userSource poolSource poolDestination
          userDestination adminDestination swapProgramId tokenProgramId amountIn
          minimumAmountOut).map (·.data) = .ok ([1] ++ le 8 a ++ le 8 m)) ∧
    (∀ (tokenSwap authority sourceA sourceB intoA intoB poolTokenMint poolTokenAccount
        swapProgramId tokenProgramId : PublicKey)
        (tokenAmountA tokenAmountB minimumPoolTokenAmount : NumericArg) (a b m : Int),
        admitted tokenAmountA = some a → admitted tokenAmountB = some b →
        admitted minimumPoolTokenAmount = some m →
      (Legacy.depositInstruction tokenSwap authority sourceA sourceB intoA intoB poolTokenMint
          poolTokenAccount swapProgramId tokenProgramId tokenAmountA tokenAmountB
          minimumPoolTokenAmount).map (·.data) = .ok ([2] ++ le 8 a ++ le 8 b ++ le 8 m)) ∧
    (∀ (tokenSwap authority poolMint sourcePoolAccount fromA fromB userAccountA userAccountB
        adminFeeAccountA adminFeeAccountB swapProgramId tokenProgramId : PublicKey)
        (poolTokenAmount minimumTokenA minimumTokenB : NumericArg) (p a b : Int),
        admitted poolTokenAmount = some p → admitted minimumTokenA = some a →
        admitted minimumTokenB = some b →
      (Legacy.withdrawInstruction tokenSwap authority poolMint sourcePoolAccount fromA fromB
          userAccountA userAccountB adminFeeAccountA adminFeeAccountB swapProgramId tokenProgramId
          poolTokenAmount minimumTokenA minimumTokenB).map (·.data) =
        .ok ([3] ++ le 8 p ++ le 8 a ++ le 8 b)) ∧
    (∀ (tokenSwapAccount : Keypair) (authority adminAccount adminFeeAccountA adminFeeAccountB
        tokenMintA tokenAccountA tokenMintB tokenAccountB poolTokenMint poolTokenAccount
        swapProgramId tokenProgramId : PublicKey) (nonce : Nat), nonce < 2 ^ 8 →
      ∀ (ampFactor : NumericArg) (amp : Int), admitted ampFactor = some amp →
      ∀ (fees : Legacy.Fees) (fs : List Int),
        List.Forall₂ (fun f z => admitted f.2 = some z) fees.fields fs →
      (Legacy.createInitSwapInstruction tokenSwapAccount authority adminAccount adminFeeAccountA
          adminFeeAccountB tokenMintA tokenAccountA tokenMintB tokenAccountB poolTokenMint
          poolTokenAccount swapProgramId tokenProgramId (.finite nonce) ampFactor fees).map
          (·.data) = .ok ([0] ++ le 1 nonce ++ le 8 amp ++ (fs.map (le 8)).flatten)) ∧
    (∀ (tokenSwap authority adminAccount adminFeeAccountA adminFeeAccountB tokenMintA
        tokenAccountA tokenMintB tokenAccountB poolTokenMint poolTokenAccount rewardTokenAccount
        rewardMint tokenProgramId : PublicKey) (nonce : Nat), nonce < 2 ^ 8 →
      ∀ (ampFactor : Int) (fees : IFees) (rewards : IRewards) (k i isOpenTwap : Int)
        (programId : PublicKey) (ix : TransactionInstruction),
      Swap.createInitSwapInstruction tokenSwap authority adminAccount adminFeeAccountA
          adminFeeAccountB tokenMintA tokenAccountA tokenMintB tokenAccountB poolTokenMint
          poolTokenAccount rewardTokenAccount rewardMint tokenProgramId (.finite nonce) ampFactor
          fees rewards k i isOpenTwap programId = .ok ix →
        ix.data.length = 98 ∧ ix.data.take 2 = [0] ++ le 1 nonce) ∧
    (∀ (tokenSwap authority userSource poolSource poolDestination userDestination adminDestination
        rewardDestination rewardMint tokenProgramId : PublicKey)
        (amountIn minimumAmountOut swapDirection : Int) (programId : PublicKey)
        (ix : TransactionInstruction),
      Swap.createSwapInstruction tokenSwap authority userSource poolSource poolDestination
          userDestination adminDestination rewardDestination rewardMint tokenProgramId amountIn
          minimumAmountOut swapDirection programId = .ok ix →
        ix.data.length = 25 ∧ ix.data.take 1 = [1]) ∧
    (∀ (tokenSwap authority sourceA sourceB intoA intoB poolTokenMint poolTokenAccount
        tokenProgramId : PublicKey) (tokenAmountA tokenAmountB minimumPoolTokenAmount : Int)
        (programId : PublicKey) (ix : TransactionInstruction),
      Swap.createDepositInstruction tokenSwap authority sourceA sourceB intoA intoB poolTokenMint
          poolTokenAccount tokenProgramId tokenAmountA tokenAmountB minimumPoolTokenAmount
          programId = .ok ix →
        ix.data.length = 25 ∧ ix.data.take 1 = [2]) ∧
    (∀ (tokenSwap authority poolMint sourcePoolAccount fromA fromB userAccountA userAccountB
        adminFeeAccountA adminFeeAccountB tokenProgramId : PublicKey)
        (poolTokenAmount minimumTokenA minimumTokenB : Int) (programId : PublicKey)
        (ix : TransactionInstruction),
      Swap.createWithdrawInstruction tokenSwap authority poolMint sourcePoolAccount fromA fromB
          userAccountA userAccountB adminFeeAccountA adminFeeAccountB tokenProgramId
          poolTokenAmount minimumTokenA minimumTokenB programId = .ok ix →
        ix.data.length = 25 ∧ ix.data.take 1 = [3]) ∧
    (∀ (tokenSwap authority poolMint sourcePool base quote userDestination adminDestination
        tokenProgramId : PublicKey) (poolTokenAmount minimumTokenAmount : Int)
        (programId : PublicKey) (ix : TransactionInstruction),
      Swap.createWithdrawOneInstruction tokenSwap authority poolMint sourcePool base quote
          userDestination adminDestination tokenProgramId poolTokenAmount minimumTokenAmount
          programId = .ok ix →
        ix.data.length = 17 ∧ ix.data.take 1 = [4]) :=
  ⟨swapInstruction_data, depositInstruction_data, withdrawInstruction_data,
    createInitSwapInstruction_data, createInitSwapInstruction_head, createSwapInstruction_head,
    createDepositInstruction_head, createWithdrawInstruction_head,
    createWithdrawOneInstruction_head⟩

theorem swapFamily_data_at_small_arguments :
    (Legacy.swapInstruction SYSVAR_CLOCK_PUBKEY SYSVAR_CLOCK_PUBKEY SYSVAR_CLOCK_PUBKEY
      SYSVAR_CLOCK_PUBKEY SYSVAR_CLOCK_PUBKEY SYSVAR_CLOCK_PUBKEY SYSVAR_CLOCK_PUBKEY
      SYSVAR_CLOCK_PUBKEY SYSVAR_CLOCK_PUBKEY (.numberU64 1) (.number (.finite 2))).map (·.data) =
      .ok ([1] ++ le 8 1 ++ le 8 2) ∧
    (Legacy.depositInstruction SYSVAR_CLOCK_PUBKEY SYSVAR_CLOCK_PUBKEY SYSVAR_CLOCK_PUBKEY
      SYSVAR_CLOCK_PUBKEY SYSVAR_CLOCK_PUBKEY SYSVAR_CLOCK_PUBKEY SYSVAR_CLOCK_PUBKEY
      SYSVAR_CLOCK_PUBKEY SYSVAR_CLOCK_PUBKEY SYSVAR_CLOCK_PUBKEY (.numberU64 1) (.numberU64 2)
      (.numberU64 3)).map (·.data) = .ok ([2] ++ le 8 1 ++ le 8 2 ++ le 8 3) ∧
    (Legacy.withdrawInstruction SYSVAR_CLOCK_PUBKEY SYSVAR_CLOCK_PUBKEY SYSVAR_CLOCK_PUBKEY
      SYSVAR_CLOCK_PUBKEY SYSVAR_CLOCK_PUBKEY SYSVAR_CLOCK_PUBKEY SYSVAR_CLOCK_PUBKEY
      SYSVAR_CLOCK_PUBKEY SYSVAR_CLOCK_PUBKEY SYSVAR_CLOCK_PUBKEY SYSVAR_CLOCK_PUBKEY
      SYSVAR_CLOCK_PUBKEY (.numberU64 1) (.numberU64 2) (.numberU64 3)).map (·.data) =
      .ok ([3] ++ le 8 1 ++ le 8 2 ++ le 8 3) ∧
    (Legacy.createInitSwapInstruction ⟨SYSVAR_CLOCK_PUBKEY⟩ SYSVAR_CLOCK_PUBKEY SYSVAR_CLOCK_PUBKEY
      SYSVAR_CLOCK_PUBKEY SYSVAR_CLOCK_PUBKEY SYSVAR_CLOCK_PUBKEY SYSVAR_CLOCK_PUBKEY
      SYSVAR_CLOCK_PUBKEY SYSVAR_CLOCK_PUBKEY SYSVAR_CLOCK_PUBKEY SYSVAR_CLOCK_PUBKEY
      SYSVAR_CLOCK_PUBKEY SYSVAR_CLOCK_PUBKEY (.finite 7) (.numberU64 100) ⟨.numberU64 0,
      .numberU64 1, .numberU64 0, .numberU64 1, .numberU64 1, .numberU64 4, .numberU64 0,
      .numberU64 1⟩).map (·.data) =
      .ok ([0] ++ le 1 7 ++ le 8 100 ++ ([0, 1, 0, 1, 1, 4, 0, 1].map (le 8)).flatten) ∧
    (∃ ix, Swap.createInitSwapInstruction SYSVAR_CLOCK_PUBKEY SYSVAR_CLOCK_PUBKEY
      SYSVAR_CLOCK_PUBKEY SYSVAR_CLOCK_PUBKEY SYSVAR_CLOCK_PUBKEY SYSVAR_CLOCK_PUBKEY
      SYSVAR_CLOCK_PUBKEY SYSVAR_CLOCK_PUBKEY SYSVAR_CLOCK_PUBKEY SYSVAR_CLOCK_PUBKEY
      SYSVAR_CLOCK_PUBKEY SYSVAR_CLOCK_PUBKEY SYSVAR_CLOCK_PUBKEY SYSVAR_CLOCK_PUBKEY (.finite 7)
      100 DEFAULT_FEES DEFAULT_REWARDS 1 1 0 SYSVAR_CLOCK_PUBKEY = .ok ix ∧ ix.data.length = 98 ∧
      ix.data.take 2 = [0] ++ le 1 7) ∧
    (∃ ix, Swap.createSwapInstruction SYSVAR_CLOCK_PUBKEY SYSVAR_CLOCK_PUBKEY SYSVAR_CLOCK_PUBKEY
      SYSVAR_CLOCK_PUBKEY SYSVAR_CLOCK_PUBKEY SYSVAR_CLOCK_PUBKEY SYSVAR_CLOCK_PUBKEY
      SYSVAR_CLOCK_PUBKEY SYSVAR_CLOCK_PUBKEY SYSVAR_CLOCK_PUBKEY 1 2 0 SYSVAR_CLOCK_PUBKEY = .ok ix
      ∧ ix.data.length = 25 ∧ ix.data.take 1 = [1]) ∧
    (∃ ix, Swap.createDepositInstruction SYSVAR_CLOCK_PUBKEY SYSVAR_CLOCK_PUBKEY SYSVAR_CLOCK_PUBKEY
      SYSVAR_CLOCK_PUBKEY SYSVAR_CLOCK_PUBKEY SYSVAR_CLOCK_PUBKEY SYSVAR_CLOCK_PUBKEY
      SYSVAR_CLOCK_PUBKEY SYSVAR_CLOCK_PUBKEY 1 2 3 SYSVAR_CLOCK_PUBKEY = .ok ix ∧
      ix.data.length = 25 ∧ ix.data.take 1 = [2]) ∧
    (∃ ix, Swap.createWithdrawInstruction SYSVAR_CLOCK_PUBKEY SYSVAR_CLOCK_PUBKEY
      SYSVAR_CLOCK_PUBKEY SYSVAR_CLOCK_PUBKEY SYSVAR_CLOCK_PUBKEY SYSVAR_CLOCK_PUBKEY
      SYSVAR_CLOCK_PUBKEY SYSVAR_CLOCK_PUBKEY SYSVAR_CLOCK_PUBKEY SYSVAR_CLOCK_PUBKEY
      SYSVAR_CLOCK_PUBKEY 1 2 3 SYSVAR_CLOCK_PUBKEY = .ok ix ∧ ix.data.length = 25 ∧
      ix.data.take 1 = [3]) ∧
    ∃ ix, Swap.createWithdrawOneInstruction SYSVAR_CLOCK_PUBKEY SYSVAR_CLOCK_PUBKEY
      SYSVAR_CLOCK_PUBKEY SYSVAR_CLOCK_PUBKEY SYSVAR_CLOCK_PUBKEY SYSVAR_CLOCK_PUBKEY
      SYSVAR_CLOCK_PUBKEY SYSVAR_CLOCK_PUBKEY SYSVAR_CLOCK_PUBKEY 1 2 SYSVAR_CLOCK_PUBKEY = .ok ix ∧
      ix.data.length = 17 ∧ ix.data.take 1 = [4] := by
  obtain ⟨hs, hd, hw, hi, hI, hS, hD, hW, hO⟩ := swapFamily_data
  have small : ∀ z : Int, 0 ≤ z → z ≤ 100 → 0 ≤ z ∧ z < 2 ^ 56 := fun z h0 h1 => ⟨h0, by omega⟩
  exact ⟨hs _ _ _ _ _ _ _ _ _ _ _ _ _ (by decide) (by decide),
    hd _ _ _ _ _ _ _ _ _ _ _ _ _ _ _ _ (by decide) (by decide) (by decide),
    hw _ _ _ _ _ _ _ _ _ _ _ _ _ _ _ _ _ _ (by decide) (by decide) (by decide),
    hi _ _ _ _ _ _ _ _ _ _ _ _ _ _ (by decide) _ _ (by decide) _ _ (by decide),
    exists_ok_of_map (createInitSwapInstruction_small _ _ _ _ _ _ _ _ _ _ _ _ _ _
      (show 7 < 2 ^ 8 by decide) _ (small 100 (by decide) (by decide)) DEFAULT_FEES_toBuffer
      DEFAULT_REWARDS_toBuffer (small 1 (by decide) (by decide)) (small 1 (by decide) (by decide))
      (small 0 le_rfl (by decide))) (hI _ _ _ _ _ _ _ _ _ _ _ _ _ _ _ (by decide) _ _ _ _ _ _ _),
    exists_ok_of_map (createSwapInstruction_small _ _ _ _ _ _ _ _ _ _ _
      (small 1 (by decide) (by decide)) (small 2 (by decide) (by decide))
      (small 0 le_rfl (by decide))) (hS _ _ _ _ _ _ _ _ _ _ _ _ _ _),
    exists_ok_of_map (createDepositInstruction_small _ _ _ _ _ _ _ _ _ _
      (small 1 (by decide) (by decide)) (small 2 (by decide) (by decide))
      (small 3 (by decide) (by decide))) (hD _ _ _ _ _ _ _ _ _ _ _ _ _),
    exists_ok_of_map (createWithdrawInstruction_small _ _ _ _ _ _ _ _ _ _ _ _
      (small 1 (by decide) (by decide)) (small 2 (by decide) (by decide))
      (small 3 (by decide) (by decide))) (hW _ _ _ _ _ _ _ _ _ _ _ _ _ _ _),
    exists_ok_of_map (createWithdrawOneInstruction_small _ _ _ _ _ _ _ _ _ _
      (small 1 (by decide) (by decide)) (show (0 : Int) ≤ 2 ∧ (2 : Int) < 2 ^ 64 by decide))
      (hO _ _ _ _ _ _ _ _ _ _ _ _)⟩

/-! ## The two generations side by side -/

/-- Two instructions with the same accounts and program are equal exactly when their data is. -/
theorem instruction_eq_iff {ix ix' : TransactionInstruction} (hk : ix.keys = ix'.keys)
    (hp : ix.programId = ix'.programId) : ix = ix' ↔ ix.data = ix'.data := by
  cases ix
  cases ix'
  simp_all

/-- Three arguments' bytes side by side are 24 zeros exactly when all three are zero. -/
theorem le_append_eq_zeros_iff {a b m : Int} (ha : 0 ≤ a ∧ a < 2 ^ 64) (hb : 0 ≤ b ∧ b < 2 ^ 64)
    (hm : 0 ≤ m ∧ m < 2 ^ 64) :
    le 8 a ++ le 8 b ++ le 8 m = List.replicate 24 0 ↔ a = 0 ∧ b = 0 ∧ m = 0 := by
  rw [show List.replicate 24 (0 : UInt8) =
    List.replicate 8 0 ++ List.replicate 8 0 ++ List.replicate 8 0 from rfl]
  constructor
  · intro h
    obtain ⟨hab, hm0⟩ := List.append_inj h (by simp)
    obtain ⟨ha0, hb0⟩ := List.append_inj hab (by simp)
    exact ⟨(le_eq_zeros_iff (w := 8) ha.1 ha.2).1 ha0,
      (le_eq_zeros_iff (w := 8) hb.1 hb.2).1 hb0, (le_eq_zeros_iff (w := 8) hm.1 hm.2).1 hm0⟩
  · rintro ⟨rfl, rfl, rfl⟩
    rfl


/-- The newer `createDepositInstruction` builds the accounts and program of the older
`depositInstruction`. -/
theorem createDepositInstruction_accounts (tokenSwap authority sourceA sourceB intoA intoB
    poolTokenMint poolTokenAccount tokenProgramId : PublicKey)
    (tokenAmountA tokenAmountB minimumPoolTokenAmount : Int)
    (x y w : NumericArg) (programId : PublicKey) {ix ix' : TransactionInstruction}
    (h : Swap.createDepositInstruction tokenSwap authority sourceA sourceB intoA intoB
      poolTokenMint poolTokenAccount tokenProgramId tokenAmountA tokenAmountB
      minimumPoolTokenAmount programId = .ok ix)
    (h' : Legacy.depositInstruction tokenSwap authority sourceA sourceB intoA intoB poolTokenMint
      poolTokenAccount programId tokenProgramId x y w = .ok ix') :
    ix.keys = ix'.keys ∧ ix.programId = ix'.programId := by
  simp only [Swap.createDepositInstruction, bind_eq_ok, pure_eq_ok, Except.ok.injEq] at h
  simp only [Legacy.depositInstruction, bind_eq_ok, pure_eq_ok, Except.ok.injEq] at h'
  obtain ⟨_, _, _, _, _, _, _, _, rfl⟩ := h
  obtain ⟨_, _, rfl⟩ := h'
  exact ⟨rfl, rfl⟩

theorem deposit_generations_agree_iff (tokenSwap authority sourceA sourceB intoA intoB
    poolTokenMint poolTokenAccount tokenProgramId programId : PublicKey)
    {x y w : NumericArg} {a b m : Int} (hx : admitted x = some a) (hy : admitted y = some b)
    (hw : admitted w = some m) (ha : a < 2 ^ 56) (hb : b < 2 ^ 56) (hm : m < 2 ^ 56) :
    Swap.createDepositInstruction tokenSwap authority sourceA sourceB intoA intoB poolTokenMint
        poolTokenAccount tokenProgramId a b m programId =
      Legacy.depositInstruction tokenSwap authority sourceA sourceB intoA intoB poolTokenMint
        poolTokenAccount programId tokenProgramId x y w ↔ a = 0 ∧ b = 0 ∧ m = 0 := by
  obtain ⟨ix, hix, hd⟩ := map_eq_ok (createDepositInstruction_small tokenSwap authority sourceA
    sourceB intoA intoB poolTokenMint poolTokenAccount tokenProgramId programId
    ⟨(admitted_range hx).1, ha⟩ ⟨(admitted_range hy).1, hb⟩ ⟨(admitted_range hw).1, hm⟩)
  obtain ⟨ix', hix', hd'⟩ := map_eq_ok (depositInstruction_data tokenSwap authority sourceA
    sourceB intoA intoB poolTokenMint poolTokenAccount programId tokenProgramId hx hy hw)
  obtain ⟨hk, hp⟩ := createDepositInstruction_accounts _ _ _ _ _ _ _ _ _ _ _ _ _ _ _ _ hix hix'
  rw [hix, hix', Except.ok.injEq, instruction_eq_iff hk hp, hd, hd', List.append_assoc,
    List.append_assoc, List.append_cancel_left_eq, eq_comm, ← List.append_assoc]
  exact le_append_eq_zeros_iff (admitted_range hx) (admitted_range hy) (admitted_range hw)


/-- The newer `createWithdrawInstruction` builds the accounts and program of the older
`withdrawInstruction`. -/
theorem createWithdrawInstruction_accounts (tokenSwap authority poolMint sourcePoolAccount fromA
    fromB userAccountA userAccountB adminFeeAccountA adminFeeAccountB tokenProgramId : PublicKey)
    (poolTokenAmount minimumTokenA minimumTokenB : Int) (x y w : NumericArg)
    (programId : PublicKey) {ix ix' : TransactionInstruction}
    (h : Swap.createWithdrawInstruction tokenSwap authority poolMint sourcePoolAccount fromA fromB
      userAccountA userAccountB adminFeeAccountA adminFeeAccountB tokenProgramId poolTokenAmount
      minimumTokenA minimumTokenB programId = .ok ix)
    (h' : Legacy.withdrawInstruction tokenSwap authority poolMint sourcePoolAccount fromA fromB
      userAccountA userAccountB adminFeeAccountA adminFeeAccountB programId tokenProgramId x y w =
      .ok ix') :
    ix.keys = ix'.keys ∧ ix.programId = ix'.programId := by
  simp only [Swap.createWithdrawInstruction, bind_eq_ok, pure_eq_ok, Except.ok.injEq] at h
  simp only [Legacy.withdrawInstruction, bind_eq_ok, pure_eq_ok, Except.ok.injEq] at h'
  obtain ⟨_, _, _, _, _, _, _, _, rfl⟩ := h
  obtain ⟨_, _, rfl⟩ := h'
  exact ⟨rfl, rfl⟩

theorem withdraw_generations_agree_iff (tokenSwap authority poolMint sourcePoolAccount fromA
    fromB userAccountA userAccountB adminFeeAccountA adminFeeAccountB tokenProgramId
    programId : PublicKey) {x y w : NumericArg} {p a b : Int} (hx : admitted x = some p)
    (hy : admitted y = some a) (hw : admitted w = some b) (hp : p < 2 ^ 56) (ha : a < 2 ^ 56)
    (hb : b < 2 ^ 56) :
    Swap.createWithdrawInstruction tokenSwap authority poolMint sourcePoolAccount fromA fromB
        userAccountA userAccountB adminFeeAccountA adminFeeAccountB tokenProgramId p a b
        programId =
      Legacy.withdrawInstruction tokenSwap authority poolMint sourcePoolAccount fromA fromB
        userAccountA userAccountB adminFeeAccountA adminFeeAccountB programId tokenProgramId
        x y w ↔ p = 0 ∧ a = 0 ∧ b = 0 := by
  obtain ⟨ix, hix, hd⟩ := map_eq_ok (createWithdrawInstruction_small tokenSwap authority poolMint
    sourcePoolAccount fromA fromB userAccountA userAccountB adminFeeAccountA adminFeeAccountB
    tokenProgramId programId ⟨(admitted_range hx).1, hp⟩ ⟨(admitted_range hy).1, ha⟩
    ⟨(admitted_range hw).1, hb⟩)
  obtain ⟨ix', hix', hd'⟩ := map_eq_ok (withdrawInstruction_data tokenSwap authority poolMint
    sourcePoolAccount fromA fromB userAccountA userAccountB adminFeeAccountA adminFeeAccountB
    programId tokenProgramId hx hy hw)
  obtain ⟨hk, hpid⟩ := createWithdrawInstruction_accounts _ _ _ _ _ _ _ _ _ _ _ _ _ _ _ _ _ _
    hix hix'
  rw [hix, hix', Except.ok.injEq, instruction_eq_iff hk hpid, hd, hd', List.append_assoc,
    List.append_assoc, List.append_cancel_left_eq, eq_comm, ← List.append_assoc]
  exact le_append_eq_zeros_iff (admitted_range hx) (admitted_range hy) (admitted_range hw)

/-- **The two generations of Deposit and Withdraw.** Whatever the amounts, when the encoders
of `instructions/admin.ts` and the older encoders of `instructions.ts` both return an
instruction for the same accounts and program, the two name the same accounts, flags
included, and the same program. On amounts below `2 ^ 56` that the older encoder admits, the
newer one returns the older one's instruction exactly when every amount is zero. -/
theorem generations_agree_iff :
    (∀ (tokenSwap authority sourceA sourceB intoA intoB poolTokenMint poolTokenAccount
        tokenProgramId programId : PublicKey),
      (∀ (a b m : Int) (x y w : NumericArg) (ix ix' : TransactionInstruction),
        Swap.createDepositInstruction tokenSwap authority sourceA sourceB intoA intoB
            poolTokenMint poolTokenAccount tokenProgramId a b m programId = .ok ix →
        Legacy.depositInstruction tokenSwap authority sourceA sourceB intoA intoB poolTokenMint
            poolTokenAccount programId tokenProgramId x y w = .ok ix' →
        ix.keys = ix'.keys ∧ ix.programId = ix'.programId) ∧
      ∀ (x y w : NumericArg) (a b m : Int),
        admitted x = some a → admitted y = some b → admitted w = some m →
        a < 2 ^ 56 → b < 2 ^ 56 → m < 2 ^ 56 →
        (Swap.createDepositInstruction tokenSwap authority sourceA sourceB intoA intoB
            poolTokenMint poolTokenAccount tokenProgramId a b m programId =
          Legacy.depositInstruction tokenSwap authority sourceA sourceB intoA intoB poolTokenMint
            poolTokenAccount programId tokenProgramId x y w ↔ a = 0 ∧ b = 0 ∧ m = 0)) ∧
    (∀ (tokenSwap authority poolMint sourcePoolAccount fromA fromB userAccountA userAccountB
        adminFeeAccountA adminFeeAccountB tokenProgramId programId : PublicKey),
      (∀ (p a b : Int) (x y w : NumericArg) (ix ix' : TransactionInstruction),
        Swap.createWithdrawInstruction tokenSwap authority poolMint sourcePoolAccount fromA fromB
            userAccountA userAccountB adminFeeAccountA adminFeeAccountB tokenProgramId p a b
            programId = .ok ix →
        Legacy.withdrawInstruction tokenSwap authority poolMint sourcePoolAccount fromA fromB
            userAccountA userAccountB adminFeeAccountA adminFeeAccountB programId tokenProgramId
            x y w = .ok ix' →
        ix.keys = ix'.keys ∧ ix.programId = ix'.programId) ∧
      ∀ (x y w : NumericArg) (p a b : Int),
        admitted x = some p → admitted y = some a → admitted w = some b →
        p < 2 ^ 56 → a < 2 ^ 56 → b < 2 ^ 56 →
        (Swap.createWithdrawInstruction tokenSwap authority poolMint sourcePoolAccount fromA
            fromB userAccountA userAccountB adminFeeAccountA adminFeeAccountB tokenProgramId p a b
            programId =
          Legacy.withdrawInstruction tokenSwap authority poolMint sourcePoolAccount fromA fromB
            userAccountA userAccountB adminFeeAccountA adminFeeAccountB programId tokenProgramId
            x y w ↔ p = 0 ∧ a = 0 ∧ b = 0)) :=
  ⟨fun _ _ _ _ _ _ _ _ _ _ =>
      ⟨fun _ _ _ _ _ _ _ _ => createDepositInstruction_accounts _ _ _ _ _ _ _ _ _ _ _ _ _ _ _ _,
        fun _ _ _ _ _ _ => deposit_generations_agree_iff _ _ _ _ _ _ _ _ _ _⟩,
    fun _ _ _ _ _ _ _ _ _ _ _ _ =>
      ⟨fun _ _ _ _ _ _ _ _ =>
          createWithdrawInstruction_accounts _ _ _ _ _ _ _ _ _ _ _ _ _ _ _ _ _ _,
        fun _ _ _ _ _ _ => withdraw_generations_agree_iff _ _ _ _ _ _ _ _ _ _ _ _⟩⟩

/-- At zero amounts the generations agree; at a pool amount of one they differ, on the same
accounts and program. -/
theorem generations_agree_iff_at_zero_and_one :
    Swap.createDepositInstruction SYSVAR_CLOCK_PUBKEY SYSVAR_CLOCK_PUBKEY SYSVAR_CLOCK_PUBKEY
        SYSVAR_CLOCK_PUBKEY SYSVAR_CLOCK_PUBKEY SYSVAR_CLOCK_PUBKEY SYSVAR_CLOCK_PUBKEY
        SYSVAR_CLOCK_PUBKEY SYSVAR_CLOCK_PUBKEY 0 0 0 SYSVAR_CLOCK_PUBKEY =
      Legacy.depositInstruction SYSVAR_CLOCK_PUBKEY SYSVAR_CLOCK_PUBKEY SYSVAR_CLOCK_PUBKEY
          SYSVAR_CLOCK_PUBKEY SYSVAR_CLOCK_PUBKEY SYSVAR_CLOCK_PUBKEY SYSVAR_CLOCK_PUBKEY
          SYSVAR_CLOCK_PUBKEY SYSVAR_CLOCK_PUBKEY SYSVAR_CLOCK_PUBKEY (.numberU64 0) (.numberU64 0)
          (.numberU64 0) ∧
    Swap.createWithdrawInstruction SYSVAR_CLOCK_PUBKEY SYSVAR_CLOCK_PUBKEY SYSVAR_CLOCK_PUBKEY
        SYSVAR_CLOCK_PUBKEY SYSVAR_CLOCK_PUBKEY SYSVAR_CLOCK_PUBKEY SYSVAR_CLOCK_PUBKEY
        SYSVAR_CLOCK_PUBKEY SYSVAR_CLOCK_PUBKEY SYSVAR_CLOCK_PUBKEY SYSVAR_CLOCK_PUBKEY 1 0 0
        SYSVAR_CLOCK_PUBKEY ≠
      Legacy.withdrawInstruction SYSVAR_CLOCK_PUBKEY SYSVAR_CLOCK_PUBKEY SYSVAR_CLOCK_PUBKEY
          SYSVAR_CLOCK_PUBKEY SYSVAR_CLOCK_PUBKEY SYSVAR_CLOCK_PUBKEY SYSVAR_CLOCK_PUBKEY
          SYSVAR_CLOCK_PUBKEY SYSVAR_CLOCK_PUBKEY SYSVAR_CLOCK_PUBKEY SYSVAR_CLOCK_PUBKEY
          SYSVAR_CLOCK_PUBKEY (.numberU64 1) (.numberU64 0) (.numberU64 0) ∧
    (Swap.createWithdrawInstruction SYSVAR_CLOCK_PUBKEY SYSVAR_CLOCK_PUBKEY SYSVAR_CLOCK_PUBKEY
        SYSVAR_CLOCK_PUBKEY SYSVAR_CLOCK_PUBKEY SYSVAR_CLOCK_PUBKEY SYSVAR_CLOCK_PUBKEY
        SYSVAR_CLOCK_PUBKEY SYSVAR_CLOCK_PUBKEY SYSVAR_CLOCK_PUBKEY SYSVAR_CLOCK_PUBKEY 1 0 0
        SYSVAR_CLOCK_PUBKEY).map (fun ix => (ix.keys, ix.programId)) =
      (Legacy.withdrawInstruction SYSVAR_CLOCK_PUBKEY SYSVAR_CLOCK_PUBKEY SYSVAR_CLOCK_PUBKEY
          SYSVAR_CLOCK_PUBKEY SYSVAR_CLOCK_PUBKEY SYSVAR_CLOCK_PUBKEY SYSVAR_CLOCK_PUBKEY
          SYSVAR_CLOCK_PUBKEY SYSVAR_CLOCK_PUBKEY SYSVAR_CLOCK_PUBKEY SYSVAR_CLOCK_PUBKEY
          SYSVAR_CLOCK_PUBKEY (.numberU64 1) (.numberU64 0) (.numberU64 0)).map
        fun ix => (ix.keys, ix.programId) :=
  ⟨((generations_agree_iff.1 _ _ _ _ _ _ _ _ _ _).2 _ _ _ _ _ _ (by decide) (by decide)
      (by decide) (by decide) (by decide) (by decide)).2 ⟨rfl, rfl, rfl⟩,
    fun h => absurd (((generations_agree_iff.2 _ _ _ _ _ _ _ _ _ _ _ _).2 _ _ _ _ _ _ (by decide)
      (by decide) (by decide) (by decide) (by decide) (by decide)).1 h).1 (by decide),
    map_eq_map_of_ok (createWithdrawInstruction_small _ _ _ _ _ _ _ _ _ _ _ _ (by norm_num)
      (by norm_num) (by norm_num)) (withdrawInstruction_data _ _ _ _ _ _ _ _ _ _ _ _ (p := 1)
      (a := 0) (b := 0) (by decide) (by decide) (by decide)) fun _ _ h h' =>
      Prod.ext_iff.2 ((generations_agree_iff.2 _ _ _ _ _ _ _ _ _ _ _ _).1 _ _ _ _ _ _ _ _ h h')⟩

end DeltafiClient.Guarantees.SwapFamily
