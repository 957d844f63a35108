import DeltafiClient.Guarantees.Schedules

/-!
# The data of the farm encoders

The farm encoders of `instructions.ts` write their tag, the nonce where there is one, and
each 64-bit argument as `new NumberU64(x).toBuffer()` under `Uint64Layout`. For every
argument in the domain of `admitted` their data is the tag, the nonce and the arguments' eight
bytes in layout order (`createInitFarmInstruction_data` and its siblings, `farmFamily_data`).
The amount of `farmDepositInstruction` is a number, so from `2 ^ 53` on `new BN` fails its
assertion (`farmDepositInstruction_two_pow_53`).

`farmWithdrawInstruction` hands its amount to `Uint64Layout` as the number itself, which a
blob does not take: it throws whatever its arguments (`farmWithdrawInstruction_throws`).
-/

namespace DeltafiClient.Guarantees.FarmFamily

open Runtime Wire Source Source.Instructions Encoding

theorem createInitFarmInstruction_data (farmAccount farmBaseAccount : Keypair) (authority
    adminAccount adminFeeAccountPool tokenMintPool tokenAccountPool deltafiTokenMint
    deltafiTokenAccount farmProgramId tokenProgramId : PublicKey) {nonce : Nat}
    (hn : nonce < 2 ^ 8) {fees : Legacy.Fees} {fs : List Int}
    (hf : List.Forall₂ (fun f z => admitted f.2 = some z) fees.fields fs) :
    (Legacy.createInitFarmInstruction farmAccount farmBaseAccount authority adminAccount
        adminFeeAccountPool tokenMintPool tokenAccountPool deltafiTokenMint deltafiTokenAccount
        farmProgramId tokenProgramId (.finite nonce) fees).map (·.data) =
      .ok ([108] ++ le 1 nonce ++ (fs.map (le 8)).flatten) := by
  have hd := amountsData_eq [("instruction", 108), ("nonce", nonce)] fees.fields fs
    (by simpa using hn) hf (by simp [Legacy.Fees.fields]) true
  have h108 : le 1 ((108 : ℕ) : ℤ) = [108] := by decide
  simp only [List.map_cons, List.map_nil, List.cons_append, List.nil_append, List.flatten_cons,
    List.flatten_nil, List.append_nil, h108] at hd
  simp only [Legacy.createInitFarmInstruction, Legacy.tagNumber, hd, ok_bind, pure_eq_ok, map_ok,
    List.cons_append, List.nil_append, List.append_assoc]

theorem farmEnableUserInstruction_data (farmAccount authority userFarmingAccount owner
    farmProgramId : PublicKey) :
    (Legacy.farmEnableUserInstruction farmAccount authority userFarmingAccount owner
      farmProgramId).map (·.data) = .ok [30] := by
  have hd := amountsData_eq [("instruction", 30)] [] [] (by decide) .nil (by simp) true
  simp only [Legacy.farmEnableUserInstruction, Legacy.tagNumber, hd, ok_bind, pure_eq_ok, map_ok]
  rfl

theorem farmDepositInstruction_data (farmBaseAccount farmAccount authority adminFeeAccountDeltafi
    sourcePool userFarming farmPool deltafiTokenMint destDeltafi farmProgramId
    tokenProgramId : PublicKey) {tokenAmountPool : JsNumber} {a : Int}
    (ha : admitted (.number tokenAmountPool) = some a) :
    (Legacy.farmDepositInstruction farmBaseAccount farmAccount authority adminFeeAccountDeltafi
        sourcePool userFarming farmPool deltafiTokenMint destDeltafi farmProgramId tokenProgramId
        tokenAmountPool).map (·.data) = .ok ([31] ++ le 8 a) := by
  have hd := amountsData_eq [("instruction", 31)] [("tokenAmountPool", .number tokenAmountPool)]
    [a] (by decide) (.cons ha .nil) (by simp) false
  have h31 : le 1 ((31 : ℕ) : ℤ) = [31] := by decide
  simp only [List.map_cons, List.map_nil, List.cons_append, List.nil_append, List.flatten_cons,
    List.flatten_nil, List.append_nil, h31] at hd
  simp only [Legacy.farmDepositInstruction, Legacy.tagNumber, hd, ok_bind, pure_eq_ok, map_ok,
    List.cons_append, List.nil_append]

theorem farmEmergencyWithdrawInstruction_data (farmBaseAccount farmAccount authority
    adminFeeAccountDeltafi userPoolAccount userFarming tokenMintPool deltafiTokenMint
    deltafiTokenAccount farmProgramId tokenProgramId : PublicKey) :
    (Legacy.farmEmergencyWithdrawInstruction farmBaseAccount farmAccount authority
        adminFeeAccountDeltafi userPoolAccount userFarming tokenMintPool deltafiTokenMint
        deltafiTokenAccount farmProgramId tokenProgramId).map (·.data) = .ok [33] := by
  have hd := amountsData_eq [("instruction", 33)] [] [] (by decide) .nil (by simp) false
  simp only [Legacy.farmEmergencyWithdrawInstruction, Legacy.tagNumber, hd, ok_bind, pure_eq_ok,
    map_ok]
  rfl

theorem farmPrintPendingDeltafiInstruction_data (farmAccount : Keypair) (authority adminAccount
    adminFeeAccountPool tokenMintPool tokenAccountPool deltafiTokenMint deltafiTokenAccount
    farmProgramId tokenProgramId : PublicKey) {nonce : Nat} (hn : nonce < 2 ^ 8)
    {fees : Legacy.Fees} {fs : List Int}
    (hf : List.Forall₂ (fun f z => admitted f.2 = some z) fees.fields fs) :
    (Legacy.farmPrintPendingDeltafiInstruction farmAccount authority adminAccount
        adminFeeAccountPool tokenMintPool tokenAccountPool deltafiTokenMint deltafiTokenAccount
        farmProgramId tokenProgramId (.finite nonce) fees).map (·.data) =
      .ok ([34] ++ le 1 nonce ++ (fs.map (le 8)).flatten) := by
  have hd := amountsData_eq [("instruction", 34), ("nonce", nonce)] fees.fields fs
    (by simpa using hn) hf (by simp [Legacy.Fees.fields]) true
  have h34 : le 1 ((34 : ℕ) : ℤ) = [34] := by decide
  simp only [List.map_cons, List.map_nil, List.cons_append, List.nil_append, List.flatten_cons,
    List.flatten_nil, List.append_nil, h34] at hd
  simp only [Legacy.farmPrintPendingDeltafiInstruction, Legacy.tagNumber, hd, ok_bind, pure_eq_ok,
    map_ok, List.cons_append, List.nil_append, List.append_assoc]

/-- `new BN(2 ** 53)` fails its assertion, so `farmDepositInstruction` throws on the amount
`2 ^ 53`, an integer in `[0, 2 ^ 64)`. -/
theorem farmDepositInstruction_two_pow_53 :
    (Legacy.farmDepositInstruction SYSVAR_CLOCK_PUBKEY SYSVAR_CLOCK_PUBKEY SYSVAR_CLOCK_PUBKEY
        SYSVAR_CLOCK_PUBKEY SYSVAR_CLOCK_PUBKEY SYSVAR_CLOCK_PUBKEY SYSVAR_CLOCK_PUBKEY
        SYSVAR_CLOCK_PUBKEY SYSVAR_CLOCK_PUBKEY SYSVAR_CLOCK_PUBKEY SYSVAR_CLOCK_PUBKEY
        (.finite (2 ^ 53))).map (·.data) = .error (.error "Assertion failed") := by
  have hbn : bnOfNumber (.finite (2 ^ 53)) = .error (.error "Assertion failed") :=
    bnOfNumber_of_ge (by norm_num)
  simp only [Legacy.farmDepositInstruction, Legacy.amountsData, List.mapM_cons, Legacy.u64Buffer,
    NumberU64.ofArg, hbn, error_bind, map_error]

/-- The struct loop writes the tag, then finds a number where `Uint64Layout`, a blob, needs a
buffer: `farmWithdrawInstruction` throws for every amount. -/
theorem farmWithdrawInstruction_throws (farmBaseAccount farmAccount authority
    adminFeeAccountDeltafi userPoolAccount userFarming tokenMintPool deltafiTokenMint
    deltafiTokenAccount farmProgramId tokenProgramId : PublicKey) (tokenAmountPool : JsNumber) :
    Legacy.farmWithdrawInstruction farmBaseAccount farmAccount authority adminFeeAccountDeltafi
      userPoolAccount userFarming tokenMintPool deltafiTokenMint deltafiTokenAccount farmProgramId
      tokenProgramId tokenAmountPool = .error (Layout.blobSourceError 8 "tokenAmountPool") :=
  rfl

/-! ## The farm family -/

/-- The farm encoders' data, over every admitted argument: the tag, the nonce where there is
one, and each argument's eight bytes in layout order. -/
theorem farmFamily_data :
    (∀ (farmAccount farmBaseAccount : Keypair) (authority adminAccount adminFeeAccountPool
        tokenMintPool tokenAccountPool deltafiTokenMint deltafiTokenAccount farmProgramId
        tokenProgramId : PublicKey) (nonce : Nat), nonce < 2 ^ 8 →
      ∀ (fees : Legacy.Fees) (fs : List Int),
        List.Forall₂ (fun f z => admitted f.2 = some z) fees.fields fs →
      (Legacy.createInitFarmInstruction farmAccount farmBaseAccount authority adminAccount
          adminFeeAccountPool tokenMintPool tokenAccountPool deltafiTokenMint deltafiTokenAccount
          farmProgramId tokenProgramId (.finite nonce) fees).map (·.data) =
        .ok ([108] ++ le 1 nonce ++ (fs.map (le 8)).flatten)) ∧
    (∀ farmAccount authority userFarmingAccount owner farmProgramId : PublicKey,
      (Legacy.farmEnableUserInstruction farmAccount authority userFarmingAccount owner
        farmProgramId).map (·.data) = .ok [30]) ∧
    (∀ (farmBaseAccount farmAccount authority adminFeeAccountDeltafi sourcePool userFarming
        farmPool deltafiTokenMint destDeltafi farmProgramId tokenProgramId : PublicKey)
        (tokenAmountPool : JsNumber) (a : Int), admitted (.number tokenAmountPool) = some a →
      (Legacy.farmDepositInstruction farmBaseAccount farmAccount authority adminFeeAccountDeltafi
          sourcePool userFarming farmPool deltafiTokenMint destDeltafi farmProgramId
          tokenProgramId tokenAmountPool).map (·.data) = .ok ([31] ++ le 8 a)) ∧
    (∀ farmBaseAccount farmAccount authority adminFeeAccountDeltafi userPoolAccount userFarming
        tokenMintPool deltafiTokenMint deltafiTokenAccount farmProgramId tokenProgramId : PublicKey,
      (Legacy.farmEmergencyWithdrawInstruction farmBaseAccount farmAccount authority
          adminFeeAccountDeltafi userPoolAccount userFarming tokenMintPool deltafiTokenMint
          deltafiTokenAccount farmProgramId tokenProgramId).map (·.data) = .ok [33]) ∧
    (∀ (farmAccount : Keypair) (authority adminAccount adminFeeAccountPool tokenMintPool
        tokenAccountPool deltafiTokenMint deltafiTokenAccount farmProgramId
        tokenProgramId : PublicKey) (nonce : Nat), nonce < 2 ^ 8 →
      ∀ (fees : Legacy.Fees) (fs : List Int),
        List.Forall₂ (fun f z => admitted f.2 = some z) fees.fields fs →
      (Legacy.farmPrintPendingDeltafiInstruction farmAccount authority adminAccount
          adminFeeAccountPool tokenMintPool tokenAccountPool deltafiTokenMint deltafiTokenAccount
          farmProgramId tokenProgramId (.finite nonce) fees).map (·.data) =
        .ok ([34] ++ le 1 nonce ++ (fs.map (le 8)).flatten)) :=
  ⟨createInitFarmInstruction_data, farmEnableUserInstruction_data, farmDepositInstruction_data,
    farmEmergencyWithdrawInstruction_data, farmPrintPendingDeltafiInstruction_data⟩

theorem farmFamily_data_at_small_arguments :
    (Legacy.createInitFarmInstruction ⟨SYSVAR_CLOCK_PUBKEY⟩ ⟨SYSVAR_CLOCK_PUBKEY⟩
      SYSVAR_CLOCK_PUBKEY SYSVAR_CLOCK_PUBKEY SYSVAR_CLOCK_PUBKEY SYSVAR_CLOCK_PUBKEY
      SYSVAR_CLOCK_PUBKEY SYSVAR_CLOCK_PUBKEY SYSVAR_CLOCK_PUBKEY SYSVAR_CLOCK_PUBKEY
      SYSVAR_CLOCK_PUBKEY (.finite 7) ⟨.numberU64 0, .numberU64 1, .numberU64 0, .numberU64 1,
      .numberU64 1, .numberU64 4, .numberU64 0, .numberU64 1⟩).map (·.data) =
      .ok ([108] ++ le 1 7 ++ ([0, 1, 0, 1, 1, 4, 0, 1].map (le 8)).flatten) ∧
    (Legacy.farmDepositInstruction SYSVAR_CLOCK_PUBKEY SYSVAR_CLOCK_PUBKEY SYSVAR_CLOCK_PUBKEY
      SYSVAR_CLOCK_PUBKEY SYSVAR_CLOCK_PUBKEY SYSVAR_CLOCK_PUBKEY SYSVAR_CLOCK_PUBKEY
      SYSVAR_CLOCK_PUBKEY SYSVAR_CLOCK_PUBKEY SYSVAR_CLOCK_PUBKEY SYSVAR_CLOCK_PUBKEY
      (.finite 5)).map (·.data) = .ok ([31] ++ le 8 5) ∧
    (Legacy.farmPrintPendingDeltafiInstruction ⟨SYSVAR_CLOCK_PUBKEY⟩ SYSVAR_CLOCK_PUBKEY
      SYSVAR_CLOCK_PUBKEY SYSVAR_CLOCK_PUBKEY SYSVAR_CLOCK_PUBKEY SYSVAR_CLOCK_PUBKEY
      SYSVAR_CLOCK_PUBKEY SYSVAR_CLOCK_PUBKEY SYSVAR_CLOCK_PUBKEY SYSVAR_CLOCK_PUBKEY (.finite 7)
      ⟨.numberU64 0, .numberU64 1, .numberU64 0, .numberU64 1, .numberU64 1, .numberU64 4,
      .numberU64 0, .numberU64 1⟩).map (·.data) =
      .ok ([34] ++ le 1 7 ++ ([0, 1, 0, 1, 1, 4, 0, 1].map (le 8)).flatten) := by
  obtain ⟨hi, -, hd, -, hp⟩ := farmFamily_data
  exact ⟨hi _ _ _ _ _ _ _ _ _ _ _ _ (by decide) _ _ (by decide),
    hd _ _ _ _ _ _ _ _ _ _ _ _ _ (by decide), hp _ _ _ _ _ _ _ _ _ _ _ (by decide) _ _ (by decide)⟩

end DeltafiClient.Guarantees.FarmFamily
