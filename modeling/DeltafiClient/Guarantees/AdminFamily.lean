import DeltafiClient.Guarantees.Schedules
import DeltafiClient.Source.Instructions.Admin

/-!
# The data of the admin encoders

The admin encoders of `instructions/admin.ts`, which `instructions.ts` repeats.

* The flag-only encoders send their `AdminInstruction` number alone
  (`tagOnlyInstruction_data`).
* `createSetNewFeesInstruction` and `createSetNewRewardsInstruction` send the number of
  `CommitNewAdmin`, and their schedule reaches the struct field as the buffer of
  `toBuffer()`, which a struct does not read: the data is that tag and zeros
  (`scheduleInstruction_data`, `setNewSchedule_data`).
* `createAdminInitializeInstruction` and `createRampAInstruction` give their `nu64` fields the
  buffers of `toBuffer()` as well; arguments below `2 ^ 56` are written as zeros
  (`admin_zeroed_amounts`).
-/

namespace DeltafiClient.Guarantees.AdminFamily

open Runtime Wire Source Source.Instructions Source.Layouts Encoding Schedules Admin

/-- An encoder that sends its tag alone sends that one byte. -/
theorem tagOnlyInstruction_data (keys : List AccountMeta) {instruction : Nat}
    (h : instruction < 2 ^ 8) (programId : PublicKey) :
    (tagOnlyInstruction keys instruction programId).map (·.data) = .ok (le 1 instruction) := by
  refine data_of_writes (writesOnZeros_struct_of (by simp) [le 1 instruction] ?_
    (List.flatten_singleton _) none) true _ fun _ => rfl
  exact .cons (fieldWrites_u8 rfl h) .nil

/-- An encoder that sends a tag and a schedule sends the tag and the schedule layout's zeros:
the schedule's buffer finds a struct field. -/
theorem scheduleInstruction_data (keys : List AccountMeta) {instruction : Nat}
    (h : instruction < 2 ^ 8) (fields : List Layout) {property : String}
    (hp : property ≠ "instruction") {arg : Struct}
    {bytes : Buffer} (hb : arg.toBuffer = .ok bytes) (programId : PublicKey) :
    (scheduleInstruction keys instruction (.struct fields property) property arg programId).map
      (·.data) = .ok (le 1 instruction ++ List.replicate (Layout.spanFields fields) 0) := by
  simp only [scheduleInstruction, hb, ok_bind]
  refine data_of_writes (writesOnZeros_struct_of (by simp)
    [le 1 instruction, List.replicate (Layout.spanFields fields) 0] ?_ (by simp) none) true _
    fun _ => rfl
  have hv : fieldValue (.object [("instruction", tag instruction), (property, .buffer bytes)])
      (.struct fields property) = .buffer bytes := by
    simp [fieldValue, Layout.property, hp]
  exact .cons (fieldWrites_u8 rfl h) (.cons (fieldWrites_struct_buffer hv) .nil)

theorem createSetNewFeesInstruction_data (tokenSwapAccount : Keypair)
    (authority adminAccount : PublicKey) {newFees : IFees} (programId : PublicKey) {bytes : Buffer}
    (hb : (Fees newFees).toBuffer = .ok bytes) :
    (createSetNewFeesInstruction tokenSwapAccount authority adminAccount newFees programId).map
      (·.data) = .ok ([106] ++ List.replicate 64 0) :=
  scheduleInstruction_data _ (by decide) _ (by decide) hb programId

theorem createSetNewRewardsInstruction_data (tokenSwapAccount : Keypair)
    (authority adminAccount : PublicKey) {newRewards : IRewards} (programId : PublicKey)
    {bytes : Buffer} (hb : (Rewards newRewards).toBuffer = .ok bytes) :
    (createSetNewRewardsInstruction tokenSwapAccount authority adminAccount newRewards
      programId).map (·.data) = .ok ([106] ++ List.replicate 24 0) :=
  scheduleInstruction_data _ (by decide) _ (by decide) hb programId

/-- `createAdminInitializeInstruction` writes its tag; an `ampFactor` below `2 ^ 56` is
written as zeros, and each schedule's buffer finds a struct field, which writes nothing. -/
theorem createAdminInitializeInstruction_small (config adminKey deltafiMint : PublicKey)
    {ampFactor : Int} {fees : IFees} {rewards : IRewards} (programId : PublicKey)
    (hamp : 0 ≤ ampFactor ∧ ampFactor < 2 ^ 56) {feeBytes rewardBytes : Buffer}
    (hf : (Fees fees).toBuffer = .ok feeBytes) (hr : (Rewards rewards).toBuffer = .ok rewardBytes) :
    (createAdminInitializeInstruction config adminKey deltafiMint ampFactor fees rewards
      programId).map (·.data) = .ok ([99] ++ List.replicate 96 0) := by
  obtain ⟨b1, e1, z1⟩ := toBuffer_of_lt_two_pow_56 hamp.1 hamp.2
  simp only [createAdminInitializeInstruction, e1, hf, hr, ok_bind]
  refine data_of_writes (writesOnZeros_struct_of (by simp)
    [le 1 99, List.replicate 8 0, List.replicate 64 0, List.replicate 24 0] ?_ ?_ none) _ _
    fun _ => rfl
  · exact .cons (fieldWrites_u8 rfl (by decide)) (.cons (fieldWrites_nu64_buffer rfl z1)
      (.cons (fieldWrites_struct_buffer rfl) (.cons (fieldWrites_struct_buffer rfl) .nil)))
  · simp only [List.flatten_cons, List.flatten_nil, List.append_nil,
      List.append_replicate_replicate]
    rfl

/-- `createRampAInstruction` writes its tag; arguments below `2 ^ 56` are written as zeros. -/
theorem createRampAInstruction_small (tokenSwap authority adminAccount : PublicKey)
    {targetAmp stopRampTimestamp : Int} (programId : PublicKey)
    (ht : 0 ≤ targetAmp ∧ targetAmp < 2 ^ 56)
    (hs : 0 ≤ stopRampTimestamp ∧ stopRampTimestamp < 2 ^ 56) :
    (createRampAInstruction tokenSwap authority adminAccount targetAmp stopRampTimestamp
      programId).map (·.data) = .ok ([100] ++ List.replicate 16 0) := by
  obtain ⟨b1, e1, z1⟩ := toBuffer_of_lt_two_pow_56 ht.1 ht.2
  obtain ⟨b2, e2, z2⟩ := toBuffer_of_lt_two_pow_56 hs.1 hs.2
  simp only [createRampAInstruction, e1, e2, ok_bind]
  refine data_of_writes (writesOnZeros_struct_of (by simp)
    [le 1 100, List.replicate 8 0, List.replicate 8 0] ?_ rfl none) _ _ fun _ => rfl
  exact .cons (fieldWrites_u8 rfl (by decide)) (.cons (fieldWrites_nu64_buffer rfl z1)
    (.cons (fieldWrites_nu64_buffer rfl z2) .nil))

/-! ## The admin family -/

/-- `createSetNewFeesInstruction` and `createSetNewRewardsInstruction` send `106`, the number
of `CommitNewAdmin` and of what `createCommitNewAdminInstruction` sends, and not their own
`107` and `108`; the schedule after it is zeros, whatever its fields. -/
theorem setNewSchedule_data :
    AdminInstruction.SetNewFees.value = 107 ∧ AdminInstruction.SetNewRewards.value = 108 ∧
    (∀ (tokenSwapAccount : Keypair) (authority adminAccount newAdminAccount programId : PublicKey),
      (createCommitNewAdminInstruction tokenSwapAccount authority adminAccount newAdminAccount
        programId).map (·.data) = .ok [106]) ∧
    (∀ (tokenSwapAccount : Keypair) (authority adminAccount : PublicKey) (newFees : IFees)
        (programId : PublicKey) (bytes : Buffer), (Fees newFees).toBuffer = .ok bytes →
      (createSetNewFeesInstruction tokenSwapAccount authority adminAccount newFees programId).map
        (·.data) = .ok ([106] ++ List.replicate 64 0)) ∧
    ∀ (tokenSwapAccount : Keypair) (authority adminAccount : PublicKey) (newRewards : IRewards)
        (programId : PublicKey) (bytes : Buffer), (Rewards newRewards).toBuffer = .ok bytes →
      (createSetNewRewardsInstruction tokenSwapAccount authority adminAccount newRewards
        programId).map (·.data) = .ok ([106] ++ List.replicate 24 0) :=
  ⟨rfl, rfl, fun _ _ _ _ _ => tagOnlyInstruction_data _ (by decide) _,
    createSetNewFeesInstruction_data, createSetNewRewardsInstruction_data⟩

theorem setNewSchedule_data_at_defaults :
    (createSetNewFeesInstruction ⟨SYSVAR_CLOCK_PUBKEY⟩ SYSVAR_CLOCK_PUBKEY SYSVAR_CLOCK_PUBKEY
      DEFAULT_FEES SYSVAR_CLOCK_PUBKEY).map (·.data) = .ok ([106] ++ List.replicate 64 0) ∧
    (createSetNewRewardsInstruction ⟨SYSVAR_CLOCK_PUBKEY⟩ SYSVAR_CLOCK_PUBKEY SYSVAR_CLOCK_PUBKEY
      DEFAULT_REWARDS SYSVAR_CLOCK_PUBKEY).map (·.data) = .ok ([106] ++ List.replicate 24 0) :=
  ⟨setNewSchedule_data.2.2.2.1 _ _ _ _ _ _ DEFAULT_FEES_toBuffer,
    setNewSchedule_data.2.2.2.2 _ _ _ _ _ _ DEFAULT_REWARDS_toBuffer⟩

/-- `createAdminInitializeInstruction` and `createRampAInstruction` given 64-bit arguments
below `2 ^ 56` send their tag followed by zeros only. -/
theorem admin_zeroed_amounts :
    (∀ (config adminKey deltafiMint : PublicKey) (ampFactor : Int) (fees : IFees)
        (rewards : IRewards) (programId : PublicKey), 0 ≤ ampFactor ∧ ampFactor < 2 ^ 56 →
      ∀ feeBytes rewardBytes : Buffer, (Fees fees).toBuffer = .ok feeBytes →
        (Rewards rewards).toBuffer = .ok rewardBytes →
      (createAdminInitializeInstruction config adminKey deltafiMint ampFactor fees rewards
        programId).map (·.data) = .ok ([99] ++ List.replicate 96 0)) ∧
    ∀ (tokenSwap authority adminAccount : PublicKey) (targetAmp stopRampTimestamp : Int)
        (programId : PublicKey), 0 ≤ targetAmp ∧ targetAmp < 2 ^ 56 →
        0 ≤ stopRampTimestamp ∧ stopRampTimestamp < 2 ^ 56 →
      (createRampAInstruction tokenSwap authority adminAccount targetAmp stopRampTimestamp
        programId).map (·.data) = .ok ([100] ++ List.replicate 16 0) :=
  ⟨createAdminInitializeInstruction_small, createRampAInstruction_small⟩

theorem admin_zeroed_amounts_at_small_arguments :
    (createAdminInitializeInstruction SYSVAR_CLOCK_PUBKEY SYSVAR_CLOCK_PUBKEY SYSVAR_CLOCK_PUBKEY
      100 DEFAULT_FEES DEFAULT_REWARDS SYSVAR_CLOCK_PUBKEY).map (·.data) =
      .ok ([99] ++ List.replicate 96 0) ∧
    (createRampAInstruction SYSVAR_CLOCK_PUBKEY SYSVAR_CLOCK_PUBKEY SYSVAR_CLOCK_PUBKEY 200
      1700000000 SYSVAR_CLOCK_PUBKEY).map (·.data) = .ok ([100] ++ List.replicate 16 0) :=
  ⟨admin_zeroed_amounts.1 _ _ _ _ _ _ _ (by decide) _ _ DEFAULT_FEES_toBuffer
      DEFAULT_REWARDS_toBuffer,
    admin_zeroed_amounts.2 _ _ _ _ _ _ (by decide) (by decide)⟩

end DeltafiClient.Guarantees.AdminFamily
