import DeltafiClient.Guarantees.Schedules

/-!
# What a 64-bit field accepts

Two paths write a 64-bit field.

* `Fees` and `Rewards` hand each `BN` field to a `nu64` layout, which converts it to a number:
  the double nearest to it. The field is written as that double's eight bytes when the double
  is in `[0, 2 ^ 64)`, and `toBuffer` fails with the range error of the high word at the first
  field where it is not (`bnField`, `Fees_toBuffer_eq`, `Rewards_toBuffer_eq`). So `2 ^ 53 + 1`
  is written as `2 ^ 53`, and `2 ^ 64 - 1`, whose double is `2 ^ 64`, is rejected
  (`Fees_two_pow_64_sub_one`).
* The encoders of `instructions.ts` write `new NumberU64(x).toBuffer()`. A number is
  truncated by `new BN`, NaN becomes 0, and from `2 ^ 53` on the assertion fails; `toBuffer`
  writes a magnitude below `2 ^ 64` and drops the sign (`u64Buffer_eq`).
-/

namespace DeltafiClient.Guarantees.WidthValidation

open Runtime Wire Source Source.Instructions Encoding

/-! ## `Fees` and `Rewards` -/

/-- The bytes a `nu64` field writes for the `BN` `z`: those of the double nearest to `z` when
it is in `[0, 2 ^ 64)`; `none` when the field fails. -/
def bnField (z : Int) : Option (List UInt8) :=
  match roundDouble z with
  | .finite q => if 0 ≤ q ∧ q < 2 ^ 64 then some (le 8 ⌊q⌋) else none
  | _ => none

theorem bnField_of_finite {z r : Int} (hr : roundDouble z = .finite r) :
    bnField z = if 0 ≤ r ∧ r < 2 ^ 64 then some (le 8 r) else none := by
  have hc : (0 ≤ (r : ℚ) ∧ (r : ℚ) < 2 ^ 64) ↔ (0 ≤ r ∧ r < 2 ^ 64) := by
    constructor <;> rintro ⟨h0, h1⟩ <;> exact ⟨by exact_mod_cast h0, by exact_mod_cast h1⟩
  unfold bnField
  rw [hr]
  dsimp only
  rw [Int.floor_intCast]
  exact if_congr hc rfl rfl

theorem bnField_length {z : Int} {c : List UInt8} (h : bnField z = some c) : c.length = 8 := by
  unfold bnField at h
  split at h
  · split_ifs at h
    cases h
    exact length_le _ _
  · cases h

/-- A `nu64` field given the `BN` `z` writes `bnField z`, or fails with the range error. -/
theorem encode_nu64_bigNum (p : String) (z : Int) {b : Buffer} {off : Nat}
    (hb : off + 8 ≤ b.length) :
    (Layout.nu64 p).encode (.bigNum z) b off =
      match bnField z with
      | some c => .ok (b.splice off c, 8)
      | none => .error (Buffer.rangeError 0 0xffffffff) := by
  rcases roundDouble_intCast_cases z with ⟨r, hr⟩ | ⟨s, hs⟩
  · rw [encode_nu64_int (v := .bigNum z) hr hb, bnField_of_finite hr]
    split_ifs <;> rfl
  · rw [encode_nu64_infinity (v := .bigNum z) hs hb]
    unfold bnField
    rw [hs]

theorem writesOnZeros_bigNum (p : String) {z : Int} {c : List UInt8} (h : bnField z = some c) :
    WritesOnZeros (.nu64 p) (.bigNum z) c := fun pre post => by
  show (Layout.nu64 p).encode _ (pre ++ List.replicate 8 0 ++ post) pre.length = .ok (_, 8)
  rw [encode_nu64_bigNum p z (by simp), h]
  dsimp only
  rw [Buffer.splice_frame _ _ _ _ (by simp [bnField_length h])]

/-- Over an object of `BN`s under the names of a struct of `nu64` fields, each field is
written as `bnField` of its `BN` when every field has one. -/
theorem forall₂_writes_bigNums : ∀ {names : List String} {zs : List Int} {cs : List (List UInt8)},
    names.length = zs.length → zs.mapM bnField = some cs →
    List.Forall₂ (fun fd c => ∃ p v, fd.property = some p ∧
      (p, v) ∈ names.zip (zs.map .bigNum) ∧ v ≠ .undefined ∧ WritesOnZeros fd v c)
      (names.map .nu64) cs
  | [], [], _, _, h => by cases h; exact .nil
  | [], _ :: _, _, hl, _ | _ :: _, [], _, hl, _ => by simp at hl
  | p :: ps, z :: zs, cs, hl, h => by
    simp only [List.mapM_cons, Option.bind_eq_bind, Option.bind_eq_some, Option.pure_def,
      Option.some.injEq] at h
    obtain ⟨c, hc, cs', hcs, rfl⟩ := h
    refine .cons ⟨p, .bigNum z, rfl, List.mem_cons_self _ _, by simp, writesOnZeros_bigNum p hc⟩
      ((forall₂_writes_bigNums (by simpa using hl) hcs).imp ?_)
    rintro fd c ⟨q, v, hq, hmem, hv, hw⟩
    exact ⟨q, v, hq, List.mem_cons_of_mem _ hmem, hv, hw⟩

/-- When some field has no `bnField`, one of them names it. -/
theorem exists_bnField_none : ∀ {names : List String} {zs : List Int},
    names.length = zs.length → zs.mapM bnField = none →
    ∃ p z, (p, JsValue.bigNum z) ∈ names.zip (zs.map .bigNum) ∧ bnField z = none
  | [], [], _, h => by cases h
  | [], _ :: _, hl, _ | _ :: _, [], hl, _ => by simp at hl
  | p :: ps, z :: zs, hl, h => by
    rw [List.mapM_cons] at h
    cases hz : bnField z with
    | none => exact ⟨p, z, List.mem_cons_self _ _, hz⟩
    | some c =>
      cases hzs : zs.mapM bnField with
      | none =>
        obtain ⟨q, w, hw, hn⟩ := exists_bnField_none (by simpa using hl) hzs
        exact ⟨q, w, List.mem_cons_of_mem _ hw, hn⟩
      | some cs => rw [hz, hzs] at h; cases h

theorem exists_mem_zip_bigNum : ∀ {names : List String} {zs : List Int},
    names.length = zs.length → ∀ p ∈ names, ∃ z, (p, JsValue.bigNum z) ∈ names.zip (zs.map .bigNum)
  | [], _, _, p, hp => absurd hp (List.not_mem_nil p)
  | _ :: _, [], hl, _, _ => by simp at hl
  | q :: qs, z :: zs, hl, p, hp => by
    rcases List.mem_cons.mp hp with rfl | hp
    · exact ⟨z, List.mem_cons_self _ _⟩
    · obtain ⟨w, hw⟩ := exists_mem_zip_bigNum (by simpa using hl) p hp
      exact ⟨w, List.mem_cons_of_mem _ hw⟩

/-- `toBuffer` of a struct of `nu64` fields over an object of `BN`s under the same distinct
names: the fields' `bnField` bytes, or the range error when a field has none. -/
theorem toBuffer_bigNums {names : List String} (hn : names.Nodup) {zs : List Int}
    (hl : names.length = zs.length) (q : Option String) :
    (Struct.mk (.object (names.zip (zs.map .bigNum))) (.struct (names.map .nu64) q)).toBuffer =
      match zs.mapM bnField with
      | some cs => .ok cs.flatten
      | none => .error (Buffer.rangeError 0 0xffffffff) := by
  have hnames : ((names.zip (zs.map JsValue.bigNum)).map Prod.fst).Nodup := by
    rwa [List.map_fst_zip _ _ (by simp [hl])]
  have hval : ∀ p z, (p, JsValue.bigNum z) ∈ names.zip (zs.map .bigNum) →
      fieldValue (.object (names.zip (zs.map .bigNum))) (.nu64 p) = .bigNum z :=
    fun _ _ h => field_of_mem hnames h
  cases hm : zs.mapM bnField with
  | some cs =>
    exact toBuffer_of_writes (writesOnZeros_object hnames (forall₂_writes_bigNums hl hm) q)
  | none =>
    obtain ⟨p0, z0, hmem0, hnone⟩ := exists_bnField_none hl hm
    have he := @encodeFields_error (.object (names.zip (zs.map .bigNum))) (by simp)
      (Buffer.rangeError 0 0xffffffff) (names.map .nu64) ?_
      ⟨.nu64 p0, List.mem_map.mpr ⟨p0, (List.of_mem_zip hmem0).1, rfl⟩, by simp [hval _ _ hmem0],
        fun b off hb => by rw [hval _ _ hmem0, encode_nu64_bigNum p0 z0 hb, hnone]⟩
      (Buffer.alloc (Layout.spanFields (names.map .nu64))) 0 0 0 0 (by simp)
    · show Layout.encodeFields (names.map .nu64) _
        (Buffer.alloc (Layout.spanFields (names.map .nu64))) 0 0 0 0 >>= _ = _
      rw [he, error_bind]
    · intro fd hfd b off hb
      obtain ⟨p, hp, rfl⟩ := List.mem_map.mp hfd
      obtain ⟨z, hz⟩ := exists_mem_zip_bigNum hl p hp
      rw [hval p z hz, encode_nu64_bigNum p z hb]
      cases bnField z <;> simp

/-- `new Fees(f).toBuffer()`: each field's `bnField` bytes, or the range error. -/
theorem Fees_toBuffer_eq (f : IFees) :
    (Fees f).toBuffer =
      match f.values.mapM bnField with
      | some cs => .ok cs.flatten
      | none => .error (Buffer.rangeError 0 0xffffffff) :=
  @toBuffer_bigNums ["adminTradeFeeNumerator", "adminTradeFeeDenominator",
    "adminWithdrawFeeNumerator", "adminWithdrawFeeDenominator", "tradeFeeNumerator",
    "tradeFeeDenominator", "withdrawFeeNumerator", "withdrawFeeDenominator"] (by simp) f.values rfl
    "fees"

/-- `new Rewards(r).toBuffer()`: each field's `bnField` bytes, or the range error. -/
theorem Rewards_toBuffer_eq (r : IRewards) :
    (Rewards r).toBuffer =
      match r.values.mapM bnField with
      | some cs => .ok cs.flatten
      | none => .error (Buffer.rangeError 0 0xffffffff) :=
  @toBuffer_bigNums ["tradeRewardNumerator", "tradeRewardDenominator", "tradeRewardCap"] (by simp)
    r.values rfl "rewards"

/-- The double nearest to `2 ^ 64 - 1` is `2 ^ 64`, outside the field. -/
theorem bnField_two_pow_64_sub_one : bnField (2 ^ 64 - 1) = none := by
  have h : roundDouble ((2 ^ 64 - 1 : ℤ) : ℚ) = .finite ((2 ^ 64 : ℤ) : ℚ) := by
    have := roundDouble_two_pow_64_sub_one
    push_cast at this ⊢
    exact this
  rw [bnField_of_finite h, if_neg (by norm_num)]

/-- A fee schedule with a field `2 ^ 64 - 1`, a 64-bit value, is rejected. -/
theorem Fees_two_pow_64_sub_one :
    (Fees ⟨2 ^ 64 - 1, 1, 0, 1, 1, 4, 0, 1⟩).toBuffer = .error (Buffer.rangeError 0 0xffffffff) := by
  rw [Fees_toBuffer_eq, show IFees.values ⟨2 ^ 64 - 1, 1, 0, 1, 1, 4, 0, 1⟩ =
    (2 ^ 64 - 1) :: [1, 0, 1, 1, 4, 0, 1] from rfl, List.mapM_cons, bnField_two_pow_64_sub_one]
  rfl

/-! ## `new NumberU64(x).toBuffer()` -/

theorem natAbs_truncate_lt {q : ℚ} (h : |q| < 2 ^ 53) : (truncate q).natAbs < 2 ^ 53 := by
  have hq := abs_lt.mp h
  unfold truncate
  split_ifs with h0
  · have h1 : ⌊q⌋ < 2 ^ 53 := Int.floor_lt.mpr (by exact_mod_cast hq.2)
    have h2 : 0 ≤ ⌊q⌋ := Int.floor_nonneg.mpr h0
    omega
  · have h1 : ⌊-q⌋ < 2 ^ 53 := Int.floor_lt.mpr (by push_cast; linarith)
    have h2 : 0 ≤ ⌊-q⌋ := Int.floor_nonneg.mpr (by linarith)
    omega

/-- The eight bytes `instructions.ts` writes for an argument: a `NumberU64` as the magnitude
of its value below `2 ^ 64`; a number through `new BN`, NaN as 0, a finite number below
`2 ^ 53` in magnitude truncated and by its magnitude, any other number an assertion failure. -/
theorem u64Buffer_eq (x : NumericArg) :
    Legacy.u64Buffer x =
      match x with
      | .numberU64 z =>
        if z.natAbs < 2 ^ 64 then .ok (leBytes 8 z.natAbs)
        else .error (.assertion "NumberU64 too large")
      | .number .nan => .ok (leBytes 8 0)
      | .number (.finite q) =>
        if |q| < 2 ^ 53 then .ok (leBytes 8 (truncate q).natAbs)
        else .error (.error "Assertion failed")
      | .number (.infinity _) => .error (.error "Assertion failed") := by
  match x with
  | .numberU64 z => rfl
  | .number .nan => rfl
  | .number (.infinity _) => rfl
  | .number (.finite q) =>
    simp only [Legacy.u64Buffer, NumberU64.ofArg]
    split_ifs with h
    · rw [bnOfNumber_of_lt h, ok_bind, NumberU64.toBuffer,
        if_pos (lt_trans (natAbs_truncate_lt h) (by norm_num))]
    · rw [bnOfNumber_of_ge (not_lt.mp h), error_bind]

/-! ## The width of a 64-bit field -/

/-- What a 64-bit field accepts and writes, on the two paths that write one: the `BN` fields
of a fee or reward schedule through `toBuffer`, and a `number | NumberU64` argument of an
encoder of `instructions.ts`. -/
theorem u64Fields_written :
    (∀ f : IFees, (Fees f).toBuffer =
      match f.values.mapM bnField with
      | some cs => .ok cs.flatten
      | none => .error (Buffer.rangeError 0 0xffffffff)) ∧
    (∀ r : IRewards, (Rewards r).toBuffer =
      match r.values.mapM bnField with
      | some cs => .ok cs.flatten
      | none => .error (Buffer.rangeError 0 0xffffffff)) ∧
    ∀ x : NumericArg, Legacy.u64Buffer x =
      match x with
      | .numberU64 z =>
        if z.natAbs < 2 ^ 64 then .ok (leBytes 8 z.natAbs)
        else .error (.assertion "NumberU64 too large")
      | .number .nan => .ok (leBytes 8 0)
      | .number (.finite q) =>
        if |q| < 2 ^ 53 then .ok (leBytes 8 (truncate q).natAbs)
        else .error (.error "Assertion failed")
      | .number (.infinity _) => .error (.error "Assertion failed") :=
  ⟨Fees_toBuffer_eq, Rewards_toBuffer_eq, u64Buffer_eq⟩

end DeltafiClient.Guarantees.WidthValidation
