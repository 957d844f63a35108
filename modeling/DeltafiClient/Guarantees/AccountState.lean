import DeltafiClient.Guarantees.Schedules
import DeltafiClient.Source.StateLayouts

/-!
# Account state on the wire

The composite layouts the client reads and writes account state with (`StateLayout`): the
`StableSwapLayout` of `layout.ts`, the `ConfigInfoLayout` and `StableSwapLayout` of
`part_001`, and the layouts nested in them under any property name. Each names every field
once (`named_layout`), so the laws of `Wire/Laws.lean` hold for all of them.

* `stateLayout_roundTrip`: a record whose leaves fit their widths and whose 64-bit leaves are
  doubles is written as its flat bytes, exactly the span, and read back field for field; a fee
  or reward schedule alike through `toBuffer` and `fromBuffer`. A 64-bit value that is not a
  double is written rounded (`fixedU64_two_pow_53_add_one`).
* `stateLayout_decode_reencode`: bytes whose 64-bit fields hold doubles decode to a record
  that is written back as the same bytes, and two such buffers that decode alike agree on the
  span. Other bytes are read rounded, and two buffers can decode alike
  (`fixedU64_decode_collides`).
* `stateLayout_short_buffers`: `decode` fails exactly on buffers that end before the layout's
  last integer leaf, which for three of the layouts is short of their span; blobs are sliced
  without a check (`short_buffers_decode`).
-/

namespace DeltafiClient.Guarantees.AccountState

open Runtime Wire Source Source.Layouts Encoding Schedules

/-- The composite layouts of account state; the nested ones under any property name. -/
inductive StateLayout where
  | configInfo
  | stableSwap
  | stableSwapPart
  | oracle (property : String)
  | fees (property : String)
  | rewards (property : String)
  | fixedU64 (property : String)
  | fixedU256 (property : String)
  deriving DecidableEq, Repr

def StateLayout.layout : StateLayout → Layout
  | .configInfo => StateLayouts.ConfigInfoLayout
  | .stableSwap => Layouts.StableSwapLayout
  | .stableSwapPart => StateLayouts.StableSwapLayout
  | .oracle p => OracleLayout p
  | .fees p => FeesLayout p
  | .rewards p => RewardsLayout p
  | .fixedU64 p => StateLayouts.FixedU64Layout p
  | .fixedU256 p => FixedU256Layout p

/-- No state layout repeats a property within a struct. -/
theorem named_layout : ∀ s : StateLayout, named s.layout = true
  | .configInfo | .stableSwap | .stableSwapPart | .oracle _ | .fees _ | .rewards _ | .fixedU64 _
  | .fixedU256 _ => rfl

/-! ## `FixedU64Layout` -/

/-- `FixedU64Layout` reads each of its words as the double nearest to it. -/
theorem fixedU64_decode (p : String) {c1 c2 : List UInt8} (h1 : c1.length = 8)
    (h2 : c2.length = 8) :
    (StateLayouts.FixedU64Layout p).decode (c1 ++ c2) 0 =
      .ok (.object [("inner", .number (roundDouble (leValue c1 : ℤ))),
        ("basePoint", .number (roundDouble (leValue c2 : ℤ)))]) := by
  have e1 := @Layout.decode_nu64_frame "inner" [] c1 c2 h1
  have e2 := @Layout.decode_nu64_frame "basePoint" c1 c2 [] h2
  simp only [List.nil_append, List.append_nil, List.length_nil, h1] at e1 e2
  show Layout.decodeFields [.nu64 "inner", .nu64 "basePoint"] (c1 ++ c2) 0 [] >>=
    (fun ps => pure (JsValue.object ps)) = _
  simp only [Layout.decodeFields, Layout.property, Layout.span, Nat.zero_add, e1, e2, ok_bind,
    pure_eq_ok]
  rfl

/-- `FixedU64Layout` writes each of its values as the integer it converts to. -/
theorem fixedU64_encode (p : String) {x y : JsValue} {r s : Int} (hx : x.toNumber = .finite r)
    (hy : y.toNumber = .finite s) (hr : 0 ≤ r ∧ r < 2 ^ 64) (hs : 0 ≤ s ∧ s < 2 ^ 64) :
    (StateLayouts.FixedU64Layout p).encode (.object [("inner", x), ("basePoint", y)])
      (Buffer.alloc 16) 0 = .ok (le 8 r ++ le 8 s, 16) := by
  have hw : WritesOnZeros (StateLayouts.FixedU64Layout p)
      (.object [("inner", x), ("basePoint", y)]) (le 8 r ++ le 8 s) := by
    refine writesOnZeros_struct_of (by simp) [le 8 r, le 8 s] ?_ (by simp) p
    exact .cons (fieldWrites_nu64_int hx hr.1 hr.2) (.cons (fieldWrites_nu64_int hy hs.1 hs.2) .nil)
  simpa [Buffer.alloc] using hw [] []

/-- `2 ^ 53 + 1`, the least natural that is not a double, converts to `2 ^ 53`. -/
theorem roundDouble_two_pow_53_add_one_int :
    roundDouble ((2 ^ 53 + 1 : ℤ) : ℚ) = .finite ((2 ^ 53 : ℤ) : ℚ) := by
  have h := roundDouble_two_pow_53_add_one
  push_cast at h ⊢
  exact h

theorem roundDouble_of_isDouble {z : Int} (h : IsDouble z) : roundDouble (z : ℚ) = .finite z := h

/-- Distinct integers of a width are written as distinct bytes. -/
theorem le_ne_of_ne {w : Nat} {a b : Int} (ha : 0 ≤ a ∧ a < 2 ^ (8 * w))
    (hb : 0 ≤ b ∧ b < 2 ^ (8 * w)) (h : a ≠ b) : le w a ≠ le w b :=
  fun e => h (by rw [← leValue_le ha.1 ha.2, ← leValue_le hb.1 hb.2, e])

/-! ## Round trip -/

/-- A buffer of at least a state layout's span whose 64-bit fields hold doubles decodes to
the record its first span bytes stand for, which is written back as those bytes. -/
theorem decode_reencode_layout (s : StateLayout) {b : Buffer} (hb : s.layout.span ≤ b.length)
    (hs : storesDoubles s.layout (b.take s.layout.span)) :
    s.layout.decode b 0 = .ok (parse s.layout (b.take s.layout.span)) ∧
      s.layout.encode (parse s.layout (b.take s.layout.span)) (Buffer.alloc s.layout.span) 0 =
        .ok (b.take s.layout.span, s.layout.span) :=
  decode_reencode (named_layout s) hb hs

/-- Two such buffers that decode to the same record agree on the span. -/
theorem take_eq_of_decode_eq (s : StateLayout) {b b' : Buffer} (hb : s.layout.span ≤ b.length)
    (hb' : s.layout.span ≤ b'.length) (hs : storesDoubles s.layout (b.take s.layout.span))
    (hs' : storesDoubles s.layout (b'.take s.layout.span))
    (h : s.layout.decode b 0 = s.layout.decode b' 0) :
    b.take s.layout.span = b'.take s.layout.span := by
  obtain ⟨d, e⟩ := decode_reencode_layout s hb hs
  obtain ⟨d', e'⟩ := decode_reencode_layout s hb' hs'
  rw [d, d', Except.ok.injEq] at h
  rw [h, e'] at e
  exact (Prod.mk.inj (Except.ok.inj e)).1.symm

/-- Account state read back: over every state layout, bytes whose 64-bit fields hold doubles
are written back as they were read, and two such buffers that decode alike agree on the
span. -/
theorem stateLayout_decode_reencode :
    (∀ (s : StateLayout) (b : Buffer), s.layout.span ≤ b.length →
      storesDoubles s.layout (b.take s.layout.span) →
      s.layout.decode b 0 = .ok (parse s.layout (b.take s.layout.span)) ∧
        s.layout.encode (parse s.layout (b.take s.layout.span)) (Buffer.alloc s.layout.span) 0 =
          .ok (b.take s.layout.span, s.layout.span)) ∧
    ∀ (s : StateLayout) (b b' : Buffer), s.layout.span ≤ b.length → s.layout.span ≤ b'.length →
      storesDoubles s.layout (b.take s.layout.span) →
      storesDoubles s.layout (b'.take s.layout.span) →
      s.layout.decode b 0 = s.layout.decode b' 0 → b.take s.layout.span = b'.take s.layout.span :=
  ⟨fun s _ => decode_reencode_layout s, fun s _ _ => take_eq_of_decode_eq s⟩

/-- The bytes of `DEFAULT_FEES` store doubles. -/
theorem storesDoubles_default_fees :
    storesDoubles (FeesLayout "fees") (DEFAULT_FEES.values.map (le 8)).flatten := by
  simp [FeesLayout, storesDoubles, storesDoublesFields, Layout.span, leValue, DEFAULT_FEES,
    IFees.values, DEFAULT_FEE_NUMERATOR, DEFAULT_FEE_DENOMINATOR, le, isDouble_of_natAbs_le]

/-- The bytes of `DEFAULT_FEES` with one more byte after them, `1` or `2`, decode to the
schedule, which is written back as those 64 bytes; the two buffers differ after the span,
decode alike, and agree on the span. -/
theorem stateLayout_decode_reencode_at_default_fees :
    (FeesLayout "fees").decode ((DEFAULT_FEES.values.map (le 8)).flatten ++ [1]) 0 =
        .ok (parse (FeesLayout "fees") (DEFAULT_FEES.values.map (le 8)).flatten) ∧
      (FeesLayout "fees").encode
          (parse (FeesLayout "fees") (DEFAULT_FEES.values.map (le 8)).flatten) (Buffer.alloc 64) 0 =
        .ok ((DEFAULT_FEES.values.map (le 8)).flatten, 64) ∧
      (DEFAULT_FEES.values.map (le 8)).flatten ++ [1] ≠
        (DEFAULT_FEES.values.map (le 8)).flatten ++ [2] ∧
      (FeesLayout "fees").decode ((DEFAULT_FEES.values.map (le 8)).flatten ++ [1]) 0 =
        (FeesLayout "fees").decode ((DEFAULT_FEES.values.map (le 8)).flatten ++ [2]) 0 ∧
      ((DEFAULT_FEES.values.map (le 8)).flatten ++ [1]).take 64 =
        ((DEFAULT_FEES.values.map (le 8)).flatten ++ [2]).take 64 := by
  have hl : (DEFAULT_FEES.values.map (le 8)).flatten.length = 64 := by simp [IFees.values]
  have ht : ∀ c : UInt8, ((DEFAULT_FEES.values.map (le 8)).flatten ++ [c]).take 64 =
      (DEFAULT_FEES.values.map (le 8)).flatten := fun _ => List.take_left' hl
  have hs : ∀ c : UInt8, storesDoubles (FeesLayout "fees")
      (((DEFAULT_FEES.values.map (le 8)).flatten ++ [c]).take 64) :=
    fun c => (ht c).symm ▸ storesDoubles_default_fees
  have hb : ∀ c : UInt8,
      (FeesLayout "fees").span ≤ ((DEFAULT_FEES.values.map (le 8)).flatten ++ [c]).length :=
    fun _ => by
      rw [List.length_append, hl, List.length_singleton]
      decide
  have hspan : (StateLayout.fees "fees").layout.span = 64 := rfl
  obtain ⟨d1, e1⟩ := stateLayout_decode_reencode.1 (.fees "fees") _ (hb 1) (hs 1)
  obtain ⟨d2, -⟩ := stateLayout_decode_reencode.1 (.fees "fees") _ (hb 2) (hs 2)
  rw [hspan, ht] at d1 e1 d2
  have hd := d1.trans d2.symm
  exact ⟨d1, e1, by simp, hd,
    stateLayout_decode_reencode.2 (.fees "fees") _ _ (hb 1) (hb 2) (hs 1) (hs 2) hd⟩

/-- The bytes of `2 ^ 53 + 1` and of `2 ^ 53` decode to the same `FixedU64` record, which is
written back as the second. -/
theorem fixedU64_decode_collides :
    (StateLayouts.FixedU64Layout "k").decode (le 8 (2 ^ 53 + 1) ++ le 8 0) 0 =
        .ok (.object [("inner", .number (.finite (2 ^ 53))), ("basePoint", .number (.finite 0))]) ∧
      (StateLayouts.FixedU64Layout "k").decode (le 8 (2 ^ 53) ++ le 8 0) 0 =
        .ok (.object [("inner", .number (.finite (2 ^ 53))), ("basePoint", .number (.finite 0))]) ∧
      (StateLayouts.FixedU64Layout "k").encode
          (.object [("inner", .number (.finite (2 ^ 53))), ("basePoint", .number (.finite 0))])
          (Buffer.alloc 16) 0 = .ok (le 8 (2 ^ 53) ++ le 8 0, 16) ∧
      le 8 (2 ^ 53 + 1) ++ le 8 0 ≠ le 8 (2 ^ 53) ++ le 8 0 := by
  have v1 : (leValue (le 8 (2 ^ 53 + 1)) : ℤ) = 2 ^ 53 + 1 := leValue_le (by norm_num) (by norm_num)
  have v2 : (leValue (le 8 (2 ^ 53)) : ℤ) = 2 ^ 53 := leValue_le (by norm_num) (by norm_num)
  have v0 : (leValue (le 8 0) : ℤ) = 0 := leValue_le le_rfl (by norm_num)
  have d0 : roundDouble ((0 : ℤ) : ℚ) = .finite 0 := by
    rw [roundDouble_of_isDouble (isDouble_of_natAbs_le (by norm_num))]
    norm_num
  have d2 : roundDouble ((2 ^ 53 : ℤ) : ℚ) = .finite (2 ^ 53) := by
    rw [roundDouble_of_isDouble (isDouble_of_natAbs_le (by norm_num))]
    norm_num
  have d1 : roundDouble ((2 ^ 53 + 1 : ℤ) : ℚ) = .finite (2 ^ 53) := by
    rw [roundDouble_two_pow_53_add_one_int]
    norm_num
  refine ⟨?_, ?_, fixedU64_encode "k" (r := 2 ^ 53) (s := 0) (by norm_num) (by simp) (by norm_num)
    (by norm_num), fun e => le_ne_of_ne (w := 8) (by norm_num) (by norm_num)
      (show (2 ^ 53 + 1 : ℤ) ≠ 2 ^ 53 by norm_num) (List.append_inj_left' e rfl)⟩
  · rw [fixedU64_decode "k" (by simp) (by simp), v1, v0, d1, d0]
  · rw [fixedU64_decode "k" (by simp) (by simp), v2, v0, d2, d0]

/-! ## Short buffers -/

/-- A state layout's `decode` returns a record exactly when the buffer reaches the end of its
last integer leaf. That end is the span for `ConfigInfoLayout`, `part_001`'s
`StableSwapLayout`, `FeesLayout`, `RewardsLayout` and `FixedU64Layout`; it falls short of the
span for `layout.ts`'s `StableSwapLayout` and `OracleLayout`, which end in blobs, and is `0`
for `FixedU256Layout`, all blobs. -/
theorem stateLayout_short_buffers :
    (∀ (s : StateLayout) (b : Buffer),
      (∃ v, s.layout.decode b 0 = .ok v) ↔ readExtent s.layout ≤ b.length) ∧
    readExtent StateLayouts.ConfigInfoLayout = 202 ∧ StateLayouts.ConfigInfoLayout.span = 202 ∧
    readExtent StateLayouts.StableSwapLayout = 588 ∧ StateLayouts.StableSwapLayout.span = 588 ∧
    readExtent Layouts.StableSwapLayout = 1088 ∧ Layouts.StableSwapLayout.span = 1152 ∧
    (∀ p, readExtent (OracleLayout p) = 140 ∧ (OracleLayout p).span = 204) ∧
    (∀ p, readExtent (FeesLayout p) = 64 ∧ (FeesLayout p).span = 64) ∧
    (∀ p, readExtent (RewardsLayout p) = 24 ∧ (RewardsLayout p).span = 24) ∧
    (∀ p, readExtent (StateLayouts.FixedU64Layout p) = 16 ∧
      (StateLayouts.FixedU64Layout p).span = 16) ∧
    ∀ p, readExtent (FixedU256Layout p) = 0 ∧ (FixedU256Layout p).span = 64 := by
  refine ⟨fun s b => ?_, rfl, rfl, rfl, rfl, rfl, rfl, fun _ => ⟨rfl, rfl⟩, fun _ => ⟨rfl, rfl⟩,
    fun _ => ⟨rfl, rfl⟩, fun _ => ⟨rfl, rfl⟩, fun _ => ⟨rfl, rfl⟩⟩
  rw [decode_ok_iff, Nat.zero_add]
  exact ⟨fun h => h.elim id fun h0 => h0 ▸ Nat.zero_le _, .inl⟩

/-- `layout.ts`'s `StableSwapLayout` decodes a buffer 64 bytes short of its span, and a
`FixedU256` decodes the empty buffer, with its 32-byte fields empty. -/
theorem short_buffers_decode :
    (∃ v, Layouts.StableSwapLayout.decode (List.replicate 1088 0) 0 = .ok v) ∧
      Layouts.StableSwapLayout.span = 1152 ∧
      (FixedU256Layout "k").decode [] 0 =
        .ok (.object [("inner", .buffer []), ("basePoint", .buffer [])]) :=
  ⟨(decode_ok_iff _ _ _).mpr (.inl (by
    rw [List.length_replicate, Nat.zero_add, show readExtent Layouts.StableSwapLayout = 1088 from rfl])),
    rfl, rfl⟩

end DeltafiClient.Guarantees.AccountState
