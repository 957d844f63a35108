import DeltafiClient.Wire.Fields
import DeltafiClient.Source.Instructions.Legacy

/-!
# What the encoders put in their data

Every encoder allocates `dataLayout.span` zero bytes, encodes its object literal into them
and may slice to the count `encode` returns. When the layout writes the bytes `c` over those
zeros, the data is `c`, sliced or not (`encodeData_of_writes`); `Struct.toBuffer` alike
(`toBuffer_of_writes`).

On the `NumberU64` path of `instructions.ts` an argument is written as its eight bytes when
it is a `NumberU64` in `[0, 2 ^ 64)` or a number that is an integer in `[0, 2 ^ 53)`
(`admitted`, `u64Buffer_of_admitted`). `amountsData_eq` gives the data of every encoder of
that file that sends `u8` fields followed by such amounts.
-/

namespace DeltafiClient.Guarantees.Encoding

open Runtime Wire Source Source.Instructions

theorem encodeData_of_writes {L : Layout} {src : JsValue} {c : List UInt8}
    (h : WritesOnZeros L src c) (sliced : Bool) : encodeData L src sliced = .ok c := by
  have he := h [] []
  simp only [List.nil_append, List.append_nil, List.length_nil] at he
  simp only [encodeData, Buffer.alloc, he, ok_bind]
  cases sliced
  · rfl
  · simp [Buffer.slice, ← h.length]

theorem toBuffer_of_writes {s : Struct} {c : List UInt8} (h : WritesOnZeros s.layout s.data c) :
    s.toBuffer = .ok c := by
  have he := h [] []
  simp only [List.nil_append, List.append_nil, List.length_nil] at he
  simp only [Struct.toBuffer, Buffer.alloc, he, ok_bind]
  simp [Buffer.slice, ← h.length]

/-- The data of an instruction built from encoded data is that data. -/
theorem data_of_writes {L : Layout} {src : JsValue} {c : List UInt8} (h : WritesOnZeros L src c)
    (sliced : Bool) (k : Buffer → TransactionInstruction) (hk : ∀ d, (k d).data = d) :
    (encodeData L src sliced >>= fun d => pure (k d)).map (·.data) = .ok c := by
  rw [encodeData_of_writes h, ok_bind, pure_eq_ok, map_ok, hk]

theorem encode_of_encodeData {L : Layout} {src : JsValue} {data : Buffer}
    (he : encodeData L src false = .ok data) :
    ∃ n, L.encode src (Buffer.alloc L.span) 0 = .ok (data, n) := by
  obtain ⟨⟨b, n⟩, hr, hdata⟩ := bind_eq_ok.mp he
  simp only [Bool.false_eq_true, if_false, pure_eq_ok, Except.ok.injEq] at hdata
  exact ⟨n, hdata ▸ hr⟩

/-- Unsliced data whose layout starts with fields that write `chunks` starts with those bytes,
whatever the later fields do, and has the layout's span. -/
theorem encodeData_prefix (fields rest : List Layout) {src : JsValue} {q : Option String}
    {data : Buffer} (he : encodeData (.struct (fields ++ rest) q) src false = .ok data)
    (hsrc : src ≠ .undefined) {chunks : List (List UInt8)}
    (h : List.Forall₂ (FieldWrites src) fields chunks) :
    data.length = Layout.spanFields (fields ++ rest) ∧
      data.take (Layout.spanFields fields) = chunks.flatten := by
  obtain ⟨n, hr⟩ := encode_of_encodeData he
  have hr' : Layout.encodeFields (fields ++ rest) src
      ([] ++ List.replicate (Layout.spanFields fields) 0 ++ List.replicate (Layout.spanFields rest) 0)
      0 ([] : List UInt8).length 0 0 = .ok (data, n) := by
    simpa [Layout.encode, Buffer.alloc, Layout.span, spanFields_append] using hr
  obtain ⟨lo', lw', hstep⟩ :=
    encodeFields_append_zeros hsrc h rest [] (List.replicate (Layout.spanFields rest) 0) 0 0 0
  rw [hstep] at hr'
  obtain ⟨hl, ht, -⟩ := encodeFields_within rest src _ 0 _ _ _ _ hr'
  have hc := length_flatten_of_writes h
  refine ⟨by simp [hl, hc, spanFields_append], ?_⟩
  simp only [List.length_nil, Nat.zero_add] at ht
  rw [ht, List.nil_append, ← hc, List.take_left]

/-- A `u8` field that finds a number `k < 2 ^ 8` writes its byte. -/
theorem fieldWrites_u8 {src : JsValue} {p : String} {k : Nat}
    (hv : fieldValue src (.u8 p) = .number (.finite k)) (hk : k < 2 ^ 8) :
    FieldWrites src (.u8 p) (le 1 k) :=
  .inr ⟨by simp [hv], hv ▸ writesOnZeros_u8 p hk⟩

/-- A `nu64` field that finds a buffer with a zero byte writes zeros. -/
theorem fieldWrites_nu64_buffer {src : JsValue} {p : String} {bytes : List UInt8}
    (hv : fieldValue src (.nu64 p) = .buffer bytes) (h0 : (0 : UInt8) ∈ bytes) :
    FieldWrites src (.nu64 p) (List.replicate 8 0) :=
  .inr ⟨by simp [hv], hv ▸ writesOnZeros_nu64_buffer h0⟩

/-- A `nu64` field whose value converts to an integer in `[0, 2 ^ 64)` writes that integer. -/
theorem fieldWrites_nu64_int {src : JsValue} {p : String} {r : Int}
    (hv : (fieldValue src (.nu64 p)).toNumber = .finite r) (h0 : 0 ≤ r) (h1 : r < 2 ^ 64) :
    FieldWrites src (.nu64 p) (le 8 r) :=
  .inr ⟨fun h => by simp [h, JsValue.toNumber] at hv, writesOnZeros_nu64_int hv h0 h1⟩

/-- A struct field that finds a buffer writes nothing. -/
theorem fieldWrites_struct_buffer {src : JsValue} {fields : List Layout} {q : Option String}
    {bytes : List UInt8} (hv : fieldValue src (.struct fields q) = .buffer bytes) :
    FieldWrites src (.struct fields q) (List.replicate (Layout.spanFields fields) 0) :=
  .inr ⟨by simp [hv], hv ▸ writesOnZeros_struct_buffer fields q bytes⟩

/-- `toBuffer()` of a `NumberU64` below `2 ^ 56` has a zero top byte. -/
theorem toBuffer_of_lt_two_pow_56 {z : Int} (h0 : 0 ≤ z) (h1 : z < 2 ^ 56) :
    ∃ bytes, NumberU64.toBuffer z = .ok bytes ∧ (0 : UInt8) ∈ bytes :=
  ⟨_, NumberU64.toBuffer_of_lt h0 (by omega), zero_mem_leBytes (by omega)⟩

/-- The integer `new NumberU64(x).toBuffer()` writes for an argument `x` that is a
`NumberU64` in `[0, 2 ^ 64)` or a number that is an integer in `[0, 2 ^ 53)`; `none` for any
other argument. -/
def admitted : NumericArg → Option Int
  | .numberU64 z => if 0 ≤ z ∧ z < 2 ^ 64 then some z else none
  | .number (.finite x) => if x.den = 1 ∧ 0 ≤ x.num ∧ x.num < 2 ^ 53 then some x.num else none
  | .number _ => none

theorem u64Buffer_of_admitted {x : NumericArg} {z : Int} (h : admitted x = some z) :
    Legacy.u64Buffer x = .ok (le 8 z) := by
  match x with
  | .numberU64 w =>
    simp only [admitted] at h
    split_ifs at h with hw
    cases h
    rw [Legacy.u64Buffer, NumberU64.ofArg, ok_bind, NumberU64.toBuffer_of_lt hw.1 hw.2,
      le_eq_leBytes hw.1 hw.2]
  | .number (.finite x) =>
    simp only [admitted] at h
    split_ifs at h with hx
    cases h
    have hxz : x = (x.num : ℚ) := (Rat.coe_int_num_of_den_eq_one hx.1).symm
    have habs : |x| < 2 ^ 53 := by
      rw [hxz, abs_of_nonneg (by exact_mod_cast hx.2.1)]
      exact_mod_cast hx.2.2
    have ht : truncate x = x.num := (congrArg truncate hxz).trans (truncate_intCast _)
    rw [Legacy.u64Buffer, NumberU64.ofArg, bnOfNumber_of_lt habs, ok_bind, ht,
      NumberU64.toBuffer_of_lt hx.2.1 (by omega), le_eq_leBytes hx.2.1 (by omega)]
  | .number .nan | .number (.infinity _) => simp [admitted] at h

/-- An admitted argument is a 64-bit unsigned integer. -/
theorem admitted_range {x : NumericArg} {z : Int} (h : admitted x = some z) :
    0 ≤ z ∧ z < 2 ^ 64 := by
  match x with
  | .numberU64 w =>
    simp only [admitted] at h
    split_ifs at h with hw
    cases h
    exact hw
  | .number (.finite q) =>
    simp only [admitted] at h
    split_ifs at h with hq
    cases h
    omega
  | .number .nan | .number (.infinity _) => simp [admitted] at h

theorem mapM_of_admitted {amounts : List (String × NumericArg)} {zs : List Int}
    (hz : List.Forall₂ (fun a z => admitted a.2 = some z) amounts zs)
    (f : String × NumericArg → Except JsError (String × JsValue))
    (hf : ∀ a z, admitted a.2 = some z → f a = .ok (a.1, .buffer (le 8 z))) :
    amounts.mapM f = .ok ((amounts.zip zs).map fun az => (az.1.1, JsValue.buffer (le 8 az.2))) := by
  induction hz with
  | nil => rfl
  | @cons a z _ _ haz _ ih =>
    rw [List.mapM_cons, hf a z haz, ok_bind, ih]
    rfl

/-- An encoder of `instructions.ts` that sends the `u8` fields `ks` and then the amounts, each
under `Uint64Layout`, sends the bytes of the `u8` values and the eight bytes of each amount,
in order. -/
theorem amountsData_eq (ks : List (String × Nat)) (amounts : List (String × NumericArg))
    (zs : List Int) (hk : ∀ k ∈ ks, k.2 < 2 ^ 8)
    (hz : List.Forall₂ (fun a z => admitted a.2 = some z) amounts zs)
    (hn : (ks.map Prod.fst ++ amounts.map Prod.fst).Nodup) (sliced : Bool) :
    Legacy.amountsData (ks.map fun k => (k.1, .finite k.2)) amounts sliced =
      .ok ((ks.map fun k => le 1 k.2) ++ zs.map (le 8)).flatten := by
  unfold Legacy.amountsData
  rw [mapM_of_admitted hz _ fun a z h => ?_, ok_bind]
  · apply encodeData_of_writes
    apply writesOnZeros_object
    · have hnames : ((amounts.zip zs).map fun az => az.1.1) = amounts.map Prod.fst := by
        conv_rhs => rw [← List.map_fst_zip amounts zs hz.length_eq.le, List.map_map]
        rfl
      simpa [Function.comp_def, hnames] using hn
    · refine List.rel_append ?_ ?_
      · simp only [List.map_map]
        refine List.forall₂_map_left_iff.mpr (List.forall₂_map_right_iff.mpr
          (List.forall₂_same.mpr fun k hmem => ⟨k.1, .number (.finite k.2), rfl, ?_, by simp,
            writesOnZeros_u8 _ (hk k hmem)⟩))
        exact List.mem_append_left _ (List.mem_map.mpr ⟨k, hmem, rfl⟩)
      · refine List.forall₂_map_left_iff.mpr (List.forall₂_map_right_iff.mpr
          (List.forall₂_iff_zip.mpr ⟨hz.length_eq, fun {a z} hmem => ⟨a.1, .buffer (le 8 z), rfl,
            ?_, by simp, writesOnZeros_blob (length_le 8 z)⟩⟩))
        exact List.mem_append_right _ (List.mem_map.mpr ⟨(a, z), hmem, rfl⟩)
  · obtain ⟨name, x⟩ := a
    simp [u64Buffer_of_admitted h]

end DeltafiClient.Guarantees.Encoding
