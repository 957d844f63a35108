import DeltafiClient.Wire.Laws
import Mathlib.Data.List.Forall2

/-!
# The struct loop, field by field

Every encoder of the client writes into `Buffer.alloc(span)`, so each field is written over
zeros. This module follows the loop of `Structure.encode` over such a buffer whatever the
source holds: a field whose value is `undefined` is skipped and its bytes stay zero, any
other field leaves what its own layout writes there (`FieldWrites`, `encodeFields_zeros`).
The leaf facts are the ones the encoders need: a conforming record writes its flat bytes, a
buffer of a blob's length is copied, a `nu64` given a value that reads as NaN writes zeros,
and a struct given a buffer finds none of its properties and writes nothing.

Whatever it is given, `encode` keeps the buffer's length and every byte outside the span it
is given (`encode_within`). A field that fails with one error on every buffer that holds it makes the
loop fail with that error, when no field fails otherwise (`encodeFields_error`).
`encode_nu64_int` and `encode_nu64_infinity` say what a `nu64` field does with a number that
is an integer or an infinity.
-/

namespace DeltafiClient.Wire

open Runtime

/-! ## Where `encode` writes -/

/-- `b'` has the length of `b` and agrees with it outside the bytes `[n, m)`. -/
def Within (n m : Nat) (b b' : Buffer) : Prop :=
  b'.length = b.length ∧ b'.take n = b.take n ∧ b'.drop m = b.drop m

theorem Within.refl (n m : Nat) (b : Buffer) : Within n m b b := ⟨rfl, rfl, rfl⟩

theorem Within.trans {n m : Nat} {b b' b'' : Buffer} (h : Within n m b b')
    (h' : Within n m b' b'') : Within n m b b'' :=
  ⟨h'.1.trans h.1, h'.2.1.trans h.2.1, h'.2.2.trans h.2.2⟩

theorem Within.mono {n m n' m' : Nat} {b b' : Buffer} (h : Within n m b b') (hn : n' ≤ n)
    (hm : m ≤ m') : Within n' m' b b' := by
  obtain ⟨hl, ht, hd⟩ := h
  refine ⟨hl, ?_, ?_⟩
  · simpa [List.take_take, Nat.min_eq_left hn] using congrArg (List.take n') ht
  · simpa [Nat.add_sub_cancel' hm] using congrArg (List.drop (m' - m)) hd

theorem within_splice (b : Buffer) (off : Nat) (bytes : List UInt8)
    (h : off + bytes.length ≤ b.length) :
    Within off (off + bytes.length) b (b.splice off bytes) := by
  have hpre : (b.take off ++ bytes).length = off + bytes.length := by simp; omega
  refine ⟨?_, ?_, ?_⟩
  · simp only [Buffer.splice, List.length_append, List.length_take, List.length_drop]
    omega
  · rw [Buffer.splice, List.append_assoc, List.take_left' (by simp; omega)]
  · rw [Buffer.splice, List.drop_left' hpre]

theorem within_writeInt {b b' : Buffer} {value : JsNumber} {off width : Nat} {min max : Int}
    (h : Buffer.writeInt b value off width min max = .ok b') : Within off (off + width) b b' := by
  unfold Buffer.writeInt at h
  split_ifs at h with h1 h2
  cases h
  simpa using within_splice b off (leBytes width value.toUint32) (by simp; omega)

mutual
/-- `encode` at `off` changes neither the buffer's length nor a byte outside its span. -/
theorem encode_within : ∀ (L : Layout) (v : JsValue) (b : Buffer) (off : Nat) (r : Buffer × Nat),
    L.encode v b off = .ok r → Within off (off + L.span) b r.1
  | .u8 _, _, _, _, _, h | .u32 _, _, _, _, _, h => by
    obtain ⟨b', hw, hr⟩ := bind_eq_ok.mp h
    cases hr
    exact within_writeInt hw
  | .nu64 _, _, _, _, _, h | .ns64 _, _, _, _, _, h => by
    obtain ⟨b1, h1, h⟩ := bind_eq_ok.mp h
    obtain ⟨b2, h2, hr⟩ := bind_eq_ok.mp h
    cases hr
    show Within _ (_ + 8) _ _
    exact ((within_writeInt h1).mono le_rfl (by omega)).trans
      ((within_writeInt h2).mono (by omega) (by omega))
  | .blob _ _, v, b, off, _, h => by
    simp only [Layout.encode] at h
    split at h
    · rename_i bytes
      split_ifs at h with h1 h2
      cases h
      simpa [Layout.span, h1] using within_splice b off bytes (by omega)
    · cases h
  | .struct fields _, v, b, off, r, h => encodeFields_within fields v b off off 0 0 r h
theorem encodeFields_within : ∀ (fields : List Layout) (src : JsValue) (b : Buffer)
    (first off lo lw : Nat) (r : Buffer × Nat),
    Layout.encodeFields fields src b first off lo lw = .ok r →
      Within off (off + Layout.spanFields fields) b r.1
  | [], _, b, _, _, _, _, _, h => by
    cases h
    exact Within.refl _ _ b
  | fd :: rest, src, b, first, off, _, _, r, h => by
    have hrest : ∀ b' lo' lw',
        Layout.encodeFields rest src b' first (off + fd.span) lo' lw' = .ok r →
          Within off (off + Layout.spanFields (fd :: rest)) b' r.1 := fun b' _ _ h' =>
      (encodeFields_within rest src b' first _ _ _ r h').mono (Nat.le_add_right off fd.span)
        (by simp [Layout.spanFields, Nat.add_assoc])
    simp only [Layout.encodeFields] at h
    split at h
    · exact hrest b _ _ h
    · obtain ⟨value, -, h⟩ := bind_eq_ok.mp h
      split_ifs at h
      · exact hrest b _ _ h
      · obtain ⟨⟨b1, w⟩, h1, h⟩ := bind_eq_ok.mp h
        exact ((encode_within fd value b off _ h1).mono le_rfl
          (by simp [Layout.spanFields, Nat.add_assoc])).trans (hrest b1 _ _ h)
end

/-! ## One step of the loop -/

/-- One step of the struct loop on a source that is not `undefined`: a field without a value
is skipped, any other is encoded at the current offset. -/
theorem encodeFields_cons {src : JsValue} (hsrc : src ≠ .undefined) (fd : Layout)
    (rest : List Layout) (b : Buffer) (first off lo lw : Nat) :
    Layout.encodeFields (fd :: rest) src b first off lo lw =
      if fieldValue src fd = .undefined then
        Layout.encodeFields rest src b first (off + fd.span) off fd.span
      else fd.encode (fieldValue src fd) b off >>= fun r =>
        Layout.encodeFields rest src r.1 first (off + fd.span) off r.2 := by
  cases hp : fd.property with
  | none => simp [Layout.encodeFields, hp, fieldValue]
  | some p => simp only [Layout.encodeFields, hp, get_eq_field hsrc, ok_bind, fieldValue, Option.elim]

/-- A last field without a value keeps the bytes it started with, from its offset on. -/
theorem encodeFields_last_unwritten {src : JsValue} (hsrc : src ≠ .undefined) {fd : Layout}
    (hfd : fieldValue src fd = .undefined) :
    ∀ (fields : List Layout) (b : Buffer) (first off lo lw : Nat) (r : Buffer × Nat),
    Layout.encodeFields (fields ++ [fd]) src b first off lo lw = .ok r →
      r.1.drop (off + Layout.spanFields fields) = b.drop (off + Layout.spanFields fields)
  | [], b, first, off, lo, lw, r, h => by
    rw [List.nil_append, encodeFields_cons hsrc, if_pos hfd] at h
    cases h
    rfl
  | g :: gs, b, first, off, lo, lw, r, h => by
    have hoff : off + Layout.spanFields (g :: gs) = off + g.span + Layout.spanFields gs := by
      simp only [Layout.spanFields, Nat.add_assoc]
    rw [List.cons_append, encodeFields_cons hsrc] at h
    rw [hoff]
    split_ifs at h
    · exact encodeFields_last_unwritten hsrc hfd gs b first _ _ _ r h
    · obtain ⟨⟨b1, w⟩, h1, h⟩ := bind_eq_ok.mp h
      have hb1 := congrArg (List.drop (Layout.spanFields gs)) (encode_within g _ b off _ h1).2.2
      simp only [List.drop_drop] at hb1
      exact (encodeFields_last_unwritten hsrc hfd gs b1 first _ _ _ r h).trans hb1

/-- If one field with a value fails with `e` on every buffer that holds it, and every field
either succeeds or fails with `e`, the struct loop fails with `e`. -/
theorem encodeFields_error {src : JsValue} (hsrc : src ≠ .undefined) {e : JsError} :
    ∀ {fields : List Layout},
    (∀ fd ∈ fields, ∀ (b : Buffer) (off : Nat), off + fd.span ≤ b.length →
      (∃ r, fd.encode (fieldValue src fd) b off = .ok r) ∨
        fd.encode (fieldValue src fd) b off = .error e) →
    (∃ fd ∈ fields, fieldValue src fd ≠ .undefined ∧ ∀ (b : Buffer) (off : Nat),
      off + fd.span ≤ b.length → fd.encode (fieldValue src fd) b off = .error e) →
    ∀ (b : Buffer) (first off lo lw : Nat), off + Layout.spanFields fields ≤ b.length →
      Layout.encodeFields fields src b first off lo lw = .error e
  | [], _, ⟨_, hmem, _⟩ => absurd hmem (List.not_mem_nil _)
  | fd :: rest, hall, ⟨fd0, hmem, hv0, hfail⟩ => by
    intro b first off lo lw hb
    have hspan : off + fd.span ≤ b.length := by simp only [Layout.spanFields] at hb; omega
    have hrest := fun fd' (h : fd' ∈ rest) => hall fd' (List.mem_cons_of_mem _ h)
    rw [encodeFields_cons hsrc]
    rcases List.mem_cons.mp hmem with rfl | hmem
    · rw [if_neg hv0, hfail b off hspan, error_bind]
    have ih := encodeFields_error hsrc hrest ⟨fd0, hmem, hv0, hfail⟩
    split_ifs
    · exact ih b first _ _ _ (by simp only [Layout.spanFields] at hb; omega)
    · rcases hall fd (List.mem_cons_self _ _) b off hspan with ⟨r, hr⟩ | hr
      · rw [hr, ok_bind]
        have hlen := (encode_within fd _ b off r hr).1
        exact ih r.1 first _ _ _ (by simp only [Layout.spanFields] at hb; omega)
      · rw [hr, error_bind]

/-! ## Writing into zeros -/

/-- `fd` writes the bytes `c` for `v` where its span holds zeros, as in the encoders'
`Buffer.alloc(span)`. -/
def WritesOnZeros (fd : Layout) (v : JsValue) (c : List UInt8) : Prop :=
  ∀ pre post : List UInt8, fd.encode v (pre ++ List.replicate fd.span 0 ++ post) pre.length =
    .ok (pre ++ c ++ post, fd.span)

/-- What the struct loop leaves in a field's zeroed bytes: zeros when the source has no value
for the field, what the field's layout writes otherwise. -/
def FieldWrites (src : JsValue) (fd : Layout) (c : List UInt8) : Prop :=
  fieldValue src fd = .undefined ∧ c = List.replicate fd.span 0 ∨
    fieldValue src fd ≠ .undefined ∧ WritesOnZeros fd (fieldValue src fd) c

theorem WritesOnZeros.length {fd : Layout} {v : JsValue} {c : List UInt8}
    (h : WritesOnZeros fd v c) : c.length = fd.span := by
  have := (encode_within fd v _ 0 _ (h [] [])).1
  simpa using this

theorem FieldWrites.length {src : JsValue} {fd : Layout} {c : List UInt8}
    (h : FieldWrites src fd c) : c.length = fd.span := by
  rcases h with ⟨-, rfl⟩ | ⟨-, hw⟩
  · exact List.length_replicate _ _
  · exact hw.length

theorem encodeFields_cons_zeros {src : JsValue} (hsrc : src ≠ .undefined) {fd : Layout}
    {c : List UInt8} (h : FieldWrites src fd c) (rest : List Layout) (pre mid : List UInt8)
    (first lo lw : Nat) :
    Layout.encodeFields (fd :: rest) src (pre ++ List.replicate fd.span 0 ++ mid) first pre.length
        lo lw =
      Layout.encodeFields rest src (pre ++ c ++ mid) first (pre.length + fd.span) pre.length
        fd.span := by
  rw [encodeFields_cons hsrc]
  rcases h with ⟨hu, rfl⟩ | ⟨hu, hw⟩
  · rw [if_pos hu]
  · rw [if_neg hu, hw pre mid, ok_bind]

/-- The struct loop over zeroed bytes leaves each field's bytes side by side. -/
theorem encodeFields_zeros {src : JsValue} (hsrc : src ≠ .undefined) {fields : List Layout}
    {chunks : List (List UInt8)} (h : List.Forall₂ (FieldWrites src) fields chunks) :
    ∀ (pre post : List UInt8) (first lo lw : Nat),
    (fields = [] → lo + lw - first = pre.length - first) →
    Layout.encodeFields fields src (pre ++ List.replicate (Layout.spanFields fields) 0 ++ post)
      first pre.length lo lw =
      .ok (pre ++ chunks.flatten ++ post, pre.length + Layout.spanFields fields - first) := by
  induction h with
  | nil =>
    intro pre post first lo lw hinv
    simp [Layout.encodeFields, Layout.spanFields, hinv rfl]
  | @cons fd c rest cs hfc _ ih =>
    intro pre post first lo lw _
    have hlen := hfc.length
    have e1 : pre ++ List.replicate (Layout.spanFields (fd :: rest)) 0 ++ post =
        pre ++ List.replicate fd.span 0 ++ (List.replicate (Layout.spanFields rest) 0 ++ post) := by
      rw [Layout.spanFields, ← List.append_replicate_replicate]
      simp only [List.append_assoc]
    have e2 : pre ++ c ++ (List.replicate (Layout.spanFields rest) 0 ++ post) =
        pre ++ c ++ List.replicate (Layout.spanFields rest) 0 ++ post := by simp
    have e3 : pre.length + fd.span = (pre ++ c).length := by simp [hlen]
    rw [e1, encodeFields_cons_zeros hsrc hfc, e2, e3,
      ih (pre ++ c) post first _ _ fun _ => by rw [← e3]]
    simp [Layout.spanFields, hlen, Nat.add_assoc]

theorem spanFields_append (fields rest : List Layout) :
    Layout.spanFields (fields ++ rest) = Layout.spanFields fields + Layout.spanFields rest := by
  induction fields with
  | nil => simp [Layout.spanFields]
  | cons fd fields ih => simp [Layout.spanFields, ih, Nat.add_assoc]

theorem length_flatten_of_writes {src : JsValue} {fields : List Layout}
    {chunks : List (List UInt8)} (h : List.Forall₂ (FieldWrites src) fields chunks) :
    chunks.flatten.length = Layout.spanFields fields := by
  induction h with
  | nil => rfl
  | cons hfc _ ih => simp [Layout.spanFields, hfc.length, ih]

/-- The loop over zeroed bytes, run through the fields in front of `rest`: their bytes are
written side by side and the loop goes on at the end of them. -/
theorem encodeFields_append_zeros {src : JsValue} (hsrc : src ≠ .undefined)
    {fields : List Layout} {chunks : List (List UInt8)}
    (h : List.Forall₂ (FieldWrites src) fields chunks) (rest : List Layout) :
    ∀ (pre post : List UInt8) (first lo lw : Nat), ∃ lo' lw',
    Layout.encodeFields (fields ++ rest) src
        (pre ++ List.replicate (Layout.spanFields fields) 0 ++ post) first pre.length lo lw =
      Layout.encodeFields rest src (pre ++ chunks.flatten ++ post) first
        (pre.length + Layout.spanFields fields) lo' lw' := by
  induction h with
  | nil => exact fun pre post _ lo lw => ⟨lo, lw, by simp [Layout.spanFields]⟩
  | @cons fd c fields cs hfc _ ih =>
    intro pre post first lo lw
    obtain ⟨lo', lw', h'⟩ := ih (pre ++ c) post first pre.length fd.span
    refine ⟨lo', lw', ?_⟩
    have hlen := hfc.length
    have e1 : pre ++ List.replicate (Layout.spanFields (fd :: fields)) 0 ++ post =
        pre ++ List.replicate fd.span 0 ++ (List.replicate (Layout.spanFields fields) 0 ++ post) := by
      rw [Layout.spanFields, ← List.append_replicate_replicate]
      simp only [List.append_assoc]
    have e2 : pre ++ c ++ (List.replicate (Layout.spanFields fields) 0 ++ post) =
        pre ++ c ++ List.replicate (Layout.spanFields fields) 0 ++ post := by simp
    have e3 : pre.length + fd.span = (pre ++ c).length := by simp [hlen]
    rw [List.cons_append, e1, encodeFields_cons_zeros hsrc hfc, e2, e3, h']
    simp [Layout.spanFields, hlen, Nat.add_assoc]

theorem writesOnZeros_struct {fields : List Layout} {src : JsValue} (hsrc : src ≠ .undefined)
    {chunks : List (List UInt8)} (h : List.Forall₂ (FieldWrites src) fields chunks)
    (q : Option String) : WritesOnZeros (.struct fields q) src chunks.flatten := by
  intro pre post
  have := encodeFields_zeros hsrc h pre post pre.length 0 0 fun _ => by simp
  simpa [Layout.encode, Layout.span] using this

/-- An object literal with distinct property names: each field that finds a value there
writes what its layout writes for that value. -/
theorem writesOnZeros_object {fields : List Layout} {props : List (String × JsValue)}
    {chunks : List (List UInt8)} (hn : (props.map Prod.fst).Nodup)
    (h : List.Forall₂ (fun fd c => ∃ p v, fd.property = some p ∧ (p, v) ∈ props ∧
      v ≠ .undefined ∧ WritesOnZeros fd v c) fields chunks) (q : Option String) :
    WritesOnZeros (.struct fields q) (.object props) chunks.flatten :=
  writesOnZeros_struct (by simp) (h.imp fun fd _ ⟨_, v, hp, hmem, hv, hw⟩ => by
    have hval : fieldValue (.object props) fd = v := by
      simp only [fieldValue, hp, Option.elim, field_of_mem hn hmem]
    exact .inr ⟨hval ▸ hv, hval ▸ hw⟩) q

theorem writesOnZeros_struct_of {fields : List Layout} {src : JsValue} (hsrc : src ≠ .undefined)
    (chunks : List (List UInt8)) (h : List.Forall₂ (FieldWrites src) fields chunks)
    {c : List UInt8} (hc : chunks.flatten = c) (q : Option String) :
    WritesOnZeros (.struct fields q) src c :=
  hc ▸ writesOnZeros_struct hsrc h q

/-! ## Leaves -/

theorem writesOnZeros_flat {L : Layout} {v : JsValue} (hf : every leafFits L v = true)
    (hd : every leafDouble L v = true) : WritesOnZeros L v (flat L v) :=
  fun pre post => encode_flat L v hf hd pre _ post (List.length_replicate _ _)

theorem writesOnZeros_u8 (p : String) {k : Nat} (hk : k < 2 ^ 8) :
    WritesOnZeros (.u8 p) (.number (.finite k)) (le 1 k) := by
  have h := writesOnZeros_flat (L := .u8 p) (v := .number (.finite k))
    (by simpa [every, leafFits, intRange] using hk) rfl
  simpa [flat, Layout.span] using h

theorem writesOnZeros_blob {n : Nat} {p : String} {bytes : List UInt8} (h : bytes.length = n) :
    WritesOnZeros (.blob n p) (.buffer bytes) bytes :=
  fun _ _ => Layout.encode_blob_frame h (List.length_replicate _ _)

/-- A `nu64` field given a value that converts to an integer in `[0, 2 ^ 64)` writes that
integer's eight bytes, whether or not the value was that integer before the conversion. -/
theorem writesOnZeros_nu64_int {p : String} {v : JsValue} {r : Int}
    (hv : v.toNumber = .finite r) (h0 : 0 ≤ r) (h1 : r < 2 ^ 64) :
    WritesOnZeros (.nu64 p) v (le 8 r) :=
  fun _ _ => Layout.encode_nu64_frame hv h0 h1 (List.length_replicate 8 0)

/-- A `nu64` field given a value that reads as NaN writes zeros: NaN passes both range checks
and `ToUint32(NaN)` is 0. -/
theorem writesOnZeros_nu64_nan {p : String} {v : JsValue} (h : v.toNumber = .nan) :
    WritesOnZeros (.nu64 p) v (List.replicate 8 0) := by
  intro pre post
  show (Layout.nu64 p).encode v (pre ++ List.replicate 8 0 ++ post) pre.length = _
  simp only [Layout.encode, h, divmodInt64]
  have hnan : JsNumber.nan.outside 0 0xffffffff = false := rfl
  rw [writeWords_frame (List.length_replicate 8 0) hnan hnan]
  rfl

/-- A `nu64` field given a buffer with a zero byte writes zeros: the buffer's text is not a
numeral and reads as NaN. -/
theorem writesOnZeros_nu64_buffer {p : String} {bytes : List UInt8} (h : (0 : UInt8) ∈ bytes) :
    WritesOnZeros (.nu64 p) (.buffer bytes) (List.replicate 8 0) :=
  writesOnZeros_nu64_nan (JsValue.toNumber_buffer_of_zero h)

/-- The top byte of a natural below `2 ^ 56` written in eight bytes is zero. -/
theorem zero_mem_leBytes {n : Nat} (h : n < 2 ^ 56) : (0 : UInt8) ∈ leBytes 8 n := by
  rw [show (8 : Nat) = 7 + 1 from rfl, leBytes_add, Nat.div_eq_of_lt (by simpa using h)]
  simp

theorem fieldValue_buffer (bytes : List UInt8) (fd : Layout) :
    fieldValue (.buffer bytes) fd = .undefined := by
  cases h : fd.property <;> simp [fieldValue, h, field]

/-- A struct given a buffer reads `undefined` for every field, skips them all and writes
nothing. -/
theorem writesOnZeros_struct_buffer (fields : List Layout) (q : Option String)
    (bytes : List UInt8) :
    WritesOnZeros (.struct fields q) (.buffer bytes) (List.replicate (Layout.spanFields fields) 0) := by
  have hz : (fields.map fun fd => List.replicate fd.span (0 : UInt8)).flatten =
      List.replicate (Layout.spanFields fields) 0 := by
    induction fields with
    | nil => rfl
    | cons fd rest ih =>
      rw [List.map_cons, List.flatten_cons, ih, Layout.spanFields, List.append_replicate_replicate]
  have h : List.Forall₂ (FieldWrites (.buffer bytes)) fields
      (fields.map fun fd => List.replicate fd.span 0) :=
    List.forall₂_map_right_iff.mpr
      (List.forall₂_same.mpr fun fd _ => .inl ⟨fieldValue_buffer bytes fd, rfl⟩)
  rw [← hz]
  exact writesOnZeros_struct (by simp) h q

/-! ## A `nu64` field given a number -/

/-- Given a number with an integer value `r`, a `nu64` field writes the eight bytes of `r`
when `0 ≤ r < 2 ^ 64`, and otherwise fails the range check of the high word. -/
theorem encode_nu64_int {p : String} {v : JsValue} {r : Int} (hv : v.toNumber = .finite r)
    {b : Buffer} {off : Nat} (hb : off + 8 ≤ b.length) :
    (Layout.nu64 p).encode v b off =
      if 0 ≤ r ∧ r < 2 ^ 64 then .ok (b.splice off (le 8 r), 8)
      else .error (Buffer.rangeError 0 0xffffffff) := by
  obtain ⟨pre, rest, rfl, rfl, -⟩ := exists_split (show b.length = off + (b.length - off) by omega)
  obtain ⟨old, post, rfl, hold, -⟩ :=
    exists_split (show rest.length = 8 + (rest.length - 8) by simp at hb; omega)
  rw [← List.append_assoc]
  split_ifs with hr
  · rw [Layout.encode_nu64_frame hv hr.1 hr.2 hold,
      Buffer.splice_frame _ _ _ _ (by simp [hold, le])]
    rfl
  · obtain ⟨o1, o2, rfl, h1, -⟩ := exists_split (show old.length = 4 + 4 from hold)
    simp only [Layout.encode, hv, divmodInt64_intCast]
    rw [show pre ++ (o1 ++ o2) ++ post = pre ++ o1 ++ (o2 ++ post) by simp,
      Buffer.writeInt_frame h1 (by simp; omega), ok_bind,
      Buffer.writeInt_outside (by simp; omega), error_bind]

/-- Given an infinity, a `nu64` field writes the NaN low word and fails on the high word. -/
theorem encode_nu64_infinity {p : String} {v : JsValue} {s : Bool}
    (hv : v.toNumber = .infinity s) {b : Buffer} {off : Nat} (hb : off + 8 ≤ b.length) :
    (Layout.nu64 p).encode v b off = .error (Buffer.rangeError 0 0xffffffff) := by
  have hlo : Buffer.writeInt b .nan off 4 0 0xffffffff = .ok (b.splice off (leBytes 4 0)) := by
    simp [Buffer.writeInt, JsNumber.outside, JsNumber.toUint32, show ¬ b.length < off + 4 by omega]
  simp only [Layout.encode, hv, divmodInt64, hlo, ok_bind]
  rw [Buffer.writeInt_outside (show (JsNumber.infinity s).outside 0 0xffffffff = true from rfl),
    error_bind]

end DeltafiClient.Wire
