import DeltafiClient.Wire.Fields

/-!
# Encoding into a fresh buffer

Every encoder of the client allocates `dataLayout.span` zero bytes and encodes into them,
and a struct encodes each field in place inside its own bytes. This module says once, for
every layout and every value, errors included, what comes out:

* `encode` is local (`encode_local`): inside a larger buffer a layout writes what it writes
  into its own bytes alone, and fails with the same error;
* the count `encode` returns is the span (`encode_count`), so the encoders that slice their
  data to it keep every byte;
* a struct writes its fields side by side, each as it would alone into zeros, keeps zeros for
  a field without a value, and fails with the first failing field's error (`fresh_struct`).

The leaves are what `buffer-layout` makes of a value: `u8Byte` and `nu64Bytes` are the range
checked writes of a number, and a `nu64` field hands its value to `+value` first
(`fresh_nu64`); given a buffer, it writes the number the buffer's text spells
(`nu64OfBuffer`).
-/

namespace DeltafiClient.Wire

open Runtime

/-! ## Locality -/

mutual
/-- **`encode` is local.** At an offset inside the part `old` of a buffer, a layout succeeds
or fails as it does on `old` alone, changes only `old`, and returns the same count. -/
theorem encode_local : ∀ (L : Layout) (v : JsValue) (pre old post : List UInt8) (k : Nat),
    k + L.span ≤ old.length →
    L.encode v (pre ++ old ++ post) (pre.length + k) =
      (L.encode v old k).map fun r => (pre ++ r.1 ++ post, r.2)
  | .u8 _, v, pre, old, post, k, h | .u32 _, v, pre, old, post, k, h => by
    simp only [Layout.encode, Layout.span] at h ⊢
    rw [Buffer.writeInt_local pre old post _ _ _ h]
    cases Buffer.writeInt old v.toNumber k _ 0 _ <;> rfl
  | .nu64 _, v, pre, old, post, k, h | .ns64 _, v, pre, old, post, k, h => by
    simp only [Layout.encode, Layout.span] at h ⊢
    rw [Buffer.writeInt_local pre old post _ _ _ (by omega)]
    cases h1 : Buffer.writeInt old (divmodInt64 v.toNumber).2 k 4 0 0xffffffff with
    | error e => rfl
    | ok b1 =>
      have hl := (within_writeInt h1).1
      simp only [map_ok, ok_bind]
      rw [Nat.add_assoc, Buffer.writeInt_local pre b1 post _ _ _ (by omega)]
      cases Buffer.writeInt b1 _ (k + 4) 4 _ _ <;> rfl
  | .blob n _, v, pre, old, post, k, h => by
    simp only [Layout.encode, Layout.span] at h ⊢
    split
    · rename_i bytes
      by_cases hb : bytes.length = n
      · have hin : ¬ (pre ++ old ++ post).length < pre.length + k + n := by simp; omega
        rw [if_pos hb, if_pos hb, if_neg hin, if_neg (Nat.not_lt.mpr h), map_ok,
          Buffer.splice_local pre old post (by omega)]
      · rw [if_neg hb, if_neg hb]
        rfl
    · rfl
  | .struct fields _, v, pre, old, post, k, h =>
    encodeFields_local fields v pre old post k k 0 0 0 h fun _ => by omega
theorem encodeFields_local : ∀ (fields : List Layout) (src : JsValue) (pre old post : List UInt8)
    (first off loL loR lw : Nat), off + Layout.spanFields fields ≤ old.length →
    (fields = [] → loL + lw - (pre.length + first) = loR + lw - first) →
    Layout.encodeFields fields src (pre ++ old ++ post) (pre.length + first) (pre.length + off)
        loL lw =
      (Layout.encodeFields fields src old first off loR lw).map fun r => (pre ++ r.1 ++ post, r.2)
  | [], _, _, _, _, _, _, _, _, _, _, hc => by
    simp only [Layout.encodeFields, map_ok, hc rfl]
  | fd :: rest, src, pre, old, post, first, off, _, _, _, h, _ => by
    have hs : off + fd.span + Layout.spanFields rest ≤ old.length := by
      simp only [Layout.spanFields] at h; omega
    have skip : ∀ b : List UInt8, b.length = old.length → ∀ w,
        Layout.encodeFields rest src (pre ++ b ++ post) (pre.length + first)
            (pre.length + off + fd.span) (pre.length + off) w =
          (Layout.encodeFields rest src b first (off + fd.span) off w).map
            fun r => (pre ++ r.1 ++ post, r.2) := fun b hb w => by
      rw [Nat.add_assoc]
      exact encodeFields_local rest src pre b post first _ _ _ w (hb ▸ hs) fun _ => by omega
    simp only [Layout.encodeFields]
    split
    · exact skip old rfl fd.span
    · cases src.get _ with
      | error e => rfl
      | ok value =>
        simp only [ok_bind]
        split_ifs
        · exact skip old rfl fd.span
        · rw [encode_local fd value pre old post off (by omega)]
          cases h1 : fd.encode value old off with
          | error e => rfl
          | ok r =>
            have hl := (encode_within fd value old off r h1).1
            exact skip r.1 hl r.2
end
/-! ## The count -/

mutual
/-- The count `encode` returns is the layout's span, even when the last fields of a struct
have no value. -/
theorem encode_count : ∀ (L : Layout) (v : JsValue) (b : Buffer) (off : Nat) (r : Buffer × Nat),
    L.encode v b off = .ok r → r.2 = L.span
  | .u8 _, _, _, _, _, h | .u32 _, _, _, _, _, h => by
    obtain ⟨_, -, h⟩ := bind_eq_ok.mp h
    cases h
    rfl
  | .nu64 _, _, _, _, _, h | .ns64 _, _, _, _, _, h => by
    obtain ⟨_, -, h⟩ := bind_eq_ok.mp h
    obtain ⟨_, -, h⟩ := bind_eq_ok.mp h
    cases h
    rfl
  | .blob _ _, v, b, off, _, h => by
    simp only [Layout.encode] at h
    split at h
    · split_ifs at h
      cases h
      rfl
    · cases h
  | .struct fields _, v, b, off, r, h =>
    (encodeFields_count fields v b off off 0 0 r (fun _ => by omega) h).trans
      (Nat.add_sub_cancel_left ..)
theorem encodeFields_count : ∀ (fields : List Layout) (src : JsValue) (b : Buffer)
    (first off lo lw : Nat) (r : Buffer × Nat), (fields = [] → lo + lw - first = off - first) →
    Layout.encodeFields fields src b first off lo lw = .ok r →
      r.2 = off + Layout.spanFields fields - first
  | [], _, _, _, _, _, _, _, hc, h => by
    cases h
    exact hc rfl
  | fd :: rest, src, b, first, off, _, _, r, _, h => by
    have step : ∀ b' w, w = fd.span →
        Layout.encodeFields rest src b' first (off + fd.span) off w = .ok r →
          r.2 = off + Layout.spanFields (fd :: rest) - first := fun b' w hw h' => by
      rw [encodeFields_count rest src b' first _ off w r (fun _ => by omega) h', Layout.spanFields,
        Nat.add_assoc]
    simp only [Layout.encodeFields] at h
    split at h
    · exact step b _ rfl h
    · obtain ⟨value, -, h⟩ := bind_eq_ok.mp h
      split_ifs at h
      · exact step b _ rfl h
      · obtain ⟨r1, h1, h⟩ := bind_eq_ok.mp h
        exact step r1.1 r1.2 (encode_count fd value b off r1 h1) h
end
/-! ## Fresh buffers -/

/-- The bytes `L` writes for `v` into `Buffer.alloc(L.span)`, or the error it throws. -/
def fresh (L : Layout) (v : JsValue) : Except JsError (List UInt8) :=
  (L.encode v (Buffer.alloc L.span) 0).map Prod.fst

/-- What the struct loop leaves in the zeroed bytes of the field `fd`: zeros when `src` has
no value for it, what the field writes alone otherwise. -/
def fieldFresh (src : JsValue) (fd : Layout) : Except JsError (List UInt8) :=
  if fieldValue src fd = .undefined then .ok (List.replicate fd.span 0)
  else fresh fd (fieldValue src fd)

/-- Inside zeros, a layout writes what it writes into a fresh buffer, and its count is its
span. -/
theorem encode_zeros (L : Layout) (v : JsValue) (pre post : List UInt8) :
    L.encode v (pre ++ List.replicate L.span 0 ++ post) pre.length =
      (fresh L v).map fun c => (pre ++ c ++ post, L.span) := by
  have h := encode_local L v pre (List.replicate L.span 0) post 0 (by simp)
  rw [Nat.add_zero] at h
  rw [h, fresh, Buffer.alloc]
  cases he : L.encode v (List.replicate L.span 0) 0 with
  | error e => rfl
  | ok r => rw [map_ok, map_ok, map_ok, encode_count L v _ 0 r he]

theorem fresh_length {L : Layout} {v : JsValue} {c : List UInt8} (h : fresh L v = .ok c) :
    c.length = L.span := by
  obtain ⟨r, hr, rfl⟩ := map_eq_ok h
  simpa [Buffer.alloc] using (encode_within L v _ 0 r hr).1

theorem fieldFresh_length {src : JsValue} {fd : Layout} {c : List UInt8}
    (h : fieldFresh src fd = .ok c) : c.length = fd.span := by
  unfold fieldFresh at h
  split_ifs at h
  · cases h
    exact List.length_replicate _ _
  · exact fresh_length h

/-- The struct loop over zeroed bytes: each field's bytes side by side, or the first error. -/
theorem encodeFields_fresh {src : JsValue} (hsrc : src ≠ .undefined) :
    ∀ (fields : List Layout) (pre post : List UInt8) (first lo lw : Nat),
    (fields = [] → lo + lw - first = pre.length - first) →
    Layout.encodeFields fields src (pre ++ List.replicate (Layout.spanFields fields) 0 ++ post)
        first pre.length lo lw =
      (fields.mapM (fieldFresh src)).map fun cs =>
        (pre ++ cs.flatten ++ post, pre.length + Layout.spanFields fields - first)
  | [], pre, post, first, lo, lw, hc => by
    rw [List.mapM_nil]
    simp [Layout.encodeFields, Layout.spanFields, hc rfl]
  | fd :: rest, pre, post, first, lo, lw, _ => by
    have e1 : pre ++ List.replicate (Layout.spanFields (fd :: rest)) 0 ++ post =
        pre ++ List.replicate fd.span 0 ++ (List.replicate (Layout.spanFields rest) 0 ++ post) := by
      rw [Layout.spanFields, ← List.append_replicate_replicate]
      simp only [List.append_assoc]
    have next : ∀ c : List UInt8, c.length = fd.span →
        Layout.encodeFields rest src (pre ++ c ++ (List.replicate (Layout.spanFields rest) 0 ++ post))
            first (pre.length + fd.span) pre.length fd.span =
          (rest.mapM (fieldFresh src)).map fun cs =>
            (pre ++ (c ++ cs.flatten) ++ post,
              pre.length + Layout.spanFields (fd :: rest) - first) := fun c hc => by
      have e2 : pre ++ c ++ (List.replicate (Layout.spanFields rest) 0 ++ post) =
          pre ++ c ++ List.replicate (Layout.spanFields rest) 0 ++ post := by simp
      have e3 : pre.length + fd.span = (pre ++ c).length := by simp [hc]
      have e4 : (pre ++ c).length + Layout.spanFields rest =
          pre.length + Layout.spanFields (fd :: rest) := by
        rw [List.length_append, hc, Layout.spanFields, Nat.add_assoc]
      rw [e2, e3, encodeFields_fresh hsrc rest (pre ++ c) post first _ _ fun _ => by omega, e4]
      simp only [List.append_assoc]
    rw [e1, encodeFields_cons hsrc, List.mapM_cons]
    by_cases hu : fieldValue src fd = .undefined
    · rw [if_pos hu, fieldFresh, if_pos hu, ok_bind, next _ (List.length_replicate _ _)]
      cases rest.mapM (fieldFresh src) <;> rfl
    · rw [if_neg hu, fieldFresh, if_neg hu, encode_zeros]
      cases hf : fresh fd (fieldValue src fd) with
      | error e => rfl
      | ok c =>
        rw [map_ok, ok_bind, ok_bind, next c (fresh_length hf)]
        cases rest.mapM (fieldFresh src) <;> rfl

/-- **A struct writes its fields side by side.** Each field writes what it writes alone into
zeros, a field without a value keeps its zeros, and the struct fails with the error of the
first field that fails. -/
theorem fresh_struct {src : JsValue} (hsrc : src ≠ .undefined) (fields : List Layout)
    (q : Option String) :
    fresh (.struct fields q) src = (fields.mapM (fieldFresh src)).map List.flatten := by
  have h := encodeFields_fresh hsrc fields [] [] 0 0 0 fun _ => rfl
  simp only [List.nil_append, List.append_nil, List.length_nil] at h
  simp only [fresh, Layout.encode, Layout.span, Buffer.alloc, h]
  cases fields.mapM (fieldFresh src) <;> rfl

/-! ## Leaves -/

/-- `writeUInt8` of `n` into one zero byte: the byte, or the range error. -/
def u8Byte (n : JsNumber) : Except JsError (List UInt8) :=
  (Buffer.alloc 1).writeInt n 0 1 0 0xff

/-- `nu64` of the number `n` into eight zero bytes: the low word of `divmodInt64 n`, then its
high word, each through `writeUInt32LE` and its range check. -/
def nu64Bytes (n : JsNumber) : Except JsError (List UInt8) := do
  let b ← (Buffer.alloc 8).writeInt (divmodInt64 n).2 0 4 0 0xffffffff
  b.writeInt (divmodInt64 n).1 4 4 0 0xffffffff

/-- What a `nu64` field writes for a buffer: `+buf` reads the buffer's UTF-8 text
(`buf.toString()`) with `StringToNumber`, and the field writes that number. -/
def nu64OfBuffer (bytes : Buffer) : Except JsError (List UInt8) :=
  nu64Bytes (stringToNumber (utf8Decode bytes))

theorem fresh_u8 (p : String) (v : JsValue) : fresh (.u8 p) v = u8Byte v.toNumber := by
  simp only [fresh, Layout.encode, Layout.span, u8Byte]
  cases Buffer.writeInt (Buffer.alloc 1) v.toNumber 0 1 0 0xff <;> rfl

/-- A `nu64` field converts its value with `+value` and writes the number. -/
theorem fresh_nu64 (p : String) (v : JsValue) : fresh (.nu64 p) v = nu64Bytes v.toNumber := by
  simp only [fresh, Layout.encode, Layout.span, nu64Bytes, Nat.zero_add]
  cases Buffer.writeInt (Buffer.alloc 8) (divmodInt64 v.toNumber).2 0 4 0 0xffffffff with
  | error e => rfl
  | ok b =>
    simp only [ok_bind]
    cases Buffer.writeInt b (divmodInt64 v.toNumber).1 4 4 0 0xffffffff <;> rfl

theorem fresh_nu64_buffer (p : String) (bytes : Buffer) :
    fresh (.nu64 p) (.buffer bytes) = nu64OfBuffer bytes :=
  fresh_nu64 p _

theorem fieldFresh_of_ne {src : JsValue} {fd : Layout} (h : fieldValue src fd ≠ .undefined) :
    fieldFresh src fd = fresh fd (fieldValue src fd) := if_neg h

theorem fresh_of_writes {L : Layout} {v : JsValue} {c : List UInt8} (h : WritesOnZeros L v c) :
    fresh L v = .ok c := by
  have he := h [] []
  simp only [List.nil_append, List.append_nil, List.length_nil] at he
  rw [fresh, Buffer.alloc, he, map_ok]

theorem u8Byte_of_lt {k : Nat} (hk : k < 2 ^ 8) : u8Byte (.finite k) = .ok (le 1 k) :=
  (fresh_u8 "" (.number (.finite k))).symm.trans (fresh_of_writes (writesOnZeros_u8 "" hk))

theorem nu64Bytes_nan : nu64Bytes .nan = .ok (List.replicate 8 0) :=
  (fresh_nu64 "" (.number .nan)).symm.trans (fresh_of_writes (writesOnZeros_nu64_nan rfl))

theorem nu64Bytes_int {r : Int} (h0 : 0 ≤ r) (h1 : r < 2 ^ 64) :
    nu64Bytes (.finite r) = .ok (le 8 r) :=
  (fresh_nu64 "" (.number (.finite r))).symm.trans
    (fresh_of_writes (writesOnZeros_nu64_int rfl h0 h1))

/-- A struct given a buffer finds none of its properties and writes zeros. -/
theorem fresh_struct_buffer (fields : List Layout) (q : Option String) (bytes : List UInt8) :
    fresh (.struct fields q) (.buffer bytes) = .ok (List.replicate (Layout.spanFields fields) 0) :=
  fresh_of_writes (writesOnZeros_struct_buffer fields q bytes)

end DeltafiClient.Wire
