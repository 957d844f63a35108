import DeltafiClient.Runtime.Value

/-!
# Node buffers

A `Buffer` is its list of bytes. The layouts use `Buffer.alloc`, `buf.slice` and the
little-endian integer readers and writers of widths 1 and 4 (`readUInt8`, `readUInt32LE`,
`readInt32LE` and their writers). A writer checks the value against its range first (NaN
passes), then the offset against the length, and stores `ToUint32(value)` byte by byte;
a reader checks the offset and assembles the bytes.

`leBytes w n` is the `w` little-endian bytes of `n` and `leValue` reads bytes back
(`leValue_leBytes`, `leBytes_leValue`). Writes and reads are stated on a buffer
`pre ++ old ++ post` with the access at `pre.length` (`writeInt_frame`,
`readUInt_frame`), which is how the layout proofs walk along a record.
-/

namespace DeltafiClient.Runtime

/-- A Node `Buffer`: its bytes. -/
abbrev Buffer := List UInt8

/-- The `w` little-endian bytes of `n`; bits above `8 * w` are dropped. -/
def leBytes : Nat → Nat → List UInt8
  | 0, _ => []
  | w + 1, n => UInt8.ofNat n :: leBytes w (n / 256)

/-- The natural with the given little-endian bytes. -/
def leValue : List UInt8 → Nat
  | [] => 0
  | b :: bs => b.toNat + 256 * leValue bs

@[simp] theorem toNat_ofNat_byte (n : Nat) : (UInt8.ofNat n).toNat = n % 256 := by
  simp [UInt8.toNat, UInt8.ofNat]

theorem byte_toNat_lt (b : UInt8) : b.toNat < 256 := b.toNat_lt_size

@[simp] theorem ofNat_byte_toNat (b : UInt8) : UInt8.ofNat b.toNat = b :=
  UInt8.toNat.inj (by rw [toNat_ofNat_byte, Nat.mod_eq_of_lt (byte_toNat_lt b)])

@[simp] theorem leBytes_zero (n : Nat) : leBytes 0 n = [] := rfl

@[simp] theorem leBytes_succ (w n : Nat) :
    leBytes (w + 1) n = UInt8.ofNat n :: leBytes w (n / 256) := rfl

@[simp] theorem leValue_nil : leValue [] = 0 := rfl

@[simp] theorem leValue_cons (b : UInt8) (bs : List UInt8) :
    leValue (b :: bs) = b.toNat + 256 * leValue bs := rfl

@[simp] theorem length_leBytes (w n : Nat) : (leBytes w n).length = w := by
  induction w generalizing n with
  | zero => rfl
  | succ w ih => simp [ih]

theorem leValue_leBytes (w n : Nat) : leValue (leBytes w n) = n % 256 ^ w := by
  induction w generalizing n with
  | zero => simp [Nat.mod_one]
  | succ w ih =>
    simp only [leBytes_succ, leValue_cons, ih, toNat_ofNat_byte]
    rw [pow_succ', Nat.mod_mul]

theorem leValue_lt (bs : List UInt8) : leValue bs < 256 ^ bs.length := by
  induction bs with
  | nil => simp
  | cons b bs ih =>
    have hb := byte_toNat_lt b
    simp only [leValue_cons, List.length_cons, pow_succ']
    omega

theorem leBytes_leValue (bs : List UInt8) : leBytes bs.length (leValue bs) = bs := by
  induction bs with
  | nil => rfl
  | cons b bs ih =>
    have hb := byte_toNat_lt b
    simp only [List.length_cons, leBytes_succ, leValue_cons]
    congr 1
    · exact UInt8.toNat.inj (by rw [toNat_ofNat_byte]; omega)
    · rw [show (b.toNat + 256 * leValue bs) / 256 = leValue bs by omega, ih]

theorem leValue_append (bs cs : List UInt8) :
    leValue (bs ++ cs) = leValue bs + 256 ^ bs.length * leValue cs := by
  induction bs with
  | nil => simp
  | cons b bs ih =>
    simp only [List.cons_append, leValue_cons, ih, List.length_cons, pow_succ']
    ring

/-- Little-endian bytes split at a width. -/
theorem leBytes_add (a b n : Nat) : leBytes (a + b) n = leBytes a n ++ leBytes b (n / 256 ^ a) := by
  induction a generalizing n with
  | zero => simp
  | succ a ih =>
    rw [Nat.add_right_comm, leBytes_succ, ih, leBytes_succ, pow_succ', ← Nat.div_div_eq_div_mul]
    rfl

theorem leBytes_mod (w n : Nat) : leBytes w (n % 256 ^ w) = leBytes w n := by
  induction w generalizing n with
  | zero => rfl
  | succ w ih =>
    simp only [leBytes_succ]
    congr 1
    · exact UInt8.toNat.inj (by rw [toNat_ofNat_byte, toNat_ofNat_byte, pow_succ',
        Nat.mod_mul_right_mod])
    · rw [pow_succ', Nat.mod_mul_right_div_self, ih]

@[simp] theorem leBytes_zero_value (w : Nat) : leBytes w 0 = List.replicate w 0 := by
  induction w with
  | zero => rfl
  | succ w ih => simp [ih, List.replicate_succ]

theorem exists_split {bs : List UInt8} {m n : Nat} (h : bs.length = m + n) :
    ∃ xs ys : List UInt8, bs = xs ++ ys ∧ xs.length = m ∧ ys.length = n :=
  ⟨bs.take m, bs.drop m, (List.take_append_drop m bs).symm, by simp [h], by simp [h]⟩

namespace Buffer

/-- `Buffer.alloc(size)`: zero-filled. -/
def alloc (size : Nat) : Buffer := List.replicate size 0

/-- `buf.slice(start, end)`, clamped to the buffer. -/
def slice (b : Buffer) (start stop : Nat) : Buffer := (b.drop start).take (stop - start)

/-- `bytes` stored from `offset` on, the rest of `b` unchanged. -/
def splice (b : Buffer) (offset : Nat) (bytes : List UInt8) : Buffer :=
  b.take offset ++ bytes ++ b.drop (offset + bytes.length)

/-- Node's `boundsError` for an access of `width` bytes: `ERR_BUFFER_OUT_OF_BOUNDS` when the
buffer is shorter than the access, `ERR_OUT_OF_RANGE` for the offset otherwise. -/
def boundsError (length width : Nat) : JsError :=
  if length < width then .bufferOutOfBounds
  else .outOfRange "offset" s!">= 0 and <= {length - width}"

/-- Node's `ERR_OUT_OF_RANGE` for a value outside a writer's range. -/
def rangeError (min max : Int) : JsError := .outOfRange "value" s!">= {min} and <= {max}"

/-- `writeUInt8`, `writeUInt32LE` and `writeInt32LE` (`writeU_Int8`, `writeU_Int32LE`): the
range check `value > max || value < min`, the bounds check, then the bytes of
`ToUint32(value)`. -/
def writeInt (b : Buffer) (value : JsNumber) (offset width : Nat) (min max : Int) :
    Except JsError Buffer :=
  if value.outside min max then .error (rangeError min max)
  else if b.length < offset + width then .error (boundsError b.length width)
  else .ok (b.splice offset (leBytes width value.toUint32))

/-- `readUInt8` and `readUInt32LE`. -/
def readUInt (b : Buffer) (offset width : Nat) : Except JsError Nat :=
  if b.length < offset + width then .error (boundsError b.length width)
  else .ok (leValue (b.slice offset (offset + width)))

/-- `readInt32LE`: the top byte is read as signed (`last << 24`). -/
def readInt32 (b : Buffer) (offset : Nat) : Except JsError Int := do
  let u ← b.readUInt offset 4
  pure (if u < 2 ^ 31 then u else u - 2 ^ 32)

@[simp] theorem length_alloc (size : Nat) : (alloc size).length = size := by simp [alloc]

theorem splice_frame (pre old new post : List UInt8) (h : old.length = new.length) :
    splice (pre ++ old ++ post) pre.length new = pre ++ new ++ post := by
  have hlen : pre.length + new.length = (pre ++ old).length := by simp [h]
  unfold splice
  rw [hlen, List.drop_left, List.append_assoc pre old post, List.take_left]

theorem slice_frame (pre mid post : List UInt8) :
    slice (pre ++ mid ++ post) pre.length (pre.length + mid.length) = mid := by
  simp only [slice, List.append_assoc, List.drop_left, Nat.add_sub_cancel_left, List.take_left]

/-- A write in range and in bounds stores the value's bytes over the old ones. -/
theorem writeInt_frame {pre old post : List UInt8} {value : JsNumber} {width : Nat} {min max : Int}
    (hlen : old.length = width) (hrange : value.outside min max = false) :
    writeInt (pre ++ old ++ post) value pre.length width min max =
      .ok (pre ++ leBytes width value.toUint32 ++ post) := by
  subst hlen
  simp only [writeInt, hrange, Bool.false_eq_true, if_false, List.length_append]
  rw [if_neg (by omega), splice_frame _ _ _ _ (length_leBytes _ _).symm]

/-- A write whose value is out of range fails, whatever the buffer. -/
theorem writeInt_outside {b : Buffer} {value : JsNumber} {offset width : Nat} {min max : Int}
    (hrange : value.outside min max = true) :
    writeInt b value offset width min max = .error (rangeError min max) := by
  simp [writeInt, hrange]

/-- Storing bytes inside the part `old` of a buffer stores them in `old` alone. -/
theorem splice_local (pre old post : List UInt8) {k : Nat} {bytes : List UInt8}
    (h : k + bytes.length ≤ old.length) :
    splice (pre ++ old ++ post) (pre.length + k) bytes = pre ++ splice old k bytes ++ post := by
  rw [splice, splice, List.append_assoc pre old post, List.take_append, Nat.add_assoc,
    List.drop_append, List.take_append_of_le_length (by omega),
    List.drop_append_of_le_length h]
  simp only [List.append_assoc]

/-- A write inside the part `old` of a buffer succeeds or fails as it does on `old` alone, and
changes only `old`. -/
theorem writeInt_local (pre old post : List UInt8) (value : JsNumber) {k width : Nat}
    (min max : Int) (h : k + width ≤ old.length) :
    writeInt (pre ++ old ++ post) value (pre.length + k) width min max =
      (writeInt old value k width min max).map fun c => pre ++ c ++ post := by
  have hin : ¬ (pre ++ old ++ post).length < pre.length + k + width := by simp; omega
  unfold writeInt
  rw [if_neg hin, if_neg (Nat.not_lt.mpr h)]
  split_ifs
  · rfl
  · rw [map_ok, splice_local pre old post (by simpa using h)]

theorem readUInt_frame {pre mid post : List UInt8} {width : Nat} (hlen : mid.length = width) :
    readUInt (pre ++ mid ++ post) pre.length width = .ok (leValue mid) := by
  subst hlen
  simp only [readUInt, List.length_append]
  rw [if_neg (by omega), slice_frame]

/-- A read fails exactly when the buffer ends before the access does. -/
theorem readUInt_isOk (b : Buffer) (offset width : Nat) :
    (∃ v, readUInt b offset width = .ok v) ↔ offset + width ≤ b.length := by
  unfold readUInt
  split <;> simp <;> omega

end Buffer

end DeltafiClient.Runtime
