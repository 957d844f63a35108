import DeltafiClient.Runtime.Buffer

/-!
# `buffer-layout`

The layouts of the client are values of `buffer-layout`, which interprets them: this module
is that interpreter for the six kinds the client uses (`u8`, `u32`, `nu64`, `ns64`, `blob`
and `struct`).

* `Layout.encode` is `Layout.encode(src, b, offset)`: it writes `src` into `b` and returns the
  bytes written. `nu64` and `ns64` split the number with `divmodInt64` into two 32-bit words;
  `blob` demands a buffer of its exact length; `struct` walks its fields, reads
  `src[field.property]` and skips a field whose value is `undefined`, leaving the buffer as it
  was there.
* `Layout.decode` is `Layout.decode(b, offset)`: integer leaves read through Node's bounds
  checked readers, `nu64` and `ns64` return `hi * 2^32 + lo` as a number (rounded to a
  double), `blob` returns `b.slice(offset, offset + length)`, which is shorter near the end of
  the buffer and never fails. `struct` assigns `dest[field.property]` on a fresh object, so a
  repeated property keeps its first place and its last value.

The count `encode` returns is a natural here: for an empty struct at a positive offset the
library's count is negative, and no layout of the client is an empty struct. The
`decodePrefixes` option of `Structure` is off in every layout and is not modelled.
-/

namespace DeltafiClient.Runtime

/-- A layout built with `buffer-layout`. -/
inductive Layout where
  | u8 (property : String)
  | u32 (property : String)
  /-- `nu64`: an unsigned 64-bit integer held in a number. -/
  | nu64 (property : String)
  /-- `ns64`: a signed 64-bit integer held in a number. -/
  | ns64 (property : String)
  /-- `blob(length)`: that many opaque bytes. -/
  | blob (length : Nat) (property : String)
  | struct (fields : List Layout) (property : Option String)

/-- `divmodInt64(src)`: `hi32 = Math.floor(src / 2^32)`, `lo32 = src - hi32 * 2^32`. The
quotient is floored exactly: the double division by `2^32` is exact save for underflow below
`2^-990`, where a negative input makes `lo32` the input itself in the language and `2^32`
here, and both writes of it fail. The subtraction is rounded as the language rounds it. NaN
stays NaN; an infinity gives an infinite `hi32` and a NaN `lo32`. -/
def divmodInt64 : JsNumber → JsNumber × JsNumber
  | .nan => (.nan, .nan)
  | .infinity negative => (.infinity negative, .nan)
  | .finite x => (.finite ⌊x / 2 ^ 32⌋, roundDouble (x - ⌊x / 2 ^ 32⌋ * 2 ^ 32))

namespace Layout

/-- The layout's `property`. -/
def property : Layout → Option String
  | u8 p | u32 p | nu64 p | ns64 p | blob _ p => some p
  | struct _ p => p

mutual
/-- `layout.span`: the fixed number of bytes the layout covers. -/
def span : Layout → Nat
  | u8 _ => 1
  | u32 _ => 4
  | nu64 _ | ns64 _ => 8
  | blob length _ => length
  | struct fields _ => spanFields fields
def spanFields : List Layout → Nat
  | [] => 0
  | fd :: rest => fd.span + spanFields rest
end

/-- The `TypeError` of `Blob.encode` for a source that is not a buffer of the blob's length. -/
def blobSourceError (length : Nat) (property : String) : JsError :=
  .typeError s!"Blob.encode[{property}] requires (length {length}) Buffer as src"

mutual
/-- `layout.encode(src, b, offset)`: the buffer after the write and the bytes written. -/
def encode : Layout → JsValue → Buffer → Nat → Except JsError (Buffer × Nat)
  | u8 _, src, b, offset => do
    let b ← b.writeInt src.toNumber offset 1 0 0xff
    pure (b, 1)
  | u32 _, src, b, offset => do
    let b ← b.writeInt src.toNumber offset 4 0 0xffffffff
    pure (b, 4)
  | nu64 _, src, b, offset => do
    let b ← b.writeInt (divmodInt64 src.toNumber).2 offset 4 0 0xffffffff
    let b ← b.writeInt (divmodInt64 src.toNumber).1 (offset + 4) 4 0 0xffffffff
    pure (b, 8)
  | ns64 _, src, b, offset => do
    let b ← b.writeInt (divmodInt64 src.toNumber).2 offset 4 0 0xffffffff
    let b ← b.writeInt (divmodInt64 src.toNumber).1 (offset + 4) 4 (-0x80000000) 0x7fffffff
    pure (b, 8)
  | blob length property, src, b, offset =>
    match src with
    | .buffer bytes =>
      if bytes.length = length then
        if b.length < offset + length then .error (.rangeError "encoding overruns Buffer")
        else .ok (b.splice offset bytes, length)
      else .error (blobSourceError length property)
    | _ => .error (blobSourceError length property)
  | struct fields _, src, b, offset => encodeFields fields src b offset offset 0 0
/-- The field loop of `Structure.encode`, from `firstOffset`; it returns
`lastOffset + lastWrote - firstOffset`. -/
def encodeFields : List Layout → JsValue → Buffer → Nat → Nat → Nat → Nat →
    Except JsError (Buffer × Nat)
  | [], _, b, firstOffset, _, lastOffset, lastWrote => .ok (b, lastOffset + lastWrote - firstOffset)
  | fd :: rest, src, b, firstOffset, offset, _, _ =>
    match fd.property with
    | none => encodeFields rest src b firstOffset (offset + fd.span) offset fd.span
    | some p => do
      let value ← src.get p
      if value = .undefined then encodeFields rest src b firstOffset (offset + fd.span) offset fd.span
      else do
        let (b, wrote) ← fd.encode value b offset
        encodeFields rest src b firstOffset (offset + fd.span) offset wrote
end

mutual
/-- `layout.decode(b, offset)`. -/
def decode : Layout → Buffer → Nat → Except JsError JsValue
  | u8 _, b, offset => do
    let v ← b.readUInt offset 1
    pure (.number (.finite v))
  | u32 _, b, offset => do
    let v ← b.readUInt offset 4
    pure (.number (.finite v))
  | nu64 _, b, offset => do
    let lo ← b.readUInt offset 4
    let hi ← b.readUInt (offset + 4) 4
    pure (.number (roundDouble ((hi * 2 ^ 32 + lo : ℕ) : ℤ)))
  | ns64 _, b, offset => do
    let lo ← b.readUInt offset 4
    let hi ← b.readInt32 (offset + 4)
    pure (.number (roundDouble (hi * 2 ^ 32 + lo : ℤ)))
  | blob length _, b, offset => pure (.buffer (b.slice offset (offset + length)))
  | struct fields _, b, offset => do
    let properties ← decodeFields fields b offset []
    pure (.object properties)
/-- The field loop of `Structure.decode` over the destination object `dest`:
`dest[field.property] = field.decode(b, offset)`. -/
def decodeFields : List Layout → Buffer → Nat → List (String × JsValue) →
    Except JsError (List (String × JsValue))
  | [], _, _, dest => pure dest
  | fd :: rest, b, offset, dest =>
    match fd.property with
    | none => decodeFields rest b (offset + fd.span) dest
    | some p => do
      let v ← fd.decode b offset
      decodeFields rest b (offset + fd.span) (JsValue.assignProperty dest p v)
end

end Layout

/-! ## Leaves

Each leaf's write and read, stated on a buffer `pre ++ old ++ post` with the access at
`pre.length`. A 64-bit leaf goes through two 32-bit words, low word first. -/

theorem divmodInt64_intCast (z : Int) :
    divmodInt64 (.finite z) = (.finite ((z / 2 ^ 32 : Int) : ℚ), .finite ((z % 2 ^ 32 : Int) : ℚ)) := by
  have hfloor : ⌊(z : ℚ) / 2 ^ 32⌋ = z / 2 ^ 32 := by
    simpa using Rat.floor_intCast_div_natCast z (2 ^ 32)
  have hlo : (z : ℚ) - ((z / 2 ^ 32 : Int) : ℚ) * 2 ^ 32 = ((z % 2 ^ 32 : Int) : ℚ) := by
    rw [Int.emod_def]; push_cast; ring
  have hexact : roundDouble ((z % 2 ^ 32 : Int) : ℚ) = .finite ((z % 2 ^ 32 : Int) : ℚ) :=
    isDouble_of_natAbs_le (by omega)
  simp only [divmodInt64, hfloor, hlo, hexact]

/-- The two stored words of `divmodInt64` are the eight bytes of the two's complement. -/
theorem leBytes_words (z : Int) :
    leBytes 4 ((z % 2 ^ 32) % 2 ^ 32).toNat ++ leBytes 4 ((z / 2 ^ 32) % 2 ^ 32).toNat =
      leBytes 8 (z % 2 ^ 64).toNat := by
  have hlo : ((z % 2 ^ 32) % 2 ^ 32).toNat = (z % 2 ^ 64).toNat % 256 ^ 4 := by
    rw [← Int.ofNat_inj, Int.toNat_of_nonneg (Int.emod_nonneg _ (by norm_num)), Int.ofNat_emod,
      Int.toNat_of_nonneg (Int.emod_nonneg _ (by norm_num)), Int.emod_emod,
      Int.emod_emod_of_dvd z (by norm_num)]
    rfl
  have hhi : ((z / 2 ^ 32) % 2 ^ 32).toNat = (z % 2 ^ 64).toNat / 256 ^ 4 := by omega
  rw [hlo, hhi, leBytes_mod, ← leBytes_add]

theorem leValue_words {c : List UInt8} (hc : c.length = 8) :
    leValue c = leValue (c.take 4) + 2 ^ 32 * leValue (c.drop 4) := by
  have hsplit := leValue_append (c.take 4) (c.drop 4)
  rwa [List.take_append_drop, List.length_take, min_eq_left (by omega)] at hsplit

theorem writeWords_frame {α : Type} {pre old post : List UInt8} (hlen : old.length = 8)
    {lo hi : JsNumber} {min max : Int}
    (hlo : lo.outside 0 0xffffffff = false) (hhi : hi.outside min max = false)
    (k : Buffer → Except JsError α) :
    (Buffer.writeInt (pre ++ old ++ post) lo pre.length 4 0 0xffffffff >>= fun b =>
      b.writeInt hi (pre.length + 4) 4 min max >>= k) =
      k (pre ++ (leBytes 4 lo.toUint32 ++ leBytes 4 hi.toUint32) ++ post) := by
  obtain ⟨o1, o2, rfl, h1, h2⟩ := exists_split (show old.length = 4 + 4 from hlen)
  have e1 : pre ++ (o1 ++ o2) ++ post = pre ++ o1 ++ (o2 ++ post) := by simp
  have e2 : pre.length + 4 = (pre ++ leBytes 4 lo.toUint32).length := by simp
  rw [e1, Buffer.writeInt_frame h1 hlo, ok_bind, ← List.append_assoc, e2,
    Buffer.writeInt_frame h2 hhi, ok_bind]
  exact congrArg k (by simp)

theorem readWords_frame {pre c post : List UInt8} (hc : c.length = 8) :
    Buffer.readUInt (pre ++ c ++ post) pre.length 4 = .ok (leValue (c.take 4)) ∧
      Buffer.readUInt (pre ++ c ++ post) (pre.length + 4) 4 = .ok (leValue (c.drop 4)) := by
  obtain ⟨c1, c2, rfl, h1, h2⟩ := exists_split (show c.length = 4 + 4 from hc)
  rw [List.take_left' h1, List.drop_left' h1]
  constructor
  · rw [show pre ++ (c1 ++ c2) ++ post = pre ++ c1 ++ (c2 ++ post) by simp]
    exact Buffer.readUInt_frame h1
  · rw [show pre ++ (c1 ++ c2) ++ post = pre ++ c1 ++ c2 ++ post by simp,
      show pre.length + 4 = (pre ++ c1).length by simp [h1]]
    exact Buffer.readUInt_frame h2

/-- The signed value of 64 little-endian bits, as `readInt32LE` of the high word makes it. -/
def toSigned64 (u : Nat) : Int := if u < 2 ^ 63 then u else u - 2 ^ 64

namespace Layout

theorem encode_u8_frame {p : String} {src : JsValue} {z : Int} (hz : src.toNumber = .finite z)
    (h0 : 0 ≤ z) (h1 : z < 2 ^ 8) {pre old post : List UInt8} (hlen : old.length = 1) :
    (u8 p).encode src (pre ++ old ++ post) pre.length =
      .ok (pre ++ leBytes 1 (z % 2 ^ 8).toNat ++ post, 1) := by
  have hbyte : (z % 2 ^ 32).toNat = (z % 2 ^ 8).toNat := by omega
  simp only [encode, hz]
  rw [Buffer.writeInt_frame hlen (by simp; omega), toUint32_intCast, hbyte]
  rfl

theorem encode_u32_frame {p : String} {src : JsValue} {z : Int} (hz : src.toNumber = .finite z)
    (h0 : 0 ≤ z) (h1 : z < 2 ^ 32) {pre old post : List UInt8} (hlen : old.length = 4) :
    (u32 p).encode src (pre ++ old ++ post) pre.length =
      .ok (pre ++ leBytes 4 (z % 2 ^ 32).toNat ++ post, 4) := by
  simp only [encode, hz]
  rw [Buffer.writeInt_frame hlen (by simp; omega), toUint32_intCast]
  rfl

theorem encode_nu64_frame {p : String} {src : JsValue} {z : Int} (hz : src.toNumber = .finite z)
    (h0 : 0 ≤ z) (h1 : z < 2 ^ 64) {pre old post : List UInt8} (hlen : old.length = 8) :
    (nu64 p).encode src (pre ++ old ++ post) pre.length =
      .ok (pre ++ leBytes 8 (z % 2 ^ 64).toNat ++ post, 8) := by
  simp only [encode, hz, divmodInt64_intCast]
  rw [writeWords_frame hlen (by simp; omega) (by simp; omega)]
  simp only [toUint32_intCast, leBytes_words]
  rfl

theorem encode_ns64_frame {p : String} {src : JsValue} {z : Int} (hz : src.toNumber = .finite z)
    (h0 : -2 ^ 63 ≤ z) (h1 : z < 2 ^ 63) {pre old post : List UInt8} (hlen : old.length = 8) :
    (ns64 p).encode src (pre ++ old ++ post) pre.length =
      .ok (pre ++ leBytes 8 (z % 2 ^ 64).toNat ++ post, 8) := by
  simp only [encode, hz, divmodInt64_intCast]
  rw [writeWords_frame hlen (by simp; omega) (by simp; omega)]
  simp only [toUint32_intCast, leBytes_words]
  rfl

theorem encode_blob_frame {n : Nat} {p : String} {bytes : List UInt8} (hbytes : bytes.length = n)
    {pre old post : List UInt8} (hlen : old.length = n) :
    (blob n p).encode (.buffer bytes) (pre ++ old ++ post) pre.length =
      .ok (pre ++ bytes ++ post, n) := by
  simp only [encode, hbytes, if_true, List.length_append]
  rw [if_neg (by omega), Buffer.splice_frame _ _ _ _ (hlen.trans hbytes.symm)]

theorem decode_u8_frame {p : String} {pre c post : List UInt8} (hc : c.length = 1) :
    (u8 p).decode (pre ++ c ++ post) pre.length = .ok (.number (.finite (leValue c))) := by
  simp only [decode, Buffer.readUInt_frame hc]
  rfl

theorem decode_u32_frame {p : String} {pre c post : List UInt8} (hc : c.length = 4) :
    (u32 p).decode (pre ++ c ++ post) pre.length = .ok (.number (.finite (leValue c))) := by
  simp only [decode, Buffer.readUInt_frame hc]
  rfl

theorem decode_nu64_frame {p : String} {pre c post : List UInt8} (hc : c.length = 8) :
    (nu64 p).decode (pre ++ c ++ post) pre.length = .ok (.number (roundDouble (leValue c : ℤ))) := by
  simp only [decode, (readWords_frame hc).1, (readWords_frame hc).2, ok_bind]
  rw [leValue_words hc, Nat.add_comm, Nat.mul_comm]
  rfl

theorem decode_ns64_frame {p : String} {pre c post : List UInt8} (hc : c.length = 8) :
    (ns64 p).decode (pre ++ c ++ post) pre.length =
      .ok (.number (roundDouble (toSigned64 (leValue c)))) := by
  have hlo : leValue (c.take 4) < 2 ^ 32 := (leValue_lt _).trans_eq (by norm_num [hc])
  simp only [decode, Buffer.readInt32, (readWords_frame hc).1, (readWords_frame hc).2, ok_bind]
  refine congrArg (fun z : Int => Except.ok (JsValue.number (roundDouble z))) ?_
  rw [toSigned64, leValue_words hc]
  split_ifs <;> omega

theorem decode_blob_frame {n : Nat} {p : String} {pre c post : List UInt8} (hc : c.length = n) :
    (blob n p).decode (pre ++ c ++ post) pre.length = .ok (.buffer c) := by
  subst hc
  simp only [decode, Buffer.slice_frame]
  rfl

/-- An integer leaf decodes exactly when the buffer holds all its bytes; a blob always
decodes. -/
theorem decode_u8_ok_iff (p : String) (b : Buffer) (off : Nat) :
    (∃ v, (u8 p).decode b off = .ok v) ↔ off + 1 ≤ b.length := by
  simp only [decode, Buffer.readUInt]
  split_ifs <;> simp <;> omega

theorem decode_u32_ok_iff (p : String) (b : Buffer) (off : Nat) :
    (∃ v, (u32 p).decode b off = .ok v) ↔ off + 4 ≤ b.length := by
  simp only [decode, Buffer.readUInt]
  split_ifs <;> simp <;> omega

theorem decode_nu64_ok_iff (p : String) (b : Buffer) (off : Nat) :
    (∃ v, (nu64 p).decode b off = .ok v) ↔ off + 8 ≤ b.length := by
  simp only [decode, Buffer.readUInt]
  split_ifs <;> simp <;> omega

theorem decode_ns64_ok_iff (p : String) (b : Buffer) (off : Nat) :
    (∃ v, (ns64 p).decode b off = .ok v) ↔ off + 8 ≤ b.length := by
  simp only [decode, Buffer.readInt32, Buffer.readUInt]
  split_ifs <;> simp <;> omega

end Layout

end DeltafiClient.Runtime
