import DeltafiClient.Runtime.BufferLayout

/-!
# The flat wire format

What a struct layout is for, said apart from `buffer-layout`: a record whose leaves have the
kinds and widths the layout declares goes on the wire as its leaves in declaration order,
each integer as its two's complement little-endian bytes, with no padding (`flat`), and
comes back as the same record with every integer leaf a number (`canon`).

* `leafInteger` is the integer a numeric leaf holds: a number with an integer value, or a
  `BN`.
* `every leaf L v`: `v` has the shape of `L` (an object at every struct, a property for every
  field) and `leaf` holds at each leaf. `leafFits` is the declared kind and width;
  `leafDouble` asks a 64-bit leaf to hold a double, the only integers a number can carry.
* `named L`: every field has a property, and the properties of one struct are distinct.
* `readExtent L` is how far `decode` reads: to the end of the last integer leaf, since a
  blob is sliced and never checked.
* `parse L c` is the record the bytes `c` stand for, and `storesDoubles L c` says that every
  64-bit field of `c` holds an integer that is a double.
-/

namespace DeltafiClient.Wire

open Runtime

/-- The integer a numeric leaf holds: a number with an integer value, or a `BN`. -/
def leafInteger : JsValue → Option Int
  | .number (.finite x) => if x.den = 1 then some x.num else none
  | .bigNum z => some z
  | _ => none

/-- `v[p]` of an object; `undefined` for anything else. -/
def field (v : JsValue) (p : String) : JsValue :=
  match v with
  | .object properties => (properties.lookup p).getD .undefined
  | _ => .undefined

/-- The value a field is encoded from: `v[property]`, or `undefined` without a property. -/
def fieldValue (v : JsValue) (fd : Layout) : JsValue := fd.property.elim .undefined (field v)

/-- `z` as `w` bytes of two's complement, little-endian. -/
def le (w : Nat) (z : Int) : List UInt8 := leBytes w (z % 2 ^ (8 * w)).toNat

/-- The range `[lo, hi)` an integer leaf declares. -/
def intRange : Layout → Option (Int × Int)
  | .u8 _ => some (0, 2 ^ 8)
  | .u32 _ => some (0, 2 ^ 32)
  | .nu64 _ => some (0, 2 ^ 64)
  | .ns64 _ => some (-2 ^ 63, 2 ^ 63)
  | _ => none

/-- A leaf value of the kind and width its layout declares: a buffer of the blob's length, or
an integer in the leaf's range. -/
def leafFits : Layout → JsValue → Bool
  | .blob n _, .buffer bytes => bytes.length == n
  | L, v =>
    match intRange L, leafInteger v with
    | some (lo, hi), some z => decide (lo ≤ z) && decide (z < hi)
    | _, _ => false

instance (z : Int) : Decidable (IsDouble z) := inferInstanceAs (Decidable (roundDouble z = _))

/-- A 64-bit leaf holds an integer that is a double; other leaves have nothing to check. -/
def leafDouble : Layout → JsValue → Bool
  | .nu64 _, v | .ns64 _, v =>
    match leafInteger v with
    | some z => decide (IsDouble z)
    | none => false
  | _, _ => true

mutual
/-- `v` has the shape of the layout and `leaf` holds at each of its leaves. -/
def every (leaf : Layout → JsValue → Bool) : Layout → JsValue → Bool
  | .struct fields _, .object properties => everyField leaf fields (.object properties)
  | .struct _ _, _ => false
  | L, v => leaf L v
def everyField (leaf : Layout → JsValue → Bool) : List Layout → JsValue → Bool
  | [], _ => true
  | fd :: rest, v =>
    (match fd.property with
      | some p => every leaf fd (field v p)
      | none => false) && everyField leaf rest v
end

/-- The properties of a struct's fields, in order. -/
def fieldNames (fields : List Layout) : List String := fields.filterMap Layout.property

mutual
/-- Every field has a property and no struct repeats one. -/
def named : Layout → Bool
  | .struct fields _ => namedFields fields && decide (fieldNames fields).Nodup
  | _ => true
def namedFields : List Layout → Bool
  | [] => true
  | fd :: rest => fd.property.isSome && named fd && namedFields rest
end

mutual
/-- The record's bytes: its leaves in declaration order, each integer as its two's
complement little-endian bytes, with no padding. -/
def flat : Layout → JsValue → List UInt8
  | .struct fields _, v => flatFields fields v
  | .blob _ _, .buffer bytes => bytes
  | L, v => le L.span ((leafInteger v).getD 0)
def flatFields : List Layout → JsValue → List UInt8
  | [], _ => []
  | fd :: rest, v => flat fd (fieldValue v fd) ++ flatFields rest v
end

mutual
/-- The record as it is read back: the layout's properties in order, each integer leaf a
number, each blob its buffer. -/
def canon : Layout → JsValue → JsValue
  | .struct fields _, v => .object (canonFields fields v)
  | .blob _ _, v => v
  | _, v => .number (.finite ((leafInteger v).getD 0))
def canonFields : List Layout → JsValue → List (String × JsValue)
  | [], _ => []
  | fd :: rest, v =>
    match fd.property with
    | some p => (p, canon fd (field v p)) :: canonFields rest v
    | none => canonFields rest v
end

mutual
/-- How many bytes from its start `decode` needs: up to the end of the last integer leaf. -/
def readExtent : Layout → Nat
  | .blob _ _ => 0
  | .struct fields _ => readExtentFields fields
  | L => L.span
def readExtentFields : List Layout → Nat
  | [] => 0
  | fd :: rest =>
    if readExtentFields rest = 0 then (if fd.property.isSome then readExtent fd else 0)
    else fd.span + readExtentFields rest
end

mutual
/-- The record the bytes `c` stand for: each integer leaf the integer its bytes store, each
blob its bytes. -/
def parse : Layout → List UInt8 → JsValue
  | .ns64 _, c => .number (.finite (toSigned64 (leValue c)))
  | .blob _ _, c => .buffer c
  | .struct fields _, c => .object (parseFields fields c)
  | _, c => .number (.finite (leValue c))
def parseFields : List Layout → List UInt8 → List (String × JsValue)
  | [], _ => []
  | fd :: rest, c =>
    match fd.property with
    | some p => (p, parse fd (c.take fd.span)) :: parseFields rest (c.drop fd.span)
    | none => parseFields rest (c.drop fd.span)
end

mutual
/-- Every 64-bit field of the bytes `c` holds an integer that is a double. -/
def storesDoubles : Layout → List UInt8 → Prop
  | .nu64 _, c => IsDouble (leValue c)
  | .ns64 _, c => IsDouble (toSigned64 (leValue c))
  | .struct fields _, c => storesDoublesFields fields c
  | _, _ => True
def storesDoublesFields : List Layout → List UInt8 → Prop
  | [], _ => True
  | fd :: rest, c => storesDoubles fd (c.take fd.span) ∧ storesDoublesFields rest (c.drop fd.span)
end

/-! ## Equations -/

@[simp] theorem leafInteger_natCast (n : Nat) : leafInteger (.number (.finite n)) = some n := by
  simp [leafInteger]

@[simp] theorem leafInteger_intCast (z : Int) : leafInteger (.number (.finite z)) = some z := by
  simp [leafInteger]

/-- A leaf holding a double integer converts to it. -/
theorem leafInteger_toNumber {v : JsValue} {z : Int} (h : leafInteger v = some z)
    (hd : IsDouble z) : v.toNumber = .finite z := by
  match v with
  | .number (.finite x) =>
    simp only [leafInteger] at h
    split_ifs at h with hx
    cases h
    rw [JsValue.toNumber_number, Rat.coe_int_num_of_den_eq_one hx]
  | .bigNum w =>
    cases h
    exact hd
  | .undefined | .number .nan | .number (.infinity _) | .buffer _ | .object _ => cases h

@[simp] theorem field_cons_self (p : String) (x : JsValue) (ps : List (String × JsValue)) :
    field (.object ((p, x) :: ps)) p = x := by
  simp [field, List.lookup_cons_self]

theorem field_cons_of_ne {p q : String} (h : q ≠ p) (x : JsValue) (ps : List (String × JsValue)) :
    field (.object ((p, x) :: ps)) q = field (.object ps) q := by
  simp only [field, List.lookup_cons, beq_false_of_ne h]

/-- Reading a property walks the object's properties in order. -/
@[simp] theorem field_object_cons (k : String) (x : JsValue) (ps : List (String × JsValue))
    (p : String) : field (.object ((k, x) :: ps)) p = if p = k then x else field (.object ps) p := by
  split_ifs with h
  · rw [h, field_cons_self]
  · exact field_cons_of_ne h x ps

@[simp] theorem field_object_nil (p : String) : field (.object []) p = .undefined := rfl

/-- In an object whose property names are distinct, a property reads its own value. -/
theorem field_of_mem {props : List (String × JsValue)} (hn : (props.map Prod.fst).Nodup)
    {p : String} {v : JsValue} (h : (p, v) ∈ props) : field (.object props) p = v := by
  induction props with
  | nil => cases h
  | cons kv rest ih =>
    obtain ⟨k, x⟩ := kv
    rw [List.map_cons, List.nodup_cons] at hn
    rcases List.mem_cons.mp h with heq | hmem
    · cases heq
      exact field_cons_self _ _ _
    · have hne : p ≠ k := by
        rintro rfl
        exact hn.1 (List.mem_map.mpr ⟨_, hmem, rfl⟩)
      rw [field_cons_of_ne hne]
      exact ih hn.2 hmem

theorem get_eq_field {v : JsValue} (h : v ≠ .undefined) (p : String) :
    v.get p = .ok (field v p) := by
  cases v <;> first | exact absurd rfl h | rfl

theorem leafFits_int {L : Layout} {lo hi : Int} (hr : intRange L = some (lo, hi)) {v : JsValue} :
    leafFits L v = true ↔ ∃ z, leafInteger v = some z ∧ lo ≤ z ∧ z < hi := by
  cases L <;> simp only [intRange, Option.some.injEq, Prod.mk.injEq, reduceCtorEq] at hr <;>
    obtain ⟨rfl, rfl⟩ := hr <;>
    cases h : leafInteger v <;> simp [leafFits, intRange, h]

theorem flat_int {L : Layout} {lo hi : Int} (hr : intRange L = some (lo, hi)) (v : JsValue) :
    flat L v = le L.span ((leafInteger v).getD 0) := by
  cases L <;> simp only [intRange, reduceCtorEq] at hr <;> simp [flat]

theorem canon_int (L : Layout) {lo hi : Int} (hr : intRange L = some (lo, hi)) (v : JsValue) :
    canon L v = .number (.finite ((leafInteger v).getD 0)) := by
  cases L <;> simp only [intRange, reduceCtorEq] at hr <;> rfl

theorem every_struct {leaf : Layout → JsValue → Bool} {fields : List Layout} {p : Option String}
    {v : JsValue} : every leaf (.struct fields p) v = true ↔
      (∃ properties, v = .object properties) ∧ everyField leaf fields v = true := by
  cases v <;> simp [every]

theorem everyField_cons {leaf : Layout → JsValue → Bool} {fd : Layout} {rest : List Layout}
    {v : JsValue} : everyField leaf (fd :: rest) v = true ↔
      (∃ p, fd.property = some p ∧ every leaf fd (field v p) = true) ∧
        everyField leaf rest v = true := by
  simp only [everyField, Bool.and_eq_true]
  cases fd.property <;> simp

theorem every_leafDouble_nu64 {p : String} {v : JsValue} :
    every leafDouble (.nu64 p) v = true ↔ ∃ z, leafInteger v = some z ∧ IsDouble z := by
  cases h : leafInteger v <;> simp [every, leafDouble, h]

theorem every_leafDouble_ns64 {p : String} {v : JsValue} :
    every leafDouble (.ns64 p) v = true ↔ ∃ z, leafInteger v = some z ∧ IsDouble z := by
  cases h : leafInteger v <;> simp [every, leafDouble, h]

theorem ne_undefined_of_fits {L : Layout} {v : JsValue} (h : every leafFits L v = true) :
    v ≠ .undefined := by
  rintro rfl
  cases L <;> simp [every, leafFits, leafInteger, intRange] at h

theorem named_struct {fields : List Layout} {p : Option String} :
    named (.struct fields p) = true ↔ namedFields fields = true ∧ (fieldNames fields).Nodup := by
  simp [named]

theorem namedFields_cons {fd : Layout} {rest : List Layout} :
    namedFields (fd :: rest) = true ↔
      fd.property.isSome = true ∧ named fd = true ∧ namedFields rest = true := by
  simp [namedFields, Bool.and_assoc]

theorem fieldNames_cons {fd : Layout} {rest : List Layout} {p : String}
    (hp : fd.property = some p) : fieldNames (fd :: rest) = p :: fieldNames rest := by
  simp [fieldNames, List.filterMap_cons, hp]

theorem fieldNames_fresh {fields : List Layout} {p : String} (hp : p ∉ fieldNames fields)
    (x : JsValue) (ps : List (String × JsValue)) :
    ∀ q ∈ fieldNames fields, field (.object ((p, x) :: ps)) q = field (.object ps) q :=
  fun q hq => field_cons_of_ne (show q ≠ p from fun h => hp (h ▸ hq)) x ps

/-- The field loops see a value only through the properties of their fields. -/
theorem everyField_congr (leaf : Layout → JsValue → Bool) {fields : List Layout} {v w : JsValue}
    (h : ∀ q ∈ fieldNames fields, field v q = field w q) :
    everyField leaf fields v = everyField leaf fields w := by
  induction fields with
  | nil => rfl
  | cons fd rest ih =>
    simp only [everyField]
    cases hp : fd.property with
    | none => simp [ih fun q hq => h q (by simp [fieldNames, hp] at hq ⊢; exact hq)]
    | some p =>
      rw [fieldNames_cons hp] at h
      dsimp only
      rw [h p (List.mem_cons_self _ _), ih fun q hq => h q (List.mem_cons_of_mem _ hq)]

theorem flatFields_congr {fields : List Layout} {v w : JsValue}
    (h : ∀ q ∈ fieldNames fields, field v q = field w q) :
    flatFields fields v = flatFields fields w := by
  induction fields with
  | nil => rfl
  | cons fd rest ih =>
    simp only [flatFields, fieldValue]
    cases hp : fd.property with
    | none => simp [ih fun q hq => h q (by simp [fieldNames, hp] at hq ⊢; exact hq)]
    | some p =>
      rw [fieldNames_cons hp] at h
      simp only [Option.elim]
      rw [h p (List.mem_cons_self _ _), ih fun q hq => h q (List.mem_cons_of_mem _ hq)]

/-! ## Two's complement bytes -/

theorem leValue_lt_of_length {c : List UInt8} {w : Nat} (h : c.length = w) :
    leValue c < 2 ^ (8 * w) := by
  have := leValue_lt c
  rwa [h, show (256 : Nat) ^ w = 2 ^ (8 * w) by rw [pow_mul]; norm_num] at this

theorem le_eq_leBytes {w : Nat} {z : Int} (h0 : 0 ≤ z) (h1 : z < 2 ^ (8 * w)) :
    le w z = leBytes w z.toNat := by
  rw [le, Int.emod_eq_of_lt h0 h1]

@[simp] theorem length_le (w : Nat) (z : Int) : (le w z).length = w := by simp [le]

theorem leValue_le {w : Nat} {z : Int} (h0 : 0 ≤ z) (h1 : z < 2 ^ (8 * w)) :
    (leValue (le w z) : Int) = z := by
  have hlt : z.toNat < 256 ^ w := by
    rw [show (256 : Nat) ^ w = 2 ^ (8 * w) by rw [pow_mul]; norm_num]
    zify
    rwa [Int.toNat_of_nonneg h0]
  rw [le, leValue_leBytes, Int.emod_eq_of_lt h0 h1, Nat.mod_eq_of_lt hlt, Int.toNat_of_nonneg h0]

/-- Within its width, `le` writes zeros only for zero. -/
theorem le_eq_zeros_iff {w : Nat} {z : Int} (h0 : 0 ≤ z) (h1 : z < 2 ^ (8 * w)) :
    le w z = List.replicate w 0 ↔ z = 0 := by
  constructor
  · intro h
    have hv := leValue_le h0 h1
    rwa [h, ← leBytes_zero_value, leValue_leBytes, Nat.zero_mod, Nat.cast_zero, eq_comm] at hv
  · rintro rfl
    rw [le, Int.zero_emod, Int.toNat_zero, leBytes_zero_value]

theorem toSigned64_le {z : Int} (h0 : -2 ^ 63 ≤ z) (h1 : z < 2 ^ 63) :
    toSigned64 (leValue (le 8 z)) = z := by
  rw [le, leValue_leBytes, toSigned64, show (256 : Nat) ^ 8 = 2 ^ 64 by norm_num]
  split_ifs <;> omega

theorem le_leValue {c : List UInt8} {w : Nat} (h : c.length = w) : le w (leValue c) = c := by
  rw [le, Int.emod_eq_of_lt (by positivity) (by exact_mod_cast leValue_lt_of_length h),
    Int.toNat_natCast, ← h, leBytes_leValue]

theorem le_toSigned64 {c : List UInt8} (h : c.length = 8) : le 8 (toSigned64 (leValue c)) = c := by
  have hlt := leValue_lt_of_length h
  have hmod : toSigned64 (leValue c) % 2 ^ (8 * 8) = leValue c := by
    rw [toSigned64]; split_ifs <;> omega
  rw [le, hmod, Int.toNat_natCast, ← h, leBytes_leValue]

end DeltafiClient.Wire
