import DeltafiClient.Wire.Format

/-!
# `buffer-layout` against the flat wire format

The interpreter of `Runtime/BufferLayout.lean` refines the format of `Wire/Format.lean`.
Each result is one structural induction over the layout tree, a struct's field list walked
by a lemma of its own, and each leaf case is the leaf lemma of the interpreter.

* `encode_flat`: a record of the declared shape whose 64-bit leaves are doubles is written
  as its flat bytes, over any old bytes of the span, and `encode` returns the span.
* `decode_flat`: reading flat bytes gives the record back in canonical form.
* `decode_ok_iff`: `decode` fails exactly when the buffer ends before the layout's last
  integer leaf does.
* `decode_parse`, `parse_conforms`: bytes whose 64-bit fields hold doubles decode to the
  record they stand for, and that record is written back as the same bytes.
-/

namespace DeltafiClient.Wire

open Runtime

mutual
theorem length_flat : ∀ (L : Layout) (v : JsValue), every leafFits L v = true →
    (flat L v).length = L.span
  | .struct fields _, v, h => length_flatFields fields v (every_struct.mp h).2
  | .blob n _, v, h => by
    cases v <;> simp_all [every, leafFits, flat, intRange, Layout.span]
  | .u8 _, v, _ | .u32 _, v, _ | .nu64 _, v, _ | .ns64 _, v, _ => by simp [flat, le]
theorem length_flatFields : ∀ (fields : List Layout) (v : JsValue),
    everyField leafFits fields v = true → (flatFields fields v).length = Layout.spanFields fields
  | [], _, _ => rfl
  | fd :: rest, v, h => by
    obtain ⟨⟨p, hp, hfd⟩, hrest⟩ := everyField_cons.mp h
    simp only [flatFields, fieldValue, hp, Option.elim, List.length_append, Layout.spanFields,
      length_flat fd _ hfd, length_flatFields rest v hrest]
end

/-! ## Writing -/

theorem encode_int_flat (L : Layout) {lo hi : Int} (hr : intRange L = some (lo, hi)) {v : JsValue}
    (hf : leafFits L v = true) (hd : leafDouble L v = true) {pre old post : List UInt8}
    (hl : old.length = L.span) :
    L.encode v (pre ++ old ++ post) pre.length = .ok (pre ++ flat L v ++ post, L.span) := by
  obtain ⟨z, hz, hlo, hhi⟩ := (leafFits_int hr).mp hf
  rw [flat_int hr, hz, Option.getD_some]
  cases L <;> simp only [intRange, Option.some.injEq, Prod.mk.injEq, reduceCtorEq] at hr <;>
    obtain ⟨rfl, rfl⟩ := hr
  · exact Layout.encode_u8_frame (leafInteger_toNumber hz (isDouble_of_natAbs_le (by omega)))
      hlo hhi hl
  · exact Layout.encode_u32_frame (leafInteger_toNumber hz (isDouble_of_natAbs_le (by omega)))
      hlo hhi hl
  · have hdz : IsDouble z := by simpa [leafDouble, hz] using hd
    exact Layout.encode_nu64_frame (leafInteger_toNumber hz hdz) hlo hhi hl
  · have hdz : IsDouble z := by simpa [leafDouble, hz] using hd
    exact Layout.encode_ns64_frame (leafInteger_toNumber hz hdz) hlo hhi hl

mutual
/-- A conforming record is written as its flat bytes. -/
theorem encode_flat : ∀ (L : Layout) (v : JsValue), every leafFits L v = true →
    every leafDouble L v = true → ∀ (pre old post : List UInt8), old.length = L.span →
    L.encode v (pre ++ old ++ post) pre.length = .ok (pre ++ flat L v ++ post, L.span)
  | .struct fields _, v, hf, hd, pre, old, post, hl => by
    obtain ⟨⟨ps, rfl⟩, hff⟩ := every_struct.mp hf
    have h := encodeFields_flat fields (.object ps) (by simp) hff (every_struct.mp hd).2 pre old
      post pre.length 0 0 hl (fun _ => by simp)
    rwa [Nat.add_sub_cancel_left] at h
  | .blob n _, v, hf, _, pre, old, post, hl => by
    cases v <;> simp [every, leafFits, intRange, leafInteger] at hf
    exact Layout.encode_blob_frame hf hl
  | .u8 p, _, hf, hd, _, _, _, hl => encode_int_flat (.u8 p) rfl hf hd hl
  | .u32 p, _, hf, hd, _, _, _, hl => encode_int_flat (.u32 p) rfl hf hd hl
  | .nu64 p, _, hf, hd, _, _, _, hl => encode_int_flat (.nu64 p) rfl hf hd hl
  | .ns64 p, _, hf, hd, _, _, _, hl => encode_int_flat (.ns64 p) rfl hf hd hl
/-- The field loop of `Structure.encode` writes each field's flat bytes in turn; the count
it returns runs from the first field's offset to the end of the last. -/
theorem encodeFields_flat : ∀ (fields : List Layout) (src : JsValue), src ≠ .undefined →
    everyField leafFits fields src = true → everyField leafDouble fields src = true →
    ∀ (pre old post : List UInt8) (first lastOffset lastWrote : Nat),
    old.length = Layout.spanFields fields →
    (fields = [] → lastOffset + lastWrote - first = pre.length - first) →
    Layout.encodeFields fields src (pre ++ old ++ post) first pre.length lastOffset lastWrote =
      .ok (pre ++ flatFields fields src ++ post, pre.length + Layout.spanFields fields - first)
  | [], src, _, _, _, pre, old, post, first, lo, lw, hl, hinv => by
    rw [List.length_eq_zero.mp hl]
    simp [Layout.encodeFields, flatFields, Layout.spanFields, hinv rfl]
  | fd :: rest, src, hsrc, hf, hd, pre, old, post, first, lo, lw, hl, _ => by
    obtain ⟨⟨p, hp, hfd⟩, hrest⟩ := everyField_cons.mp hf
    obtain ⟨⟨p', hp', hdfd⟩, hdrest⟩ := everyField_cons.mp hd
    obtain rfl : p = p' := Option.some.inj (hp.symm.trans hp')
    obtain ⟨o1, o2, rfl, h1, h2⟩ := exists_split hl
    have hlen := length_flat fd _ hfd
    have e1 : pre ++ (o1 ++ o2) ++ post = pre ++ o1 ++ (o2 ++ post) := by simp
    have e2 : pre ++ flat fd (field src p) ++ (o2 ++ post) =
        pre ++ flat fd (field src p) ++ o2 ++ post := by simp
    have e3 : pre.length + fd.span = (pre ++ flat fd (field src p)).length := by simp [hlen]
    simp only [Layout.encodeFields, hp, get_eq_field hsrc, ok_bind,
      if_neg (ne_undefined_of_fits hfd)]
    rw [e1, encode_flat fd _ hfd hdfd pre o1 (o2 ++ post) h1, ok_bind]
    show Layout.encodeFields rest src (pre ++ flat fd (field src p) ++ (o2 ++ post)) first
      (pre.length + fd.span) pre.length fd.span = _
    rw [e2, e3, encodeFields_flat rest src hsrc hrest hdrest _ o2 post first _ _ h2
      (fun _ => by simp [hlen])]
    simp [flatFields, fieldValue, hp, Layout.spanFields, hlen]
    omega
end

/-! ## Reading -/

theorem decode_int_flat (L : Layout) {lo hi : Int} (hr : intRange L = some (lo, hi)) {v : JsValue}
    (hf : leafFits L v = true) (hd : leafDouble L v = true) (pre post : List UInt8) :
    L.decode (pre ++ flat L v ++ post) pre.length = .ok (canon L v) := by
  obtain ⟨z, hz, hlo, hhi⟩ := (leafFits_int hr).mp hf
  have hl : (flat L v).length = L.span := by rw [flat_int hr]; simp [le]
  rw [flat_int hr, hz, Option.getD_some] at hl ⊢
  rw [canon_int L hr, hz, Option.getD_some]
  cases L <;> simp only [intRange, Option.some.injEq, Prod.mk.injEq, reduceCtorEq] at hr <;>
    obtain ⟨rfl, rfl⟩ := hr <;> simp only [Layout.span] at hl ⊢
  · rw [Layout.decode_u8_frame hl, ← Int.cast_natCast, @leValue_le 1 z hlo hhi]
  · rw [Layout.decode_u32_frame hl, ← Int.cast_natCast, @leValue_le 4 z hlo hhi]
  · have hdz : IsDouble z := by simpa [leafDouble, hz] using hd
    rw [Layout.decode_nu64_frame hl, @leValue_le 8 z hlo hhi, hdz]
  · have hdz : IsDouble z := by simpa [leafDouble, hz] using hd
    rw [Layout.decode_ns64_frame hl, toSigned64_le hlo hhi, hdz]

mutual
/-- Flat bytes read back as the canonical record. -/
theorem decode_flat : ∀ (L : Layout) (v : JsValue), named L = true → every leafFits L v = true →
    every leafDouble L v = true → ∀ (pre post : List UInt8),
    L.decode (pre ++ flat L v ++ post) pre.length = .ok (canon L v)
  | .struct fields _, v, hn, hf, hd, pre, post => by
    have h := decodeFields_flat fields v (named_struct.mp hn).1 (every_struct.mp hf).2
      (every_struct.mp hd).2 pre post [] (named_struct.mp hn).2 (by simp)
    simp only [Layout.decode, flat, h, ok_bind, List.nil_append]
    rfl
  | .blob n _, v, _, hf, _, pre, post => by
    cases v <;> simp [every, leafFits, intRange, leafInteger] at hf
    exact Layout.decode_blob_frame hf
  | .u8 p, _, _, hf, hd, pre, post => decode_int_flat (.u8 p) rfl hf hd pre post
  | .u32 p, _, _, hf, hd, pre, post => decode_int_flat (.u32 p) rfl hf hd pre post
  | .nu64 p, _, _, hf, hd, pre, post => decode_int_flat (.nu64 p) rfl hf hd pre post
  | .ns64 p, _, _, hf, hd, pre, post => decode_int_flat (.ns64 p) rfl hf hd pre post
/-- The field loop of `Structure.decode` appends each field's canonical value to the
destination object, whose properties are none of the fields'. -/
theorem decodeFields_flat : ∀ (fields : List Layout) (v : JsValue), namedFields fields = true →
    everyField leafFits fields v = true → everyField leafDouble fields v = true →
    ∀ (pre post : List UInt8) (dest : List (String × JsValue)), (fieldNames fields).Nodup →
    (∀ q ∈ fieldNames fields, q ∉ dest.map Prod.fst) →
    Layout.decodeFields fields (pre ++ flatFields fields v ++ post) pre.length dest =
      .ok (dest ++ canonFields fields v)
  | [], _, _, _, _, _, _, dest, _, _ => by
    simp only [flatFields, canonFields, List.append_nil]
    rfl
  | fd :: rest, v, hn, hf, hd, pre, post, dest, hnodup, hfresh => by
    obtain ⟨⟨p, hp, hfd⟩, hrest⟩ := everyField_cons.mp hf
    obtain ⟨⟨p', hp', hdfd⟩, hdrest⟩ := everyField_cons.mp hd
    obtain rfl : p = p' := Option.some.inj (hp.symm.trans hp')
    obtain ⟨-, hnfd, hnrest⟩ := namedFields_cons.mp hn
    rw [fieldNames_cons hp] at hnodup hfresh
    obtain ⟨hpr, hnodup'⟩ := List.nodup_cons.mp hnodup
    have hlen := length_flat fd _ hfd
    have e1 : pre ++ (flat fd (field v p) ++ flatFields rest v) ++ post =
        pre ++ flat fd (field v p) ++ (flatFields rest v ++ post) := by simp
    have e2 : pre ++ flat fd (field v p) ++ (flatFields rest v ++ post) =
        pre ++ flat fd (field v p) ++ flatFields rest v ++ post := by simp
    have e3 : pre.length + fd.span = (pre ++ flat fd (field v p)).length := by simp [hlen]
    have hassign := JsValue.assignProperty_of_not_mem (hfresh p (List.mem_cons_self _ _))
      (canon fd (field v p))
    simp only [flatFields, fieldValue, hp, Option.elim, Layout.decodeFields]
    rw [e1, decode_flat fd _ hnfd hfd hdfd pre _, ok_bind, hassign, e2, e3,
      decodeFields_flat rest v hnrest hrest hdrest _ post _ hnodup' ?_]
    · simp [canonFields, hp]
    · intro q hq
      simp only [List.map_append, List.mem_append, List.map_cons, List.map_nil,
        List.mem_singleton, not_or]
      exact ⟨hfresh q (List.mem_cons_of_mem _ hq), fun h => hpr (h ▸ hq)⟩
end

/-! ## Short buffers -/

mutual
theorem readExtent_le_span : ∀ L : Layout, readExtent L ≤ L.span
  | .struct fields _ => readExtentFields_le_spanFields fields
  | .blob _ _ => Nat.zero_le _
  | .u8 _ | .u32 _ | .nu64 _ | .ns64 _ => le_refl _
theorem readExtentFields_le_spanFields : ∀ fields : List Layout,
    readExtentFields fields ≤ Layout.spanFields fields
  | [] => le_refl _
  | fd :: rest => by
    have h1 := readExtent_le_span fd
    have h2 := readExtentFields_le_spanFields rest
    simp only [readExtentFields, Layout.spanFields]
    split_ifs <;> omega
end

mutual
/-- `decode` returns a record exactly when the buffer holds every integer leaf. -/
theorem decode_ok_iff : ∀ (L : Layout) (b : Buffer) (off : Nat),
    (∃ v, L.decode b off = .ok v) ↔ off + readExtent L ≤ b.length ∨ readExtent L = 0
  | .struct fields _, b, off => by
    rw [show readExtent (.struct fields _) = readExtentFields fields from rfl,
      ← decodeFields_ok_iff fields b off []]
    simp only [Layout.decode, exists_bind_eq_ok]
    exact ⟨fun ⟨ps, h, _⟩ => ⟨ps, h⟩, fun ⟨ps, h⟩ => ⟨ps, h, _, rfl⟩⟩
  | .blob _ _, b, off => by simp [Layout.decode, readExtent]
  | .u8 p, b, off => by simp [Layout.decode_u8_ok_iff, readExtent, Layout.span]
  | .u32 p, b, off => by simp [Layout.decode_u32_ok_iff, readExtent, Layout.span]
  | .nu64 p, b, off => by simp [Layout.decode_nu64_ok_iff, readExtent, Layout.span]
  | .ns64 p, b, off => by simp [Layout.decode_ns64_ok_iff, readExtent, Layout.span]
theorem decodeFields_ok_iff : ∀ (fields : List Layout) (b : Buffer) (off : Nat)
    (dest : List (String × JsValue)),
    (∃ ps, Layout.decodeFields fields b off dest = .ok ps) ↔
      off + readExtentFields fields ≤ b.length ∨ readExtentFields fields = 0
  | [], b, off, dest => by simp [Layout.decodeFields, readExtentFields]
  | fd :: rest, b, off, dest => by
    have hfd := decode_ok_iff fd b off
    have hle := readExtent_le_span fd
    cases hp : fd.property with
    | none =>
      simp only [Layout.decodeFields, hp, readExtentFields, Option.isSome_none,
        Bool.false_eq_true, if_false, decodeFields_ok_iff rest b (off + fd.span) dest]
      split_ifs <;> omega
    | some p =>
      simp only [Layout.decodeFields, hp, exists_bind_eq_ok, readExtentFields,
        Option.isSome_some, if_true, decodeFields_ok_iff rest b (off + fd.span)]
      constructor
      · rintro ⟨v, hv, hrest⟩
        have := hfd.mp ⟨v, hv⟩
        split_ifs <;> omega
      · intro h
        have hrest : off + fd.span + readExtentFields rest ≤ b.length ∨
            readExtentFields rest = 0 := by
          split_ifs at h <;> omega
        obtain ⟨v, hv⟩ := hfd.mpr (by split_ifs at h <;> omega)
        exact ⟨v, hv, hrest⟩
end

/-! ## Bytes read and written back -/

mutual
/-- Bytes whose 64-bit fields hold doubles decode to the record they stand for. -/
theorem decode_parse : ∀ (L : Layout), named L = true → ∀ (pre c post : List UInt8),
    c.length = L.span → storesDoubles L c →
    L.decode (pre ++ c ++ post) pre.length = .ok (parse L c)
  | .struct fields _, hn, pre, c, post, hl, hs => by
    have h := decodeFields_parse fields (named_struct.mp hn).1 pre c post [] hl hs
      (named_struct.mp hn).2 (by simp)
    simp only [Layout.decode, h, ok_bind, List.nil_append]
    rfl
  | .blob _ _, _, _, _, _, hl, _ => Layout.decode_blob_frame hl
  | .u8 _, _, _, _, _, hl, _ => Layout.decode_u8_frame hl
  | .u32 _, _, _, _, _, hl, _ => Layout.decode_u32_frame hl
  | .nu64 _, _, _, c, _, hl, hs => by
    rw [Layout.decode_nu64_frame hl, show IsDouble (leValue c) from hs]
    rfl
  | .ns64 _, _, _, c, _, hl, hs => by
    rw [Layout.decode_ns64_frame hl, show IsDouble (toSigned64 (leValue c)) from hs]
    rfl
theorem decodeFields_parse : ∀ (fields : List Layout), namedFields fields = true →
    ∀ (pre c post : List UInt8) (dest : List (String × JsValue)),
    c.length = Layout.spanFields fields → storesDoublesFields fields c →
    (fieldNames fields).Nodup → (∀ q ∈ fieldNames fields, q ∉ dest.map Prod.fst) →
    Layout.decodeFields fields (pre ++ c ++ post) pre.length dest =
      .ok (dest ++ parseFields fields c)
  | [], _, _, _, _, dest, _, _, _, _ => by
    simp only [parseFields, List.append_nil]
    rfl
  | fd :: rest, hn, pre, c, post, dest, hl, hs, hnodup, hfresh => by
    obtain ⟨hsome, hnfd, hnrest⟩ := namedFields_cons.mp hn
    obtain ⟨p, hp⟩ := Option.isSome_iff_exists.mp hsome
    rw [fieldNames_cons hp] at hnodup hfresh
    obtain ⟨hpr, hnodup'⟩ := List.nodup_cons.mp hnodup
    obtain ⟨c1, c2, rfl, h1, h2⟩ := exists_split hl
    simp only [storesDoublesFields, List.take_left' h1, List.drop_left' h1] at hs
    have e1 : pre ++ (c1 ++ c2) ++ post = pre ++ c1 ++ (c2 ++ post) := by simp
    have e2 : pre ++ c1 ++ (c2 ++ post) = pre ++ c1 ++ c2 ++ post := by simp
    have e3 : pre.length + fd.span = (pre ++ c1).length := by simp [h1]
    have hassign := JsValue.assignProperty_of_not_mem (hfresh p (List.mem_cons_self _ _))
      (parse fd c1)
    simp only [Layout.decodeFields, hp]
    rw [e1, decode_parse fd hnfd pre c1 _ h1 hs.1, ok_bind, hassign, e2, e3,
      decodeFields_parse rest hnrest _ c2 post _ h2 hs.2 hnodup' ?_]
    · simp [parseFields, hp, List.take_left' h1, List.drop_left' h1]
    · intro q hq
      simp only [List.map_append, List.mem_append, List.map_cons, List.map_nil,
        List.mem_singleton, not_or]
      exact ⟨hfresh q (List.mem_cons_of_mem _ hq), fun h => hpr (h ▸ hq)⟩
end

mutual
/-- The record bytes stand for has the layout's shape and widths, and its flat bytes are
those bytes. -/
theorem parse_conforms : ∀ (L : Layout), named L = true → ∀ (c : List UInt8),
    c.length = L.span → storesDoubles L c →
    every leafFits L (parse L c) = true ∧ every leafDouble L (parse L c) = true ∧
      flat L (parse L c) = c
  | .struct fields _, hn, c, hl, hs =>
    parseFields_conforms fields (named_struct.mp hn).1 (named_struct.mp hn).2 c hl hs
  | .blob n _, _, c, hl, _ => ⟨by simpa [every, leafFits, parse] using hl, rfl, rfl⟩
  | .u8 _, _, c, hl, _ => by
    have : leValue c < 2 ^ 8 := leValue_lt_of_length hl
    exact ⟨by simp [every, leafFits, intRange, parse]; omega, rfl, le_leValue hl⟩
  | .u32 _, _, c, hl, _ => by
    have : leValue c < 2 ^ 32 := leValue_lt_of_length hl
    exact ⟨by simp [every, leafFits, intRange, parse]; omega, rfl, le_leValue hl⟩
  | .nu64 p, _, c, hl, hs => by
    have : leValue c < 2 ^ 64 := leValue_lt_of_length hl
    exact ⟨by simp [every, leafFits, intRange, parse]; omega,
      every_leafDouble_nu64.mpr ⟨_, leafInteger_natCast _, hs⟩, le_leValue hl⟩
  | .ns64 p, _, c, hl, hs => by
    have : leValue c < 2 ^ 64 := leValue_lt_of_length hl
    have hr : -2 ^ 63 ≤ toSigned64 (leValue c) ∧ toSigned64 (leValue c) < 2 ^ 63 := by
      unfold toSigned64; split_ifs <;> omega
    exact ⟨by simp [every, leafFits, intRange, parse]; omega,
      every_leafDouble_ns64.mpr ⟨_, leafInteger_intCast _, hs⟩, le_toSigned64 hl⟩
theorem parseFields_conforms : ∀ (fields : List Layout), namedFields fields = true →
    (fieldNames fields).Nodup → ∀ (c : List UInt8), c.length = Layout.spanFields fields →
    storesDoublesFields fields c →
    everyField leafFits fields (.object (parseFields fields c)) = true ∧
      everyField leafDouble fields (.object (parseFields fields c)) = true ∧
      flatFields fields (.object (parseFields fields c)) = c
  | [], _, _, c, hl, _ => ⟨rfl, rfl, (List.length_eq_zero.mp hl).symm⟩
  | fd :: rest, hn, hnodup, c, hl, hs => by
    obtain ⟨hsome, hnfd, hnrest⟩ := namedFields_cons.mp hn
    obtain ⟨p, hp⟩ := Option.isSome_iff_exists.mp hsome
    rw [fieldNames_cons hp] at hnodup
    obtain ⟨hpr, hnodup'⟩ := List.nodup_cons.mp hnodup
    obtain ⟨c1, c2, rfl, h1, h2⟩ := exists_split hl
    simp only [storesDoublesFields, List.take_left' h1, List.drop_left' h1] at hs
    obtain ⟨f1, d1, e1⟩ := parse_conforms fd hnfd c1 h1 hs.1
    obtain ⟨f2, d2, e2⟩ := parseFields_conforms rest hnrest hnodup' c2 h2 hs.2
    have hfresh := fieldNames_fresh hpr (parse fd c1) (parseFields rest c2)
    simp only [parseFields, hp, List.take_left' h1, List.drop_left' h1, everyField, flatFields,
      fieldValue, Option.elim, field_cons_self, everyField_congr _ hfresh,
      flatFields_congr hfresh, f1, d1, e1, f2, d2, e2, Bool.and_self, and_self]
end

/-! ## Whole buffers -/

section
variable {L : Layout} (hn : named L = true)
include hn

/-- A conforming record encoded into a fresh buffer of the span is its flat bytes, and
decoding them gives the record back in canonical form. -/
theorem roundTrip {v : JsValue} (hf : every leafFits L v = true) (hd : every leafDouble L v = true) :
    L.encode v (Buffer.alloc L.span) 0 = .ok (flat L v, L.span) ∧
      L.decode (flat L v) 0 = .ok (canon L v) := by
  have he := encode_flat L v hf hd [] (Buffer.alloc L.span) [] (Buffer.length_alloc _)
  have hd := decode_flat L v hn hf hd [] []
  simp only [List.nil_append, List.append_nil, List.length_nil] at he hd
  exact ⟨he, hd⟩

/-- A buffer of at least the span whose 64-bit fields hold doubles decodes to the record its
first span bytes stand for, and encoding that record gives those bytes back. -/
theorem decode_reencode {b : Buffer} (hb : L.span ≤ b.length) (hs : storesDoubles L (b.take L.span)) :
    L.decode b 0 = .ok (parse L (b.take L.span)) ∧
      L.encode (parse L (b.take L.span)) (Buffer.alloc L.span) 0 = .ok (b.take L.span, L.span) := by
  have hl : (b.take L.span).length = L.span := by simp [hb]
  obtain ⟨hf, hd, hflat⟩ := parse_conforms L hn _ hl hs
  have hdec := decode_parse L hn [] (b.take L.span) (b.drop L.span) hl hs
  rw [List.nil_append, List.take_append_drop] at hdec
  exact ⟨hdec, by rw [(roundTrip hn hf hd).1, hflat]⟩

end

end DeltafiClient.Wire
