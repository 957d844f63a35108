import DeltafiClient.Runtime.Number

/-!
# Reading a buffer as a number

`+buf` on a Node `Buffer` first turns it into a string with `buf.toString()`, which decodes
the bytes as UTF-8, and then applies ECMAScript `StringToNumber` to that string. The 64-bit
writers of `buffer-layout` do exactly this whenever the client hands them a buffer where a
number belongs.

`utf8Decode` is the WHATWG UTF-8 decoder: each maximal invalid subsequence becomes U+FFFD.
`stringToNumber` follows the `StringNumericLiteral` grammar: white space around an optional
decimal literal (sign, fraction, exponent, or `Infinity`) or a `0x`, `0o`, `0b` integer; the
empty string reads as 0 and anything else as NaN.

A zero byte always decodes to U+0000 (`mem_utf8Decode_of_zero`), and a string holding
U+0000 reads as NaN (`stringToNumber_of_nul`).
-/

namespace DeltafiClient.Runtime

/-! ## UTF-8 -/

/-- State of the WHATWG decoder inside a multi-byte sequence: the code point so far, the
continuation bytes still needed, and the bounds the next byte must lie in. A continuation
byte is never below `0x80`. -/
structure Utf8State where
  codePoint : Nat
  needed : Nat
  lower : Nat
  upper : Nat
  lower_ge : 0x80 ≤ lower

/-- A byte read where a sequence may start: a complete code point (U+FFFD for a byte that
cannot start one), or the state awaiting the continuation bytes. -/
def utf8Lead (b : Nat) : Sum Nat Utf8State :=
  if b ≤ 0x7F then .inl b
  else if 0xC2 ≤ b ∧ b ≤ 0xDF then .inr ⟨b - 0xC0, 1, 0x80, 0xBF, le_refl _⟩
  else if 0xE0 ≤ b ∧ b ≤ 0xEF then
    .inr ⟨b - 0xE0, 2, if b = 0xE0 then 0xA0 else 0x80, if b = 0xED then 0x9F else 0xBF,
      by split <;> decide⟩
  else if 0xF0 ≤ b ∧ b ≤ 0xF4 then
    .inr ⟨b - 0xF0, 3, if b = 0xF0 then 0x90 else 0x80, if b = 0xF4 then 0x8F else 0xBF,
      by split <;> decide⟩
  else .inl 0xFFFD

/-- Continue after a byte read where a sequence may start. -/
def utf8AfterLead (b : Nat) (rest : Option Utf8State → List Nat) : List Nat :=
  match utf8Lead b with
  | .inl c => c :: rest none
  | .inr s => rest (some s)

/-- The WHATWG UTF-8 decoder from a state; `none` is the state between sequences. A byte
outside the expected bounds ends the sequence with U+FFFD and is read again. -/
def utf8DecodeFrom : Option Utf8State → List UInt8 → List Nat
  | none, [] => []
  | some _, [] => [0xFFFD]
  | none, byte :: rest => utf8AfterLead byte.toNat fun s => utf8DecodeFrom s rest
  | some s, byte :: rest =>
    if byte.toNat < s.lower ∨ s.upper < byte.toNat then
      0xFFFD :: utf8AfterLead byte.toNat fun s => utf8DecodeFrom s rest
    else if s.needed = 1 then
      (s.codePoint * 64 + (byte.toNat - 0x80)) :: utf8DecodeFrom none rest
    else
      utf8DecodeFrom
        (some ⟨s.codePoint * 64 + (byte.toNat - 0x80), s.needed - 1, 0x80, 0xBF, le_refl _⟩)
        rest

/-- `buf.toString()`: the code points of the buffer's UTF-8 decoding. -/
def utf8Decode (bytes : List UInt8) : List Nat := utf8DecodeFrom none bytes

theorem mem_utf8AfterLead_zero (rest : Option Utf8State → List Nat) :
    0 ∈ utf8AfterLead 0 rest := by
  simp [utf8AfterLead, utf8Lead]

theorem mem_utf8AfterLead_of_mem {b : Nat} {rest : Option Utf8State → List Nat}
    (h : ∀ s, 0 ∈ rest s) : 0 ∈ utf8AfterLead b rest := by
  unfold utf8AfterLead
  split
  · exact List.mem_cons_of_mem _ (h none)
  · exact h _

/-- A zero byte decodes to U+0000 in every state: it is never a continuation byte. -/
theorem mem_utf8DecodeFrom_of_zero {bytes : List UInt8} (h : (0 : UInt8) ∈ bytes) :
    ∀ s, 0 ∈ utf8DecodeFrom s bytes := by
  induction bytes with
  | nil => cases h
  | cons byte rest ih =>
    intro s
    rcases List.mem_cons.mp h with hb | hr
    · subst hb
      cases s with
      | none => exact mem_utf8AfterLead_zero _
      | some s =>
        have hlow : (0 : UInt8).toNat < s.lower := lt_of_lt_of_le (by decide) s.lower_ge
        simp only [utf8DecodeFrom, if_pos (Or.inl hlow)]
        exact List.mem_cons_of_mem _ (mem_utf8AfterLead_zero _)
    · cases s with
      | none => exact mem_utf8AfterLead_of_mem (ih hr)
      | some s =>
        simp only [utf8DecodeFrom]
        split
        · exact List.mem_cons_of_mem _ (mem_utf8AfterLead_of_mem (ih hr))
        · split
          · exact List.mem_cons_of_mem _ (ih hr _)
          · exact ih hr _

theorem mem_utf8Decode_of_zero {bytes : List UInt8} (h : (0 : UInt8) ∈ bytes) :
    0 ∈ utf8Decode bytes :=
  mem_utf8DecodeFrom_of_zero h none

/-! ## StringToNumber -/

/-- `StrWhiteSpaceChar`: the `WhiteSpace` (with every `Zs` code point) and `LineTerminator`
code points. -/
def isStrWhiteSpaceChar (c : Nat) : Bool :=
  c == 0x09 || c == 0x0A || c == 0x0B || c == 0x0C || c == 0x0D || c == 0x20 || c == 0xA0 ||
    c == 0x1680 || (0x2000 ≤ c && c ≤ 0x200A) || c == 0x2028 || c == 0x2029 || c == 0x202F ||
    c == 0x205F || c == 0x3000 || c == 0xFEFF

/-- The string with leading and trailing white space removed. -/
def trimWhiteSpace (s : List Nat) : List Nat :=
  ((s.dropWhile isStrWhiteSpaceChar).reverse.dropWhile isStrWhiteSpaceChar).reverse

def isDecimalDigit (c : Nat) : Bool := 0x30 ≤ c && c ≤ 0x39

/-- The value of a digit in a radix up to 16, if it is one. -/
def digitValue (radix c : Nat) : Option Nat :=
  let v := if 0x30 ≤ c ∧ c ≤ 0x39 then c - 0x30
    else if 0x61 ≤ c ∧ c ≤ 0x66 then c - 0x61 + 10
    else if 0x41 ≤ c ∧ c ≤ 0x46 then c - 0x41 + 10
    else 16
  if v < radix then some v else none

/-- The value of the digits `ds` in the radix, read after the value `acc`. -/
def digitsValueFrom (radix acc : Nat) : List Nat → Option Nat
  | [] => some acc
  | c :: cs =>
    match digitValue radix c with
    | some v => digitsValueFrom radix (acc * radix + v) cs
    | none => none

/-- The value of a nonempty digit string in the radix. -/
def digitsValue (radix : Nat) (ds : List Nat) : Option Nat :=
  if ds = [] then none else digitsValueFrom radix 0 ds

/-- The signed digits of an `ExponentPart`. -/
def exponentDigits : List Nat → Option Int
  | 0x2B :: ds => (digitsValue 10 ds).map Int.ofNat
  | 0x2D :: ds => (digitsValue 10 ds).map fun v => -(v : Int)
  | ds => (digitsValue 10 ds).map Int.ofNat

/-- `ExponentPart`, or nothing: `e` or `E`, an optional sign, decimal digits. -/
def exponentValue : List Nat → Option Int
  | [] => some 0
  | e :: r => if e = 0x65 ∨ e = 0x45 then exponentDigits r else none

/-- After the whole digits: an optional `.` with the fraction digits, and what follows. -/
def fractionPart : List Nat → List Nat × List Nat
  | 0x2E :: r => (r.takeWhile isDecimalDigit, r.dropWhile isDecimalDigit)
  | r => ([], r)

/-- The mathematical value of a `StrUnsignedDecimalLiteral` other than `Infinity`: digits,
an optional `.` and fraction digits, at least one digit in all, and an optional exponent. -/
def decimalValue (t : List Nat) : Option ℚ :=
  let whole := t.takeWhile isDecimalDigit
  let rest := fractionPart (t.dropWhile isDecimalDigit)
  if whole = [] ∧ rest.1 = [] then none
  else do
    let exponent ← exponentValue rest.2
    let digits ← digitsValueFrom 10 0 (whole ++ rest.1)
    pure ((digits : ℚ) * 10 ^ (exponent - rest.1.length))

/-- The code points of `Infinity`. -/
def infinityText : List Nat := [0x49, 0x6E, 0x66, 0x69, 0x6E, 0x69, 0x74, 0x79]

def strUnsignedDecimalLiteral (t : List Nat) : Option JsNumber :=
  if t = infinityText then some (.infinity false) else (decimalValue t).map roundDouble

def strDecimalLiteral : List Nat → Option JsNumber
  | 0x2B :: t => strUnsignedDecimalLiteral t
  | 0x2D :: t => (strUnsignedDecimalLiteral t).map JsNumber.neg
  | t => strUnsignedDecimalLiteral t

/-- The radix named by the letter after a leading `0`, if it names one. -/
def nonDecimalRadix (c : Nat) : Option Nat :=
  if c = 0x78 ∨ c = 0x58 then some 16
  else if c = 0x6F ∨ c = 0x4F then some 8
  else if c = 0x62 ∨ c = 0x42 then some 2
  else none

def strNumericLiteral : List Nat → Option JsNumber
  | 0x30 :: p :: ds =>
    match nonDecimalRadix p with
    | some radix => (digitsValue radix ds).map fun v => roundDouble v
    | none => strDecimalLiteral (0x30 :: p :: ds)
  | t => strDecimalLiteral t

/-- ECMAScript `StringToNumber`. -/
def stringToNumber (s : List Nat) : JsNumber :=
  let t := trimWhiteSpace s
  if t = [] then .finite 0 else (strNumericLiteral t).getD .nan

/-! ## U+0000 is never part of a numeric literal -/

theorem digitValue_zero {radix : Nat} (h : radix ≤ 16) : digitValue radix 0 = none := by
  simp [digitValue]
  omega

theorem digitsValueFrom_of_nul {radix : Nat} (h : radix ≤ 16) {ds : List Nat} (h0 : 0 ∈ ds) :
    ∀ acc, digitsValueFrom radix acc ds = none := by
  induction ds with
  | nil => cases h0
  | cons c cs ih =>
    intro acc
    rcases List.mem_cons.mp h0 with rfl | hr
    · simp [digitsValueFrom, digitValue_zero h]
    · simp only [digitsValueFrom]
      split
      · exact ih hr _
      · rfl

theorem digitsValue_of_nul {radix : Nat} (h : radix ≤ 16) {ds : List Nat} (h0 : 0 ∈ ds) :
    digitsValue radix ds = none := by
  simp [digitsValue, digitsValueFrom_of_nul h h0, List.ne_nil_of_mem h0]

theorem exponentDigits_of_nul {r : List Nat} (h0 : 0 ∈ r) : exponentDigits r = none := by
  unfold exponentDigits
  split
  · simp [digitsValue_of_nul (show 10 ≤ 16 by decide) ((List.mem_cons.mp h0).resolve_left (by decide))]
  · simp [digitsValue_of_nul (show 10 ≤ 16 by decide) ((List.mem_cons.mp h0).resolve_left (by decide))]
  · simp [digitsValue_of_nul (show 10 ≤ 16 by decide) h0]

theorem exponentValue_of_nul {t : List Nat} (h0 : 0 ∈ t) : exponentValue t = none := by
  match t, h0 with
  | e :: r, h0 =>
    simp only [exponentValue]
    split_ifs with he
    · exact exponentDigits_of_nul ((List.mem_cons.mp h0).resolve_left (by omega))
    · rfl

/-- Dropping a prefix by a predicate false at `0` keeps every `0`. -/
theorem mem_dropWhile_of_nul {p : Nat → Bool} (hp : p 0 = false) {t : List Nat}
    (h0 : 0 ∈ t) : 0 ∈ t.dropWhile p := by
  induction t with
  | nil => cases h0
  | cons c cs ih =>
    rcases List.mem_cons.mp h0 with rfl | hr
    · simp [List.dropWhile, hp]
    · simp only [List.dropWhile]
      split
      · exact ih hr
      · exact List.mem_cons_of_mem _ hr

theorem mem_fractionPart_of_nul {r : List Nat} (h0 : 0 ∈ r) : 0 ∈ (fractionPart r).2 := by
  unfold fractionPart
  split
  · exact mem_dropWhile_of_nul (by decide) ((List.mem_cons.mp h0).resolve_left (by decide))
  · exact h0

theorem decimalValue_of_nul {t : List Nat} (h0 : 0 ∈ t) : decimalValue t = none := by
  have htail := mem_fractionPart_of_nul (mem_dropWhile_of_nul (p := isDecimalDigit) rfl h0)
  simp only [decimalValue]
  split_ifs
  · rfl
  · simp [exponentValue_of_nul htail]

theorem strUnsignedDecimalLiteral_of_nul {t : List Nat} (h0 : 0 ∈ t) :
    strUnsignedDecimalLiteral t = none := by
  have hne : t ≠ infinityText := by rintro rfl; revert h0; decide
  simp [strUnsignedDecimalLiteral, hne, decimalValue_of_nul h0]

theorem strDecimalLiteral_of_nul {t : List Nat} (h0 : 0 ∈ t) : strDecimalLiteral t = none := by
  unfold strDecimalLiteral
  split
  · exact strUnsignedDecimalLiteral_of_nul ((List.mem_cons.mp h0).resolve_left (by decide))
  · rw [strUnsignedDecimalLiteral_of_nul ((List.mem_cons.mp h0).resolve_left (by decide))]
    rfl
  · exact strUnsignedDecimalLiteral_of_nul h0

theorem strNumericLiteral_of_nul {t : List Nat} (h0 : 0 ∈ t) : strNumericLiteral t = none := by
  unfold strNumericLiteral
  split
  · rename_i p ds
    split
    · rename_i radix hradix
      have hp : p ≠ 0 := by rintro rfl; simp [nonDecimalRadix] at hradix
      have hds : 0 ∈ ds := by
        rcases List.mem_cons.mp h0 with h | h
        · exact absurd h (by decide)
        · exact (List.mem_cons.mp h).resolve_left fun e => hp e.symm
      have hr : radix ≤ 16 := by
        unfold nonDecimalRadix at hradix
        split_ifs at hradix <;> cases hradix <;> decide
      rw [digitsValue_of_nul hr hds]
      rfl
    · exact strDecimalLiteral_of_nul h0
  · exact strDecimalLiteral_of_nul h0

theorem mem_trimWhiteSpace_of_nul {s : List Nat} (h0 : 0 ∈ s) : 0 ∈ trimWhiteSpace s := by
  unfold trimWhiteSpace
  rw [List.mem_reverse]
  exact mem_dropWhile_of_nul (by decide)
    (List.mem_reverse.mpr (mem_dropWhile_of_nul (by decide) h0))

/-- A string holding U+0000 reads as NaN. -/
theorem stringToNumber_of_nul {s : List Nat} (h0 : 0 ∈ s) : stringToNumber s = .nan := by
  have ht := mem_trimWhiteSpace_of_nul h0
  simp [stringToNumber, List.ne_nil_of_mem ht, strNumericLiteral_of_nul ht]

end DeltafiClient.Runtime
