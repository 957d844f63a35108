import DeltafiClient.Runtime.StringToNumber

/-!
# JavaScript values and errors

What the client hands to `buffer-layout`: numbers, `BN` big integers (every `NumberU64` is
one), Node buffers, object literals, and `undefined` for an absent property. What the
layouts do with a value is decided by two operations of the language, both modelled here:
reading a property (`JsValue.get`) and converting to a number (`JsValue.toNumber`).

`bnOfNumber` is `new BN(number)` of `bn.js`, the constructor behind `new NumberU64(x)`:
it keeps the sign, truncates, turns NaN into 0 and refuses magnitudes from `2^53` on.
-/

namespace DeltafiClient.Runtime

/-- The errors the encoders and decoders can throw. -/
inductive JsError where
  /-- A plain `Error`, which `bn.js` throws when an assertion fails. -/
  | error (message : String)
  | typeError (message : String)
  | rangeError (message : String)
  /-- Node's `ERR_OUT_OF_RANGE` for the named argument and its allowed range. -/
  | outOfRange (name : String) (range : String)
  /-- Node's `ERR_BUFFER_OUT_OF_BOUNDS`. -/
  | bufferOutOfBounds
  /-- Node's `assert` failing (`ERR_ASSERTION`). -/
  | assertion (message : String)
  deriving DecidableEq, Repr

/-- A JavaScript value as the layouts see it. -/
inductive JsValue where
  | undefined
  | number (n : JsNumber)
  /-- A `BN` from `bn.js` with its integer value. -/
  | bigNum (value : Int)
  | buffer (bytes : List UInt8)
  /-- An object literal: its properties in insertion order. -/
  | object (properties : List (String × JsValue))

mutual
def JsValue.decEq : (a b : JsValue) → Decidable (a = b)
  | .undefined, .undefined => isTrue rfl
  | .number m, .number n =>
    if h : m = n then isTrue (h ▸ rfl) else isFalse fun e => by cases e; exact h rfl
  | .bigNum m, .bigNum n =>
    if h : m = n then isTrue (h ▸ rfl) else isFalse fun e => by cases e; exact h rfl
  | .buffer m, .buffer n =>
    if h : m = n then isTrue (h ▸ rfl) else isFalse fun e => by cases e; exact h rfl
  | .object ps, .object qs =>
    match JsValue.decEqProperties ps qs with
    | isTrue h => isTrue (h ▸ rfl)
    | isFalse h => isFalse fun e => by cases e; exact h rfl
  | .undefined, .number _ | .undefined, .bigNum _ | .undefined, .buffer _
  | .undefined, .object _ | .number _, .undefined | .number _, .bigNum _
  | .number _, .buffer _ | .number _, .object _ | .bigNum _, .undefined
  | .bigNum _, .number _ | .bigNum _, .buffer _ | .bigNum _, .object _
  | .buffer _, .undefined | .buffer _, .number _ | .buffer _, .bigNum _
  | .buffer _, .object _ | .object _, .undefined | .object _, .number _
  | .object _, .bigNum _ | .object _, .buffer _ => isFalse fun e => by cases e
def JsValue.decEqProperties : (a b : List (String × JsValue)) → Decidable (a = b)
  | [], [] => isTrue rfl
  | [], _ :: _ | _ :: _, [] => isFalse fun e => by cases e
  | (k, v) :: ps, (l, w) :: qs =>
    if hk : k = l then
      match JsValue.decEq v w, JsValue.decEqProperties ps qs with
      | isTrue hv, isTrue hs => isTrue (by rw [hk, hv, hs])
      | isFalse hv, _ => isFalse fun e => by cases e; exact hv rfl
      | _, isFalse hs => isFalse fun e => by cases e; exact hs rfl
    else isFalse fun e => by cases e; exact hk rfl
end

instance : DecidableEq JsValue := JsValue.decEq

instance decEqExcept {ε α : Type} [DecidableEq ε] [DecidableEq α] : DecidableEq (Except ε α)
  | .ok a, .ok b => if h : a = b then isTrue (h ▸ rfl) else isFalse fun e => by cases e; exact h rfl
  | .error a, .error b =>
    if h : a = b then isTrue (h ▸ rfl) else isFalse fun e => by cases e; exact h rfl
  | .ok _, .error _ | .error _, .ok _ => isFalse fun e => by cases e

@[simp] theorem ok_bind {ε α β : Type} (a : α) (f : α → Except ε β) :
    (Except.ok a : Except ε α) >>= f = f a := rfl

@[simp] theorem error_bind {ε α β : Type} (e : ε) (f : α → Except ε β) :
    (Except.error e : Except ε α) >>= f = .error e := rfl

@[simp] theorem pure_eq_ok {ε α : Type} (a : α) : (pure a : Except ε α) = .ok a := rfl

@[simp] theorem map_ok {ε α β : Type} (f : α → β) (a : α) :
    (Except.ok a : Except ε α).map f = .ok (f a) := rfl

@[simp] theorem map_error {ε α β : Type} (f : α → β) (e : ε) :
    (Except.error e : Except ε α).map f = .error e := rfl

theorem map_eq_ok {ε α β : Type} {x : Except ε α} {f : α → β} {b : β} (h : x.map f = .ok b) :
    ∃ a, x = .ok a ∧ f a = b := by
  cases x with
  | error e => cases h
  | ok a => exact ⟨a, rfl, Except.ok.inj h⟩

/-- A computation whose mapped result is `ok` returns, and a property of every result it can
return holds of the one it does. -/
theorem exists_ok_of_map {ε α β : Type} {x : Except ε α} {f : α → β} {b : β} {P : α → Prop}
    (h : x.map f = .ok b) (hP : ∀ a, x = .ok a → P a) : ∃ a, x = .ok a ∧ P a :=
  (map_eq_ok h).imp fun a ha => ⟨ha.1, hP a ha.1⟩

/-- Two computations that both return, and whose results agree under `f` whenever they do,
agree after `map f`. -/
theorem map_eq_map_of_ok {ε α β γ : Type} {x y : Except ε α} {g : α → γ} {c d : γ} {f : α → β}
    (hx : x.map g = .ok c) (hy : y.map g = .ok d) (h : ∀ a b, x = .ok a → y = .ok b → f a = f b) :
    x.map f = y.map f := by
  obtain ⟨a, rfl, -⟩ := map_eq_ok hx
  obtain ⟨b, rfl, -⟩ := map_eq_ok hy
  exact congrArg Except.ok (h a b rfl rfl)

/-- A map after a bind is a map inside it. -/
theorem map_bind_except {ε α β γ : Type} (x : Except ε α) (f : α → Except ε β) (g : β → γ) :
    (x >>= f).map g = x >>= fun a => (f a).map g := by
  cases x <;> rfl

theorem bind_eq_ok {ε α β : Type} {x : Except ε α} {f : α → Except ε β} {b : β} :
    x >>= f = .ok b ↔ ∃ a, x = .ok a ∧ f a = .ok b := by
  cases x <;> simp [bind, Except.bind]

theorem exists_bind_eq_ok {ε α β : Type} {x : Except ε α} {f : α → Except ε β} :
    (∃ b, x >>= f = .ok b) ↔ ∃ a, x = .ok a ∧ ∃ b, f a = .ok b := by
  simp only [bind_eq_ok]
  exact ⟨fun ⟨b, a, hx, hf⟩ => ⟨a, hx, b, hf⟩, fun ⟨a, hx, b, hf⟩ => ⟨b, a, hx, hf⟩⟩

namespace JsValue

/-- `value[key]`. Reading a property of `undefined` throws. Numbers, `BN`s and buffers
carry none of the layouts' property names (only `length` would be found, and no layout
field is called so), so on them the read gives `undefined`. -/
def get (v : JsValue) (key : String) : Except JsError JsValue :=
  match v with
  | undefined => .error (.typeError s!"Cannot read properties of undefined (reading \x27{key}\x27)")
  | object properties => .ok ((properties.lookup key).getD undefined)
  | _ => .ok undefined

/-- `+v`, ECMAScript `ToNumber`. A `BN` has no `valueOf` and converts through `toString()`,
its decimal digits, which read back as the nearest double. A buffer converts through
`buf.toString()`; an object literal through `"[object Object]"`, which is NaN. -/
def toNumber : JsValue → JsNumber
  | undefined => .nan
  | number n => n
  | bigNum z => roundDouble z
  | buffer bytes => stringToNumber (utf8Decode bytes)
  | object _ => .nan

/-- `object[key] = value`: a property already there keeps its place and takes the new value;
a new property goes last. -/
def assignProperty : List (String × JsValue) → String → JsValue → List (String × JsValue)
  | [], key, value => [(key, value)]
  | (k, v) :: rest, key, value =>
    if k = key then (key, value) :: rest else (k, v) :: assignProperty rest key value

theorem assignProperty_of_not_mem {properties : List (String × JsValue)} {key : String}
    (h : key ∉ properties.map Prod.fst) (value : JsValue) :
    assignProperty properties key value = properties ++ [(key, value)] := by
  induction properties with
  | nil => rfl
  | cons kv rest ih =>
    obtain ⟨k, v⟩ := kv
    simp only [List.map_cons, List.mem_cons, not_or] at h
    simp [assignProperty, Ne.symm h.1, ih h.2]

@[simp] theorem get_object (properties : List (String × JsValue)) (key : String) :
    (object properties).get key = .ok ((properties.lookup key).getD undefined) := rfl

@[simp] theorem get_buffer (bytes : List UInt8) (key : String) :
    (buffer bytes).get key = .ok undefined := rfl

@[simp] theorem toNumber_number (n : JsNumber) : (number n).toNumber = n := rfl

@[simp] theorem toNumber_bigNum (z : Int) : (bigNum z).toNumber = roundDouble z := rfl

/-- A buffer holding a zero byte reads as NaN. -/
theorem toNumber_buffer_of_zero {bytes : List UInt8} (h : (0 : UInt8) ∈ bytes) :
    (buffer bytes).toNumber = .nan :=
  stringToNumber_of_nul (mem_utf8Decode_of_zero h)

end JsValue

/-- The magnitude that `_initNumber` of `bn.js` stores for a nonnegative number `m`: one,
two or three 26-bit words cut with `& 0x3ffffff` (a truncation), the third word being the
bit `2 ^ 52`; from `2 ^ 53` on the assertion `number < 0x20000000000000` fails. -/
def bnMagnitude (m : ℚ) : Option Int :=
  let low := truncate m % 2 ^ 26
  let high := truncate (m / 2 ^ 26) % 2 ^ 26
  if m < 2 ^ 26 then some low
  else if m < 2 ^ 52 then some (low + 2 ^ 26 * high)
  else if m < 2 ^ 53 then some (low + 2 ^ 26 * high + 2 ^ 52)
  else none

/-- `new BN(number)`: `number || 0` turns NaN into 0, and a negative sets the sign and goes
on with the magnitude. -/
def bnOfNumber : JsNumber → Except JsError Int
  | .nan => .ok 0
  | .infinity _ => .error (.error "Assertion failed")
  | .finite x =>
    (bnMagnitude (if x < 0 then -x else x)).elim (.error (.error "Assertion failed"))
      fun w => .ok (if x < 0 then -w else w)

/-- On a nonnegative number below `2 ^ 53` the words put its truncation back together. -/
theorem bnMagnitude_of_lt {m : ℚ} (h0 : 0 ≤ m) (h : m < 2 ^ 53) :
    bnMagnitude m = some (truncate m) := by
  have ht : truncate m = ⌊m⌋₊ := by rw [truncate, if_pos h0, Int.natCast_floor_eq_floor h0]
  have hdiv : truncate (m / 2 ^ 26) = (⌊m⌋₊ / 2 ^ 26 : ℕ) := by
    have hq : 0 ≤ m / 2 ^ 26 := by positivity
    rw [truncate, if_pos hq, ← Int.natCast_floor_eq_floor hq]
    exact congrArg _ (by simpa using Nat.floor_div_nat m (2 ^ 26))
  have hlt (k : ℕ) : m < 2 ^ k ↔ ⌊m⌋₊ < 2 ^ k := by
    rw [Nat.floor_lt h0]
    push_cast
    rfl
  unfold bnMagnitude
  rw [ht, hdiv]
  by_cases h26 : ⌊m⌋₊ < 2 ^ 26
  · rw [if_pos ((hlt 26).mpr h26)]
    exact congrArg some (by omega)
  rw [if_neg (mt (hlt 26).mp h26)]
  by_cases h52 : ⌊m⌋₊ < 2 ^ 52
  · rw [if_pos ((hlt 52).mpr h52)]
    exact congrArg some (by omega)
  have h53 := (hlt 53).mp h
  rw [if_neg (mt (hlt 52).mp h52), if_pos h]
  exact congrArg some (by omega)

/-- `new BN(x)` of a finite number below `2 ^ 53` in magnitude is its truncation toward
zero. -/
theorem bnOfNumber_of_lt {x : ℚ} (h : |x| < 2 ^ 53) : bnOfNumber (.finite x) = .ok (truncate x) := by
  rw [bnOfNumber.eq_3]
  by_cases hx : x < 0
  · rw [if_pos hx, bnMagnitude_of_lt (by linarith) (by rwa [abs_of_neg hx] at h)]
    simp [truncate, hx, hx.le, not_le.mpr hx]
  · rw [if_neg hx, bnMagnitude_of_lt (not_lt.mp hx) (by rwa [abs_of_nonneg (not_lt.mp hx)] at h)]
    simp [hx]

/-- From `2 ^ 53` in magnitude on, `new BN(x)` fails its assertion. -/
theorem bnOfNumber_of_ge {x : ℚ} (h : 2 ^ 53 ≤ |x|) :
    bnOfNumber (.finite x) = .error (.error "Assertion failed") := by
  have hm : (2 : ℚ) ^ 53 ≤ if x < 0 then -x else x := by
    split_ifs with hx
    · rwa [abs_of_neg hx] at h
    · rwa [abs_of_nonneg (not_lt.mp hx)] at h
  have hnone : bnMagnitude (if x < 0 then -x else x) = none := by
    simp only [bnMagnitude]
    rw [if_neg (by linarith), if_neg (by linarith), if_neg (by linarith)]
  rw [bnOfNumber.eq_3, hnone]
  rfl

end DeltafiClient.Runtime
