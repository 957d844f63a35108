import Mathlib.Data.Rat.Floor

/-!
# JavaScript numbers

`buffer-layout` receives the client's numbers, `BN` values and buffers and converts each of
them with the language's `+` and `/` operators; what it decodes from a 64-bit field is a
number too. This module models those values: binary64 doubles, kept as exact rationals,
NaN and the two infinities.

`roundDouble` is IEEE 754 binary64 rounding (to nearest, ties to even, with subnormals and
overflow to an infinity). Every number the runtime creates from something else passes
through it: a `BN` read as a number, a parsed string, and the sum `hi * 2^32 + lo` of the
64-bit decoders. `roundDouble_natCast` computes it on naturals; every natural up to `2^53`
is its own rounding (`isDouble_of_natAbs_le`), and `2^53 + 1` is the first that is not.

The sign of zero is not kept: the layouts only compare, floor and truncate numbers, and
none of these tells `-0` from `+0`.
-/

namespace DeltafiClient.Runtime

/-- A value of the JavaScript `number` type. -/
inductive JsNumber where
  | nan
  | infinity (negative : Bool)
  | finite (value : ℚ)
  deriving DecidableEq, Repr

namespace JsNumber

/-- Unary minus. -/
def neg : JsNumber → JsNumber
  | nan => nan
  | infinity negative => infinity (!negative)
  | finite x => finite (-x)

/-- `value > max || value < min`, the range test of Node's integer writers. It is false
for NaN, which therefore passes every range check. -/
def outside (v : JsNumber) (min max : Int) : Bool :=
  match v with
  | nan => false
  | infinity _ => true
  | finite x => decide ((max : ℚ) < x) || decide (x < min)

end JsNumber

/-- Truncation toward zero, where `ToUint32` starts. -/
def truncate (x : ℚ) : Int := if 0 ≤ x then ⌊x⌋ else -⌊-x⌋

/-- ECMAScript `ToUint32`: NaN and the infinities give 0, a finite value its truncation
modulo `2^32`. Typed-array stores and `>>>` both go through it. -/
def JsNumber.toUint32 : JsNumber → Nat
  | .finite x => (truncate x % 2 ^ 32).toNat
  | _ => 0

@[simp] theorem truncate_intCast (z : Int) : truncate z = z := by
  unfold truncate
  split
  · exact Int.floor_intCast z
  · rw [← Int.cast_neg, Int.floor_intCast, Int.neg_neg]

@[simp] theorem truncate_natCast (n : Nat) : truncate n = n := by
  simpa using truncate_intCast n

theorem truncate_natCast_div (n d : Nat) : truncate ((n : ℚ) / d) = (n / d : ℕ) := by
  rw [truncate, if_pos (by positivity), Rat.floor_natCast_div_natCast]
  norm_cast

@[simp] theorem outside_intCast (z min max : Int) :
    (JsNumber.finite z).outside min max = (decide (max < z) || decide (z < min)) := by
  simp [JsNumber.outside]

theorem toUint32_intCast (z : Int) : (JsNumber.finite z).toUint32 = (z % 2 ^ 32).toNat := by
  simp [JsNumber.toUint32]

/-! ## Rounding to binary64 -/

/-- `n / d` rounded to the nearest natural, a tie to the even one. -/
def roundHalfEven (n d : Nat) : Nat :=
  if 2 * (n % d) < d then n / d
  else if d < 2 * (n % d) then n / d + 1
  else if n / d % 2 = 0 then n / d else n / d + 1

/-- `d * 2 ^ e ≤ n` for an integer exponent `e`. -/
def scaledLe (d n : Nat) (e : Int) : Bool :=
  if 0 ≤ e then d * 2 ^ e.toNat ≤ n else d ≤ n * 2 ^ (-e).toNat

/-- The binary exponent of a positive `n / d`: the `e` with `2 ^ e ≤ n / d < 2 ^ (e + 1)`. -/
def binaryExponent (n d : Nat) : Int :=
  let e := (n.log2 : Int) - d.log2
  if scaledLe d n e then e else e - 1

/-- The binary64 value nearest to `q`. The quantum is `2 ^ (e - 52)` for the binary
exponent `e` of `q`, and `2 ^ -1074` below the normal range; a magnitude that rounds to
`2 ^ 1024` or more is an infinity. -/
def roundDouble (q : ℚ) : JsNumber :=
  let n := q.num.natAbs
  let e := max (binaryExponent n q.den - 52) (-1074)
  let m := roundHalfEven (n * 2 ^ (-e).toNat) (q.den * 2 ^ e.toNat)
  if 2 ^ 1024 * 2 ^ (-e).toNat ≤ m * 2 ^ e.toNat then .infinity (decide (q < 0))
  else
    let magnitude : ℚ := ((m * 2 ^ e.toNat : ℕ) : ℚ) / ((2 ^ (-e).toNat : ℕ) : ℚ)
    .finite (if q < 0 then -magnitude else magnitude)

/-- An integer that reading as a number keeps exactly: a binary64 value. -/
def IsDouble (z : Int) : Prop := roundDouble z = .finite z

theorem roundHalfEven_mul (a : Nat) {d : Nat} (hd : 0 < d) : roundHalfEven (a * d) d = a := by
  simp [roundHalfEven, Nat.mul_mod_left, Nat.mul_div_cancel _ hd, hd]

@[simp] theorem roundHalfEven_one (a : Nat) : roundHalfEven a 1 = a := by
  simpa using roundHalfEven_mul a Nat.one_pos

theorem log2_eq_of_bounds {n k : Nat} (lo : 2 ^ k ≤ n) (hi : n < 2 ^ (k + 1)) :
    n.log2 = k := by
  have hn : n ≠ 0 := by have := Nat.one_le_two_pow (n := k); omega
  apply le_antisymm
  · exact Nat.lt_succ_iff.mp ((Nat.log2_lt hn).mpr hi)
  · exact Nat.le_of_not_lt fun h => absurd lo (Nat.not_le.mpr ((Nat.log2_lt hn).mp h))

theorem binaryExponent_one {n : Nat} (hn : n ≠ 0) : binaryExponent n 1 = n.log2 := by
  have hone : (1 : Nat).log2 = 0 := log2_eq_of_bounds (by decide) (by decide)
  have hle : 2 ^ n.log2 ≤ n := Nat.log2_self_le hn
  simp [binaryExponent, scaledLe, hone, hle]

/-- Rounding a natural: exact below `2 ^ 53`, and above it the quantum is
`2 ^ (log2 n - 52)`. -/
theorem roundDouble_natCast (n : Nat) : roundDouble n =
    if n.log2 ≤ 52 then .finite n
    else
      let w := roundHalfEven n (2 ^ (n.log2 - 52)) * 2 ^ (n.log2 - 52)
      if 2 ^ 1024 ≤ w then .infinity false else .finite w := by
  rcases Nat.eq_zero_or_pos n with rfl | hn
  · simp [roundDouble, binaryExponent, scaledLe, roundHalfEven, Nat.log2_zero]
  have he := binaryExponent_one (Nat.pos_iff_ne_zero.mp hn)
  have hmax : max ((n.log2 : Int) - 52) (-1074) = (n.log2 : Int) - 52 := by omega
  have hq : ¬ ((n : ℚ) < 0) := not_lt.mpr (Nat.cast_nonneg n)
  simp only [roundDouble, Rat.num_natCast, Rat.den_natCast, Int.natAbs_ofNat, he, hmax,
    Nat.one_mul, hq, decide_False, if_false]
  by_cases hl : n.log2 ≤ 52
  · have hneg : (-((n.log2 : Int) - 52)).toNat = 52 - n.log2 := by omega
    have hpos : ((n.log2 : Int) - 52).toNat = 0 := by omega
    have hlt : n < 2 ^ (n.log2 + 1) := Nat.lt_log2_self
    have hsmall : n * 2 ^ (52 - n.log2) < 2 ^ 1024 * 2 ^ (52 - n.log2) :=
      Nat.mul_lt_mul_of_pos_right
        (lt_of_lt_of_le hlt (Nat.pow_le_pow_right (by decide) (by omega))) (by positivity)
    simp only [hneg, hpos, pow_zero, Nat.mul_one, roundHalfEven_one, if_pos hl]
    rw [if_neg (Nat.not_le.mpr hsmall)]
    congr 1
    rw [Nat.cast_mul, mul_div_assoc, div_self (by positivity), mul_one]
  · have hneg : (-((n.log2 : Int) - 52)).toNat = 0 := by omega
    have hpos : ((n.log2 : Int) - 52).toNat = n.log2 - 52 := by omega
    simp only [hneg, hpos, pow_zero, Nat.mul_one, Nat.cast_one, div_one, if_neg hl]

theorem roundDouble_neg (q : ℚ) : roundDouble (-q) = (roundDouble q).neg := by
  rcases eq_or_ne q 0 with rfl | hq
  · have h0 := roundDouble_natCast 0
    simp only [Nat.cast_zero, Nat.log2_zero] at h0
    simp [h0, JsNumber.neg]
  have hsign : decide (-q < 0) = !decide (q < 0) := by
    rcases lt_or_gt_of_ne hq with h | h
    · simp [h, h.le]
    · simp [h, neg_lt_zero.mpr h, not_lt.mpr h.le]
  simp only [roundDouble, Rat.neg_num, Rat.neg_den, Int.natAbs_neg, hsign]
  split
  · rfl
  · simp only [JsNumber.neg]
    congr 1
    rcases lt_or_gt_of_ne hq with h | h
    · simp [h, not_lt.mpr (neg_nonneg.mpr h.le)]
    · simp [h, not_lt.mpr h.le]

theorem roundDouble_intCast (z : Int) : roundDouble z =
    if 0 ≤ z then roundDouble z.natAbs else (roundDouble z.natAbs).neg := by
  obtain ⟨n, rfl | rfl⟩ := Int.eq_nat_or_neg z
  · simp
  · rcases Nat.eq_zero_or_pos n with rfl | hn
    · simp
    · have hneg : ¬ (0 ≤ -(n : Int)) := by omega
      simp [hneg, roundDouble_neg]

/-- Rounding a natural that needs more than 53 bits, to a finite result. -/
theorem roundDouble_natCast_of_log2 {n l : Nat} (hl : n.log2 = l) (hbig : 52 < l)
    (hfin : roundHalfEven n (2 ^ (l - 52)) * 2 ^ (l - 52) < 2 ^ 1024) :
    roundDouble n = .finite (roundHalfEven n (2 ^ (l - 52)) * 2 ^ (l - 52) : ℕ) := by
  rw [roundDouble_natCast, hl, if_neg (by omega)]
  exact if_neg (Nat.not_le.mpr hfin)

/-- Rounding a natural gives a natural or, past the largest double, infinity. -/
theorem roundDouble_natCast_cases (n : Nat) :
    (∃ w : Nat, roundDouble n = .finite w) ∨ roundDouble n = .infinity false := by
  rw [roundDouble_natCast]
  dsimp only
  split_ifs
  · exact .inl ⟨n, rfl⟩
  · exact .inr rfl
  · exact .inl ⟨_, rfl⟩

/-- Rounding an integer gives an integer or an infinity. -/
theorem roundDouble_intCast_cases (z : Int) :
    (∃ r : Int, roundDouble z = .finite r) ∨ ∃ s, roundDouble z = .infinity s := by
  rw [roundDouble_intCast]
  rcases roundDouble_natCast_cases z.natAbs with ⟨w, hw⟩ | hw <;> rw [hw] <;> split_ifs
  · exact .inl ⟨w, by simp⟩
  · exact .inl ⟨-w, by simp [JsNumber.neg]⟩
  · exact .inr ⟨_, rfl⟩
  · exact .inr ⟨_, rfl⟩

theorem lt_two_pow_1024 {w : Nat} (h : w < 2 ^ 65) : w < 2 ^ 1024 :=
  lt_of_lt_of_le h (Nat.pow_le_pow_right (by decide) (by decide))

/-- Every integer of magnitude at most `2 ^ 53` is a double. -/
theorem isDouble_of_natAbs_le {z : Int} (h : z.natAbs ≤ 2 ^ 53) : IsDouble z := by
  have hnat : roundDouble z.natAbs = .finite z.natAbs := by
    rcases Nat.lt_or_ge z.natAbs (2 ^ 53) with hlt | hge
    · have hl : z.natAbs.log2 ≤ 52 := by
        rcases Nat.eq_zero_or_pos z.natAbs with hz | hz
        · simp [hz, Nat.log2_zero]
        · exact Nat.lt_succ_iff.mp ((Nat.log2_lt hz.ne').mpr hlt)
      rw [roundDouble_natCast, if_pos hl]
    · rw [le_antisymm h hge, roundDouble_natCast_of_log2 Nat.log2_two_pow (by decide)
        (lt_two_pow_1024 (by decide))]
      rfl
  unfold IsDouble
  rw [roundDouble_intCast, hnat]
  obtain ⟨n, rfl | rfl⟩ := Int.eq_nat_or_neg z
  · simp
  · rcases Nat.eq_zero_or_pos n with rfl | hn
    · simp
    · have hneg : ¬ (0 ≤ -(n : Int)) := by omega
      simp [hneg, JsNumber.neg]

/-- `2 ^ 53 + 1` is the least natural that is not a double: it reads back as `2 ^ 53`. -/
theorem roundDouble_two_pow_53_add_one :
    roundDouble ((2 ^ 53 + 1 : ℕ) : ℚ) = .finite ((2 ^ 53 : ℕ) : ℚ) := by
  rw [roundDouble_natCast_of_log2 (l := 53) (log2_eq_of_bounds (by decide) (by decide))
    (by decide) (lt_two_pow_1024 (by decide))]
  rfl

/-- The largest 64-bit value reads back as `2 ^ 64`, which no longer fits 64 bits. -/
theorem roundDouble_two_pow_64_sub_one :
    roundDouble ((2 ^ 64 - 1 : ℕ) : ℚ) = .finite ((2 ^ 64 : ℕ) : ℚ) := by
  rw [roundDouble_natCast_of_log2 (l := 63) (log2_eq_of_bounds (by decide) (by decide))
    (by decide) (lt_two_pow_1024 (by decide))]
  rfl

end DeltafiClient.Runtime
