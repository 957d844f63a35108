import DeltafiClient.Source.Layouts

/-!
# `NumberU64`, `Struct`, `Fees`, `Rewards` and the default schedules

`src/struct/struct.ts`, `fees.ts`, `rewards.ts` and `src/constants.ts`. `util/u64.ts`, which
defines `NumberU64`, is not in the repository snapshot; it is modelled from the spec.

A `NumberU64` is a `BN` and is kept as its integer. The two 64-bit conversions the client
uses are `new NumberU64(x)` on a `number | NumberU64` argument and `toBuffer()`.
-/

namespace DeltafiClient.Source

open Runtime Layouts

/-- A TypeScript `number | NumberU64` argument. -/
inductive NumericArg where
  | number (n : JsNumber)
  | numberU64 (value : Int)
  deriving DecidableEq, Repr

namespace NumberU64

/-- Modelled from the spec: `util/u64.ts` is missing, and the spec names only a wrapped
big-integer abstraction for 64-bit fields. Its constructor is taken to be that of `BN` from
`bn.js`, the package the repository's tests build amounts with (`test/admin.int.test.ts`):
a `BN` comes back as it is, a number goes through `new BN(number)` (`bnOfNumber`, with the
`bn.js` assertion on numbers from `2 ^ 53` on). -/
def ofArg : NumericArg → Except JsError Int
  | .number n => bnOfNumber n
  | .numberU64 value => .ok value

/-- Modelled from the spec: `util/u64.ts` is missing. Its `toBuffer()` is taken to be that of
the `u64` class of `@solana/spl-token`, a package the repository's tests import (`part_002`):
the bytes of `BN.toArray()`, which holds the magnitude and drops the sign, reversed to
little-endian and padded with zeros to eight, and a failed assertion when they are more than
eight. The text of that assertion is not in the snapshot. -/
def toBuffer (value : Int) : Except JsError Buffer :=
  if value.natAbs < 2 ^ 64 then .ok (leBytes 8 value.natAbs)
  else .error (.assertion "NumberU64 too large")

theorem toBuffer_of_lt {value : Int} (h0 : 0 ≤ value) (h1 : value < 2 ^ 64) :
    toBuffer value = .ok (leBytes 8 value.toNat) := by
  rw [toBuffer, if_pos (by omega)]
  congr 2
  omega

end NumberU64

/-- `Struct`: the source data and the layout it is written with. -/
structure Struct where
  data : JsValue
  layout : Layout

/-- `toBuffer()`: a buffer of the span, the data encoded into it, sliced to the count. -/
def Struct.toBuffer (s : Struct) : Except JsError Buffer := do
  let (data, length) ← s.layout.encode s.data (Buffer.alloc s.layout.span) 0
  pure (data.slice 0 length)

structure IFees where
  adminTradeFeeNumerator : Int
  adminTradeFeeDenominator : Int
  adminWithdrawFeeNumerator : Int
  adminWithdrawFeeDenominator : Int
  tradeFeeNumerator : Int
  tradeFeeDenominator : Int
  withdrawFeeNumerator : Int
  withdrawFeeDenominator : Int
  deriving DecidableEq, Repr

/-- The object an `IFees` is: its `NumberU64` fields by name. -/
def IFees.toValue (f : IFees) : JsValue :=
  .object
    [ ("adminTradeFeeNumerator", .bigNum f.adminTradeFeeNumerator),
      ("adminTradeFeeDenominator", .bigNum f.adminTradeFeeDenominator),
      ("adminWithdrawFeeNumerator", .bigNum f.adminWithdrawFeeNumerator),
      ("adminWithdrawFeeDenominator", .bigNum f.adminWithdrawFeeDenominator),
      ("tradeFeeNumerator", .bigNum f.tradeFeeNumerator),
      ("tradeFeeDenominator", .bigNum f.tradeFeeDenominator),
      ("withdrawFeeNumerator", .bigNum f.withdrawFeeNumerator),
      ("withdrawFeeDenominator", .bigNum f.withdrawFeeDenominator) ]

/-- The eight fields in the order of `FeesLayout`. -/
def IFees.values (f : IFees) : List Int :=
  [ f.adminTradeFeeNumerator, f.adminTradeFeeDenominator, f.adminWithdrawFeeNumerator,
    f.adminWithdrawFeeDenominator, f.tradeFeeNumerator, f.tradeFeeDenominator,
    f.withdrawFeeNumerator, f.withdrawFeeDenominator ]

/-- `new Fees(fees)`: a `Struct` over `FeesLayout()`. -/
def Fees (fees : IFees) : Struct := ⟨fees.toValue, FeesLayout "fees"⟩

structure IRewards where
  tradeRewardNumerator : Int
  tradeRewardDenominator : Int
  tradeRewardCap : Int
  deriving DecidableEq, Repr

def IRewards.toValue (r : IRewards) : JsValue :=
  .object
    [ ("tradeRewardNumerator", .bigNum r.tradeRewardNumerator),
      ("tradeRewardDenominator", .bigNum r.tradeRewardDenominator),
      ("tradeRewardCap", .bigNum r.tradeRewardCap) ]

/-- The three fields in the order of `RewardsLayout`. -/
def IRewards.values (r : IRewards) : List Int :=
  [r.tradeRewardNumerator, r.tradeRewardDenominator, r.tradeRewardCap]

/-- `new Rewards(rewards)`: a `Struct` over `RewardsLayout()`. -/
def Rewards (rewards : IRewards) : Struct := ⟨rewards.toValue, RewardsLayout "rewards"⟩

def DEFAULT_FEE_NUMERATOR : Int := 0
def DEFAULT_FEE_DENOMINATOR : Int := 1000

/-- Each field is `new NumberU64(n)` of a small integer `n`, which is `n`. -/
def DEFAULT_FEES : IFees where
  adminTradeFeeNumerator := DEFAULT_FEE_NUMERATOR
  adminTradeFeeDenominator := DEFAULT_FEE_DENOMINATOR
  adminWithdrawFeeNumerator := DEFAULT_FEE_NUMERATOR
  adminWithdrawFeeDenominator := DEFAULT_FEE_DENOMINATOR
  tradeFeeNumerator := 1
  tradeFeeDenominator := 4
  withdrawFeeNumerator := DEFAULT_FEE_NUMERATOR
  withdrawFeeDenominator := DEFAULT_FEE_DENOMINATOR

def DEFAULT_REWARD_NUMERATOR : Int := 1
def DEFAULT_REWARD_DENOMINATOR : Int := 1000
def DEFAULT_REWARD_CAP : Int := 100

def DEFAULT_REWARDS : IRewards where
  tradeRewardNumerator := DEFAULT_REWARD_NUMERATOR
  tradeRewardDenominator := DEFAULT_REWARD_DENOMINATOR
  tradeRewardCap := DEFAULT_REWARD_CAP

end DeltafiClient.Source
