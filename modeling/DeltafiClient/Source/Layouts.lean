import DeltafiClient.Runtime.BufferLayout

/-!
# `src/layout.ts`

The account layouts of the pool program. A layout factory with a default property name
(`FeesLayout(property = "fees")`) takes the name as an argument here; a call without one is
written with the default. The farm layouts below `StableSwapLayout` are commented out in the
file and are not modelled.
-/

namespace DeltafiClient.Source.Layouts

open Runtime Runtime.Layout

def PublicKeyLayout (property : String) : Layout := blob 32 property

def U256Layout (property : String) : Layout := blob 32 property

def FixedU256Layout (property : String) : Layout :=
  struct [U256Layout "inner", U256Layout "basePoint"] property

def FeesLayout (property : String) : Layout :=
  struct
    [ nu64 "adminTradeFeeNumerator",
      nu64 "adminTradeFeeDenominator",
      nu64 "adminWithdrawFeeNumerator",
      nu64 "adminWithdrawFeeDenominator",
      nu64 "tradeFeeNumerator",
      nu64 "tradeFeeDenominator",
      nu64 "withdrawFeeNumerator",
      nu64 "withdrawFeeDenominator" ]
    property

def RewardsLayout (property : String) : Layout :=
  struct
    [ nu64 "tradeRewardNumerator",
      nu64 "tradeRewardDenominator",
      nu64 "tradeRewardCap" ]
    property

def OracleLayout (property : String) : Layout :=
  struct
    [ u32 "period",
      PublicKeyLayout "token0",
      PublicKeyLayout "token1",
      U256Layout "price0Cumulative",
      U256Layout "price1Cumulative",
      nu64 "blockTimestamp",
      U256Layout "price0Average",
      U256Layout "price1Average" ]
    property

def StableSwapLayout : Layout :=
  struct
    [ u8 "isInitialized",
      u8 "isPaused",
      u8 "nonce",
      nu64 "initialAmpFactor",
      nu64 "targetAmpFactor",
      ns64 "startRampTs",
      ns64 "stopRampTs",
      ns64 "futureAdminDeadline",
      PublicKeyLayout "futureAdminAccount",
      PublicKeyLayout "adminAccount",
      PublicKeyLayout "tokenAccountA",
      PublicKeyLayout "tokenAccountB",
      PublicKeyLayout "tokenPool",
      PublicKeyLayout "mintA",
      PublicKeyLayout "mintB",
      PublicKeyLayout "deltafiTokenAccount",
      PublicKeyLayout "deltafiTokenMint",
      PublicKeyLayout "adminFeeAccountA",
      PublicKeyLayout "adminFeeAccountB",
      FeesLayout "fees",
      OracleLayout "oracle",
      RewardsLayout "rewards",
      FixedU256Layout "k",
      FixedU256Layout "l",
      u8 "r",
      FixedU256Layout "baseTarget",
      FixedU256Layout "quoteTarget",
      FixedU256Layout "baseReserve",
      FixedU256Layout "quoteReserve",
      nu64 "isOpenTwap",
      nu64 "blockTimestamp",
      FixedU256Layout "basePriceCumulative" ]
    none

end DeltafiClient.Source.Layouts
