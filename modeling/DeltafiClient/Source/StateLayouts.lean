import DeltafiClient.Source.Layouts

/-!
# The state layouts of `src/unnamed/part_001`

The second layout file, the one `admin.ts` reads `ConfigInfoLayout` from. Its
`PublicKeyLayout`, `U256Layout`, `FixedU256Layout`, `FeesLayout`, `RewardsLayout` and
`OracleLayout` repeat those of `layout.ts` word for word and are those definitions here;
`FixedU64Layout`, `ConfigInfoLayout` and this file's `StableSwapLayout` are its own. The farm
layouts at its end are commented out and are not modelled.
-/

namespace DeltafiClient.Source.StateLayouts

open Runtime Runtime.Layout
open Layouts (PublicKeyLayout U256Layout FixedU256Layout FeesLayout RewardsLayout OracleLayout)

def FixedU64Layout (property : String) : Layout :=
  struct [nu64 "inner", nu64 "basePoint"] property

def ConfigInfoLayout : Layout :=
  struct
    [ u8 "isInitialized",
      u8 "isPaused",
      nu64 "ampFactor",
      ns64 "futureAdminDeadline",
      PublicKeyLayout "futureAdminKey",
      PublicKeyLayout "adminKey",
      PublicKeyLayout "deltafiMint",
      FeesLayout "fees",
      RewardsLayout "rewards" ]
    none

def StableSwapLayout : Layout :=
  struct
    [ u8 "isInitialized",
      u8 "isPaused",
      u8 "nonce",
      nu64 "initialAmpFactor",
      nu64 "targetAmpFactor",
      ns64 "startRampTs",
      ns64 "stopRampTs",
      PublicKeyLayout "tokenAccountA",
      PublicKeyLayout "tokenAccountB",
      PublicKeyLayout "deltafiToken",
      PublicKeyLayout "poolMint",
      PublicKeyLayout "mintA",
      PublicKeyLayout "mintB",
      PublicKeyLayout "deltafiMint",
      PublicKeyLayout "adminFeeAccountA",
      PublicKeyLayout "adminFeeAccountB",
      FeesLayout "fees",
      RewardsLayout "rewards",
      FixedU64Layout "k",
      FixedU64Layout "l",
      u8 "r",
      FixedU64Layout "baseTarget",
      FixedU64Layout "quoteTarget",
      FixedU64Layout "baseReserve",
      FixedU64Layout "quoteReserve",
      nu64 "isOpenTwap",
      nu64 "blockTimestamp",
      FixedU64Layout "basePriceCumulative",
      FixedU64Layout "receiveAmount",
      FixedU64Layout "baseBalance",
      FixedU64Layout "quoteBalance" ]
    none

end DeltafiClient.Source.StateLayouts
