import DeltafiClient.Source.Struct
import DeltafiClient.Source.Web3

/-!
# `src/lib/client/src/instructions/admin.ts`: the admin encoders

Each encoder evaluates its object literal left to right (every `toBuffer()` there may
throw), allocates `dataLayout.span` bytes and encodes. A `Fees` or `Rewards` argument is
`new Fees(fees)` or `new Rewards(rewards)` of its schedule, so the schedule is the argument
here.

The encoders hand `nu64` fields the 8-byte buffer of `NumberU64.toBuffer()` and the `Fees`
and `Rewards` struct fields the buffer of `Struct.toBuffer()`, and `createSetNewFeesInstruction`
and `createSetNewRewardsInstruction` send the tag `AdminInstruction.CommitNewAdmin`; all of
this is modelled as written.
-/

namespace DeltafiClient.Source.Instructions.Admin

open Runtime Runtime.Layout Layouts

inductive AdminInstruction where
  | Initialize
  | RampA
  | StopRamp
  | Pause
  | Unpause
  | SetFeeAccount
  | ApplyNewAdmin
  | CommitNewAdmin
  | SetNewFees
  | SetNewRewards
  deriving DecidableEq, Repr

/-- `Initialize = 99` and each later member one more. -/
def AdminInstruction.value (op : AdminInstruction) : Nat := 99 + op.toCtorIdx

def createAdminInitializeInstruction (config adminKey deltafiMint : PublicKey) (ampFactor : Int)
    (fees : IFees) (rewards : IRewards) (programId : PublicKey) :
    Except JsError TransactionInstruction := do
  let keys : List AccountMeta :=
    [⟨config, true, false⟩, ⟨adminKey, true, false⟩, ⟨deltafiMint, false, false⟩]
  let dataLayout :=
    struct [u8 "instruction", nu64 "ampFactor", FeesLayout "fees", RewardsLayout "rewards"] none
  let ampFactor ← NumberU64.toBuffer ampFactor
  let fees ← (Fees fees).toBuffer
  let rewards ← (Rewards rewards).toBuffer
  let data ← encodeData dataLayout
    (.object
      [ ("instruction", tag AdminInstruction.Initialize.value),
        ("ampFactor", .buffer ampFactor),
        ("fees", .buffer fees),
        ("rewards", .buffer rewards) ])
    false
  pure { keys, data, programId }

def createRampAInstruction (tokenSwap authority adminAccount : PublicKey) (targetAmp : Int)
    (stopRampTimestamp : Int) (programId : PublicKey) : Except JsError TransactionInstruction := do
  let keys : List AccountMeta :=
    [ ⟨tokenSwap, true, false⟩, ⟨authority, false, false⟩, ⟨adminAccount, true, false⟩,
      ⟨SYSVAR_CLOCK_PUBKEY, false, false⟩ ]
  let dataLayout := struct [u8 "instruction", nu64 "targetAmp", nu64 "stopRampTimestamp"] none
  let targetAmp ← NumberU64.toBuffer targetAmp
  let stopRampTimestamp ← NumberU64.toBuffer stopRampTimestamp
  let data ← encodeData dataLayout
    (.object
      [ ("instruction", tag AdminInstruction.RampA.value),
        ("targetAmp", .buffer targetAmp),
        ("stopRampTimestamp", .buffer stopRampTimestamp) ])
    true
  pure { keys, data, programId }

/-- The encoders that send the tag alone: `struct([u8("instruction")])`, sliced. -/
def tagOnlyInstruction (keys : List AccountMeta) (instruction : Nat) (programId : PublicKey) :
    Except JsError TransactionInstruction := do
  let data ← encodeData (struct [u8 "instruction"] none) (.object [("instruction", tag instruction)])
    true
  pure { keys, data, programId }

def createStopRampInstruction (tokenSwapAccount : Keypair) (authority adminAccount : PublicKey)
    (programId : PublicKey) : Except JsError TransactionInstruction :=
  tagOnlyInstruction
    [ ⟨tokenSwapAccount.publicKey, true, false⟩, ⟨authority, false, false⟩,
      ⟨adminAccount, true, false⟩, ⟨SYSVAR_CLOCK_PUBKEY, false, false⟩ ]
    AdminInstruction.StopRamp.value programId

def createPauseInstruction (tokenSwapAccount : Keypair) (authority adminAccount : PublicKey)
    (programId : PublicKey) : Except JsError TransactionInstruction :=
  tagOnlyInstruction
    [ ⟨tokenSwapAccount.publicKey, true, false⟩, ⟨authority, false, false⟩,
      ⟨adminAccount, true, false⟩ ]
    AdminInstruction.Pause.value programId

def createUnpauseInstruction (tokenSwapAccount : Keypair) (authority adminAccount : PublicKey)
    (programId : PublicKey) : Except JsError TransactionInstruction :=
  tagOnlyInstruction
    [ ⟨tokenSwapAccount.publicKey, true, false⟩, ⟨authority, false, false⟩,
      ⟨adminAccount, true, false⟩ ]
    AdminInstruction.Unpause.value programId

def createSetFeeAccountInstruction (tokenSwapAccount : Keypair)
    (authority adminAccount newFeeAccount : PublicKey) (programId : PublicKey) :
    Except JsError TransactionInstruction :=
  tagOnlyInstruction
    [ ⟨tokenSwapAccount.publicKey, true, false⟩, ⟨authority, false, false⟩,
      ⟨adminAccount, true, false⟩, ⟨newFeeAccount, false, false⟩ ]
    AdminInstruction.SetFeeAccount.value programId

def createApplyNewAdminInstruction (tokenSwapAccount : Keypair) (authority adminAccount : PublicKey)
    (programId : PublicKey) : Except JsError TransactionInstruction :=
  tagOnlyInstruction
    [ ⟨tokenSwapAccount.publicKey, true, false⟩, ⟨authority, false, false⟩,
      ⟨adminAccount, true, false⟩, ⟨SYSVAR_CLOCK_PUBKEY, false, false⟩ ]
    AdminInstruction.ApplyNewAdmin.value programId

def createCommitNewAdminInstruction (tokenSwapAccount : Keypair)
    (authority adminAccount newAdminAccount : PublicKey) (programId : PublicKey) :
    Except JsError TransactionInstruction :=
  tagOnlyInstruction
    [ ⟨tokenSwapAccount.publicKey, true, false⟩, ⟨authority, false, false⟩,
      ⟨adminAccount, true, false⟩, ⟨newAdminAccount, false, false⟩,
      ⟨SYSVAR_CLOCK_PUBKEY, false, false⟩ ]
    AdminInstruction.CommitNewAdmin.value programId

/-- The encoders that send a tag and one schedule: `struct([u8("instruction"), layout])` with
the schedule's `toBuffer()` under the layout's property, sliced. -/
def scheduleInstruction (keys : List AccountMeta) (instruction : Nat) (argLayout : Layout)
    (property : String) (arg : Struct) (programId : PublicKey) :
    Except JsError TransactionInstruction := do
  let bytes ← arg.toBuffer
  let data ← encodeData (struct [u8 "instruction", argLayout] none)
    (.object [("instruction", tag instruction), (property, .buffer bytes)]) true
  pure { keys, data, programId }

/-- The argument is the `Fees` instance `new Fees(newFees)`; the model takes the `IFees` it is
built from. -/
def createSetNewFeesInstruction (tokenSwapAccount : Keypair) (authority adminAccount : PublicKey)
    (newFees : IFees) (programId : PublicKey) : Except JsError TransactionInstruction :=
  scheduleInstruction
    [ ⟨tokenSwapAccount.publicKey, true, false⟩, ⟨authority, false, false⟩,
      ⟨adminAccount, true, false⟩ ]
    AdminInstruction.CommitNewAdmin.value (FeesLayout "newFees") "newFees" (Fees newFees) programId

/-- The argument is the `Rewards` instance `new Rewards(newRewards)`; the model takes the
`IRewards` it is built from. -/
def createSetNewRewardsInstruction (tokenSwapAccount : Keypair) (authority adminAccount : PublicKey)
    (newRewards : IRewards) (programId : PublicKey) : Except JsError TransactionInstruction :=
  scheduleInstruction
    [ ⟨tokenSwapAccount.publicKey, true, false⟩, ⟨authority, false, false⟩,
      ⟨adminAccount, true, false⟩ ]
    AdminInstruction.CommitNewAdmin.value (RewardsLayout "newRewards") "newRewards"
    (Rewards newRewards) programId

end DeltafiClient.Source.Instructions.Admin
