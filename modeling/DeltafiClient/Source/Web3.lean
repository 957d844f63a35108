import DeltafiClient.Runtime.BufferLayout

/-!
# What the encoders take from `@solana/web3.js`

A public key is passed through untouched, so only its identity is kept. An encoder returns
`new TransactionInstruction({ keys, programId, data })`, which stores the three fields as
given.

Every encoder builds its data the same way: `Buffer.alloc(dataLayout.span)`, then
`dataLayout.encode(src, data)`, and some of them keep only the first `encodeLength` bytes
(`encodeData`).
-/

namespace DeltafiClient.Source

open Runtime

/-- A `PublicKey`, by its base-58 text. -/
structure PublicKey where
  base58 : String
  deriving DecidableEq, Repr

/-- A `Keypair` (the older `Account` alike): the encoders read only its `publicKey`. -/
structure Keypair where
  publicKey : PublicKey
  deriving DecidableEq, Repr

/-- `{ pubkey, isSigner, isWritable }`. -/
structure AccountMeta where
  pubkey : PublicKey
  isSigner : Bool
  isWritable : Bool
  deriving DecidableEq, Repr

structure TransactionInstruction where
  keys : List AccountMeta
  programId : PublicKey
  data : Buffer
  deriving DecidableEq, Repr

/-- The clock sysvar. -/
def SYSVAR_CLOCK_PUBKEY : PublicKey := ⟨"SysvarC1ock11111111111111111111111111111111"⟩

/-- `let data = Buffer.alloc(dataLayout.span); const encodeLength = dataLayout.encode(src,
data)`, then `data.slice(0, encodeLength)` when `sliced`. -/
def encodeData (dataLayout : Layout) (src : JsValue) (sliced : Bool) : Except JsError Buffer := do
  let (data, encodeLength) ← dataLayout.encode src (Buffer.alloc dataLayout.span) 0
  pure (if sliced then data.slice 0 encodeLength else data)

/-- An instruction tag as the object literal holds it: a number. -/
def tag (n : Nat) : JsValue := .number (.finite n)

end DeltafiClient.Source
