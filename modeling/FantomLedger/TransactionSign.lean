import FantomLedger.AddressUtils

/-! The signature of a transaction, and the context it is collected in. -/

namespace FantomLedger

inductive TxStage where
  | none
  | init
  | collect
  | finalize
  | done
  deriving DecidableEq, Repr

/-- The value of a stage in the response to a chunk. -/
def TxStage.toByte : TxStage → UInt8
  | .none => 0
  | .init => 1
  | .collect => 2
  | .finalize => 4
  | .done => 8

/-- The steps of both user interface functions; `none` is what `memset` leaves. -/
inductive SignUiStep where
  | none
  | initWarning
  | initConfirm
  | initRespond
  | initInvalid
  | txSender
  | txRecipient
  | txAmount
  | txFee
  | txContractCall
  | txConfirm
  | txRespond
  | txInvalid
  deriving DecidableEq, Repr

structure TxSignature where
  v : UInt8
  r : Vector UInt8 txSignatureHashLength
  s : Vector UInt8 txSignatureHashLength
  deriving DecidableEq, Repr

def TxSignature.zero : TxSignature := ⟨0, Vector.replicate _ 0, Vector.replicate _ 0⟩

/-- The context of the instruction. Its transaction and its hash context are those that the
stream refers to. -/
structure SignTxContext where
  responseReady : Nat
  path : Bip44Path
  stream : TxStreamContext
  signature : TxSignature
  stage : TxStage
  uiStep : SignUiStep
  deriving DecidableEq, Repr

namespace SignTxContext

def zero : SignTxContext where
  responseReady := 0
  path := .zero
  stream := .zero cxKeccakInit .zero
  signature := .zero
  stage := .none
  uiStep := .none

def tx (ctx : SignTxContext) : Transaction := ctx.stream.tx

def sha3Context (ctx : SignTxContext) : Sha3Context := ctx.stream.sha3Context

def setTx (ctx : SignTxContext) (tx : Transaction) : SignTxContext :=
  { ctx with stream := { ctx.stream with tx := tx } }

def setSha3Context (ctx : SignTxContext) (sha3Context : Sha3Context) : SignTxContext :=
  { ctx with stream := { ctx.stream with sha3Context := sha3Context } }

end SignTxContext

abbrev SignCode := EStateM Exc SignTxContext

variable {σ : Type}

def txGetV (tx : Transaction) : EStateM Exc σ UInt32 := do
  validate (tx.v.length.toNat ≤ 4) errInvalidData
  if 0 < tx.v.length then
    let bytes := tx.v.bytes.map UInt8.toUInt32
    return bytes.tail.foldl (fun v byte => v <<< 8 ||| byte) (bytes.headD 0)
  else
    return 0

/-- Copy bytes to the end of an array. -/
def storeRight {size : Nat} (target : Vector UInt8 size) (source : List UInt8) : Vector UInt8 size :=
  Vector.ofFn fun i =>
    if i.val < size - source.length then target[i] else source.getD (i.val - (size - source.length)) 0

/-- A value of the encoding: its offset and length, without a leading byte. -/
def signatureValue (sig : Vector UInt8 100) (xOffset : Nat) : EStateM Exc σ (Nat × Nat) := do
  let xLength := (← inside sig[xOffset - 1]?).toNat
  return if xLength = 33 then (xOffset + 1, 32) else (xOffset, xLength)

def txGetSignature (sdk : Sdk) (hash : Vector UInt8 32) : SignCode Unit := do
  let (privateKey, _) ← derivePrivateKey sdk (← get).path
  let publicKey := deriveRawPublicKey sdk privateKey
  let (sha3Context, address) ← getRawAddress sdk publicKey txMaxAddressLength
  modify fun ctx => ctx.setSha3Context sha3Context
  let sender ← inside ((← get).tx.sender.store 0 address)
  modify fun ctx => ctx.setTx { ctx.tx with sender := sender.setLength address.length }
  let signed := sdk.cxEcdsaSign privateKey hash
  assertThat (0 < signed.sigLength)
  modify fun ctx => { ctx with signature := { ctx.signature with
    v := 27 + (if signed.parityOdd then 1 else 0) + (if signed.xGTn then 2 else 0) } }
  let (xOffset, xLength) ← signatureValue signed.sig 4
  validate (xLength ≤ txSignatureHashLength) errInvalidData
  validate (xOffset + xLength < signed.sigLength.toNat) errInvalidData
  modify fun ctx => { ctx with signature := { ctx.signature with
    r := storeRight ctx.signature.r ((signed.sig.toList.drop xOffset).take xLength) } }
  let (xOffset, xLength) ← signatureValue signed.sig (xOffset + xLength + 2)
  validate (xLength ≤ txSignatureHashLength) errInvalidData
  validate (xOffset + xLength ≤ signed.sigLength.toNat) errInvalidData
  modify fun ctx => { ctx with signature := { ctx.signature with
    s := storeRight ctx.signature.s ((signed.sig.toList.drop xOffset).take xLength) } }

end FantomLedger
