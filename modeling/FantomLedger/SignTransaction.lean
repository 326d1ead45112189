import FantomLedger.Device
import FantomLedger.Policy
import FantomLedger.TransactionFormat

/-! Signing a transaction: the handlers of its three APDUs and the steps of its user
interface, in the build for small displays. -/

namespace FantomLedger

open Library.Program

def weiToFtmDecimals : UInt8 := 18
def expectedChainId : UInt32 := 0xfa

/-- RESPONSE_READY_TAG. -/
def signReadyTag : Nat := 11711

def p1NewTransaction : UInt8 := 0x00
def p1StreamData : UInt8 := 0x01
def p1GetSignature : UInt8 := 0x80

/-- The context of the instruction in the union; no other instruction uses the union
while this one runs. -/
def Device.signTx? (device : Device) : Option SignTxContext :=
  match device.instructionState with
  | .cleared => some .zero
  | .signTx ctx => some ctx
  | _ => none

/-- Run code on the context of the instruction. -/
def onSignTx {α : Type} (body : SignCode α) : DeviceCode α := fun device =>
  match device.signTx? with
  | none => .error .undefined device
  | some ctx =>
    match body.run ctx with
    | .ok result after => .ok result { device with instructionState := .signTx after }
    | .error exc after => .error exc { device with instructionState := .signTx after }

/-- Run code on the stream of the context. -/
def onStream {α : Type} (body : StreamCode α) : SignCode α := fun ctx =>
  match body.run ctx.stream with
  | .ok result after => .ok result { ctx with stream := after }
  | .error exc after => .error exc { ctx with stream := after }

def getSignTx : DeviceCode SignTxContext := onSignTx get

def setUiStep (uiStep : SignUiStep) : DeviceCode Unit :=
  onSignTx (modify fun ctx => { ctx with uiStep := uiStep })

def assertStage (expected : TxStage) : DeviceCode Unit := do
  validate ((← getSignTx).stage == expected) errInvalidState

def runSignTransactionInitUIStep : DeviceCode Unit := do
  assertStage .init
  match (← getSignTx).uiStep with
  | .initWarning =>
    uiDisplayPaginatedText "Unusual Request".toList "Be careful!".toList .runSignTransactionInitUIStep
    setUiStep .initConfirm
  | .initConfirm =>
    uiDisplayPrompt "Start New".toList "Transaction?".toList .runSignTransactionInitUIStep
      .uiRespondWithUserReject
    setUiStep .initRespond
  | .initRespond =>
    ioSendBuf success .empty
    uiDisplayBusy
    onSignTx (modify fun ctx => { ctx with stage := .collect })
    setUiStep .initInvalid
  | _ => assertThat false

/-- The step of the user interface that a policy starts with. -/
def initUiStep : SecurityPolicy → Option SignUiStep
  | .warn => some .initWarning
  | .prompt => some .initConfirm
  | .allow => some .initRespond
  | _ => none

def handleSignTxInit (p2 : UInt8) (wireBuffer : List UInt8) : DeviceCode Unit := do
  assertStage .none
  validate (p2 == 0) errInvalidParameters
  onSignTx (modify fun ctx => { ctx with
    stage := .init, responseReady := 0, stream := txStreamInit ctx.tx })
  let (path, parsedSize) ← bip44ParseFromWire (← getSignTx).path wireBuffer
  onSignTx (modify fun ctx => { ctx with path := path })
  validate (parsedSize == wireBuffer.length) errInvalidData
  let policy ← policyForSignTxInit path
  assertNotDenied policy
  match initUiStep policy with
  | some uiStep => setUiStep uiStep
  | none => assertThat false
  runSignTransactionInitUIStep

def handleSignTxCollect (store : Store) (p2 : UInt8) (wireBuffer : List UInt8) : DeviceCode Unit := do
  assertStage .collect
  validate (p2 == 0) errInvalidParameters
  validate (0 < wireBuffer.length) errInvalidData
  match ← onSignTx (onStream (txStreamProcess store wireBuffer wireBuffer.length 0)) with
  | .processing => pure ()
  | .finished => onSignTx (modify fun ctx => { ctx with stage := .finalize })
  | .fault => validate false errInvalidData
  ioSendBuf success (.stage (← getSignTx).stage)
  uiDisplayBusy

section Screens

variable (sdk : Sdk)

/-- The text of the recipient on the screen. -/
def recipientText : DeviceCode (List Char) := do
  let recipient := (← getSignTx).tx.recipient
  assertThat (recipient.length.toNat ≤ txMaxAddressLength)
  if 0 < recipient.length then
    let (sha3Context, addrStr) ←
      formattedAddress sdk recipient.value.toList recipient.length.toNat 64
    onSignTx (modify fun ctx => ctx.setSha3Context sha3Context)
    return addrStr
  else
    return "New Contract".toList

def senderText : DeviceCode (List Char) := do
  let sender := (← getSignTx).tx.sender
  assertThat (0 < sender.length)
  assertThat (sender.length.toNat ≤ txMaxAddressLength)
  let (sha3Context, addrStr) ← formattedAddress sdk sender.value.toList sender.length.toNat 64
  onSignTx (modify fun ctx => ctx.setSha3Context sha3Context)
  return addrStr

def amountText : DeviceCode (List Char) := do
  let value := (← getSignTx).tx.value
  assertThat (value.length.toNat ≤ txMaxInt256Length)
  return (← formatted 40 (txGetFormattedAmount value weiToFtmDecimals 40)).2

def feeText : DeviceCode (List Char) := do
  let tx := (← getSignTx).tx
  assertThat (tx.gasPrice.length.toNat ≤ txMaxInt256Length)
  assertThat (tx.startGas.length.toNat ≤ txMaxInt256Length)
  return (← formatted 40 (txGetFormattedFee tx weiToFtmDecimals 40)).2

def runSignTransactionUIStep : DeviceCode Unit := do
  assertStage .finalize
  match (← getSignTx).uiStep with
  | .txRecipient =>
    uiDisplayPaginatedText "Send To".toList (← recipientText sdk) .runSignTransactionUIStep
    setUiStep .txSender
  | .txSender =>
    uiDisplayPaginatedText "Send From".toList (← senderText sdk) .runSignTransactionUIStep
    setUiStep .txAmount
  | .txAmount =>
    uiDisplayPaginatedText "Amount (FTM)".toList (← amountText) .runSignTransactionUIStep
    setUiStep .txFee
  | .txFee =>
    uiDisplayPaginatedText "Max Fee (FTM)".toList (← feeText) .runSignTransactionUIStep
    setUiStep (if (← getSignTx).tx.isContractCall then .txContractCall else .txConfirm)
  | .txContractCall =>
    uiDisplayPaginatedText "Smart Contract".toList "Alert".toList .runSignTransactionUIStep
    setUiStep .txConfirm
  | .txConfirm =>
    uiDisplayPrompt "Send".toList "Transaction?".toList .runSignTransactionUIStep
      .uiRespondWithUserReject
    setUiStep .txRespond
  | .txRespond =>
    validate ((← getSignTx).responseReady == signReadyTag) errInvalidData
    onSignTx (modify fun ctx => { ctx with stage := .done })
    ioSendBuf success (.signature (← getSignTx).signature)
    uiIdle
    setUiStep .txInvalid
  | _ => assertThat false

/-- The digest of the transaction: the hash of all that the stream absorbed. -/
def finalHash : SignCode (Vector UInt8 32) := do
  let (sha3Context, hash) := (← get).sha3Context.cxHashLast sdk []
  modify fun ctx => ctx.setSha3Context sha3Context
  return hash

/-- The step of the user interface that the final policy starts with. -/
def finalUiStep : SecurityPolicy → Option SignUiStep
  | .prompt => some .txRecipient
  | .allow => some .txRespond
  | _ => none

def handleSignTxFinalize (p2 : UInt8) (wireBuffer : List UInt8) : DeviceCode Unit := do
  assertStage .finalize
  validate (p2 == 0) errInvalidParameters
  validate (wireBuffer.length == 0) errInvalidData
  modify fun device => { device with ioState := .expectUi }
  let policy ← policyForSignTxFinalize
  assertNotDenied policy
  validate ((← txGetV (← getSignTx).tx) == expectedChainId) errInvalidData
  onSignTx (do
    let hash ← finalHash sdk
    txGetSignature sdk hash
    modify fun ctx => { ctx with responseReady := signReadyTag })
  match finalUiStep policy with
  | some uiStep => setUiStep uiStep
  | none => assertThat false
  runSignTransactionUIStep sdk

def handleSignTransaction (store : Store) (p1 p2 : UInt8) (wireBuffer : List UInt8)
    (isOnInit : Bool) : DeviceCode Unit := do
  if isOnInit then
    modify fun device => { device with instructionState := .signTx .zero }
  if p1 = p1NewTransaction then
    handleSignTxInit p2 wireBuffer
  else if p1 = p1StreamData then
    handleSignTxCollect store p2 wireBuffer
  else if p1 = p1GetSignature then
    handleSignTxFinalize sdk p2 wireBuffer
  else
    validate false errInvalidParameters

end Screens

end FantomLedger
