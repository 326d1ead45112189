import FantomLedger.FinalChecks
import FantomLedger.MainLoop
import FantomLedger.NbglFlows

/-! The build for large screens: the steps of its user interface, its handlers and its main loop. -/

namespace FantomLedger

open Library.Program

section Shared

variable (sdk : Sdk)

/-- A handler goes to the step that its policy starts with; without one it fails. -/
def takeFirstStep {α : Type} (step : Option α) (setStep : α → DeviceCode Unit) : DeviceCode Unit :=
  match step with
  | some uiStep => setStep uiStep
  | none => assertThat false

/-- What the handler of a public key does before it turns to the screen. -/
def beginGetPublicKey (p1 p2 : UInt8) (wireBuffer : List UInt8) (isOnInit : Bool) : DeviceCode Unit := do
  if isOnInit then
    modify fun device => { device with instructionState := .getPubKey .zero }
  onGetPubKey (modify fun ctx => { ctx with responseReady := 0 })
  validate (p1 == 0) errInvalidParameters
  validate (p2 == 0) errInvalidParameters
  let (path, parsedSize) ← bip44ParseFromWire (← onGetPubKey get).path wireBuffer
  onGetPubKey (modify fun ctx => { ctx with path := path })
  validate (parsedSize == wireBuffer.length) errInvalidData
  let policy ← policyForGetPublicKey path
  assertNotDenied policy
  let pubKey ← deriveExtendedPublicKey sdk path
  onGetPubKey (modify fun ctx => { ctx with pubKey := pubKey, responseReady := pubKeyReadyTag })
  takeFirstStep (pubKeyUiStep policy) setPubKeyStep

/-- What the handler of an address does before it turns to the screen; the two builds start with
different steps. -/
def beginGetAddress (firstStep : Bool → SecurityPolicy → Option UiStep) (p1 p2 : UInt8)
    (wireBuffer : List UInt8) (isOnInit : Bool) : DeviceCode Unit := do
  if isOnInit then
    modify fun device => { device with instructionState := .getAddress .zero }
  onGetAddress (modify fun ctx => { ctx with responseReady := 0 })
  validate (p1 == p1ReturnAddress || p1 == p1DisplayAddress) errInvalidParameters
  validate (p2 == 0) errInvalidParameters
  let isShowAddress := p1 == p1DisplayAddress
  onGetAddress (modify fun ctx => { ctx with isShowAddress := isShowAddress })
  let (path, parsedSize) ← bip44ParseFromWire (← onGetAddress get).path wireBuffer
  onGetAddress (modify fun ctx => { ctx with path := path })
  validate (parsedSize == wireBuffer.length) errInvalidData
  let policy ← policyForGetAddress path isShowAddress
  assertNotDenied policy
  let (sha3Context, raw) ← deriveAddress sdk path addressBufferSize
  let stored ← inside ((← onGetAddress get).address.store 0 raw)
  onGetAddress (modify fun ctx => { ctx with
    sha3Context := sha3Context
    address := stored.setLength raw.length
    responseReady := addressReadyTag })
  takeFirstStep (firstStep isShowAddress policy) setAddressStep

/-- What the handler of a new transaction does before it turns to the screen. -/
def beginSignTx (p2 : UInt8) (wireBuffer : List UInt8) : DeviceCode Unit := do
  assertStage .none
  validate (p2 == 0) errInvalidParameters
  onSignTx (modify fun ctx => { ctx with
    stage := .init, responseReady := 0, stream := txStreamInit ctx.tx })
  let (path, parsedSize) ← bip44ParseFromWire (← getSignTx).path wireBuffer
  onSignTx (modify fun ctx => { ctx with path := path })
  validate (parsedSize == wireBuffer.length) errInvalidData
  let policy ← policyForSignTxInit path
  assertNotDenied policy
  takeFirstStep (initUiStep policy) setUiStep

/-- What the handler of a chunk does before it turns to the screen. -/
def collectChunk (store : Store) (p2 : UInt8) (wireBuffer : List UInt8) : DeviceCode Unit := do
  assertStage .collect
  validate (p2 == 0) errInvalidParameters
  validate (0 < wireBuffer.length) errInvalidData
  match ← onSignTx (onStream (txStreamProcess store wireBuffer wireBuffer.length 0)) with
  | .processing => pure ()
  | .finished => onSignTx (modify fun ctx => { ctx with stage := .finalize })
  | .fault => validate false errInvalidData
  ioSendBuf success (.stage (← getSignTx).stage)

variable {sdk}

theorem handleGetPublicKey_eq (p1 p2 : UInt8) (wireBuffer : List UInt8) (isOnInit : Bool) :
    handleGetPublicKey sdk p1 p2 wireBuffer isOnInit = (do
      beginGetPublicKey sdk p1 p2 wireBuffer isOnInit
      runGetPublicKeyUIStep) := by
  have same : handleGetPublicKey sdk p1 p2 wireBuffer false = (do
      beginGetPublicKey sdk p1 p2 wireBuffer false
      runGetPublicKeyUIStep) := by
    simp only [handleGetPublicKey, beginGetPublicKey, bind_assoc, if_neg Bool.false_ne_true]
    iterate 11
      apply bind_congr
      intro _
    rename_i policy _ _ _
    cases pubKeyUiStep policy <;> rfl
  cases isOnInit with
  | false => exact same
  | true =>
    have started : handleGetPublicKey sdk p1 p2 wireBuffer true = (do
        modify fun device => { device with instructionState := .getPubKey .zero }
        handleGetPublicKey sdk p1 p2 wireBuffer false) := rfl
    rw [started, same]
    rfl

theorem handleGetAddress_eq (p1 p2 : UInt8) (wireBuffer : List UInt8) (isOnInit : Bool) :
    handleGetAddress sdk p1 p2 wireBuffer isOnInit = (do
      beginGetAddress sdk addressUiStep p1 p2 wireBuffer isOnInit
      runGetAddressUIStep sdk) := by
  have same : handleGetAddress sdk p1 p2 wireBuffer false = (do
      beginGetAddress sdk addressUiStep p1 p2 wireBuffer false
      runGetAddressUIStep sdk) := by
    simp only [handleGetAddress, beginGetAddress, bind_assoc, if_neg Bool.false_ne_true]
    iterate 14
      apply bind_congr
      intro _
    rename_i policy _ _ _ _ _
    cases addressUiStep (p1 == p1DisplayAddress) policy <;> rfl
  cases isOnInit with
  | false => exact same
  | true =>
    have started : handleGetAddress sdk p1 p2 wireBuffer true = (do
        modify fun device => { device with instructionState := .getAddress .zero }
        handleGetAddress sdk p1 p2 wireBuffer false) := rfl
    rw [started, same]
    rfl

theorem handleSignTxInit_eq (p2 : UInt8) (wireBuffer : List UInt8) :
    handleSignTxInit p2 wireBuffer = (do
      beginSignTx p2 wireBuffer
      runSignTransactionInitUIStep) := by
  simp only [handleSignTxInit, beginSignTx, bind_assoc]
  iterate 9
    apply bind_congr
    intro _
  rename_i policy _
  cases initUiStep policy <;> rfl

theorem handleSignTxCollect_eq (store : Store) (p2 : UInt8) (wireBuffer : List UInt8) :
    handleSignTxCollect store p2 wireBuffer = (do
      collectChunk store p2 wireBuffer
      uiDisplayBusy) := by
  simp only [handleSignTxCollect, collectChunk, bind_assoc]
  iterate 3
    apply bind_congr
    intro _
  apply bind_congr
  intro status
  cases status <;> simp only [bind_assoc]

end Shared

namespace Nbgl

section Steps

variable (sdk : Sdk)

/-- The array for a text on a page. -/
def fieldTextSize : Nat := 200

def runGetPublicKeyUIStep : Code Unit := do
  let ctx ← onShared (onGetPubKey get)
  match ctx.uiStep with
  | .warning =>
    uiDisplayWarning "Unusual Request\nBe careful!".toList .runGetPublicKeyUIStep .uiRespondWithUserReject
    onShared (setPubKeyStep .displayPath)
  | .displayPath =>
    exportKeyConfirm ctx.path .runGetPublicKeyUIStep .uiRespondWithUserReject
    onShared (setPubKeyStep .respond)
  | .respond =>
    assertThat (ctx.responseReady == pubKeyReadyTag)
    onShared (ioSendBuf success (.pubKey ctx.pubKey))
    onShared (setPubKeyStep .invalid)
  | _ => assertThat false

/-- The text of a path in the array of a page. -/
def pathText (path : Bip44Path) : Code (List Char) :=
  return (← onShared (formatted fieldTextSize (bip44PathToStr path fieldTextSize))).2

def runGetAddressUIStep : Code Unit := do
  let ctx ← onShared (onGetAddress get)
  match ctx.uiStep with
  | .warning =>
    uiDisplayWarning "Unusual derivation\npath be careful!".toList .runGetAddressUIStep
      .uiRespondWithUserReject
    modify fun s => { s with isShowPath := true }
    onShared (setAddressStep .confirm)
  | .confirm =>
    let _ ← pathText ctx.path
    assertThat (ctx.address.length.toNat < addressBufferSize)
    let path ← pathText ctx.path
    let (sha3Context, addrStr) ← onShared
      (formattedAddress sdk ctx.address.value.toList ctx.address.length.toNat fieldTextSize)
    onShared (onGetAddress (modify fun ctx => { ctx with sha3Context := sha3Context }))
    uiVerifyAddress ⟨some "Derivation Path".toList, path⟩ addrStr .runGetAddressUIStep
      .uiRespondWithUserReject ctx.isShowAddress (← get).isShowPath
    onShared (setAddressStep .respond)
  | .respond =>
    assertThat (ctx.responseReady == addressReadyTag)
    assertThat (ctx.address.length.toNat ≤ addressBufferSize)
    onShared (ioSendBuf success (.address ctx.address))
    onShared (setAddressStep .invalid)
  | _ => assertThat false

def runSignTransactionInitUIStep : Code Unit := do
  onShared (assertStage .init)
  match (← onShared getSignTx).uiStep with
  | .initWarning =>
    uiDisplayWarning "Unusual Request\nBe careful!".toList .runSignTransactionInitUIStep
      .uiRespondWithUserReject
    onShared (setUiStep .initConfirm)
  | .initConfirm =>
    uiReviewStart .runSignTransactionInitUIStep .uiRespondWithUserReject
    onShared (setUiStep .initRespond)
  | .initRespond =>
    onShared (ioSendBuf success .empty)
    uiDisplayBusy
    onShared (onSignTx (modify fun ctx => { ctx with stage := .collect }))
    onShared (setUiStep .initInvalid)
  | _ => assertThat false

/-- MAX_FIELDS_PER_TRANSACTION. -/
def maxFieldsPerTransaction : Nat := 4

/-- Another line, which has to have its place. -/
def addPair (pairs : List TagValue) (header text : List Char) : DeviceCode (List TagValue) := do
  let pairs := pairs ++ [⟨some header, text⟩]
  assertThat (pairs.length ≤ maxFieldsPerTransaction)
  return pairs

/-- The text of an address in the array of a page. -/
def addressField {size : Nat} (field : ByteField size) : DeviceCode (List Char) := do
  let (sha3Context, addrStr) ←
    formattedAddress sdk field.value.toList field.length.toNat fieldTextSize
  onSignTx (modify fun ctx => ctx.setSha3Context sha3Context)
  return addrStr

def recipientField : DeviceCode (List Char) := do
  let recipient := (← getSignTx).tx.recipient
  assertThat (recipient.length.toNat ≤ txMaxAddressLength)
  if 0 < recipient.length then
    addressField sdk recipient
  else
    return "New Contract".toList

def senderField : DeviceCode (List Char) := do
  let sender := (← getSignTx).tx.sender
  assertThat (0 < sender.length)
  assertThat (sender.length.toNat ≤ txMaxAddressLength)
  addressField sdk sender

def amountField : DeviceCode (List Char) := do
  let value := (← getSignTx).tx.value
  assertThat (value.length.toNat ≤ txMaxInt256Length)
  return (← formatted fieldTextSize (txGetFormattedAmount value weiToFtmDecimals fieldTextSize)).2

def feeField : DeviceCode (List Char) := do
  let tx := (← getSignTx).tx
  assertThat (tx.gasPrice.length.toNat ≤ txMaxInt256Length)
  assertThat (tx.startGas.length.toNat ≤ txMaxInt256Length)
  return (← formatted fieldTextSize (txGetFormattedFee tx weiToFtmDecimals fieldTextSize)).2

/-- The lines of the review, in their order on the page. -/
def reviewPairs : DeviceCode (List TagValue) := do
  let pairs ← addPair [] "Send To".toList (← recipientField sdk)
  let pairs ← addPair pairs "Send From".toList (← senderField sdk)
  let pairs ← addPair pairs "Amount (FTM)".toList (← amountField)
  addPair pairs "Max Fee (FTM)".toList (← feeField)

def runSignTransactionUIStep : Code Unit := do
  onShared (assertStage .finalize)
  let ctx ← onShared getSignTx
  match ctx.uiStep with
  | .txRecipient =>
    uiReviewDisplay (← onShared (reviewPairs sdk)) .runSignTransactionUIStep .uiRespondWithUserReject
      ctx.tx.isContractCall
    onShared (setUiStep .txRespond)
  | .txRespond =>
    onShared (do
      validate ((← getSignTx).responseReady == signReadyTag) errInvalidData
      onSignTx (modify fun ctx => { ctx with stage := .done })
      ioSendBuf success (.signature (← getSignTx).signature)
      setUiStep .txInvalid)
  | _ => assertThat false

end Steps

section Handlers

variable (platform : Platform)

def handleGetVersion (p1 p2 : UInt8) (wireBuffer : List UInt8) : Code Unit := do
  onShared (do
    validate (p1 == 0) errInvalidParameters
    validate (p2 == 0) errInvalidParameters
    validate (wireBuffer.length == 0) errInvalidData
    ioSendBuf success (.version platform.appVersion.major platform.appVersion.minor
      platform.appVersion.patch 0))
  uiIdle

def handleGetPublicKey (p1 p2 : UInt8) (wireBuffer : List UInt8) (isOnInit : Bool) : Code Unit := do
  onShared (beginGetPublicKey platform.sdk p1 p2 wireBuffer isOnInit)
  runGetPublicKeyUIStep

/-- The step of the user interface that a policy starts with. -/
def addressUiStep : SecurityPolicy → Option UiStep
  | .warn => some .warning
  | .prompt => some .confirm
  | .allow => some .respond
  | _ => none

def handleGetAddress (p1 p2 : UInt8) (wireBuffer : List UInt8) (isOnInit : Bool) : Code Unit := do
  if isOnInit then
    modify fun s => { s with isShowPath := false }
  onShared (beginGetAddress platform.sdk (fun _ => addressUiStep) p1 p2 wireBuffer isOnInit)
  runGetAddressUIStep platform.sdk

def handleSignTxInit (p2 : UInt8) (wireBuffer : List UInt8) : Code Unit := do
  onShared (beginSignTx p2 wireBuffer)
  runSignTransactionInitUIStep

def handleSignTxCollect (p2 : UInt8) (wireBuffer : List UInt8) : Code Unit := do
  onShared (collectChunk platform.store p2 wireBuffer)
  uiDisplayBusy

def handleSignTxFinalize (p2 : UInt8) (wireBuffer : List UInt8) : Code Unit := do
  onShared (do takeFirstStep (finalUiStep (← finalChecks platform.sdk p2 wireBuffer)) setUiStep)
  runSignTransactionUIStep platform.sdk

def handleSignTransaction (p1 p2 : UInt8) (wireBuffer : List UInt8) (isOnInit : Bool) : Code Unit := do
  if isOnInit then
    onShared (modify fun device => { device with instructionState := .signTx .zero })
  if p1 = p1NewTransaction then
    handleSignTxInit p2 wireBuffer
  else if p1 = p1StreamData then
    handleSignTxCollect platform p2 wireBuffer
  else if p1 = p1GetSignature then
    handleSignTxFinalize platform p2 wireBuffer
  else
    validate false errInvalidParameters

def runHandler (ins : Ins) (p1 p2 : UInt8) (data : List UInt8) (isNew : Bool) : Code Unit :=
  match ins with
  | .version => handleGetVersion platform p1 p2 data
  | .getKey => handleGetPublicKey platform p1 p2 data isNew
  | .getAddr => handleGetAddress platform p1 p2 data isNew
  | .signTx => handleSignTransaction platform p1 p2 data isNew

/-- The body of the main loop, from the bytes that were received on. -/
def fantomMainTry (apdu : List UInt8) (unlocked : Bool) : Code Unit := do
  validate ((← get).device.ioState == .expectIo) errInvalidState
  modify fun s => { s with device := { s.device with ioState := .expectNone } }
  if apdu.length = 0 then
    throw (.thrown exceptionIoReset)
  validate unlocked errDeviceLocked
  match apdu with
  | headerCla :: headerIns :: p1 :: p2 :: lc :: data =>
    validate (data.length == lc.toNat) errBadRequestHeader
    validate (headerCla == cla) errUnknownCla
    match getHandler headerIns with
    | none => validate false errUnknownIns
    | some ins =>
      match (← get).device.currentIns with
      | none =>
        modify fun s => { s with
          device := { s.device with instructionState := .cleared, currentIns := some ins } }
        runHandler platform ins p1 p2 data true
      | some current =>
        validate (ins == current) errInvalidState
        runHandler platform ins p1 p2 data false
  | _ => validate false errBadRequestHeader

end Handlers

section Touch

variable (platform : Platform)

/-- Call a callback. -/
def runCallback : UiCallbackFn → Code Unit
  | .runGetPublicKeyUIStep => runGetPublicKeyUIStep
  | .runGetAddressUIStep => runGetAddressUIStep platform.sdk
  | .runSignTransactionInitUIStep => runSignTransactionInitUIStep
  | .runSignTransactionUIStep => runSignTransactionUIStep platform.sdk
  | .uiRespondWithUserReject => uiRespondWithUserReject

/-- Call the function of a static variable. -/
def runStatic : Option UiCallbackFn → Code Unit
  | some fn => runCallback platform fn
  | none => throw .undefined

def confirmClbk : Code Unit := do runStatic platform (← get).confirmClbk

def rejectClbk : Code Unit := do runStatic platform (← get).rejectClbk

def rejectAndDisplayIdleMenu : Code Unit := do
  rejectClbk platform
  nbglUseCaseStatus (← get).rejectionText false

def rejectConfirmation : Code Unit := rejectAndDisplayIdleMenu platform

def rejectPage (under : Page) : Page :=
  .confirm ⟨"Reject transaction?".toList, [], "Yes, cancel".toList, "Go back to transaction".toList⟩
    .rejectConfirmation under

def rejectChoice : Code Unit := do showPage (rejectPage (← get).page)

def warningChoice (accept : Bool) : Code Unit := do
  if accept then
    confirmClbk platform
  else
    rejectAndDisplayIdleMenu platform

def contractWarningChoice (accept : Bool) : Code Unit := do
  if accept then
    displayTransaction
  else
    rejectAndDisplayIdleMenu platform

def reviewChoice (confirm : Bool) : Code Unit := do
  if confirm then
    confirmClbk platform
    nbglUseCaseStatus (some "TRANSACTION\nCONFIRMED".toList) true
  else
    rejectChoice

/-- The two callbacks that confirm an export. -/
def exportCallback (message : List Char) (confirm : Bool) : Code Unit := do
  if confirm then
    confirmClbk platform
    nbglUseCaseStatus (some message) true
  else
    rejectAndDisplayIdleMenu platform

def displayAddressCallback : Bool → Code Unit := exportCallback platform "ADDRESS\nVERIFIED".toList

def displayPathCallback : Bool → Code Unit := exportCallback platform "PUBLIC KEY\nEXPORTED".toList

def runChoiceFn : ChoiceFn → Bool → Code Unit
  | .warningChoice => warningChoice platform
  | .contractWarningChoice => contractWarningChoice platform
  | .reviewChoice => reviewChoice platform
  | .displayAddressCallback => displayAddressCallback platform
  | .displayPathCallback => displayPathCallback platform

def runPageFn : PageFn → Code Unit
  | .clbk fn => runCallback platform fn
  | .displayAddress => displayAddress
  | .rejectChoice => rejectChoice
  | .rejectAndDisplayIdleMenu => rejectAndDisplayIdleMenu platform
  | .rejectConfirmation => rejectConfirmation platform

/-- What a page calls when the user accepts what it shows, or does not. -/
def touch (accepts : Bool) : Code Unit := do
  match (← get).page with
  | .choice _ callback => runChoiceFn platform callback accepts
  | .staticReview _ _ _ _ callback => runChoiceFn platform callback accepts
  | .addressConfirmation _ _ callback => runChoiceFn platform callback accepts
  | .reviewStart _ _ continueFn rejectFn => runPageFn platform (if accepts then continueFn else rejectFn)
  | .confirm _ callback under => if accepts then runPageFn platform callback else showPage under
  | _ => pure ()

/-- The callback of a status page comes. -/
def statusCallback : Code Unit := do
  if (← get).statusDue then
    modify fun s => { s with statusDue := false }
    uiIdle

end Touch

section MainLoop

variable (platform : Platform)

/-- The application starts over, as after EXCEPTION_IO_RESET. Memory keeps its contents. -/
def restart : Code Unit := do
  uiIdle
  modify fun s => { s with device := { s.device with ioState := .expectIo } }

/-- The exceptions of the main loop; touches are handled while it waits, and theirs come to it too. -/
def catching (body : Code Unit) : Code Unit := fun s =>
  match body.run s with
  | .error (.thrown code) after =>
    if code = exceptionIoReset ∨ code = errAssert then restart.run after
    else if errPassFrom < code ∧ code < errPassTo then
      (do onShared (ioSendBuf code .empty); uiIdle : Code Unit).run after
    else .error .reset after
  | other => other

/-- An APDU, a touch of the screen, or the end of a status page. -/
inductive Event where
  | apdu (bytes : List UInt8) (unlocked : Bool)
  | accept
  | refuse
  | statusDone
  deriving DecidableEq, Repr

def Event.code : Event → Code Unit
  | .apdu bytes unlocked => fantomMainTry platform bytes unlocked
  | .accept => touch platform true
  | .refuse => touch platform false
  | .statusDone => statusCallback

def handleEvent (event : Event) : Code Unit := catching (event.code platform)

/-- The device once the application has started. -/
def bootState (stack : Nat → Vector UInt8 40) : State where
  device := bootDevice stack
  page := .home
  confirmClbk := none
  rejectClbk := none
  rejectionText := none
  fields := []
  nbPairs := 0
  infoLongPress := ⟨[], []⟩
  isDisplayAddress := false
  isDisplayPath := false
  isShowPath := false
  statusDue := false

end MainLoop

end Nbgl

end FantomLedger
