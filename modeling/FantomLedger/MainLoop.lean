import FantomLedger.ExportKeys
import FantomLedger.SignTransaction

/-! The device as a whole: an APDU goes through the main loop, and a button goes to the callback
of the screen. -/

namespace FantomLedger

open Library.Program

/-- What the application is built with and runs on; where the bytes go that pass the end of an array is
part of it. -/
structure Platform where
  sdk : Sdk
  appVersion : AppVersion
  overrun : Store

def Platform.store (platform : Platform) : Store := storeOver platform.overrun

variable (platform : Platform)

/-- Call a callback. -/
def runCallback : UiCallbackFn → DeviceCode Unit
  | .runGetPublicKeyUIStep => runGetPublicKeyUIStep
  | .runGetAddressUIStep => runGetAddressUIStep platform.sdk
  | .runSignTransactionInitUIStep => runSignTransactionInitUIStep
  | .runSignTransactionUIStep => runSignTransactionUIStep platform.sdk
  | .uiRespondWithUserReject => uiRespondWithUserReject

/-- Any exception that leaves a callback of the user interface resets the device. -/
def tryCatchUi (uiCall : DeviceCode Unit) : DeviceCode Unit := fun device =>
  match uiCall.run device with
  | .error (.thrown _) after => .error .reset after
  | other => other

def setCallback (callback : UiCallback) : DisplayState → DisplayState
  | .cleared => .cleared
  | .paginatedText header text _ => .paginatedText header text callback
  | .prompt header text _ => .prompt header text callback

/-- Fire one of the two functions of a callback, once. -/
def uiCallbackFire (callback : UiCallback) (chosen : Option UiCallbackFn) : DeviceCode Unit := do
  match chosen with
  | none => pure ()
  | some fn =>
    match callback.state with
    | .callbackNotRun =>
      modify fun device => { device with
        displayState := setCallback { callback with state := .callbackRun } device.displayState }
      runCallback platform fn
    | .callbackRun => pure ()

def uiCallbackConfirm (callback : UiCallback) : DeviceCode Unit :=
  uiCallbackFire platform callback callback.confirm

def uiCallbackReject (callback : UiCallback) : DeviceCode Unit :=
  uiCallbackFire platform callback callback.reject

def uiConfirmPaginatedText : DeviceCode Unit :=
  tryCatchUi do
    match (← get).displayState with
    | .paginatedText _ _ callback => uiCallbackConfirm platform callback
    | _ => assertThat false

def uiConfirmPrompt : DeviceCode Unit :=
  tryCatchUi do
    match (← get).displayState with
    | .prompt _ _ callback => uiCallbackConfirm platform callback
    | _ => assertThat false

def uiRejectPrompt : DeviceCode Unit :=
  tryCatchUi do
    match (← get).displayState with
    | .prompt _ _ callback => uiCallbackReject platform callback
    | _ => assertThat false

/-- The user acknowledges a text or accepts a prompt; no other flow has a callback. -/
def userConfirms : DeviceCode Unit := do
  match (← get).flow with
  | .paginatedText => uiConfirmPaginatedText platform
  | .prompt => uiConfirmPrompt platform
  | _ => pure ()

def userRejects : DeviceCode Unit := do
  match (← get).flow with
  | .prompt => uiRejectPrompt platform
  | _ => pure ()

def cla : UInt8 := 0xe0

/-- The instruction that a handler is found for. -/
def getHandler (ins : UInt8) : Option Ins :=
  if ins = 0x01 then some .version
  else if ins = 0x10 then some .getKey
  else if ins = 0x11 then some .getAddr
  else if ins = 0x20 then some .signTx
  else none

def runHandler (ins : Ins) (p1 p2 : UInt8) (data : List UInt8) (isNew : Bool) : DeviceCode Unit :=
  match ins with
  | .version => handleGetVersion platform.appVersion p1 p2 data
  | .getKey => handleGetPublicKey platform.sdk p1 p2 data isNew
  | .getAddr => handleGetAddress platform.sdk p1 p2 data isNew
  | .signTx => handleSignTransaction platform.sdk platform.store p1 p2 data isNew

/-- EXCEPTION_IO_RESET. -/
def exceptionIoReset : Nat := 0x10

/-- The body of the main loop, from the bytes that were received on. -/
def fantomMainTry (apdu : List UInt8) (unlocked : Bool) : DeviceCode Unit := do
  validate ((← get).ioState == .expectIo) errInvalidState
  modify fun device => { device with ioState := .expectNone }
  if apdu.length = 0 then
    throw (.thrown exceptionIoReset)
  validate unlocked errDeviceLocked
  match apdu with
  | headerCla :: headerIns :: p1 :: p2 :: lc :: data =>
    validate (data.length == lc.toNat) errBadRequestHeader
    validate (headerCla == cla) errUnknownCla
    match getHandler headerIns with
    | none => validate false errUnknownIns
    | some ins =>
      match (← get).currentIns with
      | none =>
        modify fun device => { device with instructionState := .cleared, currentIns := some ins }
        runHandler platform ins p1 p2 data true
      | some current =>
        validate (ins == current) errInvalidState
        runHandler platform ins p1 p2 data false
  | _ => validate false errBadRequestHeader

/-- The application starts over, as after EXCEPTION_IO_RESET. Memory keeps its contents. -/
def restart : DeviceCode Unit := do
  uiIdle
  modify fun device => { device with ioState := .expectIo }

/-- An APDU with the exceptions of the main loop. A reset of the device ends the run. -/
def fantomMain (apdu : List UInt8) (unlocked : Bool) : DeviceCode Unit := fun device =>
  match (fantomMainTry platform apdu unlocked).run device with
  | .error (.thrown code) after =>
    if code = exceptionIoReset ∨ code = errAssert then restart.run after
    else if errPassFrom < code ∧ code < errPassTo then
      (do ioSendBuf code .empty; uiIdle : DeviceCode Unit).run after
    else .error .reset after
  | other => other

inductive Event where
  | apdu (bytes : List UInt8) (unlocked : Bool)
  | confirm
  | reject
  deriving DecidableEq, Repr

def handleEvent : Event → DeviceCode Unit
  | .apdu bytes unlocked => fantomMain platform bytes unlocked
  | .confirm => userConfirms platform
  | .reject => userRejects platform

def runEvents : List Event → DeviceCode Unit
  | [] => pure ()
  | event :: events => do
    handleEvent platform event
    runEvents events

/-- The device once the application has started; what its memory holds is of no interest to it. -/
def bootDevice (stack : Nat → Vector UInt8 40) : Device where
  currentIns := none
  ioState := .expectIo
  instructionState := .cleared
  displayState := .cleared
  flow := .idle
  stack := stack
  outputs := []

end FantomLedger
