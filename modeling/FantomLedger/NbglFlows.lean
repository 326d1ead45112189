import FantomLedger.KeyChoice
import FantomLedger.SignTransaction

/-! The build for large screens: its pages, and the functions that put them on the screen. -/

namespace FantomLedger.Nbgl

open Library.Program

/-- The functions that are told whether the user confirmed. -/
inductive ChoiceFn where
  | warningChoice
  | contractWarningChoice
  | reviewChoice
  | displayAddressCallback
  | displayPathCallback
  deriving DecidableEq, Repr

/-- The functions without arguments that a page calls. -/
inductive PageFn where
  | clbk (fn : UiCallbackFn)
  | displayAddress
  | rejectChoice
  | rejectAndDisplayIdleMenu
  | rejectConfirmation
  deriving DecidableEq, Repr

/-- A line of a review. -/
structure TagValue where
  item : Option (List Char)
  value : List Char
  deriving DecidableEq, Repr

structure InfoLongPress where
  text : List Char
  longPressText : List Char
  deriving DecidableEq, Repr

/-- What is on the screen, with the functions that a touch calls. A page that asks back lies over
another one. -/
inductive Page where
  | home
  | spinner (text : List Char)
  | choice (texts : Choice) (callback : ChoiceFn)
  | reviewStart (title rejectText : List Char) (continueFn rejectFn : PageFn)
  | confirm (texts : Choice) (callback : PageFn) (under : Page)
  | staticReview (light : Bool) (pairs : List TagValue) (infoLongPress : InfoLongPress)
      (rejectText : List Char) (callback : ChoiceFn)
  | addressConfirmation (address : List Char) (pairs : List TagValue) (callback : ChoiceFn)
  | status (message : Option (List Char)) (isSuccess : Bool)
  deriving DecidableEq, Repr

/-- The device with the static variables of its pages. Of the members that only the other build
has, nothing is read. The member `isShowPath` is that of the context of an address, and
`statusDue` tells that the callback of a status page is still to come. -/
structure State where
  device : Device
  page : Page
  confirmClbk : Option UiCallbackFn
  rejectClbk : Option UiCallbackFn
  rejectionText : Option (List Char)
  fields : List TagValue
  nbPairs : Nat
  infoLongPress : InfoLongPress
  isDisplayAddress : Bool
  isDisplayPath : Bool
  isShowPath : Bool
  statusDue : Bool

abbrev Code := EStateM Exc State

/-- Code that both builds share. -/
def onShared {α : Type} (code : DeviceCode α) : Code α := fun s =>
  match code.run s.device with
  | .ok result after => .ok result { s with device := after }
  | .error exc after => .error exc { s with device := after }

def showPage (page : Page) : Code Unit := modify fun s => { s with page := page }

/-- The callback of every status page is `ui_idle`. -/
def nbglUseCaseStatus (message : Option (List Char)) (isSuccess : Bool) : Code Unit :=
  modify fun s => { s with page := .status message isSuccess, statusDue := true }

def uiIdle : Code Unit := do
  modify fun s => { s with device := { s.device with currentIns := none } }
  showPage .home

def uiDoDisplayBusy : Code Unit := showPage (.spinner "Loading transaction".toList)

def uiDisplayBusy : Code Unit := do
  let ioState := (← get).device.ioState
  assertThat (ioState == .expectNone || ioState == .expectIo)
  uiDoDisplayBusy

def uiRespondWithUserReject : Code Unit := onShared (ioSendBuf errRejectedByUser .empty)

/-- The first line of the functions that display something. -/
def assertIoState : Code Unit := do
  let ioState := (← get).device.ioState
  assertThat (ioState == .expectNone || ioState == .expectUi)

def setCallbacks (confirm reject : UiCallbackFn) : Code Unit :=
  modify fun s => { s with confirmClbk := some confirm, rejectClbk := some reject }

def warningPage (warningText : List Char) : Page :=
  .choice ⟨warningText, "Reject if you're not sure".toList, "Continue".toList, "Reject".toList⟩
    .warningChoice

def uiDisplayWarning (warningText : List Char) (confirm reject : UiCallbackFn) : Code Unit := do
  assertIoState
  setCallbacks confirm reject
  showPage (warningPage warningText)

def startPage (confirm : UiCallbackFn) : Page :=
  .reviewStart "Review\ntransaction".toList "Reject".toList (.clbk confirm) .rejectChoice

def uiReviewStart (confirm reject : UiCallbackFn) : Code Unit := do
  assertIoState
  setCallbacks confirm reject
  modify fun s => { s with rejectionText := some "Transaction rejected".toList }
  showPage (startPage confirm)

def displayTransaction : Code Unit := do
  let s ← get
  showPage (.staticReview false (s.fields.take s.nbPairs) s.infoLongPress "Reject".toList .reviewChoice)

def uiReviewDisplay (txFields : List TagValue) (confirm reject : UiCallbackFn)
    (contractWarning : Bool) : Code Unit := do
  assertIoState
  setCallbacks confirm reject
  modify fun s => { s with
    infoLongPress := ⟨"Send Transaction ?".toList, "Hold to confirm".toList⟩
    fields := txFields
    nbPairs := txFields.length }
  if contractWarning then
    showPage (.choice ⟨"Contract call".toList, "Review carefully".toList, "Continue".toList,
      "Reject".toList⟩ .contractWarningChoice)
  else
    displayTransaction

def displayAddress : Code Unit := do
  let s ← get
  let address := ((s.fields[1]?).map TagValue.value).getD []
  let pairs := s.fields.take s.nbPairs
  if s.isDisplayAddress then
    if s.isDisplayPath then
      showPage (.addressConfirmation address pairs .displayAddressCallback)
    else
      showPage (.addressConfirmation address [] .displayAddressCallback)
  else
    let infoLongPress := ⟨"Confirm address ?".toList, "Confirm".toList⟩
    modify fun s => { s with infoLongPress := infoLongPress }
    showPage (.staticReview true pairs infoLongPress "Cancel".toList .displayAddressCallback)

/-- Only the first line, the path, is shown as one; the page shows the address itself. -/
def uiVerifyAddress (path : TagValue) (addressText : List Char) (confirm reject : UiCallbackFn)
    (showAddr showPath : Bool) : Code Unit := do
  assertIoState
  setCallbacks confirm reject
  modify fun s => { s with
    rejectionText := some "Address rejected".toList
    fields := [path, ⟨none, addressText⟩]
    nbPairs := 1
    isDisplayAddress := showAddr
    isDisplayPath := showPath }
  showPage (.reviewStart "Verify \naddress".toList "Cancel".toList .displayAddress
    .rejectAndDisplayIdleMenu)

/-- The local array for the text of the choice holds what the stack left. -/
def subtextArray (s : State) : Vector Char 40 :=
  (s.device.stack 0).map fun byte => Char.ofNat byte.toNat

/-- The step that asks for the export of a key. -/
def exportKeyConfirm (path : Bip44Path) (confirm reject : UiCallbackFn) : Code Unit := do
  let s ← get
  let choice ← displayPathChoice s.device.ioState (subtextArray s) path
  setCallbacks confirm reject
  modify fun s => { s with rejectionText := some "Key export cancelled".toList }
  showPage (.choice choice .displayPathCallback)

end FantomLedger.Nbgl
