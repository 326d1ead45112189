import FantomLedger.Device
import FantomLedger.Policy

/-! The instructions that answer with the version, a public key or an address, in the build for
small displays. -/

namespace FantomLedger

open Library.Program

/-- APPVERSION, of which three digits are sent. -/
structure AppVersion where
  major : UInt8
  minor : UInt8
  patch : UInt8
  deriving DecidableEq, Repr

def handleGetVersion (appVersion : AppVersion) (p1 p2 : UInt8) (wireBuffer : List UInt8) :
    DeviceCode Unit := do
  validate (p1 == 0) errInvalidParameters
  validate (p2 == 0) errInvalidParameters
  validate (wireBuffer.length == 0) errInvalidData
  ioSendBuf success (.version appVersion.major appVersion.minor appVersion.patch 0)
  uiIdle

/-- The array that the text of a path goes to. -/
def pathStrLength : Nat := 100

section GetPublicKey

/-- RESPONSE_READY_TAG. -/
def pubKeyReadyTag : Nat := 7455

def Device.getPubKey? (device : Device) : Option GetPubKeyContext :=
  match device.instructionState with
  | .cleared => some .zero
  | .getPubKey ctx => some ctx
  | _ => none

/-- Run code on the context of the instruction. -/
def onGetPubKey {α : Type} (body : EStateM Exc GetPubKeyContext α) : DeviceCode α := fun device =>
  match device.getPubKey? with
  | none => .error .undefined device
  | some ctx =>
    match body.run ctx with
    | .ok result after => .ok result { device with instructionState := .getPubKey after }
    | .error exc after => .error exc { device with instructionState := .getPubKey after }

def setPubKeyStep (uiStep : UiStep) : DeviceCode Unit :=
  onGetPubKey (modify fun ctx => { ctx with uiStep := uiStep })

def runGetPublicKeyUIStep : DeviceCode Unit := do
  let ctx ← onGetPubKey get
  match ctx.uiStep with
  | .warning =>
    uiDisplayPaginatedText "Unusual Request".toList "Be careful!".toList .runGetPublicKeyUIStep
    setPubKeyStep .displayPath
  | .displayPath =>
    let (_, pathStr) ← formatted pathStrLength (bip44PathToStr ctx.path pathStrLength)
    uiDisplayPaginatedText "Exporting Key".toList pathStr .runGetPublicKeyUIStep
    setPubKeyStep .confirm
  | .confirm =>
    uiDisplayPrompt "Confirm".toList "Key Export?".toList .runGetPublicKeyUIStep
      .uiRespondWithUserReject
    setPubKeyStep .respond
  | .respond =>
    assertThat (ctx.responseReady == pubKeyReadyTag)
    ioSendBuf success (.pubKey ctx.pubKey)
    uiIdle
    setPubKeyStep .invalid
  | _ => assertThat false

/-- The step of the user interface that a policy starts with. -/
def pubKeyUiStep : SecurityPolicy → Option UiStep
  | .warn => some .warning
  | .prompt => some .displayPath
  | .allow => some .respond
  | _ => none

def handleGetPublicKey (sdk : Sdk) (p1 p2 : UInt8) (wireBuffer : List UInt8) (isOnInit : Bool) :
    DeviceCode Unit := do
  if isOnInit then
    modify fun device => { device with instructionState := .getPubKey .zero }
  onGetPubKey (modify fun ctx => { ctx with responseReady := 0 })
  validate (p1 == 0) errInvalidParameters
  validate (p2 == 0) errInvalidParameters
  let (path, parsedSize) ← bip44ParseFromWire (← onGetPubKey get).path wireBuffer
  onGetPubKey (modify fun ctx => { ctx with path := path })
  validate (parsedSize == wireBuffer.length) errInvalidData
  let policy ← policyForGetPublicKey path
  assertNotDenied policy
  let pubKey ← deriveExtendedPublicKey sdk path
  onGetPubKey (modify fun ctx => { ctx with pubKey := pubKey, responseReady := pubKeyReadyTag })
  match pubKeyUiStep policy with
  | some uiStep => setPubKeyStep uiStep
  | none => assertThat false
  runGetPublicKeyUIStep

end GetPublicKey

section GetAddress

variable (sdk : Sdk)

/-- RESPONSE_READY_TAG. -/
def addressReadyTag : Nat := 32123

def p1ReturnAddress : UInt8 := 0x01
def p1DisplayAddress : UInt8 := 0x02

/-- The size of the address buffer in the context. -/
def addressBufferSize : Nat := 64

def Device.getAddress? (device : Device) : Option GetAddressContext :=
  match device.instructionState with
  | .cleared => some .zero
  | .getAddress ctx => some ctx
  | _ => none

/-- Run code on the context of the instruction. -/
def onGetAddress {α : Type} (body : EStateM Exc GetAddressContext α) : DeviceCode α := fun device =>
  match device.getAddress? with
  | none => .error .undefined device
  | some ctx =>
    match body.run ctx with
    | .ok result after => .ok result { device with instructionState := .getAddress after }
    | .error exc after => .error exc { device with instructionState := .getAddress after }

def setAddressStep (uiStep : UiStep) : DeviceCode Unit :=
  onGetAddress (modify fun ctx => { ctx with uiStep := uiStep })

/-- Where the steps of an address go on after its path. -/
def afterPath (isShowAddress : Bool) : UiStep := if isShowAddress then .address else .confirm

def runGetAddressUIStep : DeviceCode Unit := do
  let ctx ← onGetAddress get
  match ctx.uiStep with
  | .warning =>
    uiDisplayPaginatedText "Unusual Request".toList "Be careful!".toList .runGetAddressUIStep
    setAddressStep .displayPath
  | .displayPath =>
    let (_, pathStr) ← formatted pathStrLength (bip44PathToStr ctx.path pathStrLength)
    uiDisplayPaginatedText "Address Path".toList pathStr .runGetAddressUIStep
    setAddressStep (afterPath ctx.isShowAddress)
  | .address =>
    assertThat (ctx.address.length.toNat < addressBufferSize)
    let (sha3Context, addrStr) ←
      formattedAddress sdk ctx.address.value.toList ctx.address.length.toNat 64
    onGetAddress (modify fun ctx => { ctx with sha3Context := sha3Context })
    uiDisplayPaginatedText "Address".toList addrStr .runGetAddressUIStep
    setAddressStep .respond
  | .confirm =>
    uiDisplayPrompt "Confirm".toList "Address?".toList .runGetAddressUIStep .uiRespondWithUserReject
    setAddressStep .respond
  | .respond =>
    assertThat (ctx.responseReady == addressReadyTag)
    assertThat (ctx.address.length.toNat ≤ addressBufferSize)
    ioSendBuf success (.address ctx.address)
    uiIdle
    setAddressStep .invalid
  | _ => assertThat false

/-- The step of the user interface that a policy starts with. -/
def addressUiStep (isShowAddress : Bool) : SecurityPolicy → Option UiStep
  | .warn => some .warning
  | .prompt => some (afterPath isShowAddress)
  | .allow => some .respond
  | _ => none

def handleGetAddress (p1 p2 : UInt8) (wireBuffer : List UInt8) (isOnInit : Bool) :
    DeviceCode Unit := do
  if isOnInit then
    modify fun device => { device with instructionState := .getAddress .zero }
  onGetAddress (modify fun ctx => { ctx with responseReady := 0 })
  validate (p1 == p1ReturnAddress || p1 == p1DisplayAddress) errInvalidParameters
  validate (p2 == 0) errInvalidParameters
  let isShowAddress := p1 == p1DisplayAddress
  onGetAddress (modify fun ctx => { ctx with isShowAddress := isShowAddress })
  let (path, parsedSize) ← bip44ParseFromWire (← onGetAddress get).path wireBuffer
  onGetAddress (modify fun ctx => { ctx with path := path })
  validate (parsedSize == wireBuffer.length) errInvalidData
  let policy ← policyForGetAddress path isShowAddress
  assertNotDenied policy
  let (sha3Context, raw) ← deriveAddress sdk path addressBufferSize
  let stored ← inside ((← onGetAddress get).address.store 0 raw)
  onGetAddress (modify fun ctx => { ctx with
    sha3Context := sha3Context
    address := stored.setLength raw.length
    responseReady := addressReadyTag })
  match addressUiStep isShowAddress policy with
  | some uiStep => setAddressStep uiStep
  | none => assertThat false
  runGetAddressUIStep sdk

end GetAddress

end FantomLedger
