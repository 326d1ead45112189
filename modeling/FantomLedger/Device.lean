import FantomLedger.TransactionSign

/-! The state of the device between two events, its answers, and the screens of the build for
small displays. -/

namespace FantomLedger

open Library.Program

inductive Ins where
  | version
  | getKey
  | getAddr
  | signTx
  deriving DecidableEq, Repr

inductive IoState where
  | expectIo
  | expectUi
  | expectNone
  deriving DecidableEq, Repr

/-- The functions that a callback pointer can hold. -/
inductive UiCallbackFn where
  | runGetPublicKeyUIStep
  | runGetAddressUIStep
  | runSignTransactionInitUIStep
  | runSignTransactionUIStep
  | uiRespondWithUserReject
  deriving DecidableEq, Repr

inductive UiCallbackState where
  | callbackNotRun
  | callbackRun
  deriving DecidableEq, Repr

structure UiCallback where
  state : UiCallbackState
  confirm : Option UiCallbackFn
  reject : Option UiCallbackFn
  deriving DecidableEq, Repr

/-- The shared display state; its guard tells which of the two texts it holds. -/
inductive DisplayState where
  | cleared
  | paginatedText (header text : List Char) (callback : UiCallback)
  | prompt (header text : List Char) (callback : UiCallback)
  deriving DecidableEq, Repr

/-- The flow that is on the screen. -/
inductive Flow where
  | idle
  | busy
  | paginatedText
  | prompt
  deriving DecidableEq, Repr

inductive UiStep where
  | none
  | warning
  | displayPath
  | address
  | confirm
  | respond
  | invalid
  deriving DecidableEq, Repr

structure GetPubKeyContext where
  responseReady : Nat
  path : Bip44Path
  pubKey : ExtendedPublicKey
  uiStep : UiStep
  deriving DecidableEq, Repr

def GetPubKeyContext.zero : GetPubKeyContext :=
  ⟨0, .zero, ⟨0, Vector.replicate _ 0, Vector.replicate _ 0⟩, .none⟩

/-- The address is the part of its buffer that is in use. -/
structure GetAddressContext where
  responseReady : Nat
  path : Bip44Path
  sha3Context : Sha3Context
  address : ByteField 64
  isShowAddress : Bool
  uiStep : UiStep
  deriving DecidableEq, Repr

def GetAddressContext.zero : GetAddressContext :=
  ⟨0, .zero, cxKeccakInit, .zero _, false, .none⟩

/-- The union of the instruction contexts. -/
inductive InstructionState where
  | cleared
  | getPubKey (ctx : GetPubKeyContext)
  | getAddress (ctx : GetAddressContext)
  | signTx (ctx : SignTxContext)
  deriving DecidableEq, Repr

/-- What a response carries. -/
inductive Payload where
  | empty
  | version (major minor patch flags : UInt8)
  | pubKey (pubKey : ExtendedPublicKey)
  | address (address : ByteField 64)
  | stage (stage : TxStage)
  | signature (signature : TxSignature)
  deriving DecidableEq, Repr

def Payload.bytes : Payload → List UInt8
  | .empty => []
  | .version major minor patch flags => [major, minor, patch, flags]
  | .pubKey key => key.length :: key.publicKey.toList ++ key.chainCode.toList
  | .address field => field.length :: field.bytes
  | .stage reached => [reached.toByte]
  | .signature signed => signed.v :: signed.r.toList ++ signed.s.toList

/-- What the outside sees of the device. -/
inductive Output where
  | response (code : Nat) (payload : Payload)
  | idle
  | busy
  | paginatedText (header text : List Char)
  | prompt (header text : List Char)
  deriving DecidableEq, Repr

/-- `currentIns` is none for INS_NONE. The stack supplies what an uninitialised local array
of 40 bytes holds, anew for each of them. -/
structure Device where
  currentIns : Option Ins
  ioState : IoState
  instructionState : InstructionState
  displayState : DisplayState
  flow : Flow
  stack : Nat → Vector UInt8 40
  outputs : List Output

abbrev DeviceCode := EStateM Exc Device

/-- G_io_apdu_buffer. -/
def ioApduBufferSize : Nat := 260

def emit (output : Output) : DeviceCode Unit :=
  modify fun device => { device with outputs := device.outputs ++ [output] }

def ioSendBuf (code : Nat) (payload : Payload) : DeviceCode Unit := do
  assertThat (payload.bytes.length + 2 < ioApduBufferSize)
  emit (.response code payload)
  modify fun device => { device with ioState := .expectIo }

def uiIdle : DeviceCode Unit := do
  modify fun device => { device with currentIns := none, flow := .idle }
  emit .idle

def uiDisplayBusy : DeviceCode Unit := do
  modify fun device => { device with displayState := .cleared }
  let ioState := (← get).ioState
  assertThat (ioState == .expectNone || ioState == .expectIo)
  modify fun device => { device with flow := .busy }
  emit .busy

/-- The length of a header on the screen. -/
def headerSize : Nat := 30
def paginatedTextSize : Nat := 200
def promptTextSize : Nat := 30

def uiCallbackInit (confirm reject : Option UiCallbackFn) : UiCallback :=
  ⟨.callbackNotRun, confirm, reject⟩

def uiDisplayPaginatedText (headerStr bodyStr : List Char) (callback : UiCallbackFn) :
    DeviceCode Unit := do
  assertThat (headerStr.length < headerSize)
  assertThat (bodyStr.length < paginatedTextSize)
  modify fun device => { device with
    displayState := .paginatedText headerStr bodyStr (uiCallbackInit (some callback) none) }
  let ioState := (← get).ioState
  assertThat (ioState == .expectNone || ioState == .expectUi)
  modify fun device => { device with ioState := .expectUi, flow := .paginatedText }
  emit (.paginatedText headerStr bodyStr)

def uiDisplayPrompt (headerStr bodyStr : List Char) (confirm reject : UiCallbackFn) :
    DeviceCode Unit := do
  assertThat (headerStr.length < headerSize)
  assertThat (bodyStr.length < promptTextSize)
  modify fun device => { device with
    displayState := .prompt headerStr bodyStr (uiCallbackInit (some confirm) (some reject)) }
  let ioState := (← get).ioState
  assertThat (ioState == .expectNone || ioState == .expectUi)
  modify fun device => { device with ioState := .expectUi, flow := .prompt }
  emit (.prompt headerStr bodyStr)

def uiRespondWithUserReject : DeviceCode Unit := do
  ioSendBuf errRejectedByUser .empty
  uiIdle

/-- The text that a function formats into an array of its caller. None of its characters is
read that is not stored first. -/
def formatted {α : Type} (size : Nat) (code : TextCode α) : DeviceCode (α × List Char) := do
  let (result, memory) ← TextBuffer.onBuffer (List.replicate size '\x00') code
  return (result, ← inside (TextBuffer.cString memory))

/-- The text of an address, in an array of the caller. -/
def formattedAddress (sdk : Sdk) (address : List UInt8) (addrLen size : Nat) :
    DeviceCode (Sha3Context × List Char) := do
  let tmp := (← get).stack 0
  modify fun device => { device with stack := fun call => device.stack (call + 1) }
  formatted size (addressFormatStr sdk address addrLen tmp size)

end FantomLedger
