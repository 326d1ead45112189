import FantomLedger.RlpUtils
import FantomLedger.TransactionFields

/-! The transaction stream: an RLP parser that is called once for each chunk the host
sends and picks up where the previous call ended. -/

namespace FantomLedger

open Library.Program

/-- A Keccak context: what it absorbed since it was initialised, and whether it was
finalised (CX_LAST) since. -/
structure Sha3Context where
  absorbed : List UInt8
  last : Bool
  deriving DecidableEq, Repr

def cxKeccakInit : Sha3Context := ⟨[], false⟩

def Sha3Context.cxHash (context : Sha3Context) (data : List UInt8) : Sha3Context :=
  { context with absorbed := context.absorbed ++ data }

inductive TxRlpField where
  | none
  | envelope
  | type
  | nonce
  | gasPrice
  | startGas
  | recipient
  | value
  | data
  | v
  | r
  | s
  | done
  deriving DecidableEq, Repr

/-- `currentField++`. The last field is never advanced. -/
def TxRlpField.next : TxRlpField → TxRlpField
  | .none => .envelope
  | .envelope => .type
  | .type => .nonce
  | .nonce => .gasPrice
  | .gasPrice => .startGas
  | .startGas => .recipient
  | .recipient => .value
  | .value => .data
  | .data => .v
  | .v => .r
  | .r => .s
  | .s => .done
  | .done => .done

inductive TxStreamStatus where
  | processing
  | finished
  | fault
  deriving DecidableEq, Repr

def txFlagType : UInt32 := 0x01

/-- The context of a transaction stream together with the hash context and the transaction
its two pointers refer to. The work buffer is the current chunk and the index of the next
byte in it; `workBufferLength` is the counter the code keeps beside the pointer. -/
structure TxStreamContext where
  sha3Context : Sha3Context
  currentField : TxRlpField
  currentFieldLength : Nat
  currentFieldPos : Nat
  isCurrentFieldList : Bool
  isProcessingField : Bool
  isFieldSingleByte : Bool
  dataLength : Nat
  rlpBuffer : RlpBuffer
  rlpBufferOffset : Nat
  workBuffer : List UInt8
  workBufferIndex : Nat
  workBufferLength : Nat
  processingFlags : UInt32
  tx : Transaction
  deriving DecidableEq, Repr

/-- A stream context after `memset`. -/
def TxStreamContext.zero (sha3Context : Sha3Context) (tx : Transaction) : TxStreamContext where
  sha3Context := sha3Context
  currentField := .none
  currentFieldLength := 0
  currentFieldPos := 0
  isCurrentFieldList := false
  isProcessingField := false
  isFieldSingleByte := false
  dataLength := 0
  rlpBuffer := Vector.replicate _ 0
  rlpBufferOffset := 0
  workBuffer := []
  workBufferIndex := 0
  workBufferLength := 0
  processingFlags := 0
  tx := tx

def txStreamInit (tx : Transaction) : TxStreamContext :=
  { TxStreamContext.zero cxKeccakInit tx with
    currentField := .envelope
    isProcessingField := false
    isFieldSingleByte := false }

abbrev StreamCode := EStateM Exc TxStreamContext

/-- Bytes of the chunk that were not consumed. -/
def TxStreamContext.unread (stream : TxStreamContext) : List UInt8 :=
  stream.workBuffer.drop stream.workBufferIndex

/-- Bytes at the work pointer. -/
def TxStreamContext.work (stream : TxStreamContext) (length : Nat) : Option (List UInt8) :=
  if stream.workBufferIndex + length ≤ stream.workBuffer.length then
    some (stream.unread.take length)
  else none

def txStreamReadByte : StreamCode UInt8 := do
  validate (1 ≤ (← get).workBufferLength) errInvalidData
  let data ← inside ((← get).workBuffer[(← get).workBufferIndex]?)
  modify fun stream => { stream with
    workBufferIndex := stream.workBufferIndex + 1
    workBufferLength := u32Sub stream.workBufferLength 1 }
  if (← get).isProcessingField then
    modify fun stream => { stream with currentFieldPos := u32 (stream.currentFieldPos + 1) }
  -- a single byte field was hashed when its header was detected
  if ¬((← get).isProcessingField ∧ (← get).isFieldSingleByte) then
    modify fun stream => { stream with sha3Context := stream.sha3Context.cxHash [data] }
  return data

/-- What `memcpy` to an index of a slot makes of the context. None where bytes go to a place that is
not part of it. -/
abbrev Store := TxSlot → Nat → List UInt8 → TxStreamContext → Option TxStreamContext

/-- Bytes go to the array of the slot only. -/
def storeInside : Store := fun slot index data stream =>
  (stream.tx.store slot index data).map fun tx => { stream with tx := tx }

/-- What lies behind the array of a slot is up to the compiler: bytes that pass its end go where
`overrun` puts them. -/
def storeOver (overrun : Store) : Store := fun slot index data stream =>
  (storeInside slot index data stream).or (overrun slot index data stream)

/-- Nothing that lies behind the arrays is part of the context: a store outside one ends the run. -/
def noOverrun : Store := fun _ _ _ _ => none

section Parser

variable (store : Store)

/-- `out` is the slot and the index in it the source's pointer refers to, none for NULL. -/
def txStreamCopyData (out : Option (TxSlot × Nat)) (length : Nat) : StreamCode Unit := do
  validate (length ≤ (← get).workBufferLength) errInvalidData
  let data ← inside ((← get).work length)
  if let some (slot, index) := out then
    assertThat (length < maxBufferSize)
    set (← inside (store slot index data (← get)))
  if ¬((← get).isProcessingField ∧ (← get).isFieldSingleByte) then
    modify fun stream => { stream with sha3Context := stream.sha3Context.cxHash data }
  modify fun stream => { stream with
    workBufferIndex := stream.workBufferIndex + length
    workBufferLength := u32Sub stream.workBufferLength length }
  if (← get).isProcessingField then
    modify fun stream => { stream with currentFieldPos := u32 (stream.currentFieldPos + length) }

def txStreamProcessEnvelope : StreamCode Unit := do
  validate (← get).isCurrentFieldList errInvalidData
  modify fun stream => { stream with
    dataLength := stream.currentFieldLength
    currentField := stream.currentField.next
    isProcessingField := false }

/-- The checks the field processors start with. -/
def txStreamCheckField (fieldSize : Option Nat) : StreamCode Unit := do
  validate (!(← get).isCurrentFieldList) errInvalidData
  match fieldSize with
  | some size => validate ((← get).currentFieldLength ≤ size) errInvalidData
  | none => pure ()

/-- Take what the field still lacks, or what the work buffer has of it. -/
def txStreamTakeField (slot : Option TxSlot) : StreamCode Unit := do
  let stream ← get
  if stream.currentFieldPos < stream.currentFieldLength then
    let wanted := stream.currentFieldLength - stream.currentFieldPos
    let toCopy := if stream.workBufferLength < wanted then stream.workBufferLength else wanted
    txStreamCopyData store (slot.map fun slot => (slot, stream.currentFieldPos)) toCopy

/-- A complete field gets its length and the stream moves on to the next one. -/
def txStreamCloseField (slot : Option TxSlot) : StreamCode Unit := do
  if (← get).currentFieldPos = (← get).currentFieldLength then
    match slot with
    | some slot => modify fun stream => { stream with
        tx := stream.tx.setLength slot stream.currentFieldLength }
    | none => pure ()
    modify fun stream => { stream with
      currentField := stream.currentField.next
      isProcessingField := false
      isFieldSingleByte := false }

/-- The four field processors of the source differ in the slot they fill and in the bound
on the announced length; the general one has neither. -/
def txStreamProcessField (slot : Option TxSlot) (fieldSize : Option Nat) : StreamCode Unit := do
  txStreamCheckField fieldSize
  txStreamTakeField store slot
  txStreamCloseField slot

def txStreamProcessInt256Field (field : Option TxSlot) (fieldSize : Nat) : StreamCode Unit :=
  txStreamProcessField store field (some fieldSize)

def txStreamProcessGeneralField : StreamCode Unit :=
  txStreamProcessField store none none

def txStreamProcessAddressField (address : Option TxSlot) (fieldSize : Nat) : StreamCode Unit :=
  txStreamProcessField store address (some fieldSize)

def txStreamProcessVField (v : Option TxSlot) (fieldSize : Nat) : StreamCode Unit :=
  txStreamProcessField store v (some fieldSize)

/-- A method signature of 4 bytes and parameters padded to 32 bytes. -/
def looksLikeContractCall (length : Nat) : Bool :=
  4 ≤ length && (length - 4) % 32 == 0

def txStreamParseFieldProxy : StreamCode TxStreamStatus := do
  match (← get).currentField with
  | .envelope =>
    txStreamProcessEnvelope
    if (← get).processingFlags &&& txFlagType = 0 then
      modify fun stream => { stream with currentField := stream.currentField.next }
  | .type => txStreamProcessInt256Field store none txMaxInt256Length
  | .nonce => txStreamProcessInt256Field store none txMaxInt256Length
  | .gasPrice => txStreamProcessInt256Field store (some .gasPrice) txMaxInt256Length
  | .startGas => txStreamProcessInt256Field store (some .startGas) txMaxInt256Length
  | .value => txStreamProcessInt256Field store (some .value) txMaxInt256Length
  | .recipient => txStreamProcessAddressField store (some .recipient) txMaxAddressLength
  | .data =>
    if (← get).currentFieldPos = 0 then
      modify fun stream => { stream with tx := { stream.tx with
        isContractCall := looksLikeContractCall stream.currentFieldLength } }
    txStreamProcessGeneralField store
  -- the size of an integer field, not of the array the bytes go to
  | .v => txStreamProcessVField store (some .v) txMaxInt256Length
  | .r => txStreamProcessGeneralField store
  | .s => txStreamProcessGeneralField store
  | .none => return .fault
  | .done => return .fault
  return .processing

/-- One round of the detection loop. The status and `canDecode` once the loop ends. -/
def txStreamDetectRound : StreamCode (Option (TxStreamStatus × Bool)) := do
  if (← get).workBufferLength = 0 then
    return some (.processing, false)
  if (← get).rlpBufferOffset = rlpLengthBufferSize then
    return some (.fault, false)
  let data ← txStreamReadByte
  let offset := (← get).rlpBufferOffset
  if inBuffer : offset < rlpLengthBufferSize then
    modify fun stream => { stream with rlpBuffer := stream.rlpBuffer.set offset data }
  else
    throw .undefined
  modify fun stream => { stream with rlpBufferOffset := stream.rlpBufferOffset + 1 }
  match ← rlpCanDecode (← get).rlpBuffer (← get).rlpBufferOffset with
  | none => return none
  | some false => return some (.fault, false)
  | some true => return some (.processing, true)

/-- A round reads one byte of the chunk, so the chunk bounds the rounds. -/
def txStreamDetectField : StreamCode (TxStreamStatus × Bool) := do
  iterate .diverges txStreamDetectRound ((← get).workBufferLength + 1)

/-- Move the work pointer back to the byte that was read last. -/
def stepBack (stream : TxStreamContext) : Option TxStreamContext :=
  if stream.workBufferIndex = 0 then none
  else some { stream with
    workBufferIndex := stream.workBufferIndex - 1
    workBufferLength := u32 (stream.workBufferLength + 1) }

/-- Detect the next field and prepare the context for it. The value is the status the
parser returns with, none when it goes on with the field. -/
def txStreamEnterField : StreamCode (Option TxStreamStatus) := do
  let (status, canDecode) ← txStreamDetectField
  if status = .fault then
    return some .fault
  if ¬canDecode then
    return some .processing
  match ← rlpDecodeLength (← get).rlpBuffer (← get).rlpBufferOffset with
  | none => return some .fault
  | some decoded =>
    modify fun stream => { stream with
      currentFieldLength := decoded.fieldLength
      isCurrentFieldList := decoded.isList }
    if decoded.offset = 0 then
      modify fun stream => { stream with isFieldSingleByte := true }
      set (← inside (stepBack (← get)))
    modify fun stream => { stream with
      rlpBufferOffset := 0
      currentFieldPos := 0
      isProcessingField := true }
    return none

/-- One round of the parser's endless loop. -/
def txStreamParseRound : StreamCode (Option TxStreamStatus) := do
  if (← get).currentField = .done then
    return some .finished
  if (← get).workBufferLength = 0 then
    return some .processing
  if ¬(← get).isProcessingField then
    if let some status ← txStreamEnterField then
      return some status
  if (← txStreamParseFieldProxy store) = .fault then
    return some .fault
  return none

/-- Every round but the last two moves to a later field, so more rounds are never run while each
store stays inside its array. -/
def parseRounds : Nat := 14

/-- Where a store behind an array moves the stream back to an earlier field, the chunk bounds the rounds:
each consumes a byte of it. -/
def txStreamParse : StreamCode TxStreamStatus := do
  iterate .diverges (txStreamParseRound store) ((← get).workBufferLength + parseRounds)

/-- TRY with a CATCH_OTHER that only sets a result. -/
def catching {σ α : Type} (body : EStateM Exc σ α) (caught : α) : EStateM Exc σ α :=
  fun state =>
    match body.run state with
    | .error (.thrown _) kept => .ok caught kept
    | other => other

def txStreamProcess (buffer : List UInt8) (length : Nat) (flags : UInt32) :
    StreamCode TxStreamStatus :=
  catching (do
    validate (0 < length) errInvalidData
    validate ((← get).currentField ≠ .none ∧ (← get).currentField ≠ .done) errInvalidData
    modify fun stream => { stream with
      workBuffer := buffer
      workBufferIndex := 0
      workBufferLength := length
      processingFlags := flags }
    txStreamParse store) .fault

/-- A chunk as the host can send it: not empty, and its length fits a `uint32_t`. -/
structure Chunk where
  bytes : List UInt8
  nonempty : bytes ≠ []
  length_lt : bytes.length < 2 ^ 32

/-- What a sequence of calls leaves behind: the last status (or the exception that ended
the run), the stream, and all bytes handed over. -/
structure Fed where
  status : Except Exc TxStreamStatus
  stream : TxStreamContext
  received : List UInt8

/-- A chunk and the flags of its call. -/
abbrev Call := Chunk × UInt32

/-- Feed chunks in order and stop at the first call that does not ask for more. -/
def feed : TxStreamContext → List Call → Fed
  | stream, [] => ⟨.ok .processing, stream, []⟩
  | stream, (chunk, flags) :: calls =>
      match (txStreamProcess store chunk.bytes chunk.bytes.length flags).run stream with
      | .ok .processing next =>
          let later := feed next calls
          { later with received := chunk.bytes ++ later.received }
      | .ok status next => ⟨.ok status, next, chunk.bytes⟩
      | .error exc next => ⟨.error exc, next, chunk.bytes⟩

/-- Feed every chunk, whatever the calls before it answered. -/
def txStreamCalls : List Call → StreamCode Unit
  | [] => pure ()
  | (chunk, flags) :: calls => do
    let _ ← txStreamProcess store chunk.bytes chunk.bytes.length flags
    txStreamCalls calls

end Parser

end FantomLedger
