import FantomLedger.NumberText
import Mathlib.Data.Vector.Defs

/-! Derivation paths: parsing from an APDU payload, the checks of the policy, and the text on
the screen. -/

namespace FantomLedger

open Library.Program TextBuffer

abbrev bip32MaxPathLength : Nat := 10

def maxReasonableAccount : UInt32 := 10
def operaChangeInternal : UInt32 := 1
def operaChangeExternal : UInt32 := 0
def maxReasonableAddress : UInt32 := 1000000

def bip44 : UInt32 := 44
def fantomCoinType : UInt32 := 60
def hardenedBip32 : UInt32 := 0x80000000

def bip44ICoinType : Nat := 1
def bip44IAccount : Nat := 2
def bip44IChange : Nat := 3
def bip44IAddress : Nat := 4
def bip44IRest : Nat := 5

/-- A derivation path; its length never exceeds the array. -/
structure Bip44Path where
  path : Vector UInt32 bip32MaxPathLength
  length : Nat
  fits : length ≤ bip32MaxPathLength
  deriving DecidableEq, Repr

def Bip44Path.zero : Bip44Path := ⟨Vector.replicate _ 0, 0, Nat.zero_le _⟩

/-- The indexes in use. -/
def Bip44Path.indexes (path : Bip44Path) : List UInt32 := path.path.toList.take path.length

def u2beRead (high low : UInt8) : UInt16 := (high.toUInt32 <<< 8 ||| low.toUInt32).toUInt16

/-- None when the buffer is shorter than the number. -/
def u4beRead : List UInt8 → Option UInt32
  | b0 :: b1 :: b2 :: b3 :: _ =>
      some ((u2beRead b0 b1).toUInt32 <<< 16 ||| (u2beRead b2 b3).toUInt32)
  | _ => none

variable {σ : Type}

/-- Read indexes into a path from a position on. -/
def parseIndexes : Nat → Nat → List UInt8 → Vector UInt32 bip32MaxPathLength →
    EStateM Exc σ (Vector UInt32 bip32MaxPathLength)
  | 0, _, _, path => pure path
  | count + 1, i, data, path => do
    let value ← inside (u4beRead data)
    let path ← inside (if inRange : i < bip32MaxPathLength then some (path.set i value) else none)
    parseIndexes count (i + 1) (data.drop 4) path

/-- The path, and the offset of the first byte behind it. -/
def bip44ParseFromWire (path : Bip44Path) (dataBuffer : List UInt8) :
    EStateM Exc σ (Bip44Path × Nat) := do
  validate (1 ≤ dataBuffer.length) errInvalidData
  let length := (← inside dataBuffer[0]?).toNat
  if fits : length ≤ bip32MaxPathLength then
    validate (length * 4 + 1 ≤ dataBuffer.length) errInvalidData
    let indexes ← parseIndexes length 0 (dataBuffer.drop 1) path.path
    return (⟨indexes, length, fits⟩, 1 + 4 * length)
  else
    throw (.thrown errInvalidData)

def bip44IsHardened (value : UInt32) : Bool := value == (value ||| hardenedBip32)

def bip44HasValidFantomPrefix (path : Bip44Path) : Bool :=
  decide (bip44ICoinType < path.length) && path.path[0] == (bip44 ||| hardenedBip32) &&
    path.path[1] == (fantomCoinType ||| hardenedBip32)

def bip44ContainsAccount (path : Bip44Path) : Bool := bip44IAccount < path.length

def bip44GetAccount (path : Bip44Path) : EStateM Exc σ UInt32 := do
  assertThat (bip44IAccount < path.length)
  return path.path[2]

def bip44HasReasonableAccount (path : Bip44Path) : EStateM Exc σ Bool := do
  if !bip44ContainsAccount path then
    return false
  let account ← bip44GetAccount path
  if !bip44IsHardened account then
    return false
  return decide (account &&& ~~~hardenedBip32 < maxReasonableAccount)

def bip44ContainsChangeType (path : Bip44Path) : Bool := bip44IChange < path.length

/-- The return type narrows the index to whether it differs from zero. -/
def bip44GetChangeType (path : Bip44Path) : EStateM Exc σ Bool := do
  assertThat (bip44IChange < path.length)
  return path.path[3] != 0

/-- No policy calls this check. -/
def bip44HasValidChangeType (path : Bip44Path) : EStateM Exc σ Bool := do
  if !bip44ContainsChangeType path then
    return false
  let type : UInt32 := if ← bip44GetChangeType path then 1 else 0
  return type == operaChangeExternal || type == operaChangeInternal

def bip44ContainsAddress (path : Bip44Path) : Bool := bip44IAddress < path.length

def bip44GetAddress (path : Bip44Path) : EStateM Exc σ UInt32 := do
  assertThat (bip44IAddress < path.length)
  return path.path[4]

def bip44HasReasonableAddress (path : Bip44Path) : EStateM Exc σ Bool := do
  if !bip44ContainsAddress path then
    return false
  return decide ((← bip44GetAddress path) ≤ maxReasonableAddress)

def bip44ContainsMoreThanAddress (path : Bip44Path) : Bool := bip44IRest < path.length

/-- Store as much of a text as fits, and the terminator. -/
def snprintf (offset size : Nat) (text : List Char) : TextCode Unit := do
  if 0 < size then
    let _ ← storeAll offset (text.take (size - 1) ++ ['\x00'])

def strlen (offset : Nat) : TextCode Nat := do
  return (← inside (cString ((← get).drop offset))).length

/-- The macro WRITE. -/
def writeText (ptr outSize : Nat) (text : List Char) : TextCode Nat := do
  assertThat (ptr ≤ outSize)
  let availableSize := outSize - ptr
  snprintf ptr availableSize text
  let res ← strlen ptr
  assertThat (res + 1 < availableSize)
  return ptr + res

def indexText (value : UInt32) : List Char :=
  if value &&& hardenedBip32 = hardenedBip32 then
    '/' :: digitText 10 (value &&& ~~~hardenedBip32).toNat ++ ['\x27']
  else
    '/' :: digitText 10 value.toNat

def writeIndexes (outSize : Nat) : List UInt32 → Nat → TextCode Nat
  | [], ptr => pure ptr
  | value :: indexes, ptr => do
    let ptr ← writeText ptr outSize (indexText value)
    writeIndexes outSize indexes ptr

def bip44PathToStr (path : Bip44Path) (outSize : Nat) : TextCode Unit := do
  assertThat (outSize < maxBufferSize)
  assertThat (0 < outSize)
  assertThat (path.length < bip32MaxPathLength)
  let ptr ← writeIndexes outSize path.indexes 0
  assertThat (ptr < outSize)

section Alike

variable {τ : Type}

theorem alike_parseIndexes (count i : Nat) (data : List UInt8)
    (path : Vector UInt32 bip32MaxPathLength) :
    Alike (parseIndexes count i data path : EStateM Exc σ _)
      (parseIndexes count i data path : EStateM Exc τ _) := by
  induction count generalizing i data path with
  | zero => exact alike_pure _
  | succ count ih =>
    apply (alike_inside _).bind
    intro value
    apply (alike_inside _).bind
    intro stored
    exact ih _ _ _

theorem alike_bip44ParseFromWire (path : Bip44Path) (dataBuffer : List UInt8) :
    Alike (bip44ParseFromWire path dataBuffer : EStateM Exc σ _)
      (bip44ParseFromWire path dataBuffer : EStateM Exc τ _) := by
  apply (alike_validate _ _).bind
  intro _
  apply (alike_inside _).bind
  intro first
  dsimp only
  split
  · apply (alike_validate _ _).bind
    intro _
    exact (alike_parseIndexes _ _ _ _).bind fun _ => alike_pure _
  · exact alike_throw _

end Alike

end FantomLedger
