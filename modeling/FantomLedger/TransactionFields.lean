import FantomLedger.Errors
import Mathlib.Data.Vector.Defs

/-! Memory of a collected transaction: fixed byte arrays with a length, and stores into
them at an index. -/

namespace FantomLedger

def txSignatureHashLength : Nat := 32
def txMaxInt256Length : Nat := 32
def txMaxAddressLength : Nat := 20
def txMaxVLength : Nat := 4

/-- A byte array of fixed capacity and the number of its bytes in use. -/
structure ByteField (capacity : Nat) where
  value : Vector UInt8 capacity
  length : UInt8
  deriving DecidableEq, Repr

abbrev TxInt256 := ByteField txMaxInt256Length
abbrev TxAddress := ByteField txMaxAddressLength
abbrev TxV := ByteField txMaxVLength

structure Transaction where
  gasPrice : TxInt256
  startGas : TxInt256
  value : TxInt256
  recipient : TxAddress
  sender : TxAddress
  v : TxV
  isContractCall : Bool
  deriving DecidableEq, Repr

namespace ByteField

variable {capacity : Nat}

def zero (capacity : Nat) : ByteField capacity := ⟨Vector.replicate capacity 0, 0⟩

/-- The bytes in use. -/
def bytes (field : ByteField capacity) : List UInt8 :=
  field.value.toList.take field.length.toNat

/-- Store bytes from an index on; none when one of them lies outside the array. -/
def store (field : ByteField capacity) : Nat → List UInt8 → Option (ByteField capacity)
  | _, [] => some field
  | index, byte :: rest =>
      if inRange : index < capacity then
        store { field with value := field.value.set index byte } (index + 1) rest
      else none

def setLength (field : ByteField capacity) (length : Nat) : ByteField capacity :=
  { field with length := UInt8.ofNat length }

/-- A field that holds the given bytes; they are taken to fit. -/
def ofBytes (capacity : Nat) (source : List UInt8) : ByteField capacity :=
  (((zero capacity).store 0 source).getD (zero capacity)).setLength source.length

theorem store_append (field : ByteField capacity) (index : Nat) (first second : List UInt8) :
    field.store index (first ++ second) =
      (field.store index first).bind fun stored => stored.store (index + first.length) second := by
  induction first generalizing field index with
  | nil => rfl
  | cons byte rest ih =>
    simp only [List.cons_append, store]
    split_ifs
    · rw [ih]
      simp only [List.length_cons, Nat.add_assoc, Nat.add_comm 1]
    · rfl

/-- Every store of the bytes goes to an index below the capacity, or none is made good. -/
theorem store_isSome_iff (field : ByteField capacity) (index : Nat) (source : List UInt8) :
    (field.store index source).isSome ↔ source = [] ∨ index + source.length ≤ capacity := by
  induction source generalizing field index with
  | nil => simp [store]
  | cons byte rest ih =>
    simp only [store]
    split_ifs with inRange
    · rw [ih]
      cases rest with
      | nil => simp; omega
      | cons next later => simp only [List.length_cons, reduceCtorEq, false_or]; omega
    · simp only [Option.isSome_none, Bool.false_eq_true, List.length_cons, false_or,
        false_iff]
      omega

theorem store_spec {field stored : ByteField capacity} {index : Nat} {source : List UInt8}
    (done : field.store index source = some stored) (fits : index + source.length ≤ capacity) :
    stored.length = field.length ∧ stored.value.toList =
      field.value.toList.take index ++ source ++
        field.value.toList.drop (index + source.length) := by
  induction source generalizing field index with
  | nil => cases done; simp
  | cons byte rest ih =>
    simp only [List.length_cons] at fits
    have inRange : index < capacity := by omega
    simp only [store, inRange, ↓reduceDIte] at done
    obtain ⟨sameLength, content⟩ := ih done (by omega)
    refine ⟨sameLength, ?_⟩
    rw [content]
    have room : index < field.value.toList.length := by simpa using inRange
    simp only [Vector.toList_set, List.length_cons]
    have behind : (field.value.toList.take index).length ≤ index := List.length_take_le _ _
    rw [List.take_set, List.drop_set_of_lt (by omega), List.take_succ_eq_append_getElem room,
      List.set_append_right _ _ behind]
    have start : index - min index capacity = 0 := by omega
    simp [start, Nat.add_assoc, Nat.add_comm 1]

/-- After a store at the start and the length to go with it, the bytes in use are the
stored ones. -/
theorem bytes_store {field stored : ByteField capacity} {source : List UInt8}
    (done : field.store 0 source = some stored) (fits : source.length ≤ capacity)
    (small : capacity < 256) :
    (stored.setLength source.length).bytes = source ∧
      (stored.setLength source.length).length.toNat = source.length := by
  obtain ⟨_, content⟩ := store_spec done (by omega)
  have byte : (UInt8.ofNat source.length).toNat = source.length := by
    rw [UInt8.toNat_ofNat']
    exact Nat.mod_eq_of_lt (by omega)
  refine ⟨?_, byte⟩
  unfold bytes setLength
  simp only [byte, content, List.take_zero, List.nil_append]
  exact List.take_left

end ByteField

/-- The fields the stream stores. -/
inductive TxSlot where
  | gasPrice
  | startGas
  | value
  | recipient
  | v
  deriving DecidableEq, Repr

def TxSlot.capacity : TxSlot → Nat
  | .gasPrice | .startGas | .value => txMaxInt256Length
  | .recipient => txMaxAddressLength
  | .v => txMaxVLength

theorem TxSlot.capacity_small (slot : TxSlot) : slot.capacity < 256 := by
  cases slot <;> decide

namespace Transaction

def zero : Transaction :=
  ⟨.zero _, .zero _, .zero _, .zero _, .zero _, .zero _, false⟩

def field (tx : Transaction) : (slot : TxSlot) → ByteField slot.capacity
  | .gasPrice => tx.gasPrice
  | .startGas => tx.startGas
  | .value => tx.value
  | .recipient => tx.recipient
  | .v => tx.v

def setField (tx : Transaction) : (slot : TxSlot) → ByteField slot.capacity → Transaction
  | .gasPrice, field => { tx with gasPrice := field }
  | .startGas, field => { tx with startGas := field }
  | .value, field => { tx with value := field }
  | .recipient, field => { tx with recipient := field }
  | .v, field => { tx with v := field }

def store (tx : Transaction) (slot : TxSlot) (index : Nat) (source : List UInt8) :
    Option Transaction :=
  ((tx.field slot).store index source).map (tx.setField slot)

def setLength (tx : Transaction) (slot : TxSlot) (length : Nat) : Transaction :=
  tx.setField slot ((tx.field slot).setLength length)

@[simp] theorem field_setField_self (tx : Transaction) (slot : TxSlot)
    (new : ByteField slot.capacity) : (tx.setField slot new).field slot = new := by
  cases slot <;> rfl

@[simp] theorem setField_setField (tx : Transaction) (slot : TxSlot)
    (old new : ByteField slot.capacity) :
    (tx.setField slot old).setField slot new = tx.setField slot new := by
  cases slot <;> rfl

@[simp] theorem setField_field (tx : Transaction) (slot : TxSlot) :
    tx.setField slot (tx.field slot) = tx := by
  cases slot <;> rfl

theorem field_setField_ne (tx : Transaction) {slot other : TxSlot} (different : other ≠ slot)
    (new : ByteField slot.capacity) : (tx.setField slot new).field other = tx.field other := by
  cases slot <;> cases other <;> first | rfl | exact absurd rfl different

@[simp] theorem isContractCall_setField (tx : Transaction) (slot : TxSlot)
    (new : ByteField slot.capacity) :
    (tx.setField slot new).isContractCall = tx.isContractCall := by
  cases slot <;> rfl

theorem store_nil (tx : Transaction) (slot : TxSlot) (index : Nat) :
    tx.store slot index [] = some tx := by
  simp [store, ByteField.store]

theorem store_append (tx : Transaction) (slot : TxSlot) (index : Nat)
    (first second : List UInt8) :
    tx.store slot index (first ++ second) =
      (tx.store slot index first).bind fun stored =>
        stored.store slot (index + first.length) second := by
  simp only [store, ByteField.store_append]
  cases (tx.field slot).store index first with
  | none => rfl
  | some stored =>
    simp only [Option.bind_some, Option.map_some, field_setField_self]
    congr 1
    funext later
    simp

theorem store_isSome_iff (tx : Transaction) (slot : TxSlot) (index : Nat) (source : List UInt8) :
    (tx.store slot index source).isSome ↔
      source = [] ∨ index + source.length ≤ slot.capacity := by
  simpa [store] using ByteField.store_isSome_iff (tx.field slot) index source

end Transaction

end FantomLedger
