import FantomLedger.TxStream

/-! Where the bytes of a v item go that pass the end of its array, on the processor the device has: the
members behind it lie in memory as they are declared, each on a multiple of its size. -/

namespace FantomLedger

/-- A number in memory, its lowest byte first. -/
def leBytes : Nat → Nat → List UInt8
  | 0, _ => []
  | size + 1, number => UInt8.ofNat number :: leBytes size (number / 256)

def leNat : List UInt8 → Nat
  | [] => 0
  | byte :: bytes => byte.toNat + 256 * leNat bytes

@[simp] theorem leBytes_length (size number : Nat) : (leBytes size number).length = size := by
  induction size generalizing number with
  | zero => rfl
  | succ size ih => rw [leBytes, List.length_cons, ih]

theorem leNat_leBytes {size number : Nat} (fits : number < 256 ^ size) :
    leNat (leBytes size number) = number := by
  induction size generalizing number with
  | zero => exact (Nat.lt_one_iff.mp fits).symm
  | succ size ih =>
    have byte : (UInt8.ofNat number).toNat = number % 256 := UInt8.toNat_ofNat'
    have shorter : number / 256 < 256 ^ size := Nat.div_lt_of_lt_mul (by rwa [Nat.pow_succ'] at fits)
    rw [leBytes, leNat, ih shorter, byte, Nat.mod_add_div]

def wordBytes (word : Nat) : List UInt8 := leBytes 4 word

def boolByte (flag : Bool) : UInt8 := if flag then 1 else 0

def TxRlpField.number : TxRlpField → Nat
  | .none => 0
  | .envelope => 1
  | .type => 2
  | .nonce => 3
  | .gasPrice => 4
  | .startGas => 5
  | .recipient => 6
  | .value => 7
  | .data => 8
  | .v => 9
  | .r => 10
  | .s => 11
  | .done => 12

/-- The memory from the end of the array of v to the header buffer: the rest of the transaction with a byte
that is not used, the pointer to the hash context, and the stream with another such byte behind its flags. The
field takes a word; where a compiler gives it one byte, three that are not used follow it. -/
def TxStreamContext.behindV (sha3Address : Nat) (stream : TxStreamContext) : List UInt8 :=
  [stream.tx.v.length, boolByte stream.tx.isContractCall, 0] ++
    (wordBytes sha3Address ++ (wordBytes stream.currentField.number ++
      (wordBytes stream.currentFieldLength ++ (wordBytes stream.currentFieldPos ++
        ([boolByte stream.isCurrentFieldList, boolByte stream.isProcessingField,
          boolByte stream.isFieldSingleByte, 0] ++
            (wordBytes stream.dataLength ++ stream.rlpBuffer.toList))))))

/-- The memory from the array of v on. -/
def TxStreamContext.image (sha3Address : Nat) (stream : TxStreamContext) : List UInt8 :=
  stream.tx.v.value.toList ++ stream.behindV sha3Address

def wordAt (image : List UInt8) (offset : Nat) : Nat := leNat ((image.drop offset).take 4)

def readBool (byte : UInt8) : Option Bool :=
  if byte = 0 then some false
  else if byte = 1 then some true
  else none

/-- The fields in the order of their numbers. -/
def rlpFields : List TxRlpField :=
  [.none, .envelope, .type, .nonce, .gasPrice, .startGas, .recipient, .value, .data, .v, .r, .s, .done]

/-- The context that a memory holds. None when the pointer leads away from the hash context, or a member
has a value that its type does not have. -/
def TxStreamContext.ofImage (sha3Address : Nat) (stream : TxStreamContext) (image : List UInt8) :
    Option TxStreamContext := do
  let isContractCall ← readBool (image.getD 5 0)
  let currentField ← rlpFields[wordAt image 11]?
  let isCurrentFieldList ← readBool (image.getD 23 0)
  let isProcessingField ← readBool (image.getD 24 0)
  let isFieldSingleByte ← readBool (image.getD 25 0)
  if wordAt image 7 = sha3Address then
    some { stream with
      tx := { stream.tx with
        v := ⟨Vector.ofFn fun place => image.getD place 0, image.getD 4 0⟩
        isContractCall := isContractCall }
      currentField := currentField
      currentFieldLength := wordAt image 15
      currentFieldPos := wordAt image 19
      isCurrentFieldList := isCurrentFieldList
      isProcessingField := isProcessingField
      isFieldSingleByte := isFieldSingleByte
      dataLength := wordAt image 27
      rlpBuffer := Vector.ofFn fun place => image.getD (31 + place) 0 }
  else none

/-- Bytes of a v item go to the memory from its array on. -/
def memoryOverrun (sha3Address : Nat) : Store := fun slot index data stream =>
  let image := stream.image sha3Address
  if slot = .v ∧ index + data.length ≤ image.length then
    stream.ofImage sha3Address (image.take index ++ data ++ image.drop (index + data.length))
  else none

theorem wordBytes_length (word : Nat) : (wordBytes word).length = 4 := leBytes_length 4 word

theorem wordAt_append {front : List UInt8} {offset : Nat} (behind : front.length ≤ offset) (rest : List UInt8) :
    wordAt (front ++ rest) offset = wordAt rest (offset - front.length) := by
  rw [wordAt, wordAt, List.drop_append, List.drop_of_length_le behind, List.nil_append]

theorem wordAt_wordBytes {word : Nat} (fits : word < 2 ^ 32) (rest : List UInt8) :
    wordAt (wordBytes word ++ rest) 0 = word := by
  rw [wordAt, List.drop_zero, List.take_left' (wordBytes_length word)]
  exact leNat_leBytes fits

theorem byteAt_append {front : List UInt8} {offset : Nat} (behind : front.length ≤ offset) (rest : List UInt8) :
    (front ++ rest).getD offset 0 = rest.getD (offset - front.length) 0 := by
  rw [List.getD_eq_getElem?_getD, List.getD_eq_getElem?_getD, List.getElem?_append_right behind]

theorem rlpFields_number (field : TxRlpField) : rlpFields[field.number]? = some field := by
  cases field <;> rfl

theorem readBool_boolByte (flag : Bool) : readBool (boolByte flag) = some flag := by
  cases flag <;> rfl

theorem ofFn_byteAt {size : Nat} (array : Vector UInt8 size) (rest : List UInt8) :
    (Vector.ofFn fun place : Fin size => (array.toList ++ rest).getD place 0) = array := by
  apply Vector.ext
  intro place within
  simp [List.getD_eq_getElem?_getD, List.getElem?_append_left]

theorem ofFn_byteAt_end {size : Nat} (array : Vector UInt8 size) {front : List UInt8} {offset : Nat}
    (behind : front.length = offset) :
    (Vector.ofFn fun place : Fin size => (front ++ array.toList).getD (offset + place) 0) = array := by
  apply Vector.ext
  intro place within
  simp [List.getD_eq_getElem?_getD, ← behind]

theorem number_lt (field : TxRlpField) : field.number < 2 ^ 32 := by
  cases field <;> decide

/-- The members of the context fit the places that they have in memory. -/
structure TxStreamContext.InMemory (stream : TxStreamContext) : Prop where
  length : stream.currentFieldLength < 2 ^ 32
  position : stream.currentFieldPos < 2 ^ 32
  dataLength : stream.dataLength < 2 ^ 32

/-- The memory of a context holds all of its members. -/
theorem ofImage_image {sha3Address : Nat} {stream : TxStreamContext} (address : sha3Address < 2 ^ 32)
    (inMemory : stream.InMemory) :
    stream.ofImage sha3Address (stream.image sha3Address) = some stream := by
  have field := wordAt_wordBytes (number_lt stream.currentField)
  have buffer : (Vector.ofFn fun place : Fin rlpLengthBufferSize =>
      (stream.image sha3Address).getD (31 + place) 0) = stream.rlpBuffer := by
    simp only [TxStreamContext.image, TxStreamContext.behindV, ← List.append_assoc]
    exact ofFn_byteAt_end stream.rlpBuffer (by simp [wordBytes_length, txMaxVLength])
  have array : (Vector.ofFn fun place : Fin txMaxVLength =>
      (stream.image sha3Address).getD place 0) = stream.tx.v.value :=
    ofFn_byteAt _ _
  unfold TxStreamContext.ofImage
  rw [buffer, array]
  unfold TxStreamContext.image TxStreamContext.behindV
  simp (disch := simp [wordBytes_length, txMaxVLength]) only [wordAt_append, byteAt_append,
    Vector.length_toList, txMaxVLength, List.length_cons, List.length_nil, Nat.reduceSub,
    Nat.reduceAdd, wordBytes_length]
  simp only [wordAt_wordBytes address, field, wordAt_wordBytes inMemory.length,
    wordAt_wordBytes inMemory.position, wordAt_wordBytes inMemory.dataLength, List.cons_append,
    List.getD_cons_zero, List.getD_cons_succ, readBool_boolByte, rlpFields_number]
  rfl

/-- Inside the array of v the memory is written as the array is. -/
theorem memoryOverrun_inside {sha3Address : Nat} {stream next : TxStreamContext} {index : Nat}
    {data : List UInt8} (address : sha3Address < 2 ^ 32) (inMemory : stream.InMemory)
    (fits : index + data.length ≤ txMaxVLength)
    (stored : storeInside .v index data stream = some next) :
    memoryOverrun sha3Address .v index data stream = some next := by
  obtain ⟨tx, put, rfl⟩ := Option.map_eq_some_iff.mp stored
  obtain ⟨field, written, rfl⟩ := Option.map_eq_some_iff.mp put
  obtain ⟨length, value⟩ := ByteField.store_spec written fits
  have array : stream.tx.v.value.toList.length = txMaxVLength := Vector.length_toList
  have behind : { stream with tx := stream.tx.setField .v field }.behindV sha3Address =
      stream.behindV sha3Address := by
    show (field.length :: _) = (stream.tx.v.length :: _)
    rw [length]
    rfl
  have overwritten : (stream.image sha3Address).take index ++ data ++
      (stream.image sha3Address).drop (index + data.length) =
        { stream with tx := stream.tx.setField .v field }.image sha3Address := by
    rw [TxStreamContext.image, TxStreamContext.image, behind,
      List.take_append_of_le_length (by omega), List.drop_append_of_le_length (by omega)]
    show _ = field.value.toList ++ _
    rw [value, List.append_assoc, List.append_assoc, List.append_assoc]
    rfl
  have size : index + data.length ≤ (stream.image sha3Address).length := by
    rw [TxStreamContext.image, List.length_append]
    omega
  rw [memoryOverrun, if_pos ⟨rfl, size⟩, overwritten]
  exact @ofImage_image _ { stream with tx := stream.tx.setField .v field } address
    ⟨inMemory.length, inMemory.position, inMemory.dataLength⟩

end FantomLedger
