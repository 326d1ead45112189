import FantomLedger.StreamParser

/-! A stream context that waits for more input stands for a parser state, and a field
processor that is handed a chunk follows the parser's run over it. -/

namespace FantomLedger

open Library Library.Machine Library.Program StreamParser

/-- What a call has not read yet, and its flags. -/
structure Pending (s : TxStreamContext) (flags : UInt32) (rest : List UInt8) : Prop where
  bytes : s.unread = rest
  inside : s.workBufferIndex ≤ s.workBuffer.length
  count : s.workBufferLength = rest.length
  small : rest.length < 2 ^ 32
  sameFlags : s.processingFlags = flags

/-- The context after `taken` was copied into the current field. -/
def TxStreamContext.copied (s : TxStreamContext) (tx : Transaction) (taken : List UInt8) :
    TxStreamContext :=
  { s with
    tx := tx
    sha3Context := if s.isFieldSingleByte then s.sha3Context else s.sha3Context.cxHash taken
    workBufferIndex := s.workBufferIndex + taken.length
    workBufferLength := s.workBufferLength - taken.length
    currentFieldPos := s.currentFieldPos + taken.length }

theorem txStreamCopyData_run (s : TxStreamContext) (slot : Option TxSlot) (flags : UInt32)
    (taken rest : List UInt8) (pending : Pending s flags (taken ++ rest))
    (processing : s.isProcessingField = true)
    (short : slot.isSome → taken.length < maxBufferSize)
    (fits : s.currentFieldPos + taken.length < 2 ^ 32) :
    (txStreamCopyData storeInside (slot.map fun slot => (slot, s.currentFieldPos)) taken.length).run s =
      match storeAt slot s.tx s.currentFieldPos taken with
      | none => .error .undefined s
      | some tx => .ok () (s.copied tx taken) := by
  obtain ⟨bytes, inside, count, small, rfl⟩ := pending
  simp only [List.length_append] at count small
  have room : s.workBufferIndex + taken.length ≤ s.workBuffer.length := by
    have room := congrArg List.length bytes
    simp only [TxStreamContext.unread, List.length_drop, List.length_append] at room
    omega
  have work : s.work taken.length = some taken := by
    simp only [TxStreamContext.work, room, ↓reduceIte, bytes, List.take_left']
  have enough : taken.length ≤ s.workBufferLength := by omega
  have spent := u32Sub_of_le enough (by omega)
  have moved := u32_of_lt fits
  unfold txStreamCopyData
  cases slot with
  | none =>
    cases single : s.isFieldSingleByte <;>
      simp [enough, work, processing, single, storeAt, TxStreamContext.copied, spent, moved]
  | some slot =>
    have short : taken.length < maxBufferSize := short rfl
    simp only [storeAt]
    cases stored : s.tx.store slot s.currentFieldPos taken <;>
      cases single : s.isFieldSingleByte <;>
        simp [enough, work, processing, single, short, storeInside, stored, TxStreamContext.copied, spent, moved]

/-- The context once `taken` has been taken into the current field. -/
def TxStreamContext.filled (s : TxStreamContext) (slot : Option TxSlot) (tx : Transaction)
    (taken : List UInt8) : TxStreamContext :=
  if s.currentFieldPos + taken.length = s.currentFieldLength then
    { s.copied tx taken with
      tx := closeTx slot tx s.currentFieldLength
      currentField := s.currentField.next
      isProcessingField := false
      isFieldSingleByte := false }
  else s.copied tx taken

theorem txStreamCheckField_run (s : TxStreamContext) (fieldSize : Option Nat)
    (string : s.isCurrentFieldList = false)
    (bounded : ∀ size, fieldSize = some size → s.currentFieldLength ≤ size) :
    (txStreamCheckField fieldSize).run s = .ok () s := by
  unfold txStreamCheckField
  cases fieldSize with
  | none => simp [string]
  | some size => simp [string, bounded size rfl]

theorem txStreamCheckField_refuses (s : TxStreamContext) (fieldSize : Option Nat)
    (fails : s.isCurrentFieldList = true ∨ ∃ size, fieldSize = some size ∧ size < s.currentFieldLength) :
    (txStreamCheckField fieldSize).run s = .error (.thrown errInvalidData) s := by
  unfold txStreamCheckField
  cases list : s.isCurrentFieldList with
  | true => simp [list]
  | false =>
    obtain ⟨size, rfl, long⟩ := fails.resolve_left (by simp [list])
    simp [list, Nat.not_le.mpr long]

theorem txStreamTakeField_run (s : TxStreamContext) (slot : Option TxSlot) (flags : UInt32)
    (rest : List UInt8) (pending : Pending s flags rest) (processing : s.isProcessingField = true)
    (short : slot.isSome → s.currentFieldLength < maxBufferSize)
    (pos : s.currentFieldPos ≤ s.currentFieldLength) (fits : s.currentFieldLength < 2 ^ 32) :
    (txStreamTakeField storeInside slot).run s =
      match storeAt slot s.tx s.currentFieldPos
          (rest.take (s.currentFieldLength - s.currentFieldPos)) with
      | none => .error .undefined s
      | some tx => .ok () (s.copied tx
          (rest.take (s.currentFieldLength - s.currentFieldPos))) := by
  have count := pending.count
  unfold txStreamTakeField
  by_cases lacking : s.currentFieldPos < s.currentFieldLength
  · have taken : (rest.take (s.currentFieldLength - s.currentFieldPos)).length =
        if s.workBufferLength < s.currentFieldLength - s.currentFieldPos then s.workBufferLength
        else s.currentFieldLength - s.currentFieldPos := by
      rw [List.length_take]
      split_ifs <;> omega
    have copy := txStreamCopyData_run s slot flags
      (rest.take (s.currentFieldLength - s.currentFieldPos))
      (rest.drop (s.currentFieldLength - s.currentFieldPos)) (by simpa using pending) processing
      (by intro stored; have := short stored; rw [List.length_take]; omega)
      (by rw [List.length_take]; omega)
    rw [taken] at copy
    simp [lacking, copy]
  · have nothing : s.currentFieldLength - s.currentFieldPos = 0 := by omega
    simp [lacking, nothing, storeAt_nil, TxStreamContext.copied, Sha3Context.cxHash]

theorem txStreamCloseField_run (s : TxStreamContext) (slot : Option TxSlot) (tx : Transaction)
    (taken : List UInt8) :
    (txStreamCloseField slot).run (s.copied tx taken) = .ok () (s.filled slot tx taken) := by
  unfold txStreamCloseField TxStreamContext.filled TxStreamContext.copied
  cases slot <;> by_cases full : s.currentFieldPos + taken.length = s.currentFieldLength <;>
    simp [full, closeTx]

/-- A field processor takes what the current field still lacks and closes the field when
that completes it. -/
theorem txStreamProcessField_run (s : TxStreamContext) (slot : Option TxSlot)
    (fieldSize : Option Nat) (flags : UInt32) (rest : List UInt8)
    (pending : Pending s flags rest) (processing : s.isProcessingField = true)
    (string : s.isCurrentFieldList = false)
    (bounded : ∀ size, fieldSize = some size → s.currentFieldLength ≤ size)
    (short : slot.isSome → s.currentFieldLength < maxBufferSize)
    (pos : s.currentFieldPos ≤ s.currentFieldLength) (fits : s.currentFieldLength < 2 ^ 32) :
    (txStreamProcessField storeInside slot fieldSize).run s =
      match storeAt slot s.tx s.currentFieldPos
          (rest.take (s.currentFieldLength - s.currentFieldPos)) with
      | none => .error .undefined s
      | some tx => .ok () (s.filled slot tx
          (rest.take (s.currentFieldLength - s.currentFieldPos))) := by
  have copy := txStreamTakeField_run s slot flags rest pending processing short pos fits
  unfold txStreamProcessField
  simp only [EStateM.run_bind, txStreamCheckField_run s fieldSize string bounded, copy]
  cases storeAt slot s.tx s.currentFieldPos
      (rest.take (s.currentFieldLength - s.currentFieldPos)) with
  | none => rfl
  | some tx => exact txStreamCloseField_run s slot tx _

/-- The context after the start of a data item was looked at. -/
def TxStreamContext.noted (s : TxStreamContext) : TxStreamContext :=
  if s.currentField = .data ∧ s.currentFieldPos = 0 then
    { s with tx := { s.tx with isContractCall := looksLikeContractCall s.currentFieldLength } }
  else s

/-- The proxy sends an item to the general processor, with the slot and the bound of its
field, after looking at the start of a data item. -/
theorem txStreamParseFieldProxy_item (s : TxStreamContext) (item : IsItem s.currentField) :
    (txStreamParseFieldProxy storeInside).run s =
      ((fun _ => .processing) <$>
        txStreamProcessField storeInside (slot s.currentField) (limit s.currentField)).run s.noted := by
  obtain ⟨someField, notEnvelope, notDone⟩ := item
  unfold txStreamParseFieldProxy TxStreamContext.noted
  cases field : s.currentField with
  | none => exact absurd field someField
  | envelope => exact absurd field notEnvelope
  | done => exact absurd field notDone
  | data =>
    by_cases start : s.currentFieldPos = 0 <;>
      simp [field, start, slot, limit, txStreamProcessGeneralField]
  | type => simp [field, slot, limit, txStreamProcessInt256Field]
  | nonce => simp [field, slot, limit, txStreamProcessInt256Field]
  | gasPrice => simp [field, slot, limit, txStreamProcessInt256Field]
  | startGas => simp [field, slot, limit, txStreamProcessInt256Field]
  | value => simp [field, slot, limit, txStreamProcessInt256Field]
  | recipient => simp [field, slot, limit, txStreamProcessAddressField]
  | v => simp [field, slot, limit, txStreamProcessVField]
  | r => simp [field, slot, limit, txStreamProcessGeneralField]
  | s => simp [field, slot, limit, txStreamProcessGeneralField]

/-- The part of a stream context that depends on the phase. -/
def AtPhase (p : Parser) (s : TxStreamContext) : Prop :=
  match p.phase with
  | .header seen =>
      s.isProcessingField = false ∧ s.rlpBufferOffset = seen.length ∧
        s.rlpBuffer.toList.take seen.length = seen
  | .content length pos =>
      s.isProcessingField = true ∧ s.isCurrentFieldList = false ∧ s.rlpBufferOffset = 0 ∧
        s.currentFieldLength = length ∧ s.currentFieldPos = pos

/-- A stream context that waits for the next byte stands for a parser. -/
structure Represents (p : Parser) (s : TxStreamContext) : Prop where
  field : s.currentField = p.field
  hash : s.sha3Context = ⟨p.absorbed, false⟩
  dataLength : s.dataLength = p.dataLength
  tx : s.tx = p.tx
  single : s.isFieldSingleByte = false
  phase : AtPhase p s
  valid : p.Valid

/-- A stream context every further call on which is answered with a fault. -/
def Stuck (s : TxStreamContext) : Prop :=
  s.currentField = .done ∨
  (s.isProcessingField = false ∧ s.rlpBufferOffset = rlpLengthBufferSize) ∨
  (s.isProcessingField = true ∧ s.currentField = .envelope ∧ s.isCurrentFieldList = false) ∨
  (s.isProcessingField = true ∧ IsItem s.currentField ∧
    (s.isCurrentFieldList = true ∨ ¬WithinLimit s.currentField s.currentFieldLength))

/-- A result of the stream code agrees with a verdict of the parser. A thrown exception is
turned into a fault by the caller. -/
def Agrees (flags : UInt32) (rest : List UInt8) :
    Verdict Parser Stop → EStateM.Result Exc TxStreamContext TxStreamStatus → Prop
  | .more p, .ok .processing s => Represents p s ∧ Pending s flags rest
  | .finished p, .ok .processing s => Represents p s ∧ Pending s flags rest ∧ p.field = .done
  | .failed .fault, .ok .fault s => Stuck s
  | .failed .fault, .error (.thrown _) s => Stuck s
  | .failed .overrun, .error .undefined _ => True
  | _, _ => False

/-- The context holds an item of announced length `length`, of which `pos` bytes were taken
when the parser had absorbed what it has. -/
structure InItem (p : Parser) (length pos : Nat) (s : TxStreamContext) : Prop where
  field : s.currentField = p.field
  hash : s.sha3Context = ⟨p.absorbed, false⟩
  dataLength : s.dataLength = p.dataLength
  tx : s.tx = p.tx
  processing : s.isProcessingField = true
  string : s.isCurrentFieldList = false
  offset : s.rlpBufferOffset = 0
  announced : s.currentFieldLength = length
  position : s.currentFieldPos = pos
  item : IsItem p.field
  within : WithinLimit p.field length
  before : pos ≤ length
  small : length < 2 ^ 32

/-- Only a field with a small bound has a slot. -/
theorem short_of_slot {field : TxRlpField} {length : Nat} (within : WithinLimit field length)
    (stored : (slot field).isSome) : length < maxBufferSize := by
  unfold WithinLimit at within
  cases field <;> simp_all [slot, limit, maxBufferSize, txMaxInt256Length, txMaxAddressLength] <;>
    omega

theorem InItem.noted {p : Parser} {length pos : Nat} {s : TxStreamContext}
    (current : InItem p length pos s) :
    InItem { p with tx := if pos = 0 then noteTx p.field p.tx length else p.tx } length pos
      s.noted := by
  obtain ⟨field, hash, dataLength, tx, processing, string, offset, announced, position, item,
    within, before, small⟩ := current
  unfold TxStreamContext.noted noteTx
  subst announced position
  by_cases data : s.currentField = .data <;> by_cases start : s.currentFieldPos = 0 <;>
    simp only [data, start, and_self, and_false, false_and, ↓reduceIte, ← field] <;>
    constructor <;> simp_all

theorem Pending.noted {s : TxStreamContext} {flags : UInt32} {rest : List UInt8}
    (pending : Pending s flags rest) : Pending s.noted flags rest := by
  unfold TxStreamContext.noted
  split_ifs
  · exact ⟨pending.1, pending.2, pending.3, pending.4, pending.5⟩
  · exact pending

theorem Pending.copied {s : TxStreamContext} {flags : UInt32} {taken rest : List UInt8}
    (pending : Pending s flags (taken ++ rest)) (tx : Transaction) :
    Pending (s.copied tx taken) flags rest := by
  obtain ⟨bytes, inside, count, small, same⟩ := pending
  have room := congrArg List.length bytes
  simp only [TxStreamContext.unread, List.length_drop, List.length_append] at bytes room count small
  refine ⟨?_, ?_, ?_, ?_, same⟩
  · simp only [TxStreamContext.unread, TxStreamContext.copied, ← List.drop_drop, bytes,
      List.drop_left']
  · simp only [TxStreamContext.copied]
    omega
  · simp only [TxStreamContext.copied]
    omega
  · omega

theorem Pending.filled {s : TxStreamContext} {flags : UInt32} {taken rest : List UInt8}
    (pending : Pending s flags (taken ++ rest)) (slot : Option TxSlot) (tx : Transaction) :
    Pending (s.filled slot tx taken) flags rest := by
  have copied := pending.copied tx
  unfold TxStreamContext.filled
  split_ifs
  · exact ⟨copied.1, copied.2, copied.3, copied.4, copied.5⟩
  · exact copied

theorem noteTx_noteTx (field : TxRlpField) (tx : Transaction) (length : Nat) :
    noteTx field (noteTx field tx length) length = noteTx field tx length := by
  unfold noteTx
  split_ifs <;> rfl

/-- Closing a complete field leaves the context at the start of the next header. -/
theorem represents_close {p : Parser} {length pos : Nat} {s : TxStreamContext}
    {taken : List UInt8} (tx : Transaction) (current : InItem p length pos s)
    (full : pos + taken.length = length) :
    Represents
      { p with
        field := p.field.next
        phase := .header []
        tx := closeTx (slot p.field) tx length
        absorbed := if s.isFieldSingleByte then p.absorbed else p.absorbed ++ taken }
      (s.filled (slot s.currentField) tx taken) := by
  have complete : s.currentFieldPos + taken.length = s.currentFieldLength := by
    rw [current.position, current.announced, full]
  have advanced : p.field.next ≠ .none := by cases p.field <;> simp [TxRlpField.next]
  simp only [TxStreamContext.filled, complete, ↓reduceIte, TxStreamContext.copied]
  refine ⟨?_, ?_, current.dataLength, ?_, rfl, ?_, ?_⟩
  · exact congrArg TxRlpField.next current.field
  · cases s.isFieldSingleByte <;> simp [current.hash, Sha3Context.cxHash]
  · simp only [current.field, current.announced]
  · exact ⟨rfl, current.offset, rfl⟩
  · exact ⟨advanced, Nat.zero_le _, Or.inl rfl⟩

/-- An incomplete field leaves the context inside the item. -/
theorem represents_partial {p : Parser} {length pos : Nat} {s : TxStreamContext}
    {taken : List UInt8} (tx : Transaction) (current : InItem p length pos s)
    (lacking : pos + taken.length < length) (framed : s.isFieldSingleByte = false)
    (noted : pos + taken.length = 0 → noteTx p.field tx length = tx) :
    Represents
      { p with
        phase := .content length (pos + taken.length)
        tx := tx
        absorbed := p.absorbed ++ taken }
      (s.filled (slot s.currentField) tx taken) := by
  have incomplete : s.currentFieldPos + taken.length ≠ s.currentFieldLength := by
    rw [current.position, current.announced]
    omega
  simp only [TxStreamContext.filled, incomplete, ↓reduceIte, TxStreamContext.copied, framed]
  refine ⟨current.field, ?_, current.dataLength, rfl, rfl, ?_, ?_⟩
  · simp [current.hash, Sha3Context.cxHash]
  · exact ⟨current.processing, current.string, current.offset, current.announced,
      by simp only [current.position]⟩
  · exact ⟨current.item, current.within, lacking, current.small, noted⟩

/-- An item takes what it lacks from the chunk and agrees with the parser on it. -/
theorem txStreamParseFieldProxy_agrees {p : Parser} {length pos : Nat} {s : TxStreamContext}
    {flags : UInt32} {rest : List UInt8} (current : InItem p length pos s)
    (pending : Pending s flags rest)
    (single : s.isFieldSingleByte = true → length ≤ pos + rest.length) :
    Agrees flags (rest.drop (length - pos))
      (Parser.fill
        { p with
          tx := if pos = 0 then noteTx p.field p.tx length else p.tx
          absorbed := if s.isFieldSingleByte then p.absorbed
            else p.absorbed ++ rest.take (length - pos) }
        length pos (rest.take (length - pos)))
      ((txStreamParseFieldProxy storeInside).run s) := by
  have proxied := txStreamParseFieldProxy_item s (by rw [current.field]; exact current.item)
  have sameSingle : s.noted.isFieldSingleByte = s.isFieldSingleByte := by
    unfold TxStreamContext.noted
    split_ifs <;> rfl
  have sameField : s.noted.currentField = s.currentField := by
    unfold TxStreamContext.noted
    split_ifs <;> rfl
  have noted := current.noted
  have waiting := pending.noted
  generalize known : (if pos = 0 then noteTx p.field p.tx length else p.tx) = tx at noted ⊢
  have processed := txStreamProcessField_run s.noted (slot s.currentField)
    (limit s.currentField) flags rest waiting noted.processing noted.string
    (by
      intro size bound
      rw [noted.announced]
      exact current.within size (by rw [← current.field]; exact bound))
    (by
      intro stored
      rw [noted.announced]
      exact short_of_slot current.within (by rw [← current.field]; exact stored))
    (by rw [noted.announced, noted.position]; exact current.before)
    (by rw [noted.announced]; exact current.small)
  rw [noted.announced, noted.position, noted.tx] at processed
  have takenLength : (rest.take (length - pos)).length = min (length - pos) rest.length :=
    List.length_take
  have split : rest.take (length - pos) ++ rest.drop (length - pos) = rest :=
    List.take_append_drop _ _
  generalize rest.take (length - pos) = taken at *
  generalize rest.drop (length - pos) = later at *
  subst split
  rw [proxied, run_map, processed]
  simp only [Parser.fill, current.field]
  cases stored : storeAt (slot p.field) tx pos taken with
  | none => trivial
  | some next =>
    simp only
    have remaining := waiting.filled (slot p.field) next
    by_cases full : pos + taken.length = length
    · have closed := represents_close next noted full
      rw [sameField, current.field, sameSingle] at closed
      simp only [if_pos full, Parser.close]
      by_cases done : p.field.next = .done
      · rw [if_pos done]
        exact ⟨closed, remaining, done⟩
      · rw [if_neg done]
        exact ⟨closed, remaining⟩
    · have framed : s.isFieldSingleByte = false := by
        by_contra one
        have enough := single (by simpa using one)
        have before := current.before
        simp only [List.length_append] at enough takenLength
        omega
      have lacking : pos + taken.length < length := by
        have := current.before
        omega
      have inside := represents_partial next noted lacking
        (by rw [sameSingle]; exact framed) (by
          intro start
          have none : taken = [] := List.length_eq_zero_iff.mp (by omega)
          have first : pos = 0 := by omega
          subst none first known
          simp only [storeAt_nil, Option.some.injEq] at stored
          subst stored
          simp only [↓reduceIte, noteTx_noteTx])
      rw [sameField, current.field] at inside
      simp only [if_neg full, framed, Bool.false_eq_true, ↓reduceIte]
      exact ⟨inside, remaining⟩

/-- A list or a field longer than its bound is refused. -/
theorem txStreamParseFieldProxy_refuses {s : TxStreamContext} (item : IsItem s.currentField)
    (fails : s.isCurrentFieldList = true ∨ ¬WithinLimit s.currentField s.currentFieldLength) :
    (txStreamParseFieldProxy storeInside).run s = .error (.thrown errInvalidData) s.noted := by
  have noted : s.noted.isCurrentFieldList = s.isCurrentFieldList ∧
      s.noted.currentFieldLength = s.currentFieldLength := by
    unfold TxStreamContext.noted
    split_ifs <;> exact ⟨rfl, rfl⟩
  have refused := txStreamCheckField_refuses s.noted (limit s.currentField) (by
    rw [noted.1, noted.2]
    refine fails.imp_right fun long => ?_
    simpa [WithinLimit] using long)
  rw [txStreamParseFieldProxy_item s item, run_map]
  unfold txStreamProcessField
  simp only [EStateM.run_bind, refused]

theorem Stuck.noted {s : TxStreamContext} (item : IsItem s.currentField)
    (processing : s.isProcessingField = true)
    (fails : s.isCurrentFieldList = true ∨ ¬WithinLimit s.currentField s.currentFieldLength) :
    Stuck s.noted := by
  unfold TxStreamContext.noted
  split_ifs <;> exact Or.inr (Or.inr (Or.inr ⟨processing, item, fails⟩))

end FantomLedger
