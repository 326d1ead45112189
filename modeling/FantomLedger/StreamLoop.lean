import FantomLedger.StreamRefinement

/-! The endless loop of the parser, with the arrays of the transaction apart from everything else:
whatever a store does to them, the loop ends, reads the chunk only, and counts what is left of it. -/

namespace FantomLedger

open Library Library.Program StreamParser

/-- The arrays of the transaction are apart from everything else: a store changes the transaction only. -/
def storeApart (store : Transaction → TxSlot → Nat → List UInt8 → Transaction) : Store :=
  fun slot index data stream => some { stream with tx := store stream.tx slot index data }

/-- What holds of a stream between two calls. -/
structure Sound (s : TxStreamContext) : Prop where
  header : s.rlpBufferOffset ≤ rlpLengthBufferSize
  length : s.currentFieldLength < 2 ^ 32
  position : s.isProcessingField = true → s.currentFieldPos ≤ s.currentFieldLength

/-- The pointer is in the chunk, and the counter is the number of bytes that are left of it. -/
structure Counted (chunk : List UInt8) (s : TxStreamContext) : Prop where
  buffer : s.workBuffer = chunk
  count : s.workBufferIndex + s.workBufferLength = chunk.length

/-- The code stops only by an exception that the caller catches, with the count still right. -/
def StopsCounted (chunk : List UInt8) (exc : Exc) (s : TxStreamContext) : Prop :=
  (∃ code, exc = .thrown code) ∧ Counted chunk s ∧ s.rlpBufferOffset ≤ rlpLengthBufferSize

section Loop

variable {store : Transaction → TxSlot → Nat → List UInt8 → Transaction} {chunk : List UInt8}
  {s : TxStreamContext}

theorem Counted.stops (counted : Counted chunk s) (header : s.rlpBufferOffset ≤ rlpLengthBufferSize)
    (code : Nat) : StopsCounted chunk (.thrown code) s :=
  ⟨⟨code, rfl⟩, counted, header⟩

theorem txStreamReadByte_ends (counted : Counted chunk s) (small : chunk.length < 2 ^ 32)
    (between : s.isProcessingField = false) (header : s.rlpBufferOffset ≤ rlpLengthBufferSize) :
    Ends txStreamReadByte s (fun _ t => ∃ sha3Context, t = { s with
      sha3Context := sha3Context
      workBufferIndex := s.workBufferIndex + 1
      workBufferLength := s.workBufferLength - 1 } ∧ 0 < s.workBufferLength)
      (StopsCounted chunk) := by
  have count := counted.count
  unfold txStreamReadByte
  apply ends_bind_ok rfl
  apply ends_bind_validate (counted.stops header _)
  intro some
  have left : 1 ≤ s.workBufferLength := of_decide_eq_true some
  have inChunk : s.workBufferIndex < s.workBuffer.length := by
    rw [counted.buffer]
    omega
  have lowered : u32Sub s.workBufferLength 1 = s.workBufferLength - 1 := u32Sub_of_le left (by omega)
  apply ends_bind_ok rfl
  apply ends_bind_ok rfl
  apply ends_bind_inside (List.getElem?_eq_getElem inChunk)
  apply ends_bind_ok rfl
  apply ends_bind_ok rfl
  dsimp only
  rw [if_neg (by simp [between]), lowered]
  apply ends_bind_ok rfl
  apply ends_bind_ok rfl
  rw [if_pos (by simp [between])]
  exact ends_bind_ok rfl (ends_of_ok rfl ⟨_, rfl, left⟩)

/-- A stream that is between two fields, in a call. -/
structure Detecting (chunk : List UInt8) (field : TxRlpField) (fieldLength : Nat) (s : TxStreamContext) :
    Prop extends Counted chunk s where
  header : s.rlpBufferOffset ≤ rlpLengthBufferSize
  between : s.isProcessingField = false
  sameField : s.currentField = field
  sameLength : s.currentFieldLength = fieldLength

theorem txStreamDetectRound_ends {field : TxRlpField} {fieldLength : Nat}
    (detecting : Detecting chunk field fieldLength s) (small : chunk.length < 2 ^ 32) :
    Ends txStreamDetectRound s (fun result t => Detecting chunk field fieldLength t ∧
      (result = none → t.workBufferLength < s.workBufferLength) ∧
        ∀ status, result = some (status, true) → 0 < t.workBufferIndex) (StopsCounted chunk) := by
  have header := detecting.header
  unfold txStreamDetectRound
  apply ends_bind_ok rfl
  split_ifs with empty
  · exact ends_of_ok rfl ⟨detecting, nofun, nofun⟩
  · apply ends_bind_ok rfl
    split_ifs with full
    · exact ends_of_ok rfl ⟨detecting, nofun, nofun⟩
    · apply Ends.bind
      apply (txStreamReadByte_ends detecting.toCounted small detecting.between header).mono
      rintro byte _ ⟨sha3Context, rfl, left⟩
      apply ends_bind_ok rfl
      have inBuffer : s.rlpBufferOffset < rlpLengthBufferSize := Nat.lt_of_le_of_ne header full
      simp only [inBuffer, ↓reduceDIte]
      apply ends_bind_ok rfl
      apply ends_bind_ok rfl
      apply ends_bind_ok rfl
      apply ends_bind_ok (rlpCanDecode_run _ _ _ (Nat.succ_pos _) inBuffer)
      have count := detecting.count
      have next : Detecting chunk field fieldLength { s with
          sha3Context := sha3Context
          workBufferIndex := s.workBufferIndex + 1
          workBufferLength := s.workBufferLength - 1
          rlpBuffer := s.rlpBuffer.set s.rlpBufferOffset byte
          rlpBufferOffset := s.rlpBufferOffset + 1 } :=
        ⟨⟨detecting.buffer, by dsimp only; omega⟩, inBuffer, detecting.between, detecting.sameField,
          detecting.sameLength⟩
      split_ifs
      · exact ends_of_ok rfl ⟨next, fun _ => Nat.sub_lt left Nat.one_pos, nofun⟩
      · exact ends_of_ok rfl ⟨next, nofun, fun _ _ => Nat.succ_pos _⟩

theorem txStreamDetectField_ends {field : TxRlpField} {fieldLength : Nat}
    (detecting : Detecting chunk field fieldLength s) (small : chunk.length < 2 ^ 32) :
    Ends txStreamDetectField s (fun result t => Detecting chunk field fieldLength t ∧
      (result.2 = true → 0 < t.workBufferIndex)) (StopsCounted chunk) := by
  unfold txStreamDetectField
  apply ends_bind_ok rfl
  apply ends_iterate (Detecting chunk field fieldLength) TxStreamContext.workBufferLength _
    detecting (Nat.lt_succ_self _)
  intro s detecting
  apply (txStreamDetectRound_ends detecting small).mono
  rintro result t ⟨kept, lower, found⟩
  refine ⟨fun none => ⟨kept, lower none⟩, ?_⟩
  rintro ⟨status, canDecode⟩ rfl
  refine ⟨kept, ?_⟩
  rintro rfl
  exact found status rfl

theorem rlpReadLength_ends {σ : Type} {stops : Exc → σ → Prop} {s : σ}
    (refused : ∀ code, stops (.thrown code) s) (buffer : RlpBuffer) (length width : Nat) :
    Ends (rlpReadLength buffer length width) s
      (fun result t => t = s ∧ ∀ fieldLength, result = some fieldLength → fieldLength < 2 ^ 32) stops := by
  have word (n : Nat) : u32 n < 2 ^ 32 := Nat.mod_lt _ (by decide)
  have yields {n : Nat} (small : n < 2 ^ 32) : s = s ∧ ∀ value, some n = some value → value < 2 ^ 32 := by
    refine ⟨rfl, ?_⟩
    rintro _ ⟨⟩
    exact small
  unfold rlpReadLength
  split
  · apply ends_bind_validate (refused _)
    intro _
    exact ends_of_ok rfl (yields (buffer[1].toNat_lt.trans (by decide)))
  · apply ends_bind_validate (refused _)
    intro _
    exact ends_of_ok rfl (yields (word _))
  · apply ends_bind_validate (refused _)
    intro _
    exact ends_of_ok rfl (yields (word _))
  · apply ends_bind_validate (refused _)
    intro _
    exact ends_of_ok rfl (yields (word _))
  · exact ends_of_ok rfl ⟨rfl, nofun⟩

set_option maxRecDepth 4096 in
/-- A decoded length fits 32 bits, whatever the header. -/
theorem rlpDecodeLength_ends {σ : Type} {stops : Exc → σ → Prop} {s : σ}
    (refused : ∀ code, stops (.thrown code) s) (buffer : RlpBuffer) (length : Nat) :
    Ends (rlpDecodeLength buffer length) s
      (fun result t => t = s ∧ ∀ decoded, result = some decoded → decoded.fieldLength < 2 ^ 32) stops := by
  have first := buffer.first.toNat_lt
  have yields {decoded : RlpLength} (small : decoded.fieldLength < 2 ^ 32) :
      s = s ∧ ∀ value, some decoded = some value → value.fieldLength < 2 ^ 32 := by
    refine ⟨rfl, ?_⟩
    rintro _ ⟨⟩
    exact small
  unfold rlpDecodeLength
  apply ends_bind_validate (refused _)
  intro _
  dsimp only
  split_ifs
  · exact ends_of_ok rfl (yields (by decide))
  · exact ends_of_ok rfl (yields (by dsimp only; omega))
  · refine Ends.bind ?_
    apply (rlpReadLength_ends refused buffer length _).mono
    rintro (_ | fieldLength) _ ⟨rfl, small⟩
    · exact ends_of_ok rfl ⟨rfl, nofun⟩
    · exact ends_of_ok rfl (yields (small fieldLength rfl))
  · exact ends_of_ok rfl (yields (by dsimp only; omega))
  · refine Ends.bind ?_
    apply (rlpReadLength_ends refused buffer length _).mono
    rintro (_ | fieldLength) _ ⟨rfl, small⟩
    · exact ends_of_ok rfl ⟨rfl, nofun⟩
    · exact ends_of_ok rfl (yields (small fieldLength rfl))

theorem stepBack_counted (counted : Counted chunk s) (small : chunk.length < 2 ^ 32)
    (read : 0 < s.workBufferIndex) :
    stepBack s = some { s with
      workBufferIndex := s.workBufferIndex - 1
      workBufferLength := s.workBufferLength + 1 } ∧
      s.workBufferIndex - 1 + (s.workBufferLength + 1) = chunk.length := by
  have count := counted.count
  have lengthened : u32 (s.workBufferLength + 1) = s.workBufferLength + 1 := u32_of_lt (by omega)
  rw [stepBack, if_neg read.ne', lengthened]
  exact ⟨rfl, by omega⟩

theorem txStreamEnterField_ends (counted : Counted chunk s) (small : chunk.length < 2 ^ 32)
    (sound : Sound s) (between : s.isProcessingField = false) :
    Ends txStreamEnterField s (fun result t => Counted chunk t ∧ Sound t ∧
      t.currentField = s.currentField ∧ (result = none → t.isProcessingField = true))
      (StopsCounted chunk) := by
  have detecting : Detecting chunk s.currentField s.currentFieldLength s :=
    ⟨counted, sound.header, between, rfl, rfl⟩
  unfold txStreamEnterField
  apply Ends.bind
  apply (txStreamDetectField_ends detecting small).mono
  rintro ⟨status, canDecode⟩ t ⟨found, read⟩
  have resting : Sound t := by
    refine ⟨found.header, ?_, ?_⟩
    · rw [found.sameLength]
      exact sound.length
    · intro processing
      rw [found.between] at processing
      cases processing
  dsimp only
  split_ifs with fault decodes
  · exact ends_of_ok rfl ⟨found.toCounted, resting, found.sameField, nofun⟩
  · apply ends_bind_ok rfl
    apply ends_bind_ok rfl
    apply Ends.bind
    apply (rlpDecodeLength_ends (found.stops found.header) _ _).mono
    rintro (_ | decoded) u ⟨same, fits⟩
    all_goals subst same
    · exact ends_of_ok rfl ⟨found.toCounted, resting, found.sameField, nofun⟩
    · have small' : decoded.fieldLength < 2 ^ 32 := fits decoded rfl
      apply ends_bind_ok rfl
      split_ifs with single
      · apply ends_bind_ok rfl
        apply ends_bind_ok rfl
        have back := stepBack_counted (s := { u with
          currentFieldLength := decoded.fieldLength
          isCurrentFieldList := decoded.isList
          isFieldSingleByte := true }) ⟨found.buffer, found.count⟩ small (read decodes)
        apply ends_bind_inside back.1
        exact ends_of_ok rfl ⟨⟨found.buffer, back.2⟩, ⟨Nat.zero_le _, small', fun _ => Nat.zero_le _⟩,
          found.sameField, fun _ => rfl⟩
      · exact ends_of_ok rfl ⟨⟨found.buffer, found.count⟩,
          ⟨Nat.zero_le _, small', fun _ => Nat.zero_le _⟩, found.sameField, fun _ => rfl⟩
  · exact ends_of_ok rfl ⟨found.toCounted, resting, found.sameField, nofun⟩

theorem txStreamCopyData_ends {out : Option (TxSlot × Nat)} {length : Nat}
    (counted : Counted chunk s) (small : chunk.length < 2 ^ 32) (processing : s.isProcessingField = true)
    (available : length ≤ s.workBufferLength) (fits : s.currentFieldPos + length < 2 ^ 32)
    (short : out.isSome → length < maxBufferSize) :
    Ends (txStreamCopyData (storeApart store) out length) s (fun _ t => ∃ sha3Context tx, t = { s with
      sha3Context := sha3Context
      tx := tx
      workBufferIndex := s.workBufferIndex + length
      workBufferLength := s.workBufferLength - length
      currentFieldPos := s.currentFieldPos + length }) (StopsCounted chunk) := by
  have count := counted.count
  have inChunk : s.workBufferIndex + length ≤ s.workBuffer.length := by
    rw [counted.buffer]
    omega
  have lowered : u32Sub s.workBufferLength length = s.workBufferLength - length :=
    u32Sub_of_le available (by omega)
  have copies : s.work length = some (s.unread.take length) := if_pos inChunk
  have advances (sha3Context : Sha3Context) (tx : Transaction) :
      Ends (do
        if ¬((← get).isProcessingField ∧ (← get).isFieldSingleByte) then
          modify fun stream => { stream with
            sha3Context := stream.sha3Context.cxHash (s.unread.take length) }
        modify fun stream => { stream with
          workBufferIndex := stream.workBufferIndex + length
          workBufferLength := u32Sub stream.workBufferLength length }
        if (← get).isProcessingField then
          modify fun stream => { stream with currentFieldPos := u32 (stream.currentFieldPos + length) } :
            StreamCode Unit) { s with sha3Context := sha3Context, tx := tx }
        (fun _ t => ∃ sha3Context tx, t = { s with
          sha3Context := sha3Context
          tx := tx
          workBufferIndex := s.workBufferIndex + length
          workBufferLength := s.workBufferLength - length
          currentFieldPos := s.currentFieldPos + length }) (StopsCounted chunk) := by
    apply ends_bind_ok rfl
    apply ends_bind_ok rfl
    dsimp only
    split_ifs
    · apply ends_bind_ok rfl
      apply ends_bind_ok rfl
      rw [if_pos processing]
      refine ends_of_ok rfl ⟨sha3Context, tx, ?_⟩
      dsimp only
      rw [lowered, u32_of_lt fits]
    · apply ends_bind_ok rfl
      apply ends_bind_ok rfl
      apply ends_bind_ok rfl
      rw [if_pos processing]
      refine ends_of_ok rfl ⟨sha3Context.cxHash (s.unread.take length), tx, ?_⟩
      dsimp only
      rw [lowered, u32_of_lt fits]
  unfold txStreamCopyData
  apply ends_bind_ok rfl
  rw [decide_eq_true available, validate_true, pure_bind]
  apply ends_bind_ok rfl
  apply ends_bind_inside copies
  cases out with
  | none => exact advances s.sha3Context s.tx
  | some place =>
    apply ends_bind_assert (decide_eq_true (short rfl))
    apply ends_bind_ok rfl
    exact advances s.sha3Context _

theorem txStreamTakeField_ends {slot : Option TxSlot} (counted : Counted chunk s)
    (small : chunk.length < 2 ^ 32) (sound : Sound s) (processing : s.isProcessingField = true)
    (short : slot.isSome → s.currentFieldLength < maxBufferSize) :
    Ends (txStreamTakeField (storeApart store) slot) s (fun _ t => Counted chunk t ∧ Sound t ∧
      t.isProcessingField = true ∧ t.currentField = s.currentField ∧
      (t.currentFieldPos = t.currentFieldLength ∨ t.workBufferLength = 0)) (StopsCounted chunk) := by
  have count := counted.count
  have position := sound.position processing
  have length := sound.length
  unfold txStreamTakeField
  apply ends_bind_ok rfl
  split_ifs with lacking
  · dsimp only
    generalize taken : (if s.workBufferLength < s.currentFieldLength - s.currentFieldPos then
      s.workBufferLength else s.currentFieldLength - s.currentFieldPos) = toCopy
    have bounds : toCopy ≤ s.workBufferLength ∧ s.currentFieldPos + toCopy ≤ s.currentFieldLength ∧
        (s.currentFieldPos + toCopy = s.currentFieldLength ∨ toCopy = s.workBufferLength) := by
      rw [← taken]
      split_ifs <;> omega
    obtain ⟨available, within, ends⟩ := bounds
    apply (txStreamCopyData_ends counted small processing available (by omega) _).mono
    · rintro _ t ⟨sha3Context, tx, rfl⟩
      refine ⟨⟨counted.buffer, by dsimp only; omega⟩, ⟨sound.header, length, fun _ => within⟩,
        processing, rfl, ?_⟩
      dsimp only
      omega
    · intro some
      have bound := short (by simpa using some)
      omega
  · have full : s.currentFieldPos = s.currentFieldLength := by omega
    exact ends_of_ok rfl ⟨counted, sound, processing, rfl, .inl full⟩

theorem txStreamCloseField_ends {slot : Option TxSlot} {field : TxRlpField} (counted : Counted chunk s)
    (sound : Sound s) (sameField : s.currentField = field) (open_ : field ≠ .done)
    (taken : s.currentFieldPos = s.currentFieldLength ∨ s.workBufferLength = 0) :
    Ends (txStreamCloseField slot) s (fun _ t => Counted chunk t ∧ Sound t ∧
      (left t.currentField < left field ∨ t.workBufferLength = 0)) (StopsCounted chunk) := by
  unfold txStreamCloseField
  apply ends_bind_ok rfl
  apply ends_bind_ok rfl
  split_ifs with full
  · have lower : left s.currentField.next < left field := by
      rw [sameField]
      exact left_next open_
    cases slot with
    | none => exact ends_of_ok rfl ⟨⟨counted.buffer, counted.count⟩, ⟨sound.header, sound.length, nofun⟩,
        .inl lower⟩
    | some slot => exact ends_of_ok rfl ⟨⟨counted.buffer, counted.count⟩,
        ⟨sound.header, sound.length, nofun⟩, .inl lower⟩
  · exact ends_of_ok rfl ⟨counted, sound, .inr (taken.resolve_left full)⟩

/-- What a field processor leaves: the field is closed, or the chunk is used up. -/
structure Turned (chunk : List UInt8) (field : TxRlpField) (t : TxStreamContext) : Prop where
  counted : Counted chunk t
  sound : Sound t
  turns : left t.currentField < left field ∨ t.workBufferLength = 0

theorem txStreamProcessField_ends {slot : Option TxSlot} {fieldSize : Option Nat}
    (counted : Counted chunk s) (small : chunk.length < 2 ^ 32) (sound : Sound s)
    (processing : s.isProcessingField = true) (open_ : s.currentField ≠ .done)
    (bounded : slot.isSome → ∃ size, fieldSize = some size ∧ size < maxBufferSize) :
    Ends (txStreamProcessField (storeApart store) slot fieldSize) s
      (fun _ t => Turned chunk s.currentField t) (StopsCounted chunk) := by
  have refused := counted.stops sound.header errInvalidData
  have rest (within : ∀ size, fieldSize = some size → s.currentFieldLength ≤ size) :
      Ends (do
        txStreamTakeField (storeApart store) slot
        txStreamCloseField slot) s (fun _ t => Turned chunk s.currentField t) (StopsCounted chunk) := by
    apply Ends.bind
    apply (txStreamTakeField_ends counted small sound processing _).mono
    · rintro _ t ⟨counted, sound, _, sameField, taken⟩
      apply (txStreamCloseField_ends counted sound sameField open_ taken).mono
      rintro _ u ⟨counted, sound, turns⟩
      exact ⟨counted, sound, turns⟩
    · intro some
      obtain ⟨size, known, limited⟩ := bounded some
      exact (within size known).trans_lt limited
  unfold txStreamProcessField txStreamCheckField
  simp only [bind_assoc]
  apply ends_bind_ok rfl
  apply ends_bind_validate refused
  intro _
  cases fieldSize with
  | none => exact rest nofun
  | some size =>
    dsimp only
    rw [bind_assoc]
    apply ends_bind_ok rfl
    apply ends_bind_validate refused
    intro within
    apply rest
    rintro _ ⟨⟩
    exact of_decide_eq_true within

theorem txStreamParseFieldProxy_ends (counted : Counted chunk s) (small : chunk.length < 2 ^ 32)
    (sound : Sound s) (processing : s.isProcessingField = true) (open_ : s.currentField ≠ .done) :
    Ends (txStreamParseFieldProxy (storeApart store)) s (fun status t => Counted chunk t ∧ Sound t ∧
      (status ≠ .fault → Turned chunk s.currentField t)) (StopsCounted chunk) := by
  have item {slot : Option TxSlot} {fieldSize : Option Nat} {field : TxRlpField} {s : TxStreamContext}
      (counted : Counted chunk s) (sound : Sound s) (processing : s.isProcessingField = true)
      (sameField : s.currentField = field) (open_ : field ≠ .done)
      (bounded : slot.isSome → ∃ size, fieldSize = some size ∧ size < maxBufferSize) :
      Ends (do
        txStreamProcessField (storeApart store) slot fieldSize
        return .processing : StreamCode TxStreamStatus) s (fun status t => Counted chunk t ∧ Sound t ∧
          (status ≠ .fault → Turned chunk field t)) (StopsCounted chunk) := by
    subst sameField
    apply Ends.bind
    apply (txStreamProcessField_ends counted small sound processing open_ bounded).mono
    intro _ t turned
    exact ends_of_ok rfl ⟨turned.counted, turned.sound, fun _ => turned⟩
  have sized (size : Nat) (limited : size < maxBufferSize) {slot : Option TxSlot} :
      slot.isSome → ∃ bound, some size = some bound ∧ bound < maxBufferSize :=
    fun _ => ⟨size, rfl, limited⟩
  have unsized {fieldSize : Option Nat} : (none : Option TxSlot).isSome →
      ∃ size, fieldSize = some size ∧ size < maxBufferSize := nofun
  unfold txStreamParseFieldProxy
  apply ends_bind_ok rfl
  cases field : s.currentField with
  | none => exact ends_of_ok rfl ⟨counted, sound, fun open_ => absurd rfl open_⟩
  | done => exact absurd field open_
  | envelope =>
    unfold txStreamProcessEnvelope
    simp only [bind_assoc]
    apply ends_bind_ok rfl
    apply ends_bind_validate (counted.stops sound.header _)
    intro _
    apply ends_bind_ok rfl
    apply ends_bind_ok rfl
    have counted' (field : TxRlpField) : Counted chunk { s with
        dataLength := s.currentFieldLength
        currentField := field
        isProcessingField := false } := ⟨counted.buffer, counted.count⟩
    have sound' (field : TxRlpField) : Sound { s with
        dataLength := s.currentFieldLength
        currentField := field
        isProcessingField := false } := ⟨sound.header, sound.length, nofun⟩
    have opened (field : TxRlpField) (lower : left field < left .envelope) :
        Turned chunk .envelope { s with
          dataLength := s.currentFieldLength
          currentField := field
          isProcessingField := false } := ⟨counted' field, sound' field, .inl lower⟩
    have once : left s.currentField.next < left .envelope := by
      rw [field]
      decide
    have twice : left s.currentField.next.next < left .envelope := by
      rw [field]
      decide
    split_ifs
    · exact ends_of_ok rfl ⟨counted' _, sound' _, fun _ => opened _ twice⟩
    · exact ends_of_ok rfl ⟨counted' _, sound' _, fun _ => opened _ once⟩
  | data =>
    dsimp only
    apply ends_bind_ok rfl
    split_ifs with start
    · apply ends_bind_ok rfl
      exact item ⟨counted.buffer, counted.count⟩ ⟨sound.header, sound.length, sound.position⟩
        processing field nofun unsized
    · exact item counted sound processing field nofun unsized
  | type => exact item counted sound processing field nofun unsized
  | nonce => exact item counted sound processing field nofun unsized
  | gasPrice => exact item counted sound processing field nofun (sized txMaxInt256Length (by decide))
  | startGas => exact item counted sound processing field nofun (sized txMaxInt256Length (by decide))
  | recipient => exact item counted sound processing field nofun (sized txMaxAddressLength (by decide))
  | value => exact item counted sound processing field nofun (sized txMaxInt256Length (by decide))
  | v => exact item counted sound processing field nofun (sized txMaxInt256Length (by decide))
  | r => exact item counted sound processing field nofun unsized
  | s => exact item counted sound processing field nofun unsized

/-- The rounds that are left are fewer than the fields to come, with one more for a chunk that is
not used up. -/
def roundRank (s : TxStreamContext) : Nat :=
  if s.workBufferLength = 0 then 0 else left s.currentField + 1

theorem txStreamParseRound_ends (counted : Counted chunk s) (small : chunk.length < 2 ^ 32)
    (sound : Sound s) :
    Ends (txStreamParseRound (storeApart store)) s (fun result t => Counted chunk t ∧ Sound t ∧
      (result = none → roundRank t < roundRank s)) (StopsCounted chunk) := by
  unfold txStreamParseRound
  apply ends_bind_ok rfl
  split_ifs with done
  · exact ends_of_ok rfl ⟨counted, sound, nofun⟩
  · apply ends_bind_ok rfl
    split_ifs with empty
    · exact ends_of_ok rfl ⟨counted, sound, nofun⟩
    · have proxy (t : TxStreamContext) (counted : Counted chunk t) (sound : Sound t)
          (processing : t.isProcessingField = true) (sameField : t.currentField = s.currentField) :
          Ends (do
            if (← txStreamParseFieldProxy (storeApart store)) = .fault then
              return some .fault
            return none : StreamCode (Option TxStreamStatus)) t (fun result t => Counted chunk t ∧
              Sound t ∧ (result = none → roundRank t < roundRank s)) (StopsCounted chunk) := by
        apply Ends.bind
        apply (txStreamParseFieldProxy_ends counted small sound processing
          (by rw [sameField]; exact done)).mono
        rintro status u ⟨counted, sound, turned⟩
        split_ifs with fault
        · exact ends_of_ok rfl ⟨counted, sound, nofun⟩
        · refine ends_of_ok rfl ⟨counted, sound, fun _ => ?_⟩
          have turns := (turned fault).turns
          rw [sameField] at turns
          unfold roundRank
          rw [if_neg empty]
          split_ifs with usedUp
          · exact Nat.succ_pos _
          · exact Nat.succ_lt_succ (turns.resolve_right usedUp)
      apply ends_bind_ok rfl
      split_ifs with between
      · exact proxy s counted sound between rfl
      · apply Ends.bind
        apply (txStreamEnterField_ends counted small sound (by simpa using between)).mono
        rintro (_ | status) t ⟨counted, sound, sameField, processing⟩
        · exact proxy t counted sound (processing rfl) sameField
        · exact ends_of_ok rfl ⟨counted, sound, nofun⟩

theorem txStreamParse_ends (counted : Counted chunk s) (small : chunk.length < 2 ^ 32)
    (sound : Sound s) {rounds : Nat} (enough : roundRank s < rounds) :
    Ends (iterate .diverges (txStreamParseRound (storeApart store)) rounds) s (fun _ t => Counted chunk t ∧ Sound t)
      (StopsCounted chunk) := by
  apply ends_iterate (fun s => Counted chunk s ∧ Sound s) roundRank _
    ⟨counted, sound⟩ enough
  rintro s ⟨counted, sound⟩
  apply (txStreamParseRound_ends counted small sound).mono
  rintro result t ⟨counted, sound, lower⟩
  exact ⟨fun none => ⟨⟨counted, sound⟩, lower none⟩, fun _ _ => ⟨counted, sound⟩⟩

theorem roundRank_lt (s : TxStreamContext) : roundRank s < parseRounds := by
  have most : left s.currentField ≤ 12 := by cases s.currentField <;> decide
  unfold roundRank parseRounds
  split_ifs <;> omega

end Loop

/-- The stream when the parser gets a chunk. -/
def TxStreamContext.given (s : TxStreamContext) (bytes : List UInt8) (flags : UInt32) :
    TxStreamContext :=
  { s with
    workBuffer := bytes
    workBufferIndex := 0
    workBufferLength := bytes.length
    processingFlags := flags }

/-- The streams that calls which do not fault lead to. -/
inductive Reached (store : Transaction → TxSlot → Nat → List UInt8 → Transaction) :
    TxStreamContext → Prop
  | init (tx : Transaction) : Reached store (txStreamInit tx)
  | call {s t : TxStreamContext} {status : TxStreamStatus} (chunk : Chunk) (flags : UInt32)
      (before : Reached store s)
      (run : (txStreamProcess (storeApart store) chunk.bytes chunk.bytes.length flags).run s = .ok status t)
      (goesOn : status ≠ .fault) : Reached store t

/-- Where the parser is: at the head of one of its two loops, before the processor of a field, or
behind the detection loop or the endless one. -/
inductive ParsePlace where
  | loop
  | detection
  | processor
  | detected
  | stopped
  deriving DecidableEq, Repr

/-- The streams that the parser comes by, from a stream on. -/
inductive Visits (store : Transaction → TxSlot → Nat → List UInt8 → Transaction)
    (start : TxStreamContext) : ParsePlace → TxStreamContext → Prop
  | start : Visits store start .loop start
  | round {s t : TxStreamContext} (head : Visits store start .loop s)
      (run : (txStreamParseRound (storeApart store)).run s = .ok none t) : Visits store start .loop t
  | detects {s : TxStreamContext} (head : Visits store start .loop s)
      (between : s.isProcessingField = false) : Visits store start .detection s
  | reads {s t : TxStreamContext} (head : Visits store start .detection s)
      (run : txStreamDetectRound.run s = .ok none t) : Visits store start .detection t
  | ends {s t : TxStreamContext} {result : TxStreamStatus × Bool}
      (head : Visits store start .detection s)
      (run : txStreamDetectRound.run s = .ok (some result) t) : Visits store start .detected t
  | resumes {s : TxStreamContext} (head : Visits store start .loop s)
      (inside : s.isProcessingField = true) : Visits store start .processor s
  | enters {s t : TxStreamContext} (head : Visits store start .loop s)
      (between : s.isProcessingField = false) (run : txStreamEnterField.run s = .ok none t) :
      Visits store start .processor t
  | returns {s t : TxStreamContext} {status : TxStreamStatus} (head : Visits store start .loop s)
      (run : (txStreamParseRound (storeApart store)).run s = .ok (some status) t) :
      Visits store start .stopped t
  | throws {s t : TxStreamContext} {exc : Exc} (head : Visits store start .loop s)
      (run : (txStreamParseRound (storeApart store)).run s = .error exc t) : Visits store start .stopped t

section Reached

variable {store : Transaction → TxSlot → Nat → List UInt8 → Transaction} {s : TxStreamContext}

theorem TxStreamContext.given_counted (bytes : List UInt8) (flags : UInt32) :
    Counted bytes (s.given bytes flags) := ⟨rfl, Nat.zero_add _⟩

theorem Sound.given (sound : Sound s) (bytes : List UInt8) (flags : UInt32) :
    Sound (s.given bytes flags) := ⟨sound.header, sound.length, sound.position⟩

/-- A call that does not fault ends the loop in a stream that the next call can start from. -/
theorem txStreamProcess_sound {t : TxStreamContext} {status : TxStreamStatus} (sound : Sound s)
    (chunk : Chunk) (flags : UInt32)
    (run : (txStreamProcess (storeApart store) chunk.bytes chunk.bytes.length flags).run s = .ok status t)
    (goesOn : status ≠ .fault) : Sound t := by
  unfold txStreamProcess at run
  generalize same : (do
    validate (0 < chunk.bytes.length) errInvalidData
    validate ((← get).currentField ≠ .none ∧ (← get).currentField ≠ .done) errInvalidData
    modify fun stream => { stream with
      workBuffer := chunk.bytes
      workBufferIndex := 0
      workBufferLength := chunk.bytes.length
      processingFlags := flags }
    txStreamParse (storeApart store) : StreamCode TxStreamStatus) = body at run
  have ends : Ends body s (fun _ t => Sound t) (fun _ _ => True) := by
    rw [← same]
    apply ends_bind_validate trivial
    intro _
    apply ends_bind_ok rfl
    apply ends_bind_ok rfl
    apply ends_bind_validate trivial
    intro _
    apply ends_bind_ok rfl
    apply ends_bind_ok rfl
    have loops : Ends (iterate .diverges (txStreamParseRound (storeApart store)) _) _ _ _ :=
      txStreamParse_ends (s.given_counted chunk.bytes flags) chunk.length_lt
        (sound.given chunk.bytes flags) (Nat.lt_add_left chunk.bytes.length (roundRank_lt _))
    exact (loops.mono fun _ t holds => holds.2).weaken fun _ _ _ => trivial
  rw [catching_run] at run
  cases parsed : body.run s with
  | ok result u =>
    rw [parsed] at run
    cases run
    exact ends.of_ok parsed
  | error exc u =>
    rw [parsed] at run
    cases exc with
    | thrown code =>
      cases run
      exact absurd rfl goesOn
    | reset => cases run
    | undefined => cases run
    | diverges => cases run

theorem Reached.sound (reached : Reached store s) : Sound s := by
  induction reached with
  | init tx => exact ⟨Nat.zero_le _, Nat.two_pow_pos 32, nofun⟩
  | call chunk flags _ run goesOn sound => exact txStreamProcess_sound sound chunk flags run goesOn

/-- What holds at each place. -/
theorem Visits.holds {start : TxStreamContext} {chunk : List UInt8} {place : ParsePlace}
    (visits : Visits store start place s) (small : chunk.length < 2 ^ 32)
    (counted : Counted chunk start) (sound : Sound start) :
    Counted chunk s ∧ s.rlpBufferOffset ≤ rlpLengthBufferSize ∧
      (place = .loop → Sound s) ∧ (place = .detection → s.isProcessingField = false) := by
  induction visits with
  | start => exact ⟨counted, sound.header, fun _ => sound, nofun⟩
  | round _ run ih =>
    obtain ⟨counted, _, sound, _⟩ := ih
    obtain ⟨counted, sound, _⟩ := (txStreamParseRound_ends counted small (sound rfl)).of_ok run
    exact ⟨counted, sound.header, fun _ => sound, nofun⟩
  | detects _ between ih => exact ⟨ih.1, ih.2.1, nofun, fun _ => between⟩
  | reads _ run ih =>
    obtain ⟨counted, header, _, between⟩ := ih
    obtain ⟨kept, _, _⟩ :=
      (txStreamDetectRound_ends ⟨counted, header, between rfl, rfl, rfl⟩ small).of_ok run
    exact ⟨kept.toCounted, kept.header, nofun, fun _ => kept.between⟩
  | ends _ run ih =>
    obtain ⟨counted, header, _, between⟩ := ih
    obtain ⟨kept, _, _⟩ :=
      (txStreamDetectRound_ends ⟨counted, header, between rfl, rfl, rfl⟩ small).of_ok run
    exact ⟨kept.toCounted, kept.header, nofun, nofun⟩
  | resumes _ _ ih => exact ⟨ih.1, ih.2.1, nofun, nofun⟩
  | enters _ between run ih =>
    obtain ⟨counted, _, sound, _⟩ := ih
    obtain ⟨counted, sound, _⟩ := (txStreamEnterField_ends counted small (sound rfl) between).of_ok run
    exact ⟨counted, sound.header, nofun, nofun⟩
  | returns _ run ih =>
    obtain ⟨counted, _, sound, _⟩ := ih
    obtain ⟨counted, sound, _⟩ := (txStreamParseRound_ends counted small (sound rfl)).of_ok run
    exact ⟨counted, sound.header, nofun, nofun⟩
  | throws _ run ih =>
    obtain ⟨counted, _, sound, _⟩ := ih
    obtain ⟨_, counted, header⟩ :=
      (txStreamParseRound_ends counted small (sound rfl)).of_error run
    exact ⟨counted, header, nofun, nofun⟩

/-- The endless loop ends, with the same result whatever more rounds it is given, and throws at most
an exception that the caller catches: it reads no byte outside the chunk and stores none behind the
header buffer. All along the counter is the number of bytes that are left of the chunk. -/
theorem parse_loop_ends (store : Transaction → TxSlot → Nat → List UInt8 → Transaction)
    (s : TxStreamContext) (reached : Reached store s) (chunk : Chunk) (flags : UInt32) :
    (∃ result, (∀ rounds, parseRounds ≤ rounds →
        (iterate .diverges (txStreamParseRound (storeApart store)) rounds).run
          (s.given chunk.bytes flags) = result) ∧
      ((∃ status t, result = .ok status t) ∨ ∃ code t, result = .error (.thrown code) t)) ∧
    ∀ place t, Visits store (s.given chunk.bytes flags) place t →
      t.workBuffer = chunk.bytes ∧
        t.workBufferIndex + t.workBufferLength = chunk.bytes.length ∧
        t.rlpBufferOffset ≤ rlpLengthBufferSize := by
  have counted := s.given_counted chunk.bytes flags
  have sound := reached.sound.given chunk.bytes flags
  constructor
  · refine ⟨(iterate .diverges (txStreamParseRound (storeApart store)) parseRounds).run
      (s.given chunk.bytes flags), ?_, ?_⟩
    · intro rounds enough
      apply iterate_run_eq (fun s => Counted chunk.bytes s ∧ Sound s) roundRank _
        ⟨counted, sound⟩ (roundRank_lt _) enough
      rintro s t ⟨counted, sound⟩ run
      obtain ⟨counted, sound, lower⟩ :=
        (txStreamParseRound_ends counted chunk.length_lt sound).of_ok run
      exact ⟨⟨counted, sound⟩, lower rfl⟩
    · have ends : Ends (iterate .diverges (txStreamParseRound (storeApart store)) parseRounds) _ _ _ :=
        txStreamParse_ends counted chunk.length_lt sound (roundRank_lt _)
      cases run : (iterate .diverges (txStreamParseRound (storeApart store)) parseRounds).run
        (s.given chunk.bytes flags) with
      | ok status t => exact .inl ⟨status, t, rfl⟩
      | error exc t =>
        obtain ⟨⟨code, rfl⟩, _⟩ := ends.of_error run
        exact .inr ⟨code, t, rfl⟩
  · intro place t visits
    obtain ⟨counted, header, _⟩ := visits.holds chunk.length_lt counted sound
    exact ⟨counted.buffer, counted.count, header⟩

/-- A store that leaves an array as it is when the bytes do not fit. -/
def storeOrKeep (tx : Transaction) (slot : TxSlot) (index : Nat) (bytes : List UInt8) : Transaction :=
  (tx.store slot index bytes).getD tx

/-- A list header, a nonce that is its own encoding, and the header of a gas price. -/
def singleByteChunk : Chunk where
  bytes := [0xcb, 0x05, 0x82]
  nonempty := by decide
  length_lt := by decide

theorem singleByte_loop_ends :
    (∃ result, (∀ rounds, parseRounds ≤ rounds →
        (iterate .diverges (txStreamParseRound (storeApart storeOrKeep)) rounds).run
          ((txStreamInit .zero).given singleByteChunk.bytes 0) = result) ∧
      ((∃ status t, result = .ok status t) ∨ ∃ code t, result = .error (.thrown code) t)) ∧
    ∀ place t, Visits storeOrKeep ((txStreamInit .zero).given singleByteChunk.bytes 0) place t →
      t.workBuffer = singleByteChunk.bytes ∧
        t.workBufferIndex + t.workBufferLength = singleByteChunk.bytes.length ∧
        t.rlpBufferOffset ≤ rlpLengthBufferSize :=
  parse_loop_ends storeOrKeep (txStreamInit .zero) (.init .zero) singleByteChunk 0

end Reached

end FantomLedger
