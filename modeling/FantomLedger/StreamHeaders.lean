import FantomLedger.StreamFields

/-! The detection of a field reads a header as the parser does and hands the field it
announces to its processor. -/

namespace FantomLedger

open Library Library.Machine Library.Program StreamParser

/-- The context after a header byte was read. -/
def TxStreamContext.readHeader (s : TxStreamContext) (byte : UInt8)
    (room : s.rlpBufferOffset < rlpLengthBufferSize) : TxStreamContext :=
  { s with
    sha3Context := s.sha3Context.cxHash [byte]
    workBufferIndex := s.workBufferIndex + 1
    workBufferLength := s.workBufferLength - 1
    rlpBuffer := s.rlpBuffer.set s.rlpBufferOffset byte room
    rlpBufferOffset := s.rlpBufferOffset + 1 }

theorem Pending.head {s : TxStreamContext} {flags : UInt32} {byte : UInt8} {later : List UInt8}
    (pending : Pending s flags (byte :: later)) : s.workBuffer[s.workBufferIndex]? = some byte := by
  have head := congrArg List.head? pending.bytes
  simpa [TxStreamContext.unread, List.head?_drop] using head

theorem Pending.readHeader {s : TxStreamContext} {flags : UInt32} {byte : UInt8}
    {later : List UInt8} (pending : Pending s flags (byte :: later))
    (room : s.rlpBufferOffset < rlpLengthBufferSize) :
    Pending (s.readHeader byte room) flags later := by
  have moved : Pending (s.copied s.tx [byte]) flags later := pending.copied s.tx
  exact ⟨moved.1, moved.2, moved.3, moved.4, moved.5⟩

theorem txStreamReadByte_run {s : TxStreamContext} {flags : UInt32} {byte : UInt8}
    {later : List UInt8} (pending : Pending s flags (byte :: later))
    (between : s.isProcessingField = false) :
    txStreamReadByte.run s = .ok byte { s with
      sha3Context := s.sha3Context.cxHash [byte]
      workBufferIndex := s.workBufferIndex + 1
      workBufferLength := s.workBufferLength - 1 } := by
  have count := pending.count
  have small := pending.small
  simp only [List.length_cons] at count small
  have some : 1 ≤ s.workBufferLength := by omega
  have spent : u32Sub s.workBufferLength 1 = s.workBufferLength - 1 :=
    u32Sub_of_le some (by omega)
  unfold txStreamReadByte
  simp [some, pending.head, between, spent]

/-- The header bytes in the buffer once one more was read. -/
theorem readHeader_bytes {s : TxStreamContext} {seen : List UInt8} (byte : UInt8)
    (room : s.rlpBufferOffset < rlpLengthBufferSize) (offset : s.rlpBufferOffset = seen.length)
    (kept : s.rlpBuffer.toList.take seen.length = seen) :
    (s.readHeader byte room).rlpBuffer.toList.take (seen.length + 1) = seen ++ [byte] := by
  have inside : seen.length < s.rlpBuffer.toList.length := by
    simpa [← offset] using room
  simp only [TxStreamContext.readHeader, Vector.toList_set, offset]
  rw [List.take_succ_eq_append_getElem (by simpa using inside), List.take_set, kept,
    List.set_eq_of_length_le (Nat.le_refl _)]
  simp

theorem first_of_bytes {buffer : RlpBuffer} {read : List UInt8} {length : Nat}
    (kept : buffer.toList.take length = read) (some : read ≠ []) :
    buffer.first = read.headD 0 := by
  subst kept
  obtain ⟨array, size⟩ := buffer
  obtain ⟨items⟩ := array
  match items, size with
  | [b0, b1, b2, b3, b4], _ =>
    cases length with
    | zero => exact absurd rfl some
    | succ n => rfl

theorem txStreamDetectRound_run {s : TxStreamContext} {seen : List UInt8} {flags : UInt32}
    {byte : UInt8} {later : List UInt8} (between : s.isProcessingField = false)
    (offset : s.rlpBufferOffset = seen.length)
    (kept : s.rlpBuffer.toList.take seen.length = seen)
    (pending : Pending s flags (byte :: later))
    (room : s.rlpBufferOffset < rlpLengthBufferSize) :
    txStreamDetectRound.run s =
      .ok (if seen.length + 1 < (Rlp.form ((seen ++ [byte]).headD 0)).size then none
        else some (.processing, true)) (s.readHeader byte room) := by
  have count := pending.count
  have nonzero : s.workBufferLength ≠ 0 := by simp [count]
  have notFull : s.rlpBufferOffset ≠ rlpLengthBufferSize := by omega
  have first := first_of_bytes (readHeader_bytes byte room offset kept) (by simp)
  have decided := rlpCanDecode_run (s.readHeader byte room).rlpBuffer (seen.length + 1)
    (s.readHeader byte room) (by omega) (by omega)
  rw [first] at decided
  unfold txStreamDetectRound
  simp only [EStateM.run_bind, EStateM.run_get, nonzero, notFull, ↓reduceIte,
    txStreamReadByte_run pending between]
  simp only [dif_pos room, EStateM.run_bind, EStateM.run_modify, EStateM.run_get]
  simp only [TxStreamContext.readHeader, ← offset] at decided ⊢
  simp only [decided]
  by_cases short : s.rlpBufferOffset + 1 < (Rlp.form ((seen ++ [byte]).headD 0)).size <;>
    simp only [short, ↓reduceIte, EStateM.run_pure]

/-- How the detection of a header agrees with the parser: the chunk ended first, the
header is too long, or one more byte completes it. -/
inductive Detected (p : Parser) (flags : UInt32) (rest : List UInt8) :
    EStateM.Result Exc TxStreamContext (TxStreamStatus × Bool) → Prop
  | starved {s : TxStreamContext} {q : Parser}
      (ran : run step p (tag flags rest) = .more q) (same : q.field = p.field)
      (stands : Represents q s) (read : Pending s flags []) :
      Detected p flags rest (.ok (.processing, false) s)
  | refused {s : TxStreamContext} (ran : run step p (tag flags rest) = .failed .fault)
      (stuck : Stuck s) : Detected p flags rest (.ok (.fault, false) s)
  | found {s : TxStreamContext} {q : Parser} {seen later : List UInt8} {byte : UInt8}
      (ran : run step p (tag flags rest) = run step q (tag flags (byte :: later)))
      (same : q.field = p.field) (stands : Represents q s)
      (pending : Pending s flags (byte :: later)) (phase : q.phase = .header seen)
      (room : s.rlpBufferOffset < rlpLengthBufferSize)
      (complete : (Rlp.form ((seen ++ [byte]).headD 0)).size ≤ seen.length + 1) :
      Detected p flags rest (.ok (.processing, true) (s.readHeader byte room))

/-- Reading a header byte that does not complete the header. -/
theorem represents_readHeader {p : Parser} {s : TxStreamContext} {seen : List UInt8}
    {byte : UInt8} (stands : Represents p s) (phase : p.phase = .header seen)
    (room : s.rlpBufferOffset < rlpLengthBufferSize)
    (short : seen.length + 1 < (Rlp.form ((seen ++ [byte]).headD 0)).size) :
    Represents { p with phase := .header (seen ++ [byte]), absorbed := p.absorbed ++ [byte] }
      (s.readHeader byte room) := by
  obtain ⟨field, hash, dataLength, tx, single, atPhase, valid⟩ := stands
  simp only [AtPhase, Parser.Valid, phase] at atPhase valid
  obtain ⟨between, offset, kept⟩ := atPhase
  refine ⟨field, ?_, dataLength, tx, single, ?_, ?_⟩
  · simp [TxStreamContext.readHeader, hash, Sha3Context.cxHash]
  · refine ⟨between, ?_, ?_⟩
    · simp [TxStreamContext.readHeader, offset]
    · simpa using readHeader_bytes byte room offset kept
  · refine ⟨valid.1, ?_, Or.inr ?_⟩
    · simp only [List.length_append, List.length_singleton]
      omega
    · simpa using short

theorem txStreamDetect_agrees {p : Parser} {s : TxStreamContext} {seen : List UInt8}
    {flags : UInt32} {rest : List UInt8} {rounds : Nat} (stands : Represents p s)
    (phase : p.phase = .header seen) (pending : Pending s flags rest)
    (enough : rest.length < rounds) :
    Detected p flags rest
      ((iterate .diverges txStreamDetectRound rounds).run s) := by
  induction rest generalizing p s seen rounds with
  | nil =>
    obtain ⟨rounds, rfl⟩ : ∃ n, rounds = n + 1 := ⟨rounds - 1, by omega⟩
    have used : s.workBufferLength = 0 := pending.count
    have round : txStreamDetectRound.run s = .ok (some (.processing, false)) s := by
      unfold txStreamDetectRound
      simp [used]
    rw [iterate_run_some round]
    exact .starved (by simp [tag, run]) rfl stands pending
  | cons byte later ih =>
    obtain ⟨rounds, rfl⟩ : ∃ n, rounds = n + 1 := ⟨rounds - 1, by omega⟩
    simp only [List.length_cons] at enough
    have atPhase := stands.phase
    simp only [AtPhase, phase] at atPhase
    obtain ⟨between, offset, kept⟩ := atPhase
    by_cases full : s.rlpBufferOffset = rlpLengthBufferSize
    · have unread : s.workBufferLength ≠ 0 := by simp [pending.count]
      have round : txStreamDetectRound.run s = .ok (some (.fault, false)) s := by
        unfold txStreamDetectRound
        simp [full, unread]
      rw [iterate_run_some round]
      refine .refused ?_ (Or.inr (Or.inl ⟨between, full⟩))
      rw [tag, List.map_cons, run_cons]
      simp only [step, phase, ← offset, full, ↓reduceIte, Verdict.andThen]
    · have within : seen.length ≤ rlpLengthBufferSize := by
        have valid := stands.valid
        simp only [Parser.Valid, phase] at valid
        exact valid.2.1
      have room : s.rlpBufferOffset < rlpLengthBufferSize := by omega
      have round := txStreamDetectRound_run between offset kept pending room
      by_cases short : seen.length + 1 < (Rlp.form ((seen ++ [byte]).headD 0)).size
      · rw [if_pos short] at round
        rw [iterate_run_none round]
        have next := ih (represents_readHeader stands phase room short) rfl
          (pending.readHeader room) (show later.length < rounds by omega)
        have moved : run step p (tag flags (byte :: later)) =
            run step { p with phase := .header (seen ++ [byte]), absorbed := p.absorbed ++ [byte] }
              (tag flags later) := by
          rw [tag, List.map_cons, run_cons]
          simp only [step, phase, ← offset, full, ↓reduceIte, List.length_append,
            List.length_singleton]
          rw [offset, if_pos short]
          rfl
        generalize (iterate .diverges txStreamDetectRound rounds).run (s.readHeader byte room) =
          result at next ⊢
        cases next with
        | starved ran same stands read => exact .starved (moved.trans ran) same stands read
        | refused ran stuck => exact .refused (moved.trans ran) stuck
        | found ran same stands pending phase room complete =>
          exact .found (moved.trans ran) same stands pending phase room complete
      · rw [if_neg short] at round
        rw [iterate_run_some round]
        exact .found rfl rfl stands pending phase room (by omega)

/-- The context once a header is decoded: a byte that encodes itself is put back. -/
def TxStreamContext.entered (s : TxStreamContext) (single : Bool) (header : Rlp.Header) :
    TxStreamContext :=
  { s with
    currentFieldLength := header.length
    isCurrentFieldList := header.isList
    isFieldSingleByte := single
    workBufferIndex := if single then s.workBufferIndex - 1 else s.workBufferIndex
    workBufferLength := if single then s.workBufferLength + 1 else s.workBufferLength
    rlpBufferOffset := 0
    currentFieldPos := 0
    isProcessingField := true }

/-- The header that one more byte completes. -/
theorem header_complete {p : Parser} {seen : List UInt8} {byte : UInt8} (valid : p.Valid)
    (phase : p.phase = .header seen)
    (complete : (Rlp.form ((seen ++ [byte]).headD 0)).size ≤ seen.length + 1) :
    seen.length + 1 = (Rlp.form ((seen ++ [byte]).headD 0)).size := by
  simp only [Parser.Valid, phase] at valid
  cases seen with
  | nil =>
    have positive := (Rlp.form (([] ++ [byte]).headD 0)).size_pos
    simp only [List.length_nil] at complete ⊢
    omega
  | cons first more =>
    have short := valid.2.2.resolve_left (by simp)
    simp only [List.cons_append, List.headD_cons] at complete short ⊢
    omega

theorem txStreamEnterField_found {q : Parser} {s start : TxStreamContext} {flags : UInt32}
    {seen later : List UInt8} {byte : UInt8} (stands : Represents q s)
    (pending : Pending s flags (byte :: later)) (phase : q.phase = .header seen)
    (room : s.rlpBufferOffset < rlpLengthBufferSize)
    (complete : (Rlp.form ((seen ++ [byte]).headD 0)).size ≤ seen.length + 1)
    (detected : txStreamDetectField.run start = .ok (.processing, true) (s.readHeader byte room)) :
    txStreamEnterField.run start = .ok none ((s.readHeader byte room).entered
      (decide (Rlp.form ((seen ++ [byte]).headD 0) = .single))
      ((Rlp.form ((seen ++ [byte]).headD 0)).header (seen ++ [byte]).tail)) := by
  have atPhase := stands.phase
  simp only [AtPhase, phase] at atPhase
  obtain ⟨_, offset, kept⟩ := atPhase
  have count := pending.count
  have small := pending.small
  simp only [List.length_cons] at count small
  have size := header_complete stands.valid phase complete
  have bytes := readHeader_bytes byte room offset kept
  have first := first_of_bytes bytes (by simp)
  have decoded := rlpDecodeLength_run (s.readHeader byte room).rlpBuffer (seen.length + 1)
    (s.readHeader byte room) (by rw [first]; exact size) (by omega)
  rw [first, bytes] at decoded
  have sameOffset : (s.readHeader byte room).rlpBufferOffset = seen.length + 1 := by
    simp only [TxStreamContext.readHeader, offset]
  have index : (s.readHeader byte room).workBufferIndex = s.workBufferIndex + 1 := rfl
  have length : (s.readHeader byte room).workBufferLength = later.length := by
    simp only [TxStreamContext.readHeader, count]
    omega
  have framed : (s.readHeader byte room).isFieldSingleByte = false := stands.single
  have back : u32 (later.length + 1) = later.length + 1 := u32_of_lt small
  generalize s.readHeader byte room = read at *
  generalize (Rlp.form ((seen ++ [byte]).headD 0)).header (seen ++ [byte]).tail = header at *
  generalize Rlp.form ((seen ++ [byte]).headD 0) = form at *
  unfold txStreamEnterField
  by_cases single : form = .single
  · simp only [EStateM.run_bind, detected, reduceCtorEq, ↓reduceIte, not_true_eq_false,
      EStateM.run_get, sameOffset, decoded, single, EStateM.run_modify]
    simp [stepBack, TxStreamContext.entered, index, length, back]
  · simp only [EStateM.run_bind, detected, reduceCtorEq, ↓reduceIte, not_true_eq_false,
      EStateM.run_get, sameOffset, decoded, single, EStateM.run_modify]
    simp [TxStreamContext.entered, framed]

theorem Pending.entered {s : TxStreamContext} {flags : UInt32} {byte : UInt8}
    {later : List UInt8} (pending : Pending s flags (byte :: later))
    (room : s.rlpBufferOffset < rlpLengthBufferSize) (single : Bool) (header : Rlp.Header) :
    Pending ((s.readHeader byte room).entered single header) flags
      (if single then byte :: later else later) := by
  have moved := pending.readHeader room
  have count := pending.count
  simp only [List.length_cons] at count
  cases single with
  | true =>
    refine ⟨pending.bytes, pending.inside, ?_, pending.small, pending.sameFlags⟩
    simp only [TxStreamContext.entered, TxStreamContext.readHeader, ↓reduceIte, count,
      List.length_cons, Nat.add_sub_cancel]
  | false => exact ⟨moved.bytes, moved.inside, moved.count, moved.small, moved.sameFlags⟩

theorem entered_inItem {q : Parser} {s : TxStreamContext} (byte : UInt8) (stands : Represents q s)
    (room : s.rlpBufferOffset < rlpLengthBufferSize) (single : Bool) {header : Rlp.Header}
    (item : IsItem q.field) (string : header.isList = false)
    (within : WithinLimit q.field header.length) (small : header.length < 2 ^ 32) :
    InItem (q.absorb [byte]) header.length 0 ((s.readHeader byte room).entered single header) := by
  refine ⟨stands.field, ?_, stands.dataLength, stands.tx, rfl, string, rfl, rfl, rfl, item, within,
    Nat.zero_le _, small⟩
  simp only [TxStreamContext.entered, TxStreamContext.readHeader, stands.hash,
    Sha3Context.cxHash, Parser.absorb]

/-- The envelope is opened by a list header and refused otherwise. -/
theorem proxy_envelope {p : Parser} {s : TxStreamContext} {flags : UInt32}
    {later : List UInt8} {header : Rlp.Header} (field : s.currentField = .envelope)
    (processing : s.isProcessingField = true)
    (hash : s.sha3Context = ⟨p.absorbed, false⟩) (tx : s.tx = p.tx)
    (list : s.isCurrentFieldList = header.isList) (length : s.currentFieldLength = header.length)
    (framed : header.isList = true → s.isFieldSingleByte = false) (offset : s.rlpBufferOffset = 0)
    (waiting : header.isList = true → Pending s flags later) :
    Agrees flags later (p.openEnvelope flags header) ((txStreamParseFieldProxy storeInside).run s) := by
  have valid (field : TxRlpField) (known : field ≠ .none) :
      Parser.Valid { p with field := field, phase := .header [], dataLength := header.length } :=
    ⟨known, Nat.zero_le _, Or.inl rfl⟩
  unfold txStreamParseFieldProxy txStreamProcessEnvelope Parser.openEnvelope
  cases isList : header.isList with
  | false =>
    rw [isList] at list
    simp only [EStateM.run_bind, EStateM.run_get, field, list, validate_false, run_throw]
    exact Or.inr (Or.inr (Or.inl ⟨processing, field, list⟩))
  | true =>
    have pending := waiting isList
    rw [isList] at list
    simp only [EStateM.run_bind, EStateM.run_get, field, list, validate_true, EStateM.run_pure,
      EStateM.run_modify, pending.sameFlags, TxRlpField.next, ↓reduceIte]
    by_cases typed : flags &&& txFlagType = 0
    · simp only [typed, ↓reduceIte, EStateM.run_bind, EStateM.run_modify, EStateM.run_pure]
      exact ⟨⟨rfl, hash, length, tx, framed isList, ⟨rfl, offset, rfl⟩, valid .nonce (by decide)⟩,
        ⟨pending.bytes, pending.inside, pending.count, pending.small, rfl⟩⟩
    · simp only [typed, ↓reduceIte, EStateM.run_pure]
      exact ⟨⟨rfl, hash, length, tx, framed isList, ⟨rfl, offset, rfl⟩, valid .type (by decide)⟩,
        ⟨pending.bytes, pending.inside, pending.count, pending.small, rfl⟩⟩

theorem openEnvelope_more {p q : Parser} {flags : UInt32} {header : Rlp.Header}
    (opened : p.openEnvelope flags header = .more q) (envelope : p.field = .envelope) :
    q.field ≠ .done ∧ left q.field < left p.field := by
  unfold Parser.openEnvelope at opened
  rw [envelope]
  split_ifs at opened <;> cases opened <;> exact ⟨by simp, by simp [left]⟩

/-- An item whose header was just completed, with what the chunk has of it. -/
theorem proxy_opened {q : Parser} {s : TxStreamContext} {flags : UInt32} {byte : UInt8}
    {later : List UInt8} {form : Rlp.Form} {header : Rlp.Header} (stands : Represents q s)
    (pending : Pending s flags (byte :: later)) (room : s.rlpBufferOffset < rlpLengthBufferSize)
    (item : IsItem q.field) (small : header.length < 2 ^ 32)
    (lone : form = .single → header.length = 1) :
    ∃ verdict rest,
      ((q.absorb [byte]).openItem form header byte).andThen step (tag flags later) =
        verdict.andThen step (tag flags rest) ∧
      Agrees flags rest verdict ((txStreamParseFieldProxy storeInside).run
        ((s.readHeader byte room).entered (decide (form = .single)) header)) ∧
      (∀ p, verdict = .more p → p.field ≠ .done ∧ (rest = [] ∨ left p.field < left q.field)) := by
  have notDone : q.field ≠ .done := item.2.2
  have waiting := pending.entered room (decide (form = .single)) header
  by_cases refused : header.isList = true ∨ ¬WithinLimit q.field header.length
  · have sameField : ((s.readHeader byte room).entered (decide (form = .single)) header).currentField
        = q.field := stands.field
    have itemS : IsItem ((s.readHeader byte room).entered (decide (form = .single))
        header).currentField := by
      rw [sameField]
      exact item
    refine ⟨.failed .fault, later, ?_, ?_, by simp⟩
    · rw [openItem_refuses (p := q.absorb [byte]) refused]
    · rw [txStreamParseFieldProxy_refuses itemS (by rw [sameField]; exact refused)]
      exact Stuck.noted itemS rfl (by rw [sameField]; exact refused)
  · have string : header.isList = false := by simpa using (not_or.mp refused).1
    have within : WithinLimit q.field header.length := not_not.mp (not_or.mp refused).2
    have current := entered_inItem byte stands room (decide (form = .single)) item string
      within small
    have agrees := txStreamParseFieldProxy_agrees current waiting (by
      intro single
      have one : form = .single := by simpa [TxStreamContext.entered] using single
      simp [one, lone one])
    have sameSingle : ((s.readHeader byte room).entered (decide (form = .single))
      header).isFieldSingleByte = decide (form = .single) := rfl
    rw [sameSingle] at agrees
    simp only [↓reduceIte, Nat.sub_zero] at agrees
    refine ⟨_, _, ?_, agrees, ?_⟩
    · rw [openItem_accepts (p := q.absorb [byte]) string within]
      by_cases single : form = .single
      · simp only [single, decide_true, ↓reduceIte, lone single, List.take_succ_cons, List.take_zero,
          List.drop_succ_cons, List.drop_zero]
      · simp only [single, decide_false, Bool.false_eq_true, ↓reduceIte]
        by_cases empty : header.length = 0
        · simp only [empty, ↓reduceIte, List.take_zero, List.drop_zero, List.append_nil,
            Parser.fill, storeAt_nil, List.length_nil, Nat.add_zero]
        · simp only [empty, ↓reduceIte]
          exact run_item_tag { q.absorb [byte] with
            tx := noteTx q.field q.tx header.length, phase := .content header.length 0 }
            flags header.length 0 later rfl (by omega)
    · intro p more
      obtain ⟨open_, moved⟩ := fill_more more notDone
      refine ⟨open_, moved.symm.imp_left fun stays => ?_⟩
      have short := stays.2
      rw [List.length_take] at short
      exact List.drop_eq_nil_of_le (by omega)

end FantomLedger
