import FantomLedger.StreamParser

/-! The byte strings the parser accepts: what its run over the encoding of an item is, and
how any run is cut into items. -/

namespace FantomLedger.StreamParser

open Library Library.Machine

/-- The bytes of a slot have to lie inside its array. -/
def Storable (field : TxRlpField) (length : Nat) : Prop :=
  ∀ known, slot field = some known → length ≤ known.capacity

/-- Items of the given fields, one after the other. -/
inductive Accepts : List TxRlpField → List UInt8 → List (List UInt8) → Prop
  | nil : Accepts [] [] []
  | cons {field : TxRlpField} {fields : List TxRlpField} {encoding content rest : List UInt8}
      {contents : List (List UInt8)} (item : Rlp.Item rlpLengthBufferSize encoding content)
      (within : WithinLimit field content.length) (storable : Storable field content.length)
      (later : Accepts fields rest contents) :
      Accepts (field :: fields) (encoding ++ rest) (content :: contents)

/-- The items from one field up to another one. -/
def Leads (field : TxRlpField) : List TxRlpField → TxRlpField → Prop
  | [], last => field = last
  | next :: fields, last => next = field ∧ IsItem field ∧ Leads field.next fields last

instance (field last : TxRlpField) (fields : List TxRlpField) :
    Decidable (Leads field fields last) :=
  match fields with
  | [] => inferInstanceAs (Decidable (field = last))
  | next :: fields =>
      have := instDecidableLeads field.next last fields
      inferInstanceAs (Decidable (next = field ∧ IsItem field ∧ Leads field.next fields last))

/-- The field after the envelope. -/
def firstField (flags : UInt32) : TxRlpField :=
  if flags &&& txFlagType = 0 then .nonce else .type

theorem isItem_firstField (flags : UInt32) : IsItem (firstField flags) := by
  unfold firstField
  split_ifs <;> decide

/-- Bytes of a header that is not complete yet are collected. -/
theorem run_header_partial (p : Parser) (seen : List UInt8) (before rest : List Symbol)
    (phase : p.phase = .header seen)
    (short : seen.length + before.length < (Rlp.form ((seen ++ bytesOf before).headD 0)).size)
    (room : seen.length + before.length ≤ rlpLengthBufferSize) :
    run step p (before ++ rest) =
      run step { p with
        phase := .header (seen ++ bytesOf before)
        absorbed := p.absorbed ++ bytesOf before } rest := by
  induction before generalizing p seen with
  | nil =>
    obtain ⟨field, kept, dataLength, tx, absorbed⟩ := p
    cases phase
    simp
  | cons symbol before ih =>
    simp only [List.length_cons, bytesOf_cons] at short room
    have notFull : seen.length ≠ rlpLengthBufferSize := by omega
    have sameHead : (seen ++ [symbol.1]).headD 0 = (seen ++ symbol.1 :: bytesOf before).headD 0 := by
      cases seen <;> rfl
    have incomplete : (seen ++ [symbol.1]).length <
        (Rlp.form ((seen ++ [symbol.1]).headD 0)).size := by
      rw [sameHead]
      simp only [List.length_append, List.length_singleton]
      omega
    rw [List.cons_append, run_cons]
    simp only [step, phase, notFull, ↓reduceIte, incomplete, Verdict.andThen]
    have next := ih { p.absorb [symbol.1] with phase := .header (seen ++ [symbol.1]) }
      (seen ++ [symbol.1]) rfl
      (by simpa [Nat.add_assoc, Nat.add_comm 1] using short)
      (by simp only [List.length_append, List.length_singleton]; omega)
    simpa [Parser.absorb] using next

/-- What a complete header does to the parser. -/
def opened (p : Parser) (before : List UInt8) (byte : UInt8) (flags : UInt32) :
    Verdict Parser Stop :=
  let form := Rlp.form ((before ++ [byte]).headD 0)
  let header := form.header (before ++ [byte]).tail
  let next := { p with phase := .header before, absorbed := p.absorbed ++ before ++ [byte] }
  if p.field = .envelope then next.openEnvelope flags header else next.openItem form header byte

theorem run_header (p : Parser) (before rest : List Symbol) (byte : UInt8) (flags : UInt32)
    (phase : p.phase = .header [])
    (complete : before.length + 1 = (Rlp.form ((bytesOf before ++ [byte]).headD 0)).size)
    (room : before.length + 1 ≤ rlpLengthBufferSize) :
    run step p (before ++ (byte, flags) :: rest) =
      (opened p (bytesOf before) byte flags).andThen step rest := by
  have collected : run step p (before ++ (byte, flags) :: rest) =
      run step { p with phase := .header (bytesOf before), absorbed := p.absorbed ++ bytesOf before }
        ((byte, flags) :: rest) := by
    cases before with
    | nil =>
      obtain ⟨field, kept, dataLength, tx, absorbed⟩ := p
      cases phase
      simp
    | cons first more =>
      have head := run_header_partial p [] (first :: more) ((byte, flags) :: rest) phase (by
        simp only [bytesOf_cons, List.cons_append, List.headD_cons, List.nil_append,
          List.length_nil] at complete ⊢
        omega) (by simp only [List.length_nil]; omega)
      simpa using head
  have notFull : before.length ≠ rlpLengthBufferSize := by omega
  rw [collected, run_cons]
  simp only [step, length_bytesOf, notFull, ↓reduceIte, List.length_append, List.length_singleton,
    complete, lt_irrefl, opened]
  rfl

theorem bytesOf_eq_append {symbols : List Symbol} {first second : List UInt8}
    (same : bytesOf symbols = first ++ second) :
    ∃ head tail, symbols = head ++ tail ∧ bytesOf head = first ∧ bytesOf tail = second :=
  List.map_eq_append_iff.mp same

/-- The last symbol of a header carries the flags of the call that completes it. -/
theorem split_header {head : List Symbol} {header : Rlp.Header}
    (announces : Rlp.IsHeader rlpLengthBufferSize (bytesOf head) header) :
    ∃ before byte flags, head = before ++ [(byte, flags)] ∧
      before.length + 1 = (Rlp.form ((bytesOf before ++ [byte]).headD 0)).size ∧
      before.length + 1 ≤ rlpLengthBufferSize ∧
      Rlp.form ((bytesOf before ++ [byte]).headD 0) ≠ .single ∧
      (Rlp.form ((bytesOf before ++ [byte]).headD 0)).header (bytesOf before ++ [byte]).tail =
        header := by
  obtain ⟨first, more, bytes, framed, complete, narrow, means⟩ := announces
  have some : head ≠ [] := by
    rintro rfl
    simp at bytes
  obtain ⟨before, byte, flags, rfl⟩ : ∃ before byte flags, head = before ++ [(byte, flags)] :=
    ⟨head.dropLast, (head.getLast some).1, (head.getLast some).2,
      (List.dropLast_append_getLast some).symm⟩
  simp only [bytesOf_append, bytesOf_cons, bytesOf_nil] at bytes narrow
  have first_eq : (bytesOf before ++ [byte]).headD 0 = first := by rw [bytes]; rfl
  have more_eq : (bytesOf before ++ [byte]).tail = more := by rw [bytes]; rfl
  have size := congrArg List.length bytes
  simp only [List.length_append, length_bytesOf, List.length_cons, List.length_nil] at size narrow
  refine ⟨before, byte, flags, rfl, ?_, by omega, ?_, ?_⟩
  · rw [first_eq]
    omega
  · rwa [first_eq]
  · rw [first_eq, more_eq, means]

theorem run_framed (p : Parser) (head rest : List Symbol) (length : Nat)
    (phase : p.phase = .header []) (item : IsItem p.field)
    (announces : Rlp.IsHeader rlpLengthBufferSize (bytesOf head) ⟨false, length⟩)
    (within : WithinLimit p.field length) :
    run step p (head ++ rest) =
      (Parser.fill
        { p with
          tx := noteTx p.field p.tx length
          absorbed := p.absorbed ++ bytesOf head ++ bytesOf (rest.take length) }
        length 0 (bytesOf (rest.take length))).andThen step (rest.drop length) := by
  obtain ⟨before, byte, flags, rfl, complete, room, framed, means⟩ := split_header announces
  have notEnvelope : p.field ≠ .envelope := item.2.1
  rw [List.append_assoc, List.singleton_append, run_header p before rest byte flags phase complete
    room]
  unfold opened
  simp only [notEnvelope, ↓reduceIte, means]
  rw [openItem_accepts rfl within]
  simp only [framed, ↓reduceIte]
  by_cases empty : length = 0
  · subst empty
    simp only [↓reduceIte, List.take_zero, List.drop_zero, bytesOf_nil, List.append_nil,
      Parser.fill, storeAt_nil, List.length_nil, Nat.add_zero, bytesOf_append, bytesOf_cons,
      List.append_assoc]
    rfl
  · simp only [empty, ↓reduceIte]
    have content := run_item { p with
      phase := .content length 0
      tx := noteTx p.field p.tx length
      absorbed := p.absorbed ++ bytesOf before ++ [byte] } length 0 rest rfl (by omega)
    simp only [Nat.sub_zero] at content
    simp only [Verdict.andThen, bytesOf_append, bytesOf_cons, bytesOf_nil, ← List.append_assoc]
    exact content

theorem run_single (p : Parser) (rest : List Symbol) (byte : UInt8) (flags : UInt32)
    (phase : p.phase = .header []) (item : IsItem p.field) (single : Rlp.form byte = .single)
    (within : WithinLimit p.field 1) :
    run step p ((byte, flags) :: rest) =
      (Parser.fill
        { p with tx := noteTx p.field p.tx 1, absorbed := p.absorbed ++ [byte] }
        1 0 [byte]).andThen step rest := by
  have notEnvelope : p.field ≠ .envelope := item.2.1
  have header := run_header p [] rest byte flags phase (by simp [single, Rlp.Form.size])
    (by decide)
  simp only [opened, notEnvelope, ↓reduceIte, bytesOf_nil, List.nil_append, List.headD_cons,
    single, Rlp.Form.header, List.append_nil] at header
  rw [openItem_accepts rfl within] at header
  exact header

/-- How the run over a header ends. -/
inductive HeaderRun (p : Parser) (input : List Symbol) : Prop
  | unfinished (q : Parser) (ran : run step p input = .more q) (same : q.field = p.field)
  | refused (ran : run step p input = .failed .fault)
  | complete (before rest : List Symbol) (byte : UInt8) (flags : UInt32)
      (cut : input = before ++ (byte, flags) :: rest)
      (size : before.length + 1 = (Rlp.form ((bytesOf before ++ [byte]).headD 0)).size)
      (room : before.length + 1 ≤ rlpLengthBufferSize)

/-- A header is cut off, longer than its buffer, or complete. -/
theorem headerRun (p : Parser) (input : List Symbol) (phase : p.phase = .header []) :
    HeaderRun p input := by
  have positive := (Rlp.form ((bytesOf input).headD 0)).size_pos
  generalize known : (Rlp.form ((bytesOf input).headD 0)).size = size at positive
  have partialRun (length : Nat) (short : length < size) (room : length ≤ rlpLengthBufferSize)
      (within : length ≤ input.length) :
      run step p input = run step { p with
        phase := .header (bytesOf (input.take length))
        absorbed := p.absorbed ++ bytesOf (input.take length) } (input.drop length) := by
    have collected := run_header_partial p [] (input.take length) (input.drop length) phase (by
      simp only [List.length_nil, Nat.zero_add, List.nil_append, List.length_take]
      cases length with
      | zero => simpa using Rlp.Form.size_pos _
      | succ length =>
        cases input with
        | nil => simp at within
        | cons symbol more =>
          simp only [bytesOf_cons, List.headD_cons, List.take_succ_cons, List.length_cons] at known ⊢
          omega) (by simp only [List.length_nil, List.length_take]; omega)
    rwa [List.take_append_drop] at collected
  by_cases short : input.length < size ∧ input.length ≤ rlpLengthBufferSize
  · refine .unfinished { p with
      phase := .header (bytesOf (input.take input.length))
      absorbed := p.absorbed ++ bytesOf (input.take input.length) } ?_ rfl
    rw [partialRun input.length short.1 short.2 (Nat.le_refl _), List.drop_length]
    rfl
  · by_cases long : rlpLengthBufferSize < size
    · refine .refused ?_
      rw [partialRun rlpLengthBufferSize long (Nat.le_refl _) (by omega)]
      have more : rlpLengthBufferSize < input.length := by omega
      rw [List.drop_eq_getElem_cons more, run_cons]
      have full : (bytesOf (input.take rlpLengthBufferSize)).length = rlpLengthBufferSize := by
        rw [length_bytesOf, List.length_take]
        omega
      simp only [step, full, ↓reduceIte, Verdict.andThen]
    · obtain ⟨length, rfl⟩ : ∃ n, size = n + 1 := ⟨size - 1, by omega⟩
      have within : length < input.length := by omega
      refine .complete (input.take length) (input.drop (length + 1)) input[length].1 input[length].2
        ?_ ?_ ?_
      · rw [← List.drop_eq_getElem_cons within, List.take_append_drop]
      · have sameHead : (bytesOf (input.take length) ++ [input[length].1]).headD 0 =
            (bytesOf input).headD 0 := by
          cases input with
          | nil => simp at within
          | cons symbol more => cases length <;> rfl
        rw [sameHead, known, List.length_take]
        omega
      · rw [List.length_take]
        omega

theorem isHeader_of_complete {before : List Symbol} {byte : UInt8} (flags : UInt32)
    (size : before.length + 1 = (Rlp.form ((bytesOf before ++ [byte]).headD 0)).size)
    (room : before.length + 1 ≤ rlpLengthBufferSize)
    (framed : Rlp.form ((bytesOf before ++ [byte]).headD 0) ≠ .single) :
    Rlp.IsHeader rlpLengthBufferSize (bytesOf (before ++ [(byte, flags)]))
      ((Rlp.form ((bytesOf before ++ [byte]).headD 0)).header (bytesOf before ++ [byte]).tail) := by
  refine ⟨(bytesOf before ++ [byte]).headD 0, (bytesOf before ++ [byte]).tail, ?_, framed, ?_, ?_,
    rfl⟩
  · cases before <;> simp
  · simpa using size
  · simpa using room

theorem storable_of_within {field : TxRlpField} {length : Nat} (within : WithinLimit field length)
    (notV : field ≠ .v) : Storable field length := by
  unfold WithinLimit Storable at *
  intro known isSlot
  cases field <;> simp_all [slot, limit] <;> subst isSlot <;> simpa [TxSlot.capacity] using within

theorem storeAt_isSome {field : TxRlpField} {bytes : List UInt8} (tx : Transaction)
    (storable : Storable field bytes.length) :
    ∃ stored, storeAt (slot field) tx 0 bytes = some stored := by
  unfold Storable at storable
  cases known : slot field with
  | none => exact ⟨tx, rfl⟩
  | some place =>
    have fits := (Transaction.store_isSome_iff tx place 0 bytes).mpr
      (Or.inr (by simpa using storable place known))
    exact Option.isSome_iff_exists.mp fits

theorem isItem_next {field : TxRlpField} (item : IsItem field) (more : field.next ≠ .done) :
    IsItem field.next := by
  obtain ⟨someField, notEnvelope, notDone⟩ := item
  cases field <;> first | decide | contradiction

/-- The parser accepts an item that its field can hold. -/
theorem run_accepted {p : Parser} {symbols : List Symbol} {content : List UInt8}
    {tx : Transaction} (rest : List Symbol) (phase : p.phase = .header []) (item : IsItem p.field)
    (encodes : Rlp.Item rlpLengthBufferSize (bytesOf symbols) content)
    (within : WithinLimit p.field content.length)
    (stored : storeAt (slot p.field) (noteTx p.field p.tx content.length) 0 content = some tx) :
    run step p (symbols ++ rest) =
      (Parser.close { p with tx := tx, absorbed := p.absorbed ++ bytesOf symbols }
        content.length).andThen step rest := by
  generalize known : bytesOf symbols = encoding at encodes
  cases encodes with
  | single byte small =>
    obtain ⟨⟨_, flags⟩, rfl, rfl⟩ := List.map_eq_singleton_iff.mp known
    rw [List.singleton_append, run_single p rest _ flags phase item small within]
    simp only [List.length_singleton] at stored
    simp only [Parser.fill, stored, List.length_singleton, Nat.zero_add, ↓reduceIte]
  | framed header content announces =>
    obtain ⟨head, body, rfl, rfl, rfl⟩ := bytesOf_eq_append known
    rw [length_bytesOf] at announces within stored
    have framed := run_framed p head (body ++ rest) body.length phase item announces within
    rw [List.take_left, List.drop_left] at framed
    rw [List.append_assoc, framed]
    simp only [Parser.fill, stored, length_bytesOf, Nat.zero_add, ↓reduceIte, List.append_assoc]

/-- How the run over the input of an item ends. -/
inductive ItemRun (p : Parser) (input : List Symbol) : Prop
  | unfinished (q : Parser) (ran : run step p input = .more q) (same : q.field = p.field)
  | refused (ran : run step p input = .failed .fault)
  | overruns (head rest : List Symbol) (length : Nat) (cut : input = head ++ rest)
      (announces : Rlp.IsHeader rlpLengthBufferSize (bytesOf head) ⟨false, length⟩)
      (within : WithinLimit p.field length)
      (outside : ¬Storable p.field (rest.take length).length)
      (ran : run step p input = .failed .overrun)
  | accepts (symbols rest : List Symbol) (content : List UInt8) (tx : Transaction)
      (cut : input = symbols ++ rest)
      (encodes : Rlp.Item rlpLengthBufferSize (bytesOf symbols) content)
      (within : WithinLimit p.field content.length) (storable : Storable p.field content.length)
      (ran : run step p input =
        (Parser.close { p with tx := tx, absorbed := p.absorbed ++ bytesOf symbols }
          content.length).andThen step rest)

theorem storeAt_none {field : TxRlpField} {tx : Transaction} {bytes : List UInt8}
    (outside : storeAt (slot field) tx 0 bytes = none) : ¬Storable field bytes.length := by
  intro storable
  obtain ⟨stored, done⟩ := storeAt_isSome tx storable
  rw [outside] at done
  cases done

theorem storable_of_some {field : TxRlpField} {tx stored : Transaction} {bytes : List UInt8}
    (done : storeAt (slot field) tx 0 bytes = some stored) : Storable field bytes.length := by
  intro known isSlot
  rw [isSlot] at done
  have fits := (Transaction.store_isSome_iff tx known 0 bytes).mp
    (Option.isSome_iff_exists.mpr ⟨stored, done⟩)
  rcases fits with rfl | fits
  · exact Nat.zero_le _
  · simpa using fits

theorem itemRun {p : Parser} (input : List Symbol) (phase : p.phase = .header [])
    (item : IsItem p.field) : ItemRun p input := by
  rcases headerRun p input phase with ⟨q, ran, same⟩ | ran | ⟨before, rest, byte, flags, cut, size, room⟩
  · exact .unfinished q ran same
  · exact .refused ran
  · have header := run_header p before rest byte flags phase size room
    rw [← cut] at header
    have notEnvelope : p.field ≠ .envelope := item.2.1
    simp only [opened, notEnvelope, ↓reduceIte] at header
    by_cases single : Rlp.form ((bytesOf before ++ [byte]).headD 0) = .single
    · have alone : before = [] := by
        rw [single] at size
        exact List.length_eq_zero_iff.mp (by simpa [Rlp.Form.size] using size)
      subst alone
      have small : Rlp.form byte = .single := by simpa using single
      have within : WithinLimit p.field 1 := by
        unfold WithinLimit
        cases p.field <;> simp [limit, txMaxInt256Length, txMaxAddressLength]
      have storable : Storable p.field [byte].length := by
        unfold Storable
        cases p.field <;>
          simp [slot, TxSlot.capacity, txMaxInt256Length, txMaxAddressLength, txMaxVLength]
      obtain ⟨tx, stored⟩ := storeAt_isSome (noteTx p.field p.tx 1) storable
      have encodes : Rlp.Item rlpLengthBufferSize (bytesOf [(byte, flags)]) [byte] :=
        .single byte small
      refine .accepts [(byte, flags)] rest [byte] tx (by simpa using cut) encodes within storable ?_
      rw [cut]
      exact run_accepted rest phase item encodes within stored
    · have announces := isHeader_of_complete flags size room single
      generalize (Rlp.form ((bytesOf before ++ [byte]).headD 0)).header
        (bytesOf before ++ [byte]).tail = found at header announces
      by_cases refused : found.isList = true ∨ ¬WithinLimit p.field found.length
      · refine .refused ?_
        rw [header, openItem_refuses]
        · rfl
        · exact refused
      · obtain ⟨string, within⟩ := not_or.mp refused
        obtain ⟨isList, length⟩ := found
        simp only [Bool.not_eq_true, not_not] at string within
        subst string
        have whole : input = (before ++ [(byte, flags)]) ++ rest := by simp [cut]
        have framed := run_framed p _ rest length phase item announces within
        rw [← whole] at framed
        cases stored : storeAt (slot p.field) (noteTx p.field p.tx length) 0
            (bytesOf (rest.take length)) with
        | none =>
          refine .overruns _ rest length whole announces within ?_ ?_
          · simpa using storeAt_none stored
          · rw [framed]
            simp only [Parser.fill, stored, Verdict.andThen]
        | some tx =>
          have storable := storable_of_some stored
          by_cases full : (rest.take length).length = length
          · refine .accepts (before ++ [(byte, flags)] ++ rest.take length) (rest.drop length)
              (bytesOf (rest.take length)) tx ?_ ?_ ?_ storable ?_
            · rw [List.append_assoc, List.take_append_drop, whole]
            · rw [bytesOf_append]
              exact .framed _ _ (by rwa [length_bytesOf, full])
            · rwa [length_bytesOf, full]
            · rw [framed]
              simp only [Parser.fill, stored, length_bytesOf, Nat.zero_add, full, ↓reduceIte,
                bytesOf_append, List.append_assoc]
          · refine .unfinished { p with
              tx := tx
              phase := .content length (rest.take length).length
              absorbed := p.absorbed ++ bytesOf (before ++ [(byte, flags)]) ++
                bytesOf (rest.take length) } ?_ rfl
            have used : rest.drop length = [] := by
              rw [List.length_take] at full
              exact List.drop_eq_nil_of_le (by omega)
            rw [framed, used]
            simp only [Parser.fill, stored, length_bytesOf, Nat.zero_add, full, ↓reduceIte]
            rfl

/-- The slot of a field holds exactly the content of its item. -/
def Holds (tx : Transaction) (field : TxRlpField) (content : List UInt8) : Prop :=
  ∀ known, slot field = some known →
    (tx.field known).bytes = content ∧ (tx.field known).length.toNat = content.length

theorem field_noteTx (field : TxRlpField) (tx : Transaction) (length : Nat) (known : TxSlot) :
    (noteTx field tx length).field known = tx.field known := by
  unfold noteTx
  split_ifs <;> cases known <;> rfl

/-- Storing an item fills its slot and leaves the others alone. -/
theorem holds_close {field : TxRlpField} {tx stored : Transaction} {content : List UInt8}
    (done : storeAt (slot field) (noteTx field tx content.length) 0 content = some stored) :
    Holds (closeTx (slot field) stored content.length) field content ∧
      ∀ known, slot field ≠ some known →
        (closeTx (slot field) stored content.length).field known = tx.field known := by
  have storable := storable_of_some done
  unfold Holds
  cases known : slot field with
  | none =>
    rw [known] at done
    simp only [storeAt, Option.some.injEq] at done
    subst done
    exact ⟨by simp, fun known _ => field_noteTx field tx content.length known⟩
  | some place =>
    rw [known] at done
    have fits : content.length ≤ place.capacity := storable place known
    simp only [storeAt, Transaction.store, Option.map_eq_some_iff] at done
    obtain ⟨new, stores, rfl⟩ := done
    simp only [closeTx, Transaction.setLength, Transaction.field_setField_self,
      Transaction.setField_setField]
    refine ⟨?_, ?_⟩
    · rintro known ⟨⟩
      rw [Transaction.field_setField_self]
      exact ByteField.bytes_store stores fits place.capacity_small
    · intro known other
      rw [Transaction.field_setField_ne _ (fun same => other (by rw [same])), field_noteTx]

/-- The flag that items leave behind, when it had a value before them. -/
def contractFlag (before : Bool) : List TxRlpField → List (List UInt8) → Bool
  | field :: fields, content :: contents =>
      contractFlag (if field = .data then looksLikeContractCall content.length else before)
        fields contents
  | _, _ => before

/-- Storing an item keeps the flag, and the data item sets it. -/
theorem contractCall_close {field : TxRlpField} {tx stored : Transaction} {content : List UInt8}
    (done : storeAt (slot field) (noteTx field tx content.length) 0 content = some stored) :
    (closeTx (slot field) stored content.length).isContractCall =
      if field = .data then looksLikeContractCall content.length else tx.isContractCall := by
  have kept : (closeTx (slot field) stored content.length).isContractCall =
      (noteTx field tx content.length).isContractCall := by
    cases known : slot field with
    | none =>
      rw [known] at done
      cases done
      rfl
    | some place =>
      rw [known] at done
      simp only [storeAt, Transaction.store, Option.map_eq_some_iff] at done
      obtain ⟨new, stores, rfl⟩ := done
      simp [closeTx, Transaction.setLength]
  rw [kept, noteTx]
  split_ifs <;> rfl

theorem leads_left {field last : TxRlpField} {fields : List TxRlpField}
    (leads : Leads field fields last) : ∀ member ∈ fields, left member ≤ left field := by
  induction fields generalizing field with
  | nil => simp
  | cons next fields ih =>
    obtain ⟨rfl, item, later⟩ := leads
    intro member found
    rcases List.mem_cons.mp found with rfl | found
    · exact Nat.le_refl _
    · exact Nat.le_trans (ih later member found) (Nat.le_of_lt (left_next item.2.2))

theorem slot_injective {field other : TxRlpField} {known : TxSlot} (first : slot field = some known)
    (second : slot other = some known) : field = other := by
  cases known <;> cases field <;> cases first <;> cases other <;> cases second <;> rfl

theorem leads_done {fields : List TxRlpField} {last : TxRlpField} (leads : Leads .done fields last) :
    fields = [] ∧ last = .done := by
  cases fields with
  | nil => exact ⟨rfl, leads.symm⟩
  | cons next fields => exact absurd rfl leads.2.1.2.2

/-- The parser accepts items its fields can hold, one after the other. -/
theorem run_items {p : Parser} {fields : List TxRlpField} {last : TxRlpField}
    {symbols : List Symbol} {contents : List (List UInt8)} (rest : List Symbol)
    (phase : p.phase = .header []) (leads : Leads p.field fields last)
    (accepts : Accepts fields (bytesOf symbols) contents) :
    ∃ q : Parser, q.field = last ∧ q.phase = .header [] ∧ q.dataLength = p.dataLength ∧
      List.Forall₂ (Holds q.tx) fields contents ∧
      (∀ known, (∀ field ∈ fields, slot field ≠ some known) → q.tx.field known = p.tx.field known) ∧
      q.tx.isContractCall = contractFlag p.tx.isContractCall fields contents ∧
      run step p (symbols ++ rest) =
        if fields ≠ [] ∧ last = .done then .finished q rest else run step q rest := by
  generalize bytes : bytesOf symbols = encoding at accepts
  induction accepts generalizing p symbols with
  | nil =>
    have none : symbols = [] := List.map_eq_nil_iff.mp bytes
    subst none
    exact ⟨p, leads, phase, rfl, .nil, fun _ _ => rfl, rfl, by simp⟩
  | cons encodes within storable later ih =>
    rename_i field fields encoding content restBytes contents
    obtain ⟨rfl, item, leads⟩ := leads
    obtain ⟨head, tail, rfl, rfl, rfl⟩ := bytesOf_eq_append bytes
    obtain ⟨tx, stored⟩ := storeAt_isSome (noteTx p.field p.tx content.length) storable
    obtain ⟨holds, others⟩ := holds_close stored
    have flag := contractCall_close stored
    have first := run_accepted (tail ++ rest) phase item encodes within stored
    rw [List.append_assoc, first]
    simp only [Parser.close]
    by_cases done : p.field.next = .done
    · rw [if_pos done]
      rw [done] at leads
      obtain ⟨rfl, rfl⟩ := leads_done leads
      generalize none : bytesOf tail = bytes at later
      cases later
      have empty : tail = [] := List.map_eq_nil_iff.mp none
      subst empty
      refine ⟨{ p with
        field := p.field.next
        phase := .header []
        tx := closeTx (slot p.field) tx content.length
        absorbed := p.absorbed ++ bytesOf head }, done, rfl, rfl, .cons holds .nil, ?_, flag, ?_⟩
      · exact fun known outside => others known (outside _ List.mem_cons_self)
      · simp [Verdict.andThen]
    · rw [if_neg done]
      obtain ⟨q, sameField, header, length, filled, untouched, noted, ran⟩ := ih
        (p := { p with
          field := p.field.next
          phase := .header []
          tx := closeTx (slot p.field) tx content.length
          absorbed := p.absorbed ++ bytesOf head }) rfl leads rfl
      refine ⟨q, sameField, header, length, ?_, ?_, ?_, ?_⟩
      · refine .cons ?_ filled
        intro known isSlot
        rw [untouched known fun other member same => ?_]
        · exact holds known isSlot
        · have smaller := leads_left leads other member
          rw [slot_injective same isSlot] at smaller
          have := left_next item.2.2
          omega
      · intro known outside
        rw [untouched known fun other member => outside other (List.mem_cons_of_mem _ member)]
        exact others known (outside _ List.mem_cons_self)
      · rw [noted, contractFlag, ← flag]
      · simp only [Verdict.andThen, ran]
        have same : (fields ≠ [] ∧ last = .done) ↔ (p.field :: fields ≠ [] ∧ last = .done) := by
          refine and_congr_left fun isDone => ?_
          constructor
          · simp
          · rintro _ rfl
            exact done (leads.trans isDone)
        simp only [same]

/-- A finished run is cut into the items of the fields that were still to come. -/
theorem items_of_finished {p q : Parser} {input rest : List Symbol} (phase : p.phase = .header [])
    (item : IsItem p.field) (ran : run step p input = .finished q rest) :
    ∃ fields symbols contents, Leads p.field fields .done ∧ input = symbols ++ rest ∧
      Accepts fields (bytesOf symbols) contents := by
  generalize known : left p.field = count
  induction count using Nat.strong_induction_on generalizing p input with
  | _ count ih =>
    subst known
    rcases itemRun input phase item with ⟨q', more, _⟩ | refused | ⟨_, _, _, _, _, _, _, overrun⟩ |
      ⟨symbols, later, content, tx, cut, encodes, within, storable, accepted⟩
    · rw [more] at ran; cases ran
    · rw [refused] at ran; cases ran
    · rw [overrun] at ran; cases ran
    · rw [accepted] at ran
      simp only [Parser.close] at ran
      by_cases done : p.field.next = .done
      · rw [if_pos done] at ran
        cases ran
        exact ⟨[p.field], symbols, [content], ⟨rfl, item, done⟩, cut,
          by simpa using Accepts.cons encodes within storable .nil⟩
      · rw [if_neg done] at ran
        obtain ⟨fields, more, contents, leads, cutMore, accepts⟩ := ih _ (left_next item.2.2)
          rfl (isItem_next item done) ran rfl
        refine ⟨p.field :: fields, symbols ++ more, content :: contents, ⟨rfl, item, leads⟩, ?_, ?_⟩
        · rw [cut, cutMore, List.append_assoc]
        · rw [bytesOf_append]
          exact .cons encodes within storable accepts

/-- An overrun happens in the v item, after the items before it. -/
theorem items_of_overrun {p : Parser} {input : List Symbol} (phase : p.phase = .header [])
    (item : IsItem p.field) (ran : run step p input = .failed .overrun) :
    ∃ fields symbols contents head rest length, Leads p.field fields .v ∧
      input = symbols ++ (head ++ rest) ∧ Accepts fields (bytesOf symbols) contents ∧
      Rlp.IsHeader rlpLengthBufferSize (bytesOf head) ⟨false, length⟩ ∧ WithinLimit .v length ∧
      ¬Storable .v (rest.take length).length := by
  generalize known : left p.field = count
  induction count using Nat.strong_induction_on generalizing p input with
  | _ count ih =>
    subst known
    rcases itemRun input phase item with ⟨q', more, _⟩ | refused |
      ⟨head, rest, length, cut, announces, within, outside, overrun⟩ |
      ⟨symbols, later, content, tx, cut, encodes, within, storable, accepted⟩
    · rw [more] at ran; cases ran
    · rw [refused] at ran; cases ran
    · have isV : p.field = .v := by
        by_contra other
        have short : WithinLimit p.field (rest.take length).length := by
          intro bound known
          exact Nat.le_trans (List.length_take_le _ _) (within bound known)
        exact outside (storable_of_within short other)
      rw [isV] at within outside
      exact ⟨[], [], [], head, rest, length, isV, cut, .nil, announces, within, outside⟩
    · rw [accepted] at ran
      simp only [Parser.close] at ran
      by_cases done : p.field.next = .done
      · rw [if_pos done] at ran
        cases ran
      · rw [if_neg done] at ran
        obtain ⟨fields, more, contents, head, rest, length, leads, cutMore, accepts, announces,
          within', outside⟩ := ih _ (left_next item.2.2) rfl (isItem_next item done) ran rfl
        refine ⟨p.field :: fields, symbols ++ more, content :: contents, head, rest, length,
          ⟨rfl, item, leads⟩, ?_, ?_, announces, within', outside⟩
        · rw [cut, cutMore, List.append_assoc]
        · rw [bytesOf_append]
          exact .cons encodes within storable accepts

/-- The envelope in front of the items: a complete list header. The flags of the call that
completes it decide whether a type item follows. -/
structure Envelope (head : List Symbol) (length : Nat) (flags : UInt32) : Prop where
  announces : Rlp.IsHeader rlpLengthBufferSize (bytesOf head) ⟨true, length⟩
  lastFlags : head.getLast?.map Prod.snd = some flags

/-- The parser once the envelope is open. -/
def atItems (tx : Transaction) (head : List Symbol) (length : Nat) (flags : UInt32) : Parser :=
  ⟨firstField flags, .header [], length, tx, bytesOf head⟩

theorem run_envelope {head : List Symbol} {length : Nat} {flags : UInt32} (tx : Transaction)
    (rest : List Symbol) (envelope : Envelope head length flags) :
    run step (init tx) (head ++ rest) = run step (atItems tx head length flags) rest := by
  obtain ⟨before, byte, last, rfl, complete, room, framed, means⟩ := split_header envelope.announces
  have same : last = flags := by simpa using envelope.lastFlags
  subst same
  rw [List.append_assoc, List.singleton_append,
    run_header (init tx) before rest byte last rfl complete room]
  unfold opened
  simp only [init, ↓reduceIte, means]
  simp [Parser.openEnvelope, Verdict.andThen, atItems, firstField]

/-- Unless the run ends inside the envelope header or with a fault, the input starts with
an envelope. -/
theorem envelope_of_run (tx : Transaction) (input : List Symbol) :
    (∃ q, run step (init tx) input = .more q ∧ q.field = .envelope) ∨
    run step (init tx) input = .failed .fault ∨
    ∃ head rest length flags, input = head ++ rest ∧ Envelope head length flags := by
  rcases headerRun (init tx) input rfl with ⟨q, ran, same⟩ | ran |
    ⟨before, rest, byte, flags, cut, size, room⟩
  · exact Or.inl ⟨q, ran, same⟩
  · exact Or.inr (Or.inl ran)
  · have header := run_header (init tx) before rest byte flags rfl size room
    rw [← cut] at header
    by_cases list : ((Rlp.form ((bytesOf before ++ [byte]).headD 0)).header
        (bytesOf before ++ [byte]).tail).isList = true
    · have framed : Rlp.form ((bytesOf before ++ [byte]).headD 0) ≠ .single := by
        intro single
        rw [single] at list
        cases list
      have announces := isHeader_of_complete flags size room framed
      generalize (Rlp.form ((bytesOf before ++ [byte]).headD 0)).header
        (bytesOf before ++ [byte]).tail = found at list announces
      obtain ⟨isList, length⟩ := found
      cases list
      exact Or.inr (Or.inr ⟨before ++ [(byte, flags)], rest, length, flags, by simp [cut],
        announces, by simp⟩)
    · refine Or.inr (Or.inl ?_)
      rw [header]
      unfold opened
      simp only [init, ↓reduceIte, Parser.openEnvelope, list]
      rfl

end FantomLedger.StreamParser
