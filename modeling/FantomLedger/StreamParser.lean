import FantomLedger.Library.Machine
import FantomLedger.TxStream

/-! What the transaction stream is for, byte by byte: a parser that reads a list header
and then one string item for each field, absorbs every byte it reads, and stores the
items of the fields that have a place in the transaction. -/

namespace FantomLedger.StreamParser

open Library Library.Machine

/-- Inside a header the bytes seen so far are kept, inside an item the announced length
and the number of bytes already taken. -/
inductive Phase where
  | header (seen : List UInt8)
  | content (length pos : Nat)
  deriving DecidableEq, Repr

structure Parser where
  field : TxRlpField
  phase : Phase
  dataLength : Nat
  tx : Transaction
  absorbed : List UInt8
  deriving DecidableEq, Repr

/-- `overrun` is a store outside the array of a field. -/
inductive Stop where
  | fault
  | overrun
  deriving DecidableEq, Repr

/-- A byte and the flags of the call that hands it over. -/
abbrev Symbol := UInt8 × UInt32

def slot : TxRlpField → Option TxSlot
  | .gasPrice => some .gasPrice
  | .startGas => some .startGas
  | .value => some .value
  | .recipient => some .recipient
  | .v => some .v
  | _ => none

/-- The largest length a field may announce. -/
def limit : TxRlpField → Option Nat
  | .type | .nonce | .gasPrice | .startGas | .value | .v => some txMaxInt256Length
  | .recipient => some txMaxAddressLength
  | _ => none

def WithinLimit (field : TxRlpField) (length : Nat) : Prop :=
  ∀ bound, limit field = some bound → length ≤ bound

instance (field : TxRlpField) (length : Nat) : Decidable (WithinLimit field length) :=
  match known : limit field with
  | none => isTrue (by simp [WithinLimit, known])
  | some bound => decidable_of_iff (length ≤ bound) (by simp [WithinLimit, known])

/-- A field that is a string item of the list. -/
def IsItem (field : TxRlpField) : Prop :=
  field ≠ .none ∧ field ≠ .envelope ∧ field ≠ .done

instance (field : TxRlpField) : Decidable (IsItem field) := instDecidableAnd

def storeAt (slot : Option TxSlot) (tx : Transaction) (pos : Nat) (bytes : List UInt8) :
    Option Transaction :=
  match slot with
  | none => some tx
  | some slot => tx.store slot pos bytes

def closeTx (slot : Option TxSlot) (tx : Transaction) (length : Nat) : Transaction :=
  match slot with
  | none => tx
  | some slot => tx.setLength slot length

/-- The data item decides whether the transaction looks like a contract call. -/
def noteTx (field : TxRlpField) (tx : Transaction) (length : Nat) : Transaction :=
  if field = .data then { tx with isContractCall := looksLikeContractCall length } else tx

def Parser.absorb (p : Parser) (bytes : List UInt8) : Parser :=
  { p with absorbed := p.absorbed ++ bytes }

def Parser.close (p : Parser) (length : Nat) : Verdict Parser Stop :=
  let next := { p with
    field := p.field.next
    phase := .header []
    tx := closeTx (slot p.field) p.tx length }
  if next.field = .done then .finished next else .more next

/-- Store bytes of the current item; close the item when they complete it. -/
def Parser.fill (p : Parser) (length pos : Nat) (bytes : List UInt8) : Verdict Parser Stop :=
  match storeAt (slot p.field) p.tx pos bytes with
  | none => .failed .overrun
  | some tx =>
      if pos + bytes.length = length then { p with tx := tx }.close length
      else .more { p with tx := tx, phase := .content length (pos + bytes.length) }

/-- A complete list header opens the envelope. -/
def Parser.openEnvelope (p : Parser) (flags : UInt32) (header : Rlp.Header) :
    Verdict Parser Stop :=
  if header.isList then
    .more { p with
      field := if flags &&& txFlagType = 0 then .nonce else .type
      phase := .header []
      dataLength := header.length }
  else .failed .fault

/-- A complete string header opens an item. -/
def Parser.openItem (p : Parser) (form : Rlp.Form) (header : Rlp.Header) (byte : UInt8) :
    Verdict Parser Stop :=
  if header.isList = true ∨ ¬WithinLimit p.field header.length then .failed .fault
  else
    let noted := { p with tx := noteTx p.field p.tx header.length }
    if form = .single then noted.fill 1 0 [byte]
    else if header.length = 0 then noted.close 0
    else .more { noted with phase := .content header.length 0 }

def step (p : Parser) (symbol : Symbol) : Verdict Parser Stop :=
  match p.phase with
  | .header seen =>
      if seen.length = rlpLengthBufferSize then .failed .fault
      else
        let read := seen ++ [symbol.1]
        let form := Rlp.form (read.headD 0)
        let next := p.absorb [symbol.1]
        if read.length < form.size then .more { next with phase := .header read }
        else if p.field = .envelope then next.openEnvelope symbol.2 (form.header read.tail)
        else next.openItem form (form.header read.tail) symbol.1
  | .content length pos => (p.absorb [symbol.1]).fill length pos [symbol.1]

def init (tx : Transaction) : Parser := ⟨.envelope, .header [], 0, tx, []⟩

/-- What a parser state keeps from byte to byte. -/
def Parser.Valid (p : Parser) : Prop :=
  match p.phase with
  | .header seen =>
      p.field ≠ .none ∧ seen.length ≤ rlpLengthBufferSize ∧
        (seen = [] ∨ seen.length < (Rlp.form (seen.headD 0)).size)
  | .content length pos =>
      IsItem p.field ∧ WithinLimit p.field length ∧ pos < length ∧ length < 2 ^ 32 ∧
        (pos = 0 → noteTx p.field p.tx length = p.tx)

/-- The symbols of one call. -/
def tag (flags : UInt32) (bytes : List UInt8) : List Symbol := bytes.map fun byte => (byte, flags)

def tagged (calls : List Call) : List (List Symbol) :=
  calls.map fun call => tag call.2 call.1.bytes

theorem storeAt_append (slot : Option TxSlot) (tx : Transaction) (pos : Nat)
    (first second : List UInt8) :
    storeAt slot tx pos (first ++ second) =
      (storeAt slot tx pos first).bind fun stored =>
        storeAt slot stored (pos + first.length) second := by
  cases slot with
  | none => rfl
  | some slot => exact Transaction.store_append tx slot pos first second

theorem storeAt_nil (slot : Option TxSlot) (tx : Transaction) (pos : Nat) :
    storeAt slot tx pos [] = some tx := by
  cases slot with
  | none => rfl
  | some slot => exact Transaction.store_nil tx slot pos

def bytesOf (symbols : List Symbol) : List UInt8 := symbols.map Prod.fst

@[simp] theorem bytesOf_nil : bytesOf [] = [] := rfl

@[simp] theorem bytesOf_cons (symbol : Symbol) (symbols : List Symbol) :
    bytesOf (symbol :: symbols) = symbol.1 :: bytesOf symbols := rfl

@[simp] theorem bytesOf_append (first second : List Symbol) :
    bytesOf (first ++ second) = bytesOf first ++ bytesOf second := by
  simp [bytesOf]

@[simp] theorem length_bytesOf (symbols : List Symbol) :
    (bytesOf symbols).length = symbols.length := by
  simp [bytesOf]

@[simp] theorem bytesOf_tag (flags : UInt32) (bytes : List UInt8) :
    bytesOf (tag flags bytes) = bytes := by
  simp [bytesOf, tag, Function.comp_def]

/-- Inside an item, bytes that do not pass its end are stored as if all at once. -/
theorem run_content (p : Parser) (length pos : Nat) (symbols rest : List Symbol)
    (inside : p.phase = .content length pos) (nonempty : symbols ≠ [])
    (fits : pos + symbols.length ≤ length) :
    run step p (symbols ++ rest) =
      ((p.absorb (bytesOf symbols)).fill length pos (bytesOf symbols)).andThen step rest := by
  induction symbols generalizing p pos with
  | nil => exact absurd rfl nonempty
  | cons symbol later ih =>
    simp only [List.length_cons] at fits
    have head : run step p (symbol :: later ++ rest) =
        ((p.absorb [symbol.1]).fill length pos [symbol.1]).andThen step (later ++ rest) := by
      simp only [List.cons_append, run_cons, step, inside]
    cases later with
    | nil => simpa using head
    | cons next later =>
      simp only [List.length_cons] at fits
      have split := storeAt_append (slot p.field) p.tx pos [symbol.1] (bytesOf (next :: later))
      simp only [List.singleton_append] at split
      rw [head]
      simp only [Parser.fill, Parser.absorb, bytesOf_cons symbol, split, List.length_singleton]
      cases storeAt (slot p.field) p.tx pos [symbol.1] with
      | none => rfl
      | some tx =>
        have tail := ih { p with
          absorbed := p.absorbed ++ [symbol.1], tx := tx, phase := .content length (pos + 1) }
          (pos + 1) rfl (by simp) (by simp only [List.length_cons]; omega)
        simp only [Parser.fill, Parser.absorb] at tail
        simp only [Option.bind_some]
        rw [if_neg (by omega)]
        simp only [Verdict.andThen, tail, List.append_assoc, List.singleton_append,
          List.length_cons, Nat.add_assoc, Nat.add_comm 1]
        cases storeAt (slot p.field) tx (pos + 1) (bytesOf (next :: later)) <;> rfl

/-- The same for all symbols at hand: those the item still lacks are taken. -/
theorem run_item (p : Parser) (length pos : Nat) (symbols : List Symbol)
    (inside : p.phase = .content length pos) (lacking : pos < length) :
    run step p symbols =
      ((p.absorb (bytesOf (symbols.take (length - pos)))).fill length pos
        (bytesOf (symbols.take (length - pos)))).andThen step (symbols.drop (length - pos)) := by
  by_cases empty : symbols = []
  · subst empty
    have same : pos ≠ length := by omega
    obtain ⟨field, phase, dataLength, tx, absorbed⟩ := p
    cases inside
    simp [run, Parser.fill, Parser.absorb, storeAt_nil, same, Verdict.andThen]
  · have taken : symbols.take (length - pos) ≠ [] := by
      intro none
      have := congrArg List.length none
      have := List.length_pos_iff.mpr empty
      simp only [List.length_take, List.length_nil] at *
      omega
    have content := run_content p length pos (symbols.take (length - pos))
      (symbols.drop (length - pos)) inside taken (by rw [List.length_take]; omega)
    rwa [List.take_append_drop] at content

theorem run_item_tag (p : Parser) (flags : UInt32) (length pos : Nat) (bytes : List UInt8)
    (inside : p.phase = .content length pos) (lacking : pos < length) :
    run step p (tag flags bytes) =
      ((p.absorb (bytes.take (length - pos))).fill length pos
        (bytes.take (length - pos))).andThen step (tag flags (bytes.drop (length - pos))) := by
  have whole := run_item p length pos (tag flags bytes) inside lacking
  have taken : (tag flags bytes).take (length - pos) = tag flags (bytes.take (length - pos)) :=
    List.map_take.symm
  have left : (tag flags bytes).drop (length - pos) = tag flags (bytes.drop (length - pos)) :=
    List.map_drop.symm
  rwa [taken, left, bytesOf_tag] at whole

theorem openItem_refuses {p : Parser} {form : Rlp.Form} {header : Rlp.Header} {byte : UInt8}
    (refused : header.isList = true ∨ ¬WithinLimit p.field header.length) :
    p.openItem form header byte = .failed .fault := by
  unfold Parser.openItem
  exact if_pos refused

theorem openItem_accepts {p : Parser} {form : Rlp.Form} {header : Rlp.Header} {byte : UInt8}
    (string : header.isList = false) (within : WithinLimit p.field header.length) :
    p.openItem form header byte =
      let noted := { p with tx := noteTx p.field p.tx header.length }
      if form = .single then noted.fill 1 0 [byte]
      else if header.length = 0 then noted.close 0
      else .more { noted with phase := .content header.length 0 } := by
  unfold Parser.openItem
  exact if_neg (by simp [string, within])

theorem absorbed_close {p q : Parser} {length : Nat} (closed : (p.close length).state = some q) :
    q.absorbed = p.absorbed := by
  unfold Parser.close at closed
  simp only at closed
  split_ifs at closed <;> cases closed <;> rfl

theorem absorbed_fill {p q : Parser} {length pos : Nat} {bytes : List UInt8}
    (filled : (p.fill length pos bytes).state = some q) : q.absorbed = p.absorbed := by
  unfold Parser.fill at filled
  cases stored : storeAt (slot p.field) p.tx pos bytes with
  | none =>
    rw [stored] at filled
    cases filled
  | some tx =>
    simp only [stored] at filled
    split_ifs at filled
    · have kept := absorbed_close filled
      exact kept
    · cases filled
      rfl

theorem absorbed_openItem {p q : Parser} {form : Rlp.Form} {header : Rlp.Header} {byte : UInt8}
    (opened : (p.openItem form header byte).state = some q) : q.absorbed = p.absorbed := by
  unfold Parser.openItem at opened
  simp only at opened
  split_ifs at opened
  · cases opened
  · have kept := absorbed_fill opened
    exact kept
  · have kept := absorbed_close opened
    exact kept
  · cases opened
    rfl

theorem absorbed_openEnvelope {p q : Parser} {flags : UInt32} {header : Rlp.Header}
    (opened : (p.openEnvelope flags header).state = some q) : q.absorbed = p.absorbed := by
  unfold Parser.openEnvelope at opened
  split_ifs at opened <;> cases opened <;> rfl

/-- Every byte read is absorbed. -/
theorem absorbed_step {p q : Parser} {symbol : Symbol} (stepped : (step p symbol).state = some q) :
    q.absorbed = p.absorbed ++ [symbol.1] := by
  unfold step at stepped
  cases phase : p.phase with
  | content length pos =>
    simp only [phase] at stepped
    have kept := absorbed_fill stepped
    exact kept
  | header seen =>
    simp only [phase] at stepped
    split_ifs at stepped
    · cases stepped
    · cases stepped
      rfl
    · have kept := absorbed_openEnvelope stepped
      exact kept
    · have kept := absorbed_openItem stepped
      exact kept

theorem absorbed_run_more {p q : Parser} {input : List Symbol} (ran : run step p input = .more q) :
    q.absorbed = p.absorbed ++ bytesOf input := by
  induction input generalizing p with
  | nil => cases ran; simp
  | cons symbol rest ih =>
    rw [run_cons] at ran
    cases stepped : step p symbol with
    | more next =>
      rw [stepped] at ran
      rw [ih ran, absorbed_step (by rw [stepped]; rfl)]
      simp
    | finished next => simp [stepped, Verdict.andThen] at ran
    | failed stop => simp [stepped, Verdict.andThen] at ran

/-- A run that finishes splits the input into what was absorbed and what was not read. -/
theorem absorbed_run_finished {p q : Parser} {input rest : List Symbol}
    (ran : run step p input = .finished q rest) :
    ∃ consumed, input = consumed ++ rest ∧ q.absorbed = p.absorbed ++ bytesOf consumed := by
  obtain ⟨before, symbol, middle, cut, more, last⟩ := run_finished_split ran
  refine ⟨before ++ [symbol], by simp [cut], ?_⟩
  rw [absorbed_step (by rw [last]; rfl), absorbed_run_more more]
  simp

/-- Fields that are still to come, the current one included. -/
def left : TxRlpField → Nat
  | .none => 12
  | .envelope => 11
  | .type => 10
  | .nonce => 9
  | .gasPrice => 8
  | .startGas => 7
  | .recipient => 6
  | .value => 5
  | .data => 4
  | .v => 3
  | .r => 2
  | .s => 1
  | .done => 0

theorem left_next {field : TxRlpField} (notDone : field ≠ .done) :
    left field.next < left field := by
  cases field <;> first | decide | exact absurd rfl notDone

theorem fill_more {p q : Parser} {length pos : Nat} {bytes : List UInt8}
    (filled : p.fill length pos bytes = .more q) (notDone : p.field ≠ .done) :
    q.field ≠ .done ∧ (left q.field < left p.field ∨
      q.field = p.field ∧ pos + bytes.length ≠ length) := by
  unfold Parser.fill Parser.close at filled
  cases stored : storeAt (slot p.field) p.tx pos bytes with
  | none => simp [stored] at filled
  | some tx =>
    simp only [stored] at filled
    split_ifs at filled with full done
    · cases filled
      exact ⟨done, Or.inl (left_next notDone)⟩
    · cases filled
      exact ⟨notDone, Or.inr ⟨rfl, full⟩⟩

end FantomLedger.StreamParser
