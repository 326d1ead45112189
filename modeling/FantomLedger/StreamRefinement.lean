import FantomLedger.StreamHeaders
import FantomLedger.StreamStores

/-! The stream code does what the byte by byte parser does: every call on a stream that
waits for more input follows the parser's run over the chunk. -/

namespace FantomLedger

open Library Library.Machine Library.Program StreamParser

/-- What one round of the parser's loop does: it ends the call, or it moves to a later
field unless the chunk is used up. -/
inductive Round (p : Parser) (flags : UInt32) (rest : List UInt8) :
    EStateM.Result Exc TxStreamContext (Option TxStreamStatus) → Prop
  | asks {s : TxStreamContext} {q : Parser} (ran : run step p (tag flags rest) = .more q)
      (stands : Represents q s) (read : Pending s flags []) (open_ : q.field ≠ .done) :
      Round p flags rest (.ok (some .processing) s)
  | faults {s : TxStreamContext} (ran : run step p (tag flags rest) = .failed .fault)
      (stuck : Stuck s) : Round p flags rest (.ok (some .fault) s)
  | throws {s : TxStreamContext} {code : Nat} (ran : run step p (tag flags rest) = .failed .fault)
      (stuck : Stuck s) : Round p flags rest (.error (.thrown code) s)
  | overruns {s : TxStreamContext} (ran : run step p (tag flags rest) = .failed .overrun) :
      Round p flags rest (.error .undefined s)
  | finishes {s : TxStreamContext} {q : Parser} {later : List UInt8}
      (ran : run step p (tag flags rest) = .finished q (tag flags later))
      (done : q.field = .done) (stands : Represents q s) (pending : Pending s flags later) :
      Round p flags rest (.ok none s)
  | moves {s : TxStreamContext} {q : Parser} {later : List UInt8}
      (ran : run step p (tag flags rest) = run step q (tag flags later))
      (stands : Represents q s) (pending : Pending s flags later) (open_ : q.field ≠ .done)
      (progress : later = [] ∨ left q.field < left p.field) :
      Round p flags rest (.ok none s)

/-- A round ends the call when the proxy reports a fault. -/
def afterProxy : EStateM.Result Exc TxStreamContext TxStreamStatus →
    EStateM.Result Exc TxStreamContext (Option TxStreamStatus)
  | .ok status s => .ok (if status = .fault then some .fault else none) s
  | .error exc s => .error exc s

/-- A round that hands the field to the proxy, once the parser's verdict on it is known. -/
theorem round_of_agrees {p : Parser} {flags : UInt32} {rest later : List UInt8}
    {verdict : Verdict Parser Stop} {result : EStateM.Result Exc TxStreamContext TxStreamStatus}
    (ran : run step p (tag flags rest) = verdict.andThen step (tag flags later))
    (agrees : Agrees flags later verdict result)
    (progress : ∀ q, verdict = .more q →
      q.field ≠ .done ∧ (later = [] ∨ left q.field < left p.field)) :
    Round p flags rest (afterProxy result) := by
  cases verdict with
  | more q =>
    cases result with
    | ok status s =>
      cases status with
      | processing =>
        obtain ⟨open_, moved⟩ := progress q rfl
        exact .moves ran agrees.1 agrees.2 open_ moved
      | finished => exact absurd agrees id
      | fault => exact absurd agrees id
    | error exc s => exact absurd agrees id
  | finished q =>
    cases result with
    | ok status s =>
      cases status with
      | processing => exact .finishes ran agrees.2.2 agrees.1 agrees.2.1
      | finished => exact absurd agrees id
      | fault => exact absurd agrees id
    | error exc s => exact absurd agrees id
  | failed stop =>
    cases stop with
    | fault =>
      cases result with
      | ok status s =>
        cases status with
        | processing => exact absurd agrees id
        | finished => exact absurd agrees id
        | fault => exact .faults ran agrees
      | error exc s =>
        cases exc with
        | thrown code => exact .throws ran agrees
        | reset => exact absurd agrees id
        | undefined => exact absurd agrees id
        | diverges => exact absurd agrees id
    | overrun =>
      cases result with
      | ok status s => cases status <;> exact absurd agrees id
      | error exc s =>
        cases exc with
        | undefined => exact .overruns ran
        | thrown code => exact absurd agrees id
        | reset => exact absurd agrees id
        | diverges => exact absurd agrees id

/-- How a round goes on once the field at hand is known. -/
theorem txStreamParseRound_inField {s : TxStreamContext} (open_ : s.currentField ≠ .done)
    (unread : s.workBufferLength ≠ 0) (processing : s.isProcessingField = true) :
    (txStreamParseRound storeInside).run s = afterProxy ((txStreamParseFieldProxy storeInside).run s) := by
  unfold txStreamParseRound
  simp only [EStateM.run_bind, EStateM.run_get, open_, unread, processing, ↓reduceIte,
    not_true_eq_false]
  cases (txStreamParseFieldProxy storeInside).run s with
  | ok status s => cases status <;> rfl
  | error exc s => rfl

theorem txStreamParseRound_between {s next : TxStreamContext} (open_ : s.currentField ≠ .done)
    (unread : s.workBufferLength ≠ 0) (between : s.isProcessingField = false)
    (entered : txStreamEnterField.run s = .ok none next) :
    (txStreamParseRound storeInside).run s = afterProxy ((txStreamParseFieldProxy storeInside).run next) := by
  unfold txStreamParseRound
  simp only [EStateM.run_bind, EStateM.run_get, open_, unread, between, ↓reduceIte,
    Bool.false_eq_true, not_false_eq_true, entered]
  cases (txStreamParseFieldProxy storeInside).run next with
  | ok status s => cases status <;> rfl
  | error exc s => rfl

theorem round_content {p : Parser} {s : TxStreamContext} {flags : UInt32} {rest : List UInt8}
    {length pos : Nat} (stands : Represents p s) (pending : Pending s flags rest)
    (nonempty : rest ≠ []) (phase : p.phase = .content length pos) :
    Round p flags rest ((txStreamParseRound storeInside).run s) := by
  obtain ⟨field, hash, dataLength, tx, single, atPhase, valid⟩ := stands
  simp only [AtPhase, phase] at atPhase
  simp only [Parser.Valid, phase] at valid
  obtain ⟨processing, string, offset, announced, position⟩ := atPhase
  obtain ⟨item, within, lacking, small, noted⟩ := valid
  have notDone : p.field ≠ .done := item.2.2
  have unread : s.workBufferLength ≠ 0 := by
    rw [pending.count]
    exact fun none => nonempty (List.length_eq_zero_iff.mp none)
  have current : InItem p length pos s :=
    ⟨field, hash, dataLength, tx, processing, string, offset, announced, position, item, within,
      by omega, small⟩
  have agrees := txStreamParseFieldProxy_agrees current pending (by simp [single])
  have sameTx : (if pos = 0 then noteTx p.field p.tx length else p.tx) = p.tx := by
    split_ifs with start
    · exact noted start
    · rfl
  simp only [sameTx, single, Bool.false_eq_true, ↓reduceIte] at agrees
  rw [txStreamParseRound_inField (by rw [field]; exact notDone) unread processing]
  refine round_of_agrees (run_item_tag p flags length pos rest phase lacking) agrees ?_
  intro q more
  obtain ⟨open_, moved⟩ := fill_more more notDone
  refine ⟨open_, moved.symm.imp_left fun stays => ?_⟩
  have short := stays.2
  rw [List.length_take] at short
  exact List.drop_eq_nil_of_le (by omega)

/-- Without a complete header the round ends the call. -/
theorem txStreamParseRound_stops {s next : TxStreamContext} {status : TxStreamStatus}
    (open_ : s.currentField ≠ .done) (unread : s.workBufferLength ≠ 0)
    (between : s.isProcessingField = false) (stops : status ≠ .finished)
    (detected : txStreamDetectField.run s = .ok (status, false) next) :
    (txStreamParseRound storeInside).run s = .ok (some status) next := by
  have enter : txStreamEnterField.run s = .ok (some status) next := by
    unfold txStreamEnterField
    simp only [EStateM.run_bind, detected]
    cases status with
    | processing => rfl
    | fault => rfl
    | finished => exact absurd rfl stops
  unfold txStreamParseRound
  simp only [EStateM.run_bind, EStateM.run_get, open_, unread, between, ↓reduceIte,
    Bool.false_eq_true, not_false_eq_true, enter]
  rfl

theorem round_header {p : Parser} {s : TxStreamContext} {flags : UInt32} {rest seen : List UInt8}
    (stands : Represents p s) (pending : Pending s flags rest) (nonempty : rest ≠ [])
    (phase : p.phase = .header seen) (open_ : p.field ≠ .done) :
    Round p flags rest ((txStreamParseRound storeInside).run s) := by
  have atPhase := stands.phase
  simp only [AtPhase, phase] at atPhase
  have between := atPhase.1
  have unread : s.workBufferLength ≠ 0 := by
    rw [pending.count]
    exact fun none => nonempty (List.length_eq_zero_iff.mp none)
  have openS : s.currentField ≠ .done := by rw [stands.field]; exact open_
  have detected : Detected p flags rest (txStreamDetectField.run s) := by
    unfold txStreamDetectField
    simp only [EStateM.run_bind, EStateM.run_get]
    exact txStreamDetect_agrees stands phase pending (by rw [pending.count]; omega)
  generalize found : txStreamDetectField.run s = result at detected
  cases detected with
  | starved ran same standsQ read =>
    rw [txStreamParseRound_stops openS unread between (by decide) found]
    exact .asks ran standsQ read (by rw [same]; exact open_)
  | refused ran stuck =>
    rw [txStreamParseRound_stops openS unread between (by decide) found]
    exact .faults ran stuck
  | found ran same standsQ pendingQ phaseQ room complete =>
    rename_i read q seenQ later byte
    have entered := txStreamEnterField_found standsQ pendingQ phaseQ room complete found
    rw [txStreamParseRound_between openS unread between entered]
    have size := header_complete standsQ.valid phaseQ complete
    generalize known : Rlp.form ((seenQ ++ [byte]).headD 0) = form at *
    have notFull : seenQ.length ≠ rlpLengthBufferSize := by
      have atPhaseQ := standsQ.phase
      simp only [AtPhase, phaseQ] at atPhaseQ
      omega
    have stepped : step q (byte, flags) =
        if q.field = .envelope then
          (q.absorb [byte]).openEnvelope flags (form.header (seenQ ++ [byte]).tail)
        else (q.absorb [byte]).openItem form (form.header (seenQ ++ [byte]).tail) byte := by
      simp only [step, phaseQ, notFull, ↓reduceIte, known, List.length_append,
        List.length_singleton, size, lt_irrefl]
    have small : (form.header (seenQ ++ [byte]).tail).length < 2 ^ 32 := by
      rw [← known]
      refine Rlp.header_length_lt _ _ ?_
      simp only [List.length_tail, List.length_append, List.length_singleton]
      have valid := standsQ.valid
      simp only [Parser.Valid, phaseQ, rlpLengthBufferSize] at valid notFull
      omega
    have lone : form = .single → (form.header (seenQ ++ [byte]).tail).length = 1 ∧
        (form.header (seenQ ++ [byte]).tail).isList = false := by
      rintro rfl
      exact ⟨rfl, rfl⟩
    generalize form.header (seenQ ++ [byte]).tail = header at *
    by_cases envelope : q.field = .envelope
    · rw [if_pos envelope] at stepped
      have waiting := pendingQ.entered room (decide (form = .single)) header
      have framed : header.isList = true → decide (form = .single) = false := by
        intro list
        refine decide_eq_false fun one => ?_
        rw [(lone one).2] at list
        exact absurd list (by decide)
      have hash : (read.readHeader byte room).sha3Context = ⟨(q.absorb [byte]).absorbed, false⟩ := by
        simp only [TxStreamContext.readHeader, standsQ.hash, Sha3Context.cxHash, Parser.absorb]
      have agrees := proxy_envelope
        (s := (read.readHeader byte room).entered (decide (form = .single)) header)
        (p := q.absorb [byte]) (standsQ.field.trans envelope) rfl hash standsQ.tx rfl rfl framed rfl
        (fun list => by rw [framed list] at waiting ⊢; exact waiting)
      refine round_of_agrees ?_ agrees fun next more => ?_
      · rw [ran, tag, List.map_cons, run_cons, stepped]
        rfl
      · have opened := openEnvelope_more (p := q.absorb [byte]) more envelope
        rw [← same]
        exact ⟨opened.1, Or.inr opened.2⟩
    · rw [if_neg envelope] at stepped
      have someField : q.field ≠ .none := by
        have valid := standsQ.valid
        simp only [Parser.Valid, phaseQ] at valid
        exact valid.1
      obtain ⟨verdict, rest', machine, agrees, progress⟩ := proxy_opened standsQ pendingQ room
        ⟨someField, envelope, by rw [same]; exact open_⟩ small (fun single => (lone single).1)
      refine round_of_agrees ?_ agrees (by rw [same] at progress; exact progress)
      rw [ran, tag, List.map_cons, run_cons, stepped]
      exact machine

/-- How a call agrees with the parser's run over its chunk. -/
inductive Parsed (p : Parser) (flags : UInt32) (rest : List UInt8) :
    EStateM.Result Exc TxStreamContext TxStreamStatus → Prop
  | asks {s : TxStreamContext} {q : Parser} (ran : run step p (tag flags rest) = .more q)
      (stands : Represents q s) (read : Pending s flags []) (open_ : q.field ≠ .done) :
      Parsed p flags rest (.ok .processing s)
  | finishes {s : TxStreamContext} {q : Parser} {later : List UInt8}
      (ran : run step p (tag flags rest) = .finished q (tag flags later))
      (done : q.field = .done) (stands : Represents q s) (pending : Pending s flags later) :
      Parsed p flags rest (.ok .finished s)
  | faults {s : TxStreamContext} (ran : run step p (tag flags rest) = .failed .fault)
      (stuck : Stuck s) : Parsed p flags rest (.ok .fault s)
  | throws {s : TxStreamContext} {code : Nat} (ran : run step p (tag flags rest) = .failed .fault)
      (stuck : Stuck s) : Parsed p flags rest (.error (.thrown code) s)
  | overruns {s : TxStreamContext} (ran : run step p (tag flags rest) = .failed .overrun) :
      Parsed p flags rest (.error .undefined s)

theorem Parsed.trans {p q : Parser} {flags : UInt32} {rest later : List UInt8}
    {result : EStateM.Result Exc TxStreamContext TxStreamStatus}
    (moved : run step p (tag flags rest) = run step q (tag flags later))
    (parsed : Parsed q flags later result) : Parsed p flags rest result := by
  cases parsed with
  | asks ran stands read open_ => exact .asks (moved.trans ran) stands read open_
  | finishes ran done stands pending => exact .finishes (moved.trans ran) done stands pending
  | faults ran stuck => exact .faults (moved.trans ran) stuck
  | throws ran stuck => exact .throws (moved.trans ran) stuck
  | overruns ran => exact .overruns (moved.trans ran)

/-- The fields still to come bound the rounds. -/
theorem txStreamParse_agrees {p : Parser} {s : TxStreamContext} {flags : UInt32}
    {rest : List UInt8} {rounds : Nat} (stands : Represents p s) (pending : Pending s flags rest)
    (open_ : p.field ≠ .done)
    (enough : rest = [] ∧ 0 < rounds ∨ left p.field + 2 ≤ rounds) :
    Parsed p flags rest ((iterate .diverges (txStreamParseRound storeInside) rounds).run s) := by
  induction rounds generalizing p s rest with
  | zero => omega
  | succ rounds ih =>
    by_cases empty : rest = []
    · subst empty
      have openS : s.currentField ≠ .done := by rw [stands.field]; exact open_
      have unread : s.workBufferLength = 0 := pending.count
      rw [iterate_run_some (s := s) (t := s) (by
        unfold txStreamParseRound
        simp only [EStateM.run_bind, EStateM.run_get, openS, unread, ↓reduceIte]
        rfl)]
      exact .asks rfl stands pending open_
    · have round : Round p flags rest ((txStreamParseRound storeInside).run s) := by
        cases phase : p.phase with
        | header seen => exact round_header stands pending empty phase open_
        | content length pos => exact round_content stands pending empty phase
      generalize result : (txStreamParseRound storeInside).run s = outcome at round
      cases round with
      | asks ran standsQ read openQ =>
        rw [iterate_run_some result]
        exact .asks ran standsQ read openQ
      | faults ran stuck =>
        rw [iterate_run_some result]
        exact .faults ran stuck
      | throws ran stuck =>
        rw [iterate_run_error result]
        exact .throws ran stuck
      | overruns ran =>
        rw [iterate_run_error result]
        exact .overruns ran
      | finishes ran done standsQ pendingQ =>
        obtain ⟨rounds, rfl⟩ : ∃ n, rounds = n + 1 :=
          ⟨rounds - 1, by have := enough.resolve_left (empty ·.1); omega⟩
        rw [iterate_run_none result, iterate_run_some (by
          unfold txStreamParseRound
          simp only [EStateM.run_bind, EStateM.run_get, standsQ.field.trans done, ↓reduceIte]
          rfl)]
        exact .finishes ran done standsQ pendingQ
      | moves ran standsQ pendingQ openQ progress =>
        rw [iterate_run_none result]
        refine Parsed.trans ran ?_
        have more := enough.resolve_left (empty ·.1)
        refine ih standsQ pendingQ openQ ?_
        rcases progress with used | later
        · exact Or.inl ⟨used, by omega⟩
        · exact Or.inr (by omega)

/-- A call on a stream that waits for more input agrees with the parser on the chunk. -/
theorem txStreamProcess_agrees {p : Parser} {s : TxStreamContext} (stands : Represents p s)
    (open_ : p.field ≠ .done) (call : Call) :
    Parsed p call.2 call.1.bytes
      ((txStreamProcess storeInside call.1.bytes call.1.bytes.length call.2).run s) ∧
    ∀ code next, (txStreamProcess storeInside call.1.bytes call.1.bytes.length call.2).run s ≠
      .error (.thrown code) next := by
  obtain ⟨⟨bytes, nonempty, length_lt⟩, flags⟩ := call
  have some : 0 < bytes.length := List.length_pos_iff.mpr nonempty
  have known : s.currentField ≠ .none ∧ s.currentField ≠ .done := by
    rw [stands.field]
    refine ⟨?_, open_⟩
    have valid := stands.valid
    unfold Parser.Valid at valid
    cases phase : p.phase with
    | header seen => simp only [phase] at valid; exact valid.1
    | content length pos => simp only [phase] at valid; exact valid.1.1
  have bound : left p.field + 2 ≤ parseRounds := by
    cases field : p.field with
    | none => exact absurd (stands.field.trans field) known.1
    | _ => simp [left, parseRounds]
  have parsed := txStreamParse_agrees (s := { s with
      workBuffer := bytes, workBufferIndex := 0, workBufferLength := bytes.length,
      processingFlags := flags })
    ⟨stands.field, stands.hash, stands.dataLength, stands.tx, stands.single, stands.phase,
      stands.valid⟩
    ⟨rfl, Nat.zero_le _, rfl, length_lt, rfl⟩ open_ (Or.inr (bound.trans (Nat.le_add_left _ bytes.length)))
  unfold txStreamProcess
  rw [catching_run]
  simp only [EStateM.run_bind, some, decide_true, validate_true, EStateM.run_pure, EStateM.run_get,
    known, not_false_eq_true, and_self, EStateM.run_modify, ne_eq]
  unfold txStreamParse
  simp only [EStateM.run_bind, EStateM.run_get]
  generalize (iterate .diverges (txStreamParseRound storeInside) (bytes.length + parseRounds)).run _ = result
    at parsed ⊢
  cases parsed with
  | asks ran stands read open_ => exact ⟨.asks ran stands read open_, by simp⟩
  | finishes ran done stands pending => exact ⟨.finishes ran done stands pending, by simp⟩
  | faults ran stuck => exact ⟨.faults ran stuck, by simp⟩
  | throws ran stuck => exact ⟨.faults ran stuck, by simp⟩
  | overruns ran => exact ⟨.overruns ran, by simp⟩

theorem txStreamParseRound_stuck {s : TxStreamContext} (stuck : Stuck s)
    (open_ : s.currentField ≠ .done) (unread : s.workBufferLength ≠ 0) :
    ∃ next, Stuck next ∧ ((txStreamParseRound storeInside).run s = .ok (some .fault) next ∨
      (txStreamParseRound storeInside).run s = .error (.thrown errInvalidData) next) := by
  rcases stuck with done | ⟨between, full⟩ | ⟨processing, field, list⟩ | ⟨processing, item, fails⟩
  · exact absurd done open_
  · have round : txStreamDetectRound.run s = .ok (some (.fault, false)) s := by
      unfold txStreamDetectRound
      simp [full, unread]
    have detected : txStreamDetectField.run s = .ok (.fault, false) s := by
      unfold txStreamDetectField
      simp only [EStateM.run_bind, EStateM.run_get, iterate_run_some round]
    exact ⟨s, Or.inr (Or.inl ⟨between, full⟩),
      Or.inl (txStreamParseRound_stops open_ unread between (by decide) detected)⟩
  · refine ⟨s, Or.inr (Or.inr (Or.inl ⟨processing, field, list⟩)), Or.inr ?_⟩
    rw [txStreamParseRound_inField open_ unread processing]
    unfold txStreamParseFieldProxy txStreamProcessEnvelope
    simp only [EStateM.run_bind, EStateM.run_get, field, list, validate_false, run_throw,
      afterProxy]
  · refine ⟨s.noted, Stuck.noted item processing fails, Or.inr ?_⟩
    rw [txStreamParseRound_inField open_ unread processing,
      txStreamParseFieldProxy_refuses item fails, afterProxy]

/-- A fault stays: every later call is answered with one. -/
theorem txStreamProcess_stuck {s : TxStreamContext} (stuck : Stuck s) (call : Call) :
    ∃ next, (txStreamProcess storeInside call.1.bytes call.1.bytes.length call.2).run s = .ok .fault next ∧
      Stuck next := by
  obtain ⟨⟨bytes, nonempty, _⟩, flags⟩ := call
  have some : 0 < bytes.length := List.length_pos_iff.mpr nonempty
  unfold txStreamProcess
  rw [catching_run]
  simp only [EStateM.run_bind, some, decide_true, validate_true, EStateM.run_pure, EStateM.run_get]
  by_cases known : s.currentField ≠ .none ∧ s.currentField ≠ .done
  · simp only [known, ne_eq, not_false_eq_true, and_self, decide_true, validate_true,
      EStateM.run_pure, EStateM.run_modify]
    obtain ⟨next, stuckNext, ends⟩ := txStreamParseRound_stuck (s := { s with
      workBuffer := bytes, workBufferIndex := 0, workBufferLength := bytes.length,
      processingFlags := flags }) stuck known.2 (by simpa using nonempty)
    refine ⟨next, ?_, stuckNext⟩
    unfold txStreamParse parseRounds
    simp only [EStateM.run_bind, EStateM.run_get]
    rcases ends with fault | thrown
    · rw [iterate_run_some fault]
    · rw [iterate_run_error thrown]
  · simp only [known, decide_false, validate_false, run_throw]
    exact ⟨s, rfl, stuck⟩

theorem txStreamCalls_stuck {s : TxStreamContext} (stuck : Stuck s) (calls : List Call) :
    ∃ next, (txStreamCalls storeInside calls).run s = .ok () next := by
  induction calls generalizing s with
  | nil => exact ⟨s, rfl⟩
  | cons call calls ih =>
    obtain ⟨next, faults, stuckNext⟩ := txStreamProcess_stuck stuck call
    obtain ⟨final, ends⟩ := ih stuckNext
    refine ⟨final, ?_⟩
    simp only [txStreamCalls, EStateM.run_bind, faults]
    exact ends

/-- A sequence of calls leaves an array exactly when the parser overruns one, also when
the calls go on after a fault. -/
theorem txStreamCalls_undefined_iff {p : Parser} {s : TxStreamContext} (stands : Represents p s)
    (open_ : p.field ≠ .done) (calls : List Call) :
    (∃ next, (txStreamCalls storeInside calls).run s = .error .undefined next) ↔
      run step p (tagged calls).flatten = .failed .overrun := by
  induction calls generalizing p s with
  | nil => simp [txStreamCalls, tagged, run]
  | cons call calls ih =>
    obtain ⟨parsed, noThrow⟩ := txStreamProcess_agrees stands open_ call
    have split : run step p (tagged (call :: calls)).flatten =
        (run step p (tag call.2 call.1.bytes)).andThen step (tagged calls).flatten := by
      simp only [tagged, List.map_cons, List.flatten_cons, run_append]
    rw [split]
    simp only [txStreamCalls, EStateM.run_bind]
    generalize (txStreamProcess storeInside call.1.bytes call.1.bytes.length call.2).run s = outcome
      at parsed noThrow ⊢
    cases parsed with
    | asks ran standsQ _ openQ =>
      rw [ran]
      exact ih standsQ openQ
    | finishes ran done standsQ _ =>
      obtain ⟨final, ends⟩ := txStreamCalls_stuck (Or.inl (standsQ.field.trans done)) calls
      simp [ran, ends, Outcome.andThen]
    | faults ran stuck =>
      obtain ⟨final, ends⟩ := txStreamCalls_stuck stuck calls
      simp [ran, ends, Outcome.andThen]
    | throws ran stuck => exact absurd rfl (noThrow _ _)
    | overruns ran => simp [ran, Outcome.andThen]

/-- How feeding chunks agrees with the parser's run over them. -/
inductive Followed (p : Parser) (calls : List Call) (fed : Fed) : Prop
  | asks (q : Parser) (ran : runChunks step p (tagged calls) =
        (.more q, (tagged calls).flatten))
      (received : fed.received = (calls.map fun call => call.1.bytes).flatten)
      (status : fed.status = .ok .processing) (stands : Represents q fed.stream)
      (read : fed.stream.unread = [] ∧ fed.stream.workBufferLength = 0)
  | finishes (q : Parser) (flags : UInt32) (later : List UInt8)
      (symbols : List Symbol) (ran : runChunks step p (tagged calls) =
        (.finished q (tag flags later), symbols))
      (received : fed.received = bytesOf symbols) (status : fed.status = .ok .finished)
      (done : q.field = .done) (stands : Represents q fed.stream)
      (pending : Pending fed.stream flags later)
  | faults (symbols : List Symbol) (ran : runChunks step p (tagged calls) =
        (.failed .fault, symbols)) (status : fed.status = .ok .fault)
  | overruns (symbols : List Symbol) (ran : runChunks step p (tagged calls) =
        (.failed .overrun, symbols)) (status : fed.status = .error .undefined)

theorem feed_follows {p : Parser} {s : TxStreamContext} (stands : Represents p s)
    (open_ : p.field ≠ .done) (read : s.unread = [] ∧ s.workBufferLength = 0) (calls : List Call) :
    Followed p calls (feed storeInside s calls) := by
  induction calls generalizing p s with
  | nil => exact .asks p rfl rfl rfl stands read
  | cons call calls ih =>
    obtain ⟨parsed, noThrow⟩ := txStreamProcess_agrees stands open_ call
    have split : tagged (call :: calls) = tag call.2 call.1.bytes :: tagged calls := rfl
    generalize result : (txStreamProcess storeInside call.1.bytes call.1.bytes.length call.2).run s = outcome
      at parsed noThrow
    cases parsed with
    | asks ran standsQ readQ openQ =>
      rename_i next q
      have chunks := runChunks_more ran (tagged calls)
      have fedEq : feed storeInside s (call :: calls) =
          { feed storeInside next calls with received := call.1.bytes ++ (feed storeInside next calls).received } := by
        rw [feed, result]
      rw [← split] at chunks
      rw [fedEq]
      cases ih standsQ openQ ⟨readQ.bytes, readQ.count⟩ with
      | asks q ran received status stands read =>
        rw [ran] at chunks
        exact .asks q (chunks.trans (by simp [split])) (by simp [received]) status stands read
      | finishes q flags later symbols ran received status done stands pending =>
        rw [ran] at chunks
        exact .finishes q flags later _ chunks (by simp [received, bytesOf_tag]) status done stands
          pending
      | faults symbols ran status =>
        rw [ran] at chunks
        exact .faults _ chunks status
      | overruns symbols ran status =>
        rw [ran] at chunks
        exact .overruns _ chunks status
    | finishes ran done standsQ pending =>
      rw [feed_stopped result (by decide)]
      exact .finishes _ call.2 _ _ (runChunks_stopped ran (by simp) (tagged calls))
        (bytesOf_tag _ _).symm rfl done standsQ pending
    | faults ran stuck =>
      rw [feed_stopped result (by decide)]
      exact .faults _ (runChunks_stopped ran (by simp) (tagged calls)) rfl
    | throws ran stuck => exact absurd rfl (noThrow _ _)
    | overruns ran =>
      rw [feed_error result]
      exact .overruns _ (runChunks_stopped ran (by simp) (tagged calls)) rfl

theorem represents_init (tx : Transaction) : Represents (init tx) (txStreamInit tx) :=
  ⟨rfl, rfl, rfl, rfl, rfl, ⟨rfl, rfl, rfl⟩, ⟨by simp [init], Nat.zero_le _, Or.inl rfl⟩⟩

theorem feed_init_follows (tx : Transaction) (calls : List Call) :
    Followed (init tx) calls (feed storeInside (txStreamInit tx) calls) :=
  feed_follows (represents_init tx) (by simp [init]) ⟨rfl, rfl⟩ calls

end FantomLedger
