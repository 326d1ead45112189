import FantomLedger.StreamRefinement

/-! What the host can observe of a stream does not depend on the cuts between chunks, and
the digest covers exactly the bytes the parser read. -/

namespace FantomLedger

open Library.Machine StreamParser

/-- Where the parser stands: inside a header with the bytes read so far, or inside a field
of an announced length. -/
inductive Position where
  | header (read : List UInt8)
  | inField (length pos : Nat)
  deriving DecidableEq, Repr

def TxStreamContext.position (stream : TxStreamContext) : Position :=
  if stream.isProcessingField then .inField stream.currentFieldLength stream.currentFieldPos
  else .header (stream.rlpBuffer.toList.take stream.rlpBufferOffset)

/-- How a run ends for the property that counts a store outside an array as a fault; everywhere else the
status tells the two apart. -/
def Fed.verdict (fed : Fed) : Option TxStreamStatus :=
  match fed.status with
  | .ok status => some status
  | .error .undefined => some .fault
  | .error _ => none

theorem Fed.verdict_of_ok {fed : Fed} {status : TxStreamStatus} (answered : fed.status = .ok status) :
    fed.verdict = some status := by rw [Fed.verdict, answered]

/-- Number of stream bytes consumed. -/
def Fed.consumed (fed : Fed) : Nat := fed.received.length - fed.stream.workBufferLength

/-- Chunks all sent with the same flags. -/
def withFlags (flags : UInt32) (chunks : List Chunk) : List Call :=
  chunks.map fun chunk => (chunk, flags)

def joined (chunks : List Chunk) : List UInt8 := (chunks.map Chunk.bytes).flatten

theorem tagged_flatten (calls : List Call) :
    bytesOf (tagged calls).flatten = (calls.map fun call => call.1.bytes).flatten := by
  induction calls with
  | nil => rfl
  | cons call calls ih =>
    simp only [tagged, List.map_cons, List.flatten_cons, bytesOf_append, bytesOf_tag] at ih ⊢
    rw [ih]

theorem tagged_withFlags (flags : UInt32) (chunks : List Chunk) :
    (tagged (withFlags flags chunks)).flatten = tag flags (joined chunks) := by
  induction chunks with
  | nil => rfl
  | cons chunk chunks ih =>
    simp only [tagged, withFlags, joined, List.map_cons, List.flatten_cons, tag,
      List.map_append] at ih ⊢
    rw [ih]

theorem Represents.position {p : Parser} {s : TxStreamContext} (stands : Represents p s) :
    s.position = match p.phase with
      | .header seen => .header seen
      | .content length pos => .inField length pos := by
  have atPhase := stands.phase
  unfold AtPhase at atPhase
  cases phase : p.phase with
  | header seen =>
    simp only [phase] at atPhase
    simp [TxStreamContext.position, atPhase.1, atPhase.2.1, atPhase.2.2]
  | content length pos =>
    simp only [phase] at atPhase
    simp [TxStreamContext.position, atPhase]

/-- What feeding leaves behind, read off the parser's run over the joined chunks. -/
theorem Followed.whole {p : Parser} {calls : List Call} {fed : Fed}
    (followed : Followed p calls fed) :
    match run step p (tagged calls).flatten with
    | .more q => fed.status = .ok .processing ∧ Represents q fed.stream ∧
        fed.received = bytesOf (tagged calls).flatten ∧
        fed.stream.unread = [] ∧ fed.stream.workBufferLength = 0
    | .finished q rest => fed.status = .ok .finished ∧ Represents q fed.stream ∧
        ∃ consumed, (tagged calls).flatten = consumed ++ rest ∧
          fed.received = bytesOf consumed ++ fed.stream.unread ∧
          fed.stream.workBufferLength = fed.stream.unread.length ∧
          q.absorbed = p.absorbed ++ bytesOf consumed
    | .failed .fault => fed.status = .ok .fault
    | .failed .overrun => fed.status = .error .undefined := by
  obtain ⟨withheld, cut, whole, all⟩ := runChunks_eq step p (tagged calls)
  cases followed with
  | asks q ran received status stands read =>
    have none : withheld = [] := all q (by rw [ran])
    subst none
    rw [whole, ran]
    exact ⟨status, stands, by rw [received, ← tagged_flatten], read⟩
  | finishes q flags later symbols ran received status done stands pending =>
    have ends : run step p (tagged calls).flatten = .finished q (tag flags later ++ withheld) := by
      rw [whole, ran]
      rfl
    obtain ⟨consumed, split, absorbed⟩ := absorbed_run_finished ends
    have read : symbols = consumed ++ tag flags later := by
      rw [ran] at cut
      rw [split, ← List.append_assoc] at cut
      exact (List.append_cancel_right cut).symm
    have unread : fed.stream.unread = later := pending.bytes
    rw [ends]
    refine ⟨status, stands, consumed, split, ?_, ?_, absorbed⟩
    · rw [received, read, bytesOf_append, bytesOf_tag, unread]
    · rw [unread]
      exact pending.count
  | faults symbols ran status =>
    rw [whole, ran]
    exact status
  | overruns symbols ran status =>
    rw [whole, ran]
    exact status

/-- Two parser states that stand for the same state are at the same place. -/
theorem Represents.same_place {p : Parser} {s t : TxStreamContext} (left : Represents p s)
    (right : Represents p t) :
    s.currentField = t.currentField ∧ s.position = t.position ∧ s.tx = t.tx := by
  refine ⟨by rw [left.field, right.field], ?_, by rw [left.tx, right.tx]⟩
  rw [left.position, right.position]

/-- However a byte string is cut into chunks, the stream ends with the same status, and
unless that is a fault in the same place, with the same transaction and having consumed
the same number of bytes. -/
theorem feed_independent_of_cuts (tx : Transaction) (flags : UInt32) (cuts other : List Chunk)
    (same : joined cuts = joined other) :
    ∃ status,
      (feed storeInside (txStreamInit tx) (withFlags flags cuts)).verdict = some status ∧
      (feed storeInside (txStreamInit tx) (withFlags flags other)).verdict = some status ∧
      (status ≠ .fault →
        let first := feed storeInside (txStreamInit tx) (withFlags flags cuts)
        let second := feed storeInside (txStreamInit tx) (withFlags flags other)
        first.stream.currentField = second.stream.currentField ∧
        first.stream.position = second.stream.position ∧
        first.stream.tx = second.stream.tx ∧
        first.consumed = second.consumed) := by
  have left := (feed_init_follows tx (withFlags flags cuts)).whole
  have right := (feed_init_follows tx (withFlags flags other)).whole
  rw [tagged_withFlags] at left right
  rw [← same] at right
  generalize feed storeInside (txStreamInit tx) (withFlags flags cuts) = first at left ⊢
  generalize feed storeInside (txStreamInit tx) (withFlags flags other) = second at right ⊢
  cases ran : run step (init tx) (tag flags (joined cuts)) with
  | more q =>
    simp only [ran] at left right
    refine ⟨.processing, Fed.verdict_of_ok left.1, Fed.verdict_of_ok right.1, fun _ => ?_⟩
    obtain ⟨field, position, stored⟩ := left.2.1.same_place right.2.1
    refine ⟨field, position, stored, ?_⟩
    simp only [Fed.consumed, left.2.2, right.2.2]
  | finished q rest =>
    simp only [ran] at left right
    obtain ⟨status, stands, consumed, split, received, count, _⟩ := left
    obtain ⟨status', stands', consumed', split', received', count', _⟩ := right
    refine ⟨.finished, Fed.verdict_of_ok status, Fed.verdict_of_ok status', fun _ => ?_⟩
    obtain ⟨field, position, stored⟩ := stands.same_place stands'
    have sameConsumed : consumed = consumed' := List.append_cancel_right (split.symm.trans split')
    refine ⟨field, position, stored, ?_⟩
    simp [Fed.consumed, received, received', count, count', sameConsumed]
  | failed stop =>
    rw [ran] at left right
    cases stop with
    | fault =>
      exact ⟨.fault, Fed.verdict_of_ok left, Fed.verdict_of_ok right, fun noFault => absurd rfl noFault⟩
    | overrun =>
      refine ⟨.fault, ?_, ?_, fun noFault => absurd rfl noFault⟩
      · rw [Fed.verdict, left]
      · rw [Fed.verdict, right]

/-- A simple transfer, sent as one chunk. -/
def simpleChunk : Chunk where
  bytes := [
    0xeb, 0x44, 0x85, 0x03, 0x06, 0xdc, 0x42, 0x00, 0x82, 0x52, 0x08, 0x94,
    0x5a, 0x32, 0x17, 0x44, 0x66, 0x70, 0x52, 0xaf, 0xfa, 0x83, 0x86, 0xed,
    0x49, 0xe0, 0x0e, 0xf2, 0x23, 0xcb, 0xff, 0xc3, 0x87, 0x6f, 0x9c, 0x9e,
    0x7b, 0xf6, 0x18, 0x18, 0x80, 0x81, 0xfa, 0x80, 0x80]
  nonempty := by decide
  length_lt := by decide

/-- The same stream cut after the first byte and inside the recipient. -/
def simplePieces : List Chunk :=
  [⟨simpleChunk.bytes.take 1, by decide, by decide⟩,
    ⟨(simpleChunk.bytes.drop 1).take 19, by decide, by decide⟩,
    ⟨simpleChunk.bytes.drop 20, by decide, by decide⟩]

theorem simple_cuts_agree :
    (feed storeInside (txStreamInit .zero) (withFlags 0 [simpleChunk])).consumed =
      (feed storeInside (txStreamInit .zero) (withFlags 0 simplePieces)).consumed := by
  obtain ⟨status, first, _, same⟩ :=
    feed_independent_of_cuts .zero 0 [simpleChunk] simplePieces (by decide)
  have noFault : status ≠ .fault := by
    rintro rfl
    exact absurd first (by decide +kernel)
  exact (same noFault).2.2.2

/-- The digest has absorbed the chunks without the part of the last one that was not consumed. -/
structure DigestExact (fed : Fed) : Prop where
  last : fed.stream.sha3Context.last = false
  bytes : fed.stream.sha3Context.absorbed ++ fed.stream.unread = fed.received
  count : fed.stream.unread.length = fed.stream.workBufferLength

theorem digestExact_of_ok {tx : Transaction} {calls : List Call} {status : TxStreamStatus}
    (answered : (feed storeInside (txStreamInit tx) calls).status = .ok status) (noFault : status ≠ .fault) :
    DigestExact (feed storeInside (txStreamInit tx) calls) := by
  have whole := (feed_init_follows tx calls).whole
  cases ran : run step (init tx) (tagged calls).flatten with
  | more q =>
    simp only [ran] at whole
    obtain ⟨_, stands, received, unread, count⟩ := whole
    have absorbed := absorbed_run_more ran
    refine ⟨by simp [stands.hash], ?_, by simp [unread, count]⟩
    simp [stands.hash, absorbed, received, unread, init]
  | finished q rest =>
    simp only [ran] at whole
    obtain ⟨_, stands, consumed, _, received, count, absorbed⟩ := whole
    refine ⟨by simp [stands.hash], ?_, count.symm⟩
    simp [stands.hash, absorbed, received, init]
  | failed stop =>
    cases stop with
    | fault =>
      simp only [ran] at whole
      cases answered.symm.trans whole
      exact absurd rfl noFault
    | overrun =>
      simp only [ran] at whole
      cases answered.symm.trans whole

theorem DigestExact.consumed {fed : Fed} (digest : DigestExact fed) :
    fed.stream.sha3Context.absorbed = fed.received.take fed.consumed := by
  rw [Fed.consumed, ← digest.count, ← digest.bytes, List.length_append, Nat.add_sub_cancel_right,
    List.take_left]

end FantomLedger
