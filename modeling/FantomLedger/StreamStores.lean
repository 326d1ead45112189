import FantomLedger.TxStream

/-! Calls of the parser with a store of its own: how a sequence of them goes on, and that they are those
with a store inside the arrays as long as no byte goes past the end of one. -/

namespace FantomLedger

open Library.Program

theorem catching_run {α : Type} (body : StreamCode α) (caught : α) (s : TxStreamContext) :
    (catching body caught).run s =
      match body.run s with
      | .error (.thrown _) kept => .ok caught kept
      | other => other := by
  show catching body caught s = _
  unfold catching
  cases body.run s with
  | ok result next => rfl
  | error exc next => cases exc <;> rfl

section Calls

variable {store : Store}

theorem feed_stopped {s next : TxStreamContext} {call : Call} {status : TxStreamStatus}
    (result : (txStreamProcess store call.1.bytes call.1.bytes.length call.2).run s = .ok status next)
    (stops : status ≠ .processing) (calls : List Call) :
    feed store s (call :: calls) = ⟨.ok status, next, call.1.bytes⟩ := by
  rw [feed, result]
  cases status with
  | processing => exact absurd rfl stops
  | finished => rfl
  | fault => rfl

theorem feed_error {s next : TxStreamContext} {call : Call} {exc : Exc}
    (result : (txStreamProcess store call.1.bytes call.1.bytes.length call.2).run s = .error exc next)
    (calls : List Call) : feed store s (call :: calls) = ⟨.error exc, next, call.1.bytes⟩ := by
  rw [feed, result]

theorem feed_asks {s next : TxStreamContext} {call : Call}
    (result : (txStreamProcess store call.1.bytes call.1.bytes.length call.2).run s = .ok .processing next)
    (calls : List Call) :
    (feed store s (call :: calls)).stream = (feed store next calls).stream ∧
      (feed store s (call :: calls)).status = (feed store next calls).status := by
  rw [feed, result]
  exact ⟨rfl, rfl⟩

/-- After calls that all asked for more, the stream goes on where they left it. -/
theorem feed_append {s : TxStreamContext} {calls : List Call} (more : List Call)
    (asks : (feed store s calls).status = .ok .processing) :
    (feed store s (calls ++ more)).stream = (feed store (feed store s calls).stream more).stream ∧
      (feed store s (calls ++ more)).status = (feed store (feed store s calls).stream more).status := by
  induction calls generalizing s with
  | nil => exact ⟨rfl, rfl⟩
  | cons first calls ih =>
    cases ran : (txStreamProcess store first.1.bytes first.1.bytes.length first.2).run s with
    | ok status middle =>
      by_cases asked : status = .processing
      · subst asked
        obtain ⟨stream, answered⟩ := feed_asks ran calls
        obtain ⟨stream', answered'⟩ := feed_asks ran (calls ++ more)
        rw [answered] at asks
        rw [List.cons_append, stream', answered', stream]
        exact ih asks
      · rw [feed_stopped ran asked] at asks
        cases asks
        exact absurd rfl asked
    | error exc middle =>
      rw [feed_error ran] at asks
      cases asks

/-- One more call, after calls that all asked for more. -/
theorem feed_snoc {s next : TxStreamContext} {calls : List Call} {call : Call}
    {status : TxStreamStatus} (asks : (feed store s calls).status = .ok .processing)
    (result : (txStreamProcess store call.1.bytes call.1.bytes.length call.2).run (feed store s calls).stream =
      .ok status next) :
    (feed store s (calls ++ [call])).stream = next ∧ (feed store s (calls ++ [call])).status = .ok status := by
  obtain ⟨stream, answered⟩ := feed_append [call] asks
  rw [stream, answered, feed, result]
  cases status <;> exact ⟨rfl, rfl⟩

/-- The status after one more call is that of the call. -/
theorem feed_last {s : TxStreamContext} {calls : List Call} {call : Call} {status : TxStreamStatus}
    (asks : (feed store s calls).status = .ok .processing)
    (answered : (feed store s (calls ++ [call])).status = .ok status) :
    (txStreamProcess store call.1.bytes call.1.bytes.length call.2).run (feed store s calls).stream =
      .ok status (feed store s (calls ++ [call])).stream := by
  obtain ⟨stream, same⟩ := feed_append [call] asks
  rw [same] at answered
  rw [stream]
  cases ran : (txStreamProcess store call.1.bytes call.1.bytes.length call.2).run (feed store s calls).stream with
  | ok reached next =>
    by_cases asked : reached = .processing
    · subst asked
      obtain ⟨left, right⟩ := feed_asks ran []
      rw [right] at answered
      cases answered
      rw [left]
      rfl
    · rw [feed_stopped ran asked] at answered ⊢
      cases answered
      rfl
  | error exc next =>
    rw [feed_error ran] at answered
    cases answered

end Calls

section Extends

/-- Inside the array of a slot the store does what it should. -/
def Extends (store : Store) : Prop :=
  ∀ {slot index data stream next}, storeInside slot index data stream = some next →
    store slot index data stream = some next

theorem extends_storeOver (overrun : Store) : Extends (storeOver overrun) := by
  intro slot index data stream next stored
  rw [storeOver, stored, Option.some_or]

variable {store : Store}

/-- A store, and what comes after it. -/
theorem store_sameUnless (agrees : Extends store) (slot : TxSlot) (index : Nat) (data : List UInt8)
    (rest : TxStreamContext → StreamCode Unit) (s : TxStreamContext) :
    SameUnless .undefined (inside (storeInside slot index data s) >>= rest)
      (inside (store slot index data s) >>= rest) s := by
  cases stored : storeInside slot index data s with
  | none => exact .inl ⟨s, rfl⟩
  | some next =>
    rw [agrees stored]
    exact sameUnless_refl _ _ s

theorem txStreamCopyData_sameUnless (agrees : Extends store) (out : Option (TxSlot × Nat)) (length : Nat)
    (s : TxStreamContext) :
    SameUnless .undefined (txStreamCopyData storeInside out length) (txStreamCopyData store out length) s := by
  unfold txStreamCopyData
  apply sameUnless_bind
  intro _ _ _
  apply sameUnless_bind
  intro _ _ _
  apply sameUnless_bind
  intro _ _ _
  apply sameUnless_bind
  intro data _ _
  cases out with
  | none => exact sameUnless_refl _ _ _
  | some place =>
    apply sameUnless_bind
    intro _ t _
    apply sameUnless_bind
    rintro stream u ⟨⟩
    exact store_sameUnless agrees place.1 place.2 data _ _

theorem txStreamTakeField_sameUnless (agrees : Extends store) (slot : Option TxSlot) (s : TxStreamContext) :
    SameUnless .undefined (txStreamTakeField storeInside slot) (txStreamTakeField store slot) s := by
  unfold txStreamTakeField
  apply sameUnless_bind
  intro stream t _
  split
  · exact txStreamCopyData_sameUnless agrees _ _ t
  · exact sameUnless_refl _ _ t

theorem txStreamProcessField_sameUnless (agrees : Extends store) (slot : Option TxSlot) (fieldSize : Option Nat)
    (s : TxStreamContext) :
    SameUnless .undefined (txStreamProcessField storeInside slot fieldSize)
      (txStreamProcessField store slot fieldSize) s := by
  unfold txStreamProcessField
  apply sameUnless_bind
  intro _ t _
  apply (txStreamTakeField_sameUnless agrees slot t).bind
  intro _ u _
  exact sameUnless_refl _ _ u

theorem txStreamParseFieldProxy_sameUnless (agrees : Extends store) (s : TxStreamContext) :
    SameUnless .undefined (txStreamParseFieldProxy storeInside) (txStreamParseFieldProxy store) s := by
  have item (slot : Option TxSlot) (fieldSize : Option Nat) (s : TxStreamContext) :
      SameUnless .undefined (do
        txStreamProcessField storeInside slot fieldSize
        return TxStreamStatus.processing) (do
        txStreamProcessField store slot fieldSize
        return TxStreamStatus.processing) s := by
    apply (txStreamProcessField_sameUnless agrees slot fieldSize s).bind
    intro _ t _
    exact sameUnless_refl _ _ t
  unfold txStreamParseFieldProxy
  apply sameUnless_bind
  intro stream t got
  cases field : stream.currentField with
  | none => exact sameUnless_refl _ _ t
  | done => exact sameUnless_refl _ _ t
  | envelope => exact sameUnless_refl _ _ t
  | type => exact item _ _ t
  | nonce => exact item _ _ t
  | gasPrice => exact item _ _ t
  | startGas => exact item _ _ t
  | recipient => exact item _ _ t
  | value => exact item _ _ t
  | data =>
    dsimp only
    apply sameUnless_bind
    intro _ u _
    split
    · apply sameUnless_bind
      intro _ v _
      exact item _ _ v
    · exact item _ _ u
  | v => exact item _ _ t
  | r => exact item _ _ t
  | s => exact item _ _ t

theorem txStreamParseRound_sameUnless (agrees : Extends store) (s : TxStreamContext) :
    SameUnless .undefined (txStreamParseRound storeInside) (txStreamParseRound store) s := by
  have turn (s : TxStreamContext) :
      SameUnless .undefined (do
        if (← txStreamParseFieldProxy storeInside) = .fault then
          return some .fault
        return none : StreamCode (Option TxStreamStatus)) (do
        if (← txStreamParseFieldProxy store) = .fault then
          return some .fault
        return none) s := by
    apply (txStreamParseFieldProxy_sameUnless agrees s).bind
    intro _ t _
    exact sameUnless_refl _ _ t
  unfold txStreamParseRound
  apply sameUnless_bind
  intro _ t _
  split
  · exact sameUnless_refl _ _ t
  · apply sameUnless_bind
    intro _ t _
    split
    · exact sameUnless_refl _ _ t
    · apply sameUnless_bind
      intro _ t _
      split
      · apply sameUnless_bind
        intro result t _
        cases result with
        | some status => exact sameUnless_refl _ _ t
        | none => exact turn t
      · exact turn t

theorem txStreamParse_sameUnless (agrees : Extends store) (s : TxStreamContext) :
    SameUnless .undefined (txStreamParse storeInside) (txStreamParse store) s := by
  unfold txStreamParse
  apply sameUnless_bind
  intro _ t _
  apply sameUnless_iterate
  exact txStreamParseRound_sameUnless agrees

theorem catching_sameUnless {α : Type} {body other : StreamCode α} {s : TxStreamContext}
    (same : SameUnless .undefined body other s) (caught : α) :
    SameUnless .undefined (catching body caught) (catching other caught) s := by
  unfold SameUnless
  rw [catching_run, catching_run]
  rcases same with ⟨t, fails⟩ | agrees
  · exact .inl ⟨t, by rw [fails]⟩
  · exact .inr (by rw [agrees])

/-- A call that stores no byte past the end of an array does not depend on what lies there. -/
theorem txStreamProcess_sameUnless (agrees : Extends store) (buffer : List UInt8) (length : Nat) (flags : UInt32)
    (s : TxStreamContext) :
    SameUnless .undefined (txStreamProcess storeInside buffer length flags)
      (txStreamProcess store buffer length flags) s := by
  unfold txStreamProcess
  apply catching_sameUnless
  apply sameUnless_bind
  intro _ _ _
  apply sameUnless_bind
  intro _ _ _
  apply sameUnless_bind
  intro _ _ _
  apply sameUnless_bind
  intro _ _ _
  apply sameUnless_bind
  intro _ t _
  exact txStreamParse_sameUnless agrees t

theorem feed_same (agrees : Extends store) {s : TxStreamContext} {calls : List Call}
    (stored : (feed storeInside s calls).status ≠ .error .undefined) :
    feed store s calls = feed storeInside s calls := by
  induction calls generalizing s with
  | nil => rfl
  | cons call calls ih =>
    obtain ⟨chunk, flags⟩ := call
    rcases txStreamProcess_sameUnless agrees chunk.bytes chunk.bytes.length flags s with ⟨next, fails⟩ | same
    · rw [@feed_error _ _ _ (chunk, flags) _ fails] at stored
      exact absurd rfl stored
    · rw [feed, feed, ← same]
      cases run : (txStreamProcess storeInside chunk.bytes chunk.bytes.length flags).run s with
      | error exc next => rfl
      | ok status next =>
        cases status with
        | processing =>
          rw [(@feed_asks _ _ _ (chunk, flags) run calls).2] at stored
          dsimp only
          rw [ih stored]
        | finished => rfl
        | fault => rfl

end Extends

end FantomLedger
