import FantomLedger.StreamChunks
import FantomLedger.StreamGrammar

/-! Where the bytes of the stream are stored: inside the arrays of the transaction, unless
a v item is longer than the array kept for it. -/

namespace FantomLedger

open Library Library.Machine StreamParser

/-- No call of the sequence, whatever the calls before it answered, stores a byte outside
the array of its field. -/
def StoresInside (tx : Transaction) (calls : List Call) : Prop :=
  ∀ next, (txStreamCalls storeInside calls).run (txStreamInit tx) ≠ .error .undefined next

/-- After an envelope and the items before v comes a v header that announces more bytes
than the array of v has but no more than an integer field has, and so many bytes follow
that the array is left. -/
def LongV (input : List Symbol) : Prop :=
  ∃ head symbols vHead rest length flags fields contents announced,
    input = head ++ (symbols ++ (vHead ++ rest)) ∧
    Envelope head length flags ∧
    Leads (firstField flags) fields .v ∧
    Accepts fields (bytesOf symbols) contents ∧
    Rlp.IsHeader rlpLengthBufferSize (bytesOf vHead) ⟨false, announced⟩ ∧
    txMaxVLength < announced ∧ announced ≤ txMaxInt256Length ∧ txMaxVLength < rest.length

theorem overrun_of_longV {tx : Transaction} {input : List Symbol} (long : LongV input) :
    run step (init tx) input = .failed .overrun := by
  obtain ⟨head, symbols, vHead, rest, length, flags, fields, contents, announced, rfl, envelope,
    leads, accepts, announces, more, within, enough⟩ := long
  rw [run_envelope tx _ envelope]
  obtain ⟨q, isV, phase, _, _, _, _, ran⟩ := run_items (p := atItems tx head length flags)
    (vHead ++ rest) rfl leads accepts
  have notDone : ¬(fields ≠ [] ∧ TxRlpField.v = .done) := by simp
  rw [ran, if_neg notDone]
  have framed := run_framed q vHead rest announced phase (by rw [isV]; decide) announces
    (by rw [isV]; simpa [WithinLimit, limit] using within)
  have outside : storeAt (slot q.field) (noteTx q.field q.tx announced) 0
      (bytesOf (rest.take announced)) = none := by
    rw [isV]
    by_contra stored
    obtain ⟨next, done⟩ := Option.ne_none_iff_exists.mp stored
    have storable := storable_of_some done.symm .v rfl
    simp only [length_bytesOf, List.length_take, TxSlot.capacity] at storable
    omega
  rw [framed]
  simp only [Parser.fill, outside]
  rfl

theorem longV_of_overrun {tx : Transaction} {input : List Symbol}
    (ran : run step (init tx) input = .failed .overrun) : LongV input := by
  rcases envelope_of_run tx input with ⟨q, more, _⟩ | fault | ⟨head, rest, length, flags, rfl, envelope⟩
  · rw [more] at ran; cases ran
  · rw [fault] at ran; cases ran
  · rw [run_envelope tx rest envelope] at ran
    obtain ⟨fields, symbols, contents, vHead, later, announced, leads, rfl, accepts, announces,
      within, outside⟩ := items_of_overrun (p := atItems tx head length flags) rfl
        (isItem_firstField flags) ran
    have bound : announced ≤ txMaxInt256Length := within _ rfl
    have short : txMaxVLength < (later.take announced).length := by
      by_contra fits
      refine outside fun known isSlot => ?_
      cases isSlot
      exact Nat.not_lt.mp fits
    rw [List.length_take] at short
    exact ⟨head, symbols, vHead, later, length, flags, fields, contents, announced, rfl, envelope,
      leads, accepts, announces, by omega, bound, by omega⟩

/-- The stores stay inside the arrays exactly as long as no v item is too long for its
array. -/
theorem storesInside_iff (tx : Transaction) (calls : List Call) :
    StoresInside tx calls ↔ ¬LongV (tagged calls).flatten := by
  have follows := txStreamCalls_undefined_iff (represents_init tx) (by simp [init]) calls
  unfold StoresInside
  constructor
  · intro inside long
    obtain ⟨next, ends⟩ := follows.mpr (overrun_of_longV long)
    exact inside next ends
  · intro short next ends
    exact short (longV_of_overrun (follows.mp ⟨next, ends⟩))

/-- The parser leaves an array exactly at a v item that is too long for it, and fails in no other way. -/
theorem feed_outcome (tx : Transaction) (calls : List Call) :
    (feed storeInside (txStreamInit tx) calls).status = .error .undefined ∧ LongV (tagged calls).flatten ∨
      (∃ status, (feed storeInside (txStreamInit tx) calls).status = .ok status) ∧
        ¬LongV (tagged calls).flatten := by
  have whole := (feed_init_follows tx calls).whole
  have spared (other : run step (init tx) (tagged calls).flatten ≠ .failed .overrun) :
      ¬LongV (tagged calls).flatten := fun long => other (overrun_of_longV long)
  cases ran : run step (init tx) (tagged calls).flatten with
  | more q =>
    simp only [ran] at whole
    exact .inr ⟨⟨_, whole.1⟩, spared (by rw [ran]; nofun)⟩
  | finished q rest =>
    simp only [ran] at whole
    exact .inr ⟨⟨_, whole.1⟩, spared (by rw [ran]; nofun)⟩
  | failed stop =>
    rw [ran] at whole
    cases stop with
    | fault => exact .inr ⟨⟨_, whole⟩, spared (by rw [ran]; nofun)⟩
    | overrun => exact .inl ⟨whole, longV_of_overrun ran⟩

theorem spared_of_ok {tx : Transaction} {calls : List Call} {status : TxStreamStatus}
    (answered : (feed storeInside (txStreamInit tx) calls).status = .ok status) :
    ¬LongV (tagged calls).flatten := by
  rcases feed_outcome tx calls with ⟨overruns, _⟩ | ⟨_, spared⟩
  · cases answered.symm.trans overruns
  · exact spared

/-- Without such an item it does not matter what lies behind the arrays. -/
theorem feed_spared (overrun : Store) (tx : Transaction) {calls : List Call}
    (spared : ¬LongV (tagged calls).flatten) :
    feed (storeOver overrun) (txStreamInit tx) calls = feed storeInside (txStreamInit tx) calls := by
  apply feed_same (extends_storeOver overrun)
  rcases feed_outcome tx calls with ⟨_, long⟩ | ⟨⟨status, answered⟩, _⟩
  · exact absurd long spared
  · rw [answered]
    nofun

/-- Six empty items before a v item of five bytes. -/
def longVChunk : Chunk where
  bytes := [0xce, 0x80, 0x80, 0x80, 0x80, 0x80, 0x80, 0x85, 1, 2, 3, 4, 5, 0x80, 0x80]
  nonempty := by decide
  length_lt := by decide

def leavesArray (tx : Transaction) (calls : List Call) : Bool :=
  match (txStreamCalls storeInside calls).run (txStreamInit tx) with
  | .error .undefined _ => true
  | _ => false

theorem not_storesInside {tx : Transaction} {calls : List Call}
    (leaves : leavesArray tx calls = true) : ¬StoresInside tx calls := by
  intro inside
  unfold leavesArray at leaves
  cases ran : (txStreamCalls storeInside calls).run (txStreamInit tx) with
  | ok result next => simp [ran] at leaves
  | error exc next =>
    cases exc with
    | undefined => exact inside next ran
    | thrown code => simp [ran] at leaves
    | reset => simp [ran] at leaves
    | diverges => simp [ran] at leaves

theorem longV_leaves_array : ¬StoresInside .zero [(longVChunk, 0)] :=
  not_storesInside (by decide +kernel)

end FantomLedger
