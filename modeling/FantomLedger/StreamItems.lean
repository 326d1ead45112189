import FantomLedger.StreamFraming

/-! The items of an accepted stream, and what they leave in the transaction. -/

namespace FantomLedger

open Library Library.Machine StreamParser

/-- The symbols are an envelope and an item for each field, with what follows them. -/
def Decodes (input : List Symbol) (item : TxRlpField → List UInt8) : Prop :=
  ∃ head length flags fields symbols rest, input = head ++ (symbols ++ rest) ∧
    Envelope head length flags ∧ Leads (firstField flags) fields .done ∧
    Accepts fields (bytesOf symbols) (fields.map item)

/-- The transaction holds the items of a stream. -/
structure Collected (tx : Transaction) (item : TxRlpField → List UInt8) : Prop where
  holds : ∀ field ∈ signedFields, Holds tx field (item field)
  flag : tx.isContractCall = looksLikeContractCall (item .data).length

theorem fields_of_leads {flags : UInt32} {fields : List TxRlpField}
    (leads : Leads (firstField flags) fields .done) :
    fields = signedFields ∨ fields = .type :: signedFields := by
  unfold firstField at leads
  split_ifs at leads
  · exact .inl (leads_done_unique leads leads_signedFields)
  · exact .inr (leads_done_unique leads (by decide))

theorem nodup_of_leads {field last : TxRlpField} {fields : List TxRlpField}
    (leads : Leads field fields last) : fields.Nodup := by
  induction fields generalizing field with
  | nil => exact List.nodup_nil
  | cons next fields ih =>
    obtain ⟨rfl, item, later⟩ := leads
    refine List.nodup_cons.mpr ⟨?_, ih later⟩
    intro again
    have smaller := leads_left later _ again
    have := left_next item.2.2
    omega

theorem accepts_length {fields : List TxRlpField} {bytes : List UInt8}
    {contents : List (List UInt8)} (accepts : Accepts fields bytes contents) :
    fields.length = contents.length := by
  induction accepts with
  | nil => rfl
  | cons encodes within storable later ih => simp [ih]

theorem exists_item {fields : List TxRlpField} (distinct : fields.Nodup)
    (contents : List (List UInt8)) (same : fields.length = contents.length) :
    ∃ item : TxRlpField → List UInt8, contents = fields.map item := by
  induction fields generalizing contents with
  | nil => exact ⟨fun _ => [], List.eq_nil_of_length_eq_zero same.symm⟩
  | cons field fields ih =>
    obtain ⟨content, contents, rfl⟩ := List.exists_cons_of_length_eq_add_one same.symm
    obtain ⟨fresh, distinct⟩ := List.nodup_cons.mp distinct
    obtain ⟨item, rfl⟩ := ih distinct contents (by simpa using same)
    refine ⟨Function.update item field content, ?_⟩
    rw [List.map_cons, Function.update_self]
    congr 1
    apply List.map_congr_left
    intro other member
    have different : other ≠ field := by
      rintro rfl
      exact fresh member
    exact (Function.update_of_ne different _ _).symm

theorem decodes_run {input : List Symbol} {item : TxRlpField → List UInt8} (tx : Transaction)
    (decodes : Decodes input item) :
    ∃ q rest, run step (init tx) input = .finished q rest ∧ Collected q.tx item := by
  obtain ⟨head, length, flags, fields, symbols, rest, rfl, envelope, leads, accepts⟩ := decodes
  obtain ⟨q, _, _, _, holds, _, flag, ran⟩ :=
    run_items (p := atItems tx head length flags) rest rfl leads accepts
  have finished : run step (init tx) (head ++ (symbols ++ rest)) = .finished q rest := by
    rw [run_envelope tx _ envelope, ran]
    rcases fields_of_leads leads with rfl | rfl <;> simp [signedFields]
  rw [List.forall₂_map_right_iff, List.forall₂_same] at holds
  refine ⟨q, rest, finished, ?_, ?_⟩
  · intro field member
    apply holds
    rcases fields_of_leads leads with rfl | rfl
    · exact member
    · exact List.mem_cons_of_mem _ member
  · rw [flag]
    rcases fields_of_leads leads with rfl | rfl <;> simp [signedFields, contractFlag]

theorem decodes_of_run {tx : Transaction} {input rest : List Symbol} {q : Parser}
    (ran : run step (init tx) input = .finished q rest) : ∃ item, Decodes input item := by
  rcases envelope_of_run tx input with ⟨_, more, _⟩ | fault |
    ⟨head, later, length, flags, rfl, envelope⟩
  · rw [more] at ran; cases ran
  · rw [fault] at ran; cases ran
  · rw [run_envelope tx later envelope] at ran
    obtain ⟨fields, symbols, contents, leads, rfl, accepts⟩ := items_of_finished
      (p := atItems tx head length flags) rfl (isItem_firstField flags) ran
    obtain ⟨item, rfl⟩ := exists_item (nodup_of_leads leads) contents (accepts_length accepts)
    exact ⟨item, head, length, flags, fields, symbols, rest, rfl, envelope, leads, accepts⟩

/-- A stream with a v item that is too long for its array has no such items. -/
theorem decodes_spared {input : List Symbol} {item : TxRlpField → List UInt8}
    (decodes : Decodes input item) : ¬LongV input := by
  intro long
  obtain ⟨q, rest, ran, _⟩ := decodes_run .zero decodes
  cases ran.symm.trans (overrun_of_longV long)

/-- The streams that are accepted are those that decode. -/
theorem feed_finished_iff (tx : Transaction) (calls : List Call) :
    (feed storeInside (txStreamInit tx) calls).status = .ok .finished ↔
      ∃ item, Decodes (tagged calls).flatten item := by
  have whole := (feed_init_follows tx calls).whole
  constructor
  · intro finished
    cases ran : run step (init tx) (tagged calls).flatten with
    | more q =>
      simp only [ran] at whole
      cases finished.symm.trans whole.1
    | finished q rest => exact decodes_of_run ran
    | failed stop =>
      rw [ran] at whole
      cases stop <;> cases finished.symm.trans whole
  · rintro ⟨item, decodes⟩
    obtain ⟨q, rest, ran, _⟩ := decodes_run tx decodes
    simp only [ran] at whole
    exact whole.1

theorem feed_finished (overrun : Store) (tx : Transaction) {calls : List Call}
    {item : TxRlpField → List UInt8} (decodes : Decodes (tagged calls).flatten item) :
    (feed (storeOver overrun) (txStreamInit tx) calls).status = .ok .finished := by
  rw [feed_spared overrun tx (decodes_spared decodes)]
  exact (feed_finished_iff tx calls).mpr ⟨item, decodes⟩

/-- The transaction holds the items of the stream, whatever lies behind its arrays. -/
theorem feed_collects (overrun : Store) {tx : Transaction} {calls : List Call}
    {item : TxRlpField → List UInt8} (decodes : Decodes (tagged calls).flatten item) :
    Collected (feed (storeOver overrun) (txStreamInit tx) calls).stream.tx item := by
  have whole := (feed_init_follows tx calls).whole
  obtain ⟨q, rest, ran, collected⟩ := decodes_run tx decodes
  simp only [ran] at whole
  rw [feed_spared overrun tx (decodes_spared decodes), whole.2.1.tx]
  exact collected

namespace RlpTransaction

/-- The item of a field; the type is not part of the nine items. -/
def item (raw : RlpTransaction) : TxRlpField → List UInt8
  | .nonce => raw.nonce
  | .gasPrice => raw.gasPrice
  | .startGas => raw.startGas
  | .recipient => raw.recipient
  | .value => raw.value
  | .data => raw.data
  | .v => raw.v
  | .r => raw.r
  | .s => raw.s
  | .none | .envelope | .type | .done => []

end RlpTransaction

theorem decodes_encode (raw : RlpTransaction) (chunks : List Chunk)
    (small : raw.payload.length < 2 ^ 32) (cut : joined chunks = raw.encode) :
    Decodes (tagged (withFlags 0 chunks)).flatten raw.item := by
  have announces := Rlp.isHeader_lengthPrefix true raw.payload.length 4 small (by decide) (by decide)
  have accepts := accepts_items raw small
  refine ⟨tag 0 (Rlp.lengthPrefix (Rlp.base true) raw.payload.length), raw.payload.length, 0,
    signedFields, tag 0 raw.payload, [], ?_, envelope_tag 0 announces, leads_signedFields, ?_⟩
  · rw [tagged_withFlags, cut, List.append_nil, ← tag_append]
    rfl
  · rw [bytesOf_tag]
    exact accepts

/-- A stream cannot be cut into two envelopes. -/
theorem StreamParser.Envelope.unique {head other rest later : List Symbol} {length length' : Nat}
    {flags flags' : UInt32} (first : Envelope head length flags)
    (second : Envelope other length' flags') (same : head ++ rest = other ++ later) :
    head = other ∧ flags = flags' ∧ rest = later := by
  have bytes : bytesOf head ++ bytesOf rest = bytesOf other ++ bytesOf later := by
    rw [← bytesOf_append, ← bytesOf_append, same]
  obtain ⟨heads, _, _⟩ := first.announces.unique second.announces bytes
  have lengths : head.length = other.length := by
    rw [← length_bytesOf head, heads, length_bytesOf]
  obtain ⟨rfl, rfl⟩ := List.append_inj same lengths
  exact ⟨rfl, Option.some.inj (first.lastFlags.symm.trans second.lastFlags), rfl⟩

/-- Items of the same fields are told apart by their bytes, whatever follows them. -/
theorem StreamParser.Accepts.unique {fields : List TxRlpField} {bytes other rest later : List UInt8}
    {contents contents' : List (List UInt8)} (first : Accepts fields bytes contents)
    (second : Accepts fields other contents') (same : bytes ++ rest = other ++ later) :
    contents = contents' := by
  induction first generalizing other contents' with
  | nil =>
    cases second
    rfl
  | cons encodes _ _ _ ih =>
    cases second with
    | cons encodes' _ _ items =>
      rw [List.append_assoc, List.append_assoc] at same
      obtain ⟨_, rfl, tails⟩ := encodes.unique encodes' same
      rw [ih items tails]

/-- A stream has no more than one list of items. -/
theorem Decodes.unique {input : List Symbol} {item other : TxRlpField → List UInt8}
    (first : Decodes input item) (second : Decodes input other) :
    ∀ field ∈ signedFields, item field = other field := by
  obtain ⟨head, length, flags, fields, symbols, rest, rfl, envelope, leads, accepts⟩ := first
  obtain ⟨head', length', flags', fields', symbols', rest', same, envelope', leads', accepts'⟩ :=
    second
  obtain ⟨_, rfl, tails⟩ := envelope.unique envelope' same
  have fieldsSame : fields = fields' := leads_done_unique leads leads'
  subst fieldsSame
  have bytes := congrArg bytesOf tails
  rw [bytesOf_append, bytesOf_append] at bytes
  have contents := accepts.unique accepts' bytes
  intro field member
  apply List.map_inj_left.mp contents
  rcases fields_of_leads leads with rfl | rfl
  · exact member
  · exact List.mem_cons_of_mem _ member

/-- The parser as a decoder: unless a v item is too long for its array, the streams that it accepts are
those that are cut into an envelope and an item for each field in one way, and that way tells what the
transaction holds. -/
theorem accepted_streams (overrun : Store) (tx : Transaction) (calls : List Call) :
    let fed := feed (storeOver overrun) (txStreamInit tx) calls
    fed.status = .ok .finished ∧ ¬LongV (tagged calls).flatten ↔
      ∃ item, Decodes (tagged calls).flatten item ∧ Collected fed.stream.tx item ∧
        ∀ other, Decodes (tagged calls).flatten other →
          ∀ field ∈ signedFields, other field = item field := by
  intro fed
  constructor
  · rintro ⟨finished, spared⟩
    rw [show fed = _ from feed_spared overrun tx spared] at finished
    obtain ⟨item, decodes⟩ := (feed_finished_iff tx calls).mp finished
    refine ⟨item, decodes, feed_collects overrun decodes, ?_⟩
    intro other decodes'
    exact decodes'.unique decodes
  · rintro ⟨item, decodes, _⟩
    exact ⟨feed_finished overrun tx decodes, decodes_spared decodes⟩

end FantomLedger
