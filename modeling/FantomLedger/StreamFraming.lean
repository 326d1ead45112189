import FantomLedger.StreamSafety

/-! What a finished stream was: the canonical encoding of a transaction is accepted and
stored, and the framing of an accepted stream is not checked. -/

namespace FantomLedger

open Library Library.Machine StreamParser

/-- The nine items of a signed transaction, each short enough for its field. -/
structure RlpTransaction where
  nonce : List UInt8
  gasPrice : List UInt8
  startGas : List UInt8
  recipient : List UInt8
  value : List UInt8
  data : List UInt8
  v : List UInt8
  r : List UInt8
  s : List UInt8
  nonceFits : nonce.length ≤ txMaxInt256Length
  gasPriceFits : gasPrice.length ≤ txMaxInt256Length
  startGasFits : startGas.length ≤ txMaxInt256Length
  recipientFits : recipient.length ≤ txMaxAddressLength
  valueFits : value.length ≤ txMaxInt256Length
  vFits : v.length ≤ txMaxVLength

namespace RlpTransaction

def items (raw : RlpTransaction) : List (List UInt8) :=
  [raw.nonce, raw.gasPrice, raw.startGas, raw.recipient, raw.value, raw.data, raw.v, raw.r, raw.s]

def payload (raw : RlpTransaction) : List UInt8 := (raw.items.map Rlp.encodeString).flatten

def encode (raw : RlpTransaction) : List UInt8 := Rlp.encodeList raw.payload

end RlpTransaction

def signedFields : List TxRlpField :=
  [.nonce, .gasPrice, .startGas, .recipient, .value, .data, .v, .r, .s]

theorem leads_signedFields : Leads .nonce signedFields .done := by decide

theorem leads_done_unique {field : TxRlpField} {fields other : List TxRlpField}
    (first : Leads field fields .done) (second : Leads field other .done) : fields = other := by
  induction fields generalizing field other with
  | nil =>
    have done : field = .done := first
    subst done
    exact (leads_done second).1.symm
  | cons next fields ih =>
    obtain ⟨rfl, item, leads⟩ := first
    cases other with
    | nil => exact absurd second item.2.2
    | cons head other =>
      obtain ⟨rfl, _, leads'⟩ := second
      rw [ih leads leads']

/-- Items of given contents are accepted when each fits its field. -/
theorem accepts_encode {fields : List TxRlpField} {contents : List (List UInt8)}
    (fits : List.Forall₂ (fun field content => WithinLimit field content.length ∧
      Storable field content.length ∧ content.length < 256 ^ 4) fields contents) :
    Accepts fields (contents.map Rlp.encodeString).flatten contents := by
  induction fits with
  | nil => exact .nil
  | cons first _ ih =>
    obtain ⟨within, storable, short⟩ := first
    exact .cons (Rlp.item_encodeString _ short) within storable ih

theorem flatten_length_le {content : List UInt8} {contents : List (List UInt8)}
    (member : content ∈ contents) :
    content.length ≤ ((contents.map Rlp.encodeString).flatten).length := by
  have encoded : Rlp.encodeString content ∈ contents.map Rlp.encodeString :=
    List.mem_map_of_mem member
  have part := (List.sublist_flatten_of_mem encoded).length_le
  exact Nat.le_trans (Rlp.encodeString_length_le content) part

theorem within_bound {field : TxRlpField} {bound length : Nat} (known : limit field = some bound)
    (le : length ≤ bound) : WithinLimit field length := by
  intro other same
  rw [known] at same
  cases same
  exact le

theorem within_free {field : TxRlpField} {length : Nat} (known : limit field = none) :
    WithinLimit field length := by
  intro other same
  rw [known] at same
  cases same

theorem accepts_items (raw : RlpTransaction) (small : raw.payload.length < 2 ^ 32) :
    Accepts signedFields raw.payload raw.items := by
  refine accepts_encode ?_
  have short (content : List UInt8) (member : content ∈ raw.items) : content.length < 256 ^ 4 :=
    Nat.lt_of_le_of_lt (flatten_length_le member) small
  have fits (field : TxRlpField) (content : List UInt8) (member : content ∈ raw.items)
      (within : WithinLimit field content.length) (notV : field ≠ .v) :
      WithinLimit field content.length ∧ Storable field content.length ∧
        content.length < 256 ^ 4 :=
    ⟨within, storable_of_within within notV, short content member⟩
  have storableV : Storable .v raw.v.length := by
    intro known isSlot
    cases isSlot
    exact raw.vFits
  have withinV : WithinLimit .v raw.v.length :=
    within_bound rfl (Nat.le_trans raw.vFits (by decide))
  unfold RlpTransaction.items at *
  exact .cons (fits .nonce _ (by simp) (within_bound rfl raw.nonceFits) (by decide)) <|
    .cons (fits .gasPrice _ (by simp) (within_bound rfl raw.gasPriceFits) (by decide)) <|
    .cons (fits .startGas _ (by simp) (within_bound rfl raw.startGasFits) (by decide)) <|
    .cons (fits .recipient _ (by simp) (within_bound rfl raw.recipientFits) (by decide)) <|
    .cons (fits .value _ (by simp) (within_bound rfl raw.valueFits) (by decide)) <|
    .cons (fits .data _ (by simp) (within_free rfl) (by decide)) <|
    .cons ⟨withinV, storableV, short _ (by simp)⟩ <|
    .cons (fits .r _ (by simp) (within_free rfl) (by decide)) <|
    .cons (fits .s _ (by simp) (within_free rfl) (by decide)) .nil

theorem tag_append (flags : UInt32) (first second : List UInt8) :
    tag flags (first ++ second) = tag flags first ++ tag flags second := List.map_append

theorem envelope_tag {head : List UInt8} {length : Nat} (flags : UInt32)
    (announces : Rlp.IsHeader rlpLengthBufferSize head ⟨true, length⟩) :
    Envelope (tag flags head) length flags := by
  have some : head ≠ [] := by
    obtain ⟨first, more, rfl, _⟩ := announces
    simp
  refine ⟨by rwa [bytesOf_tag], ?_⟩
  simp [tag, List.getLast?_eq_getLast_of_ne_nil, some]

/-- A list header and nine items, all sent with flags 0, are read to the end. -/
theorem run_framed_items {head body : List UInt8} {length : Nat} {contents : List (List UInt8)}
    (tx : Transaction) (rest : List Symbol)
    (announces : Rlp.IsHeader rlpLengthBufferSize head ⟨true, length⟩)
    (accepts : Accepts signedFields body contents) :
    ∃ q : Parser, q.dataLength = length ∧ List.Forall₂ (Holds q.tx) signedFields contents ∧
      run step (init tx) (tag 0 (head ++ body) ++ rest) = .finished q rest := by
  have envelope := envelope_tag 0 announces
  obtain ⟨q, _, _, dataLength, holds, _, _, ran⟩ := run_items
    (p := atItems tx (tag 0 head) length 0) rest rfl leads_signedFields
    (by rwa [bytesOf_tag] : Accepts signedFields (bytesOf (tag 0 body)) contents)
  refine ⟨q, dataLength, holds, ?_⟩
  rw [tag_append, List.append_assoc, run_envelope tx _ envelope, ran]
  simp [signedFields]

theorem joined_append (first second : List Chunk) :
    joined (first ++ second) = joined first ++ joined second := by
  simp [joined]

theorem joined_pos {chunks : List Chunk} (some : chunks ≠ []) : 0 < (joined chunks).length := by
  cases chunks with
  | nil => exact absurd rfl some
  | cons chunk chunks =>
    have := List.length_pos_iff.mpr chunk.nonempty
    simp only [joined, List.map_cons, List.flatten_cons, List.length_append]
    omega

/-- A canonically encoded transaction is accepted with the last of its chunks, whatever
the cuts, and its items end up in their fields. -/
theorem decode_encode (raw : RlpTransaction) (tx : Transaction) (chunks : List Chunk)
    (small : raw.payload.length < 2 ^ 32) (cut : joined chunks = raw.encode) :
    (∀ count < chunks.length,
      (feed storeInside (txStreamInit tx) (withFlags 0 (chunks.take count))).status = .ok .processing) ∧
    let fed := feed storeInside (txStreamInit tx) (withFlags 0 chunks)
    fed.status = .ok .finished ∧
      (fed.stream.tx.gasPrice.bytes = raw.gasPrice ∧
        fed.stream.tx.gasPrice.length.toNat = raw.gasPrice.length) ∧
      (fed.stream.tx.startGas.bytes = raw.startGas ∧
        fed.stream.tx.startGas.length.toNat = raw.startGas.length) ∧
      (fed.stream.tx.value.bytes = raw.value ∧
        fed.stream.tx.value.length.toNat = raw.value.length) ∧
      (fed.stream.tx.recipient.bytes = raw.recipient ∧
        fed.stream.tx.recipient.length.toNat = raw.recipient.length) ∧
      (fed.stream.tx.v.bytes = raw.v ∧ fed.stream.tx.v.length.toNat = raw.v.length) := by
  have announces := Rlp.isHeader_lengthPrefix true raw.payload.length 4 small (by decide) (by decide)
  obtain ⟨q, _, holds, ran⟩ := run_framed_items tx [] announces (accepts_items raw small)
  have encoded : joined chunks = Rlp.lengthPrefix (Rlp.base true) raw.payload.length ++ raw.payload :=
    cut
  rw [← encoded, List.append_nil] at ran
  constructor
  · intro count short
    have split : joined chunks = joined (chunks.take count) ++ joined (chunks.drop count) := by
      rw [← joined_append, List.take_append_drop]
    have later : chunks.drop count ≠ [] := by
      rw [Ne, List.drop_eq_nil_iff]
      omega
    have positive := joined_pos later
    rw [split, tag_append] at ran
    obtain ⟨next, more⟩ := run_prefix_more ran (by simpa [tag] using positive)
    have whole := (feed_init_follows tx (withFlags 0 (chunks.take count))).whole
    rw [tagged_withFlags, more] at whole
    exact whole.1
  · intro fed
    have whole := (feed_init_follows tx (withFlags 0 chunks)).whole
    rw [tagged_withFlags, ran] at whole
    obtain ⟨status, stands, _⟩ := whole
    refine ⟨status, ?_⟩
    have same : fed.stream.tx = q.tx := stands.tx
    simp only [signedFields, RlpTransaction.items, List.forall₂_cons] at holds
    obtain ⟨_, gasPrice, startGas, recipient, value, _, v, _⟩ := holds
    rw [same]
    exact ⟨gasPrice .gasPrice rfl, startGas .startGas rfl, value .value rfl,
      recipient .recipient rfl, v .v rfl⟩

/-- A transfer in its canonical encoding. -/
def transfer : RlpTransaction where
  nonce := [0x44]
  gasPrice := [0x03, 0x06, 0xdc, 0x42, 0x00]
  startGas := [0x52, 0x08]
  recipient := List.replicate 20 0x5a
  value := [0x6f, 0x9c]
  data := []
  v := [0xfa]
  r := []
  s := []
  nonceFits := by decide
  gasPriceFits := by decide
  startGasFits := by decide
  recipientFits := by decide
  valueFits := by decide
  vFits := by decide

def transferPieces : List Chunk :=
  [⟨transfer.encode.take 2, by decide +kernel, by decide +kernel⟩,
    ⟨transfer.encode.drop 2, by decide +kernel, by decide +kernel⟩]

theorem transfer_decoded :
    (feed storeInside (txStreamInit .zero) (withFlags 0 transferPieces)).status = .ok .finished :=
  (decode_encode transfer .zero transferPieces (by decide +kernel) (by decide +kernel)).2.1

/-- Bytes consumed by the items of a stream: those after the envelope header. -/
def Fed.itemBytes (fed : Fed) : Nat :=
  fed.consumed - (Rlp.form (fed.received.headD 0)).size

/-- The envelope announced the bytes its items took, and nothing is left in the chunk. -/
def Framed (fed : Fed) : Prop :=
  fed.stream.dataLength = fed.itemBytes ∧ fed.stream.unread = []

/-- Up to the chunk in which the last of nine items ends, the stream is a list header, the
items and a rest, and the header announces another length than that of the items or the
rest is not empty. -/
def Misframed (chunks : List Chunk) : Prop :=
  ∃ before last after head body rest length contents,
    chunks = before ++ last :: after ∧
    joined (before ++ [last]) = head ++ body ++ rest ∧
    Rlp.IsHeader rlpLengthBufferSize head ⟨true, length⟩ ∧
    Accepts signedFields body contents ∧
    rest.length < last.bytes.length ∧
    (length ≠ body.length ∨ rest ≠ [])

theorem runChunks_withFlags {p middle q : Parser} {before : List Chunk} {last : Chunk}
    (after : List Chunk) {left : List Symbol}
    (ran : run step p (tag 0 (joined before)) = .more middle)
    (ends : run step middle (tag 0 last.bytes) = .finished q left) :
    runChunks step p (tagged (withFlags 0 (before ++ last :: after))) =
      (.finished q left, tag 0 (joined before) ++ tag 0 last.bytes) := by
  have split : tagged (withFlags 0 (before ++ last :: after)) =
      tagged (withFlags 0 before) ++ tag 0 last.bytes :: tagged (withFlags 0 after) := by
    simp [tagged, withFlags]
  rw [← tagged_withFlags] at ran
  rw [split, runChunks_append ran, runChunks_stopped ends (by simp), tagged_withFlags]

theorem joined_snoc (before : List Chunk) (last : Chunk) :
    joined (before ++ [last]) = joined before ++ last.bytes := by
  simp [joined]

/-- The parts of a stream that finishes, and what it leaves behind. -/
theorem feed_framed (tx : Transaction) {before : List Chunk} {last : Chunk} (after : List Chunk)
    {head body rest : List UInt8} {length : Nat} {contents : List (List UInt8)}
    (cut : joined (before ++ [last]) = head ++ body ++ rest)
    (announces : Rlp.IsHeader rlpLengthBufferSize head ⟨true, length⟩)
    (accepts : Accepts signedFields body contents) (ends : rest.length < last.bytes.length) :
    let fed := feed storeInside (txStreamInit tx) (withFlags 0 (before ++ last :: after))
    fed.status = .ok .finished ∧ fed.stream.dataLength = length ∧
      fed.itemBytes = body.length ∧ fed.stream.unread = rest := by
  intro fed
  obtain ⟨q, dataLength, _, ran⟩ := run_framed_items tx (tag 0 rest) announces accepts
  rw [← tag_append, ← cut, joined_snoc, tag_append] at ran
  obtain ⟨middle, more⟩ := run_prefix_more ran (by simpa [tag] using ends)
  rw [run_append, more] at ran
  have chunks := runChunks_withFlags after more ran
  cases feed_init_follows tx (withFlags 0 (before ++ last :: after)) with
  | asks q' ran' => rw [ran'] at chunks; cases chunks
  | faults symbols ran' => rw [ran'] at chunks; cases chunks
  | overruns symbols ran' => rw [ran'] at chunks; cases chunks
  | finishes q' flags later symbols ran' received status done stands pending =>
    rw [ran', Prod.mk.injEq, Outcome.finished.injEq] at chunks
    obtain ⟨⟨rfl, sameRest⟩, rfl⟩ := chunks
    have unread : later = rest := by
      have bytes := congrArg bytesOf sameRest
      rwa [bytesOf_tag, bytesOf_tag] at bytes
    have handed : fed.received = head ++ body ++ rest := by
      rw [← cut, joined_snoc]
      simpa using received
    refine ⟨status, stands.dataLength.trans dataLength, ?_, pending.bytes.trans unread⟩
    obtain ⟨first, more, rfl, _, size, _, _⟩ := announces
    have left : fed.stream.workBufferLength = rest.length := by
      rw [← unread]
      exact pending.count
    simp only [Fed.itemBytes, Fed.consumed, handed, left, List.cons_append, List.headD_cons,
      List.length_cons, List.length_append, ← size]
    omega

theorem flags_of_tag {bytes : List UInt8} {head rest : List Symbol} {length : Nat}
    {flags : UInt32} (cut : tag 0 bytes = head ++ rest) (envelope : Envelope head length flags) :
    flags = 0 := by
  obtain ⟨last, isLast, same⟩ := Option.map_eq_some_iff.mp envelope.lastFlags
  have member : last ∈ tag 0 bytes := by
    rw [cut]
    exact List.mem_append_left _ (List.mem_of_getLast? isLast)
  obtain ⟨byte, _, rfl⟩ := List.mem_map.mp member
  exact same.symm

theorem split_of_run {tx : Transaction} {bytes : List UInt8} {q : Parser} {left : List Symbol}
    (ran : run step (init tx) (tag 0 bytes) = .finished q left) :
    ∃ head body length contents, bytes = head ++ body ++ bytesOf left ∧
      Rlp.IsHeader rlpLengthBufferSize head ⟨true, length⟩ ∧
      Accepts signedFields body contents := by
  rcases envelope_of_run tx (tag 0 bytes) with ⟨_, more, _⟩ | fault |
    ⟨head, rest, length, flags, cut, envelope⟩
  · rw [more] at ran; cases ran
  · rw [fault] at ran; cases ran
  · have plain := flags_of_tag cut envelope
    subst plain
    rw [cut, run_envelope tx rest envelope] at ran
    obtain ⟨fields, symbols, contents, leads, rfl, accepts⟩ := items_of_finished
      (p := atItems tx head length 0) rfl (isItem_firstField 0) ran
    have same : fields = signedFields := leads_done_unique leads leads_signedFields
    subst same
    have whole := congrArg bytesOf cut
    rw [bytesOf_tag] at whole
    exact ⟨bytesOf head, bytesOf symbols, length, contents, by simp [whole], envelope.announces,
      accepts⟩

/-- An accepted stream has nine items after a list header, and the last of them ends in
the last chunk that was fed. -/
theorem finished_split {tx : Transaction} {chunks : List Chunk}
    (status : (feed storeInside (txStreamInit tx) (withFlags 0 chunks)).status = .ok .finished) :
    ∃ before last after head body rest length contents,
      chunks = before ++ last :: after ∧
      joined (before ++ [last]) = head ++ body ++ rest ∧
      Rlp.IsHeader rlpLengthBufferSize head ⟨true, length⟩ ∧
      Accepts signedFields body contents ∧ rest.length < last.bytes.length := by
  cases feed_init_follows tx (withFlags 0 chunks) with
  | asks q ran received processing => rw [processing] at status; cases status
  | faults symbols ran fault => rw [fault] at status; cases status
  | overruns symbols ran overrun => rw [overrun] at status; cases status
  | finishes q flags later symbols ran received _ done stands pending =>
    obtain ⟨before', last', after', middle, cut, more, ends, _⟩ := runChunks_finished_split ran
    have mapped : chunks.map (fun chunk => tag 0 chunk.bytes) = before' ++ last' :: after' := by
      rw [← cut]
      simp [tagged, withFlags]
    obtain ⟨before, others, rfl, rfl, tail⟩ := List.map_eq_append_iff.mp mapped
    obtain ⟨last, after, rfl, rfl, rfl⟩ := List.map_eq_cons_iff.mp tail
    have start : (before.map fun chunk => tag 0 chunk.bytes).flatten = tag 0 (joined before) := by
      rw [← tagged_withFlags]
      simp [tagged, withFlags, Function.comp_def]
    rw [start] at more
    have whole : run step (init tx) (tag 0 (joined (before ++ [last]))) =
        .finished q (tag flags later) := by
      rw [joined_snoc, tag_append, run_append, more]
      exact ends
    obtain ⟨head, body, length, contents, split, announces, accepts⟩ := split_of_run whole
    rw [bytesOf_tag] at split
    obtain ⟨read, symbol, _, parts, _, _⟩ := run_finished_split ends
    have shorter := congrArg List.length parts
    simp only [tag, List.length_append, List.length_cons, List.length_map] at shorter
    exact ⟨before, last, after, head, body, later, length, contents, rfl, split, announces,
      accepts, by omega⟩

/-- If the stream is accepted, then well framed. -/
def AcceptsFramed (overrun : Store) (tx : Transaction) (chunks : List Chunk) : Prop :=
  let fed := feed (storeOver overrun) (txStreamInit tx) (withFlags 0 chunks)
  fed.status = .ok .finished → Framed fed

/-- The parser keeps the announced length and never looks at it, so of the streams without a v item that is
too long for its array exactly the misframed ones are accepted without being well framed. -/
theorem acceptsFramed_iff (overrun : Store) (tx : Transaction) (chunks : List Chunk)
    (spared : ¬LongV (tag 0 (joined chunks))) : AcceptsFramed overrun tx chunks ↔ ¬Misframed chunks := by
  rw [← tagged_withFlags] at spared
  unfold AcceptsFramed
  rw [feed_spared overrun tx spared]
  constructor
  · rintro framed ⟨before, last, after, head, body, rest, length, contents, rfl, cut, announces,
      accepts, ends, wrong⟩
    obtain ⟨status, dataLength, itemBytes, unread⟩ :=
      feed_framed tx after cut announces accepts ends
    obtain ⟨sameLength, empty⟩ := framed status
    rw [dataLength, itemBytes] at sameLength
    rw [unread] at empty
    exact wrong.elim (fun differ => differ sameLength) (fun some => some empty)
  · intro wellFramed fed status
    obtain ⟨before, last, after, head, body, rest, length, contents, rfl, cut, announces,
      accepts, ends⟩ := finished_split status
    obtain ⟨_, dataLength, itemBytes, unread⟩ :=
      feed_framed tx after cut announces accepts ends
    have right : ¬(length ≠ body.length ∨ rest ≠ []) := fun wrong =>
      wellFramed ⟨before, last, after, head, body, rest, length, contents, rfl, cut, announces,
        accepts, ends, wrong⟩
    obtain ⟨sameLength, empty⟩ := not_or.mp right
    refine ⟨?_, ?_⟩
    · rw [dataLength, itemBytes]
      exact not_not.mp sameLength
    · rw [unread]
      exact not_not.mp empty

theorem simple_framed_iff : AcceptsFramed noOverrun .zero [simpleChunk] ↔ ¬Misframed [simpleChunk] := by
  have answered : (feed storeInside (txStreamInit .zero) (withFlags 0 [simpleChunk])).status =
      .ok .finished := by decide +kernel
  have spared := spared_of_ok answered
  rw [tagged_withFlags] at spared
  exact acceptsFramed_iff noOverrun .zero [simpleChunk] spared

/-- The envelope of the simple transfer announces 43 bytes and its items take 44. -/
theorem simple_accepted_misframed : ¬AcceptsFramed noOverrun .zero [simpleChunk] := by
  intro framed
  exact absurd (framed (by decide +kernel)).1 (by decide +kernel)

end FantomLedger
