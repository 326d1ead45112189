import FantomLedger.PathUse
import FantomLedger.SignTransaction
import FantomLedger.StreamItems

/-! The text of an address on the screen, and the bytes that it depends on. -/

namespace FantomLedger

open Library Library.Program StreamParser TextBuffer

theorem nibbles_length (bytes : List UInt8) : (nibbles bytes).length = 2 * bytes.length := by
  induction bytes with
  | nil => rfl
  | cons byte bytes ih =>
    rw [nibbles, List.flatMap_cons, ← nibbles, List.length_append, ih]
    simp only [List.length_cons, List.length_nil]
    omega

theorem nibbles_append (first second : List UInt8) :
    nibbles (first ++ second) = nibbles first ++ nibbles second :=
  List.flatMap_append

theorem highNibble_toNat (byte : UInt8) : ((byte >>> 4) &&& 0x0f).toNat = byte.toNat / 16 := by
  have small := byte.toNat_lt
  rw [UInt8.toNat_and, UInt8.toNat_shiftRight]
  show byte.toNat >>> 4 &&& 2 ^ 4 - 1 = _
  rw [Nat.and_two_pow_sub_one_eq_mod, Nat.shiftRight_eq_div_pow]
  omega

theorem lowNibble_toNat (byte : UInt8) : (byte &&& 0x0f).toNat = byte.toNat % 16 := by
  rw [UInt8.toNat_and]
  exact Nat.and_two_pow_sub_one_eq_mod byte.toNat 4

theorem nibble_lt {bytes : List UInt8} {digit : UInt8} (member : digit ∈ nibbles bytes) :
    digit.toNat < 16 := by
  obtain ⟨byte, _, isNibble⟩ := List.mem_flatMap.mp member
  have small := byte.toNat_lt
  simp only [List.mem_cons, List.not_mem_nil, or_false] at isNibble
  rcases isNibble with rfl | rfl
  · rw [highNibble_toNat]
    omega
  · rw [lowNibble_toNat]
    omega

theorem nibbles_inj {first second : List UInt8} (same : nibbles first = nibbles second) :
    first = second := by
  induction first generalizing second with
  | nil =>
    cases second with
    | nil => rfl
    | cons byte second => cases same
  | cons byte first ih =>
    cases second with
    | nil => cases same
    | cons other second =>
      simp only [nibbles, List.flatMap_cons, List.cons_append, List.nil_append,
        List.cons.injEq] at same
      obtain ⟨high, low, later⟩ := same
      have highValue := congrArg UInt8.toNat high
      have lowValue := congrArg UInt8.toNat low
      rw [highNibble_toNat, highNibble_toNat] at highValue
      rw [lowNibble_toNat, lowNibble_toNat] at lowValue
      have value : byte.toNat = other.toNat := by omega
      rw [UInt8.toNat_inj.mp value, ih later]

/-- The digit that a character stands for, in either case. -/
def caselessValue (c : Char) : Nat :=
  if c.isDigit then c.toNat - 48 else if c.isUpper then c.toNat - 55 else c.toNat - 87

theorem caselessValue_foldDigit {digit : UInt8} (small : digit.toNat < 16) (checksum : UInt8) :
    caselessValue (foldDigit digit checksum) = digit.toNat ∧ foldDigit digit checksum ≠ '\x00' := by
  have cases_on : ∀ upper : Bool, ∀ value < 16,
      caselessValue (Char.ofNat (if upper ∧ 10 ≤ UInt8.ofNat value then
        hexByte (UInt8.ofNat value) - 97 + 65 else hexByte (UInt8.ofNat value)).toNat) = value ∧
      Char.ofNat (if upper ∧ 10 ≤ UInt8.ofNat value then
        hexByte (UInt8.ofNat value) - 97 + 65 else hexByte (UInt8.ofNat value)).toNat ≠ '\x00' := by
    decide +kernel
  have shown := cases_on (8 ≤ checksum) digit.toNat small
  rw [UInt8.ofNat_toNat] at shown
  simp only [decide_eq_true_eq, and_comm (a := 8 ≤ checksum)] at shown
  exact shown

section Text

variable (sdk : Sdk)

/-- The bytes that the checksum is taken over. -/
def hashedDigits (address : List UInt8) (addrLen : Nat) (tmp : Vector UInt8 40) : List UInt8 :=
  (nibbles (address.take addrLen)).map hexByte ++ tmp.toList.drop (2 * addrLen)

def addressDigits (address hashed : List UInt8) : List Char :=
  List.zipWith foldDigit (nibbles (address.take rawAddressSize)) (nibbles (sdk.keccak256 hashed).toList)

/-- The text of the 20 bytes at an address. -/
def addressText (address hashed : List UInt8) : List Char :=
  '0' :: 'x' :: addressDigits sdk address hashed

theorem addressDigits_length {address : List UInt8} (whole : rawAddressSize ≤ address.length)
    (hashed : List UInt8) : (addressDigits sdk address hashed).length = 40 := by
  have shown : (address.take rawAddressSize).length = 20 := by
    rw [List.length_take]
    exact Nat.min_eq_left whole
  rw [addressDigits, List.length_zipWith, nibbles_length, nibbles_length, shown,
    Vector.length_toList]
  rfl

theorem addressText_length {address : List UInt8} (whole : rawAddressSize ≤ address.length)
    (hashed : List UInt8) : (addressText sdk address hashed).length = 42 := by
  rw [addressText, List.length_cons, List.length_cons, addressDigits_length sdk whole]

/-- The digits read back as those of the address, whatever letters are upper case. -/
theorem addressDigits_read (address hashed : List UInt8) :
    (addressDigits sdk address hashed).map caselessValue =
        (nibbles (address.take rawAddressSize)).map UInt8.toNat ∧
      '\x00' ∉ addressDigits sdk address hashed := by
  have long : (nibbles (address.take rawAddressSize)).length ≤
      (nibbles (sdk.keccak256 hashed).toList).length := by
    rw [nibbles_length, nibbles_length, Vector.length_toList, List.length_take]
    have most := Nat.min_le_left rawAddressSize address.length
    have size : rawAddressSize = 20 := rfl
    omega
  have small : ∀ digit ∈ nibbles (address.take rawAddressSize), digit.toNat < 16 :=
    fun _ member => nibble_lt member
  rw [addressDigits]
  generalize nibbles (sdk.keccak256 hashed).toList = checksums at long
  generalize nibbles (address.take rawAddressSize) = digits at long small
  induction digits generalizing checksums with
  | nil => exact ⟨rfl, List.not_mem_nil⟩
  | cons digit digits ih =>
    cases checksums with
    | nil => exact absurd long (by simp)
    | cons checksum checksums =>
      obtain ⟨read, clean⟩ := ih checksums (by simpa using long)
        (fun other member => small other (List.mem_cons_of_mem _ member))
      obtain ⟨value, nonzero⟩ := caselessValue_foldDigit (small digit List.mem_cons_self) checksum
      rw [List.zipWith_cons_cons, List.map_cons, List.map_cons, value, read]
      refine ⟨rfl, ?_⟩
      intro member
      rcases List.mem_cons.mp member with same | later
      · exact nonzero same.symm
      · exact clean later

theorem addressText_clean (address hashed : List UInt8) :
    '\x00' ∉ addressText sdk address hashed := by
  have clean := (addressDigits_read sdk address hashed).2
  intro member
  rw [addressText, List.mem_cons, List.mem_cons] at member
  rcases member with zero | mark | digit
  · exact absurd zero (by decide)
  · exact absurd mark (by decide)
  · exact clean digit

/-- Addresses with the same text are the same, whatever was hashed for the checksums. -/
theorem addressText_inj {first second hashed other : List UInt8}
    (firstWhole : first.length = rawAddressSize) (secondWhole : second.length = rawAddressSize)
    (same : addressText sdk first hashed = addressText sdk second other) : first = second := by
  have one := (addressDigits_read sdk first hashed).1
  have two := (addressDigits_read sdk second other).1
  rw [addressText, addressText, List.cons.injEq, List.cons.injEq] at same
  rw [same.2.2, two, List.take_of_length_le firstWhole.le, List.take_of_length_le secondWhole.le]
    at one
  have digits := List.map_injective_iff.mpr (fun a b => UInt8.toNat_inj.mp) one
  exact (nibbles_inj digits).symm

/-- The text goes to the array with its terminator; the context has hashed all 40 digits. -/
theorem addressFormatStr_run (address : List UInt8) (addrLen : Nat) (tmp : Vector UInt8 40)
    (out : List Char) (some : 0 < addrLen) (most : addrLen ≤ rawAddressSize)
    (whole : rawAddressSize ≤ address.length) (room : minAddressStrBufferSize ≤ out.length)
    (small : out.length < maxBufferSize) :
    (addressFormatStr sdk address addrLen tmp out.length).run out =
      .ok ⟨hashedDigits address addrLen tmp, true⟩
        (addressText sdk address (hashedDigits address addrLen tmp) ++ '\x00' :: out.drop 43) := by
  have length := addressText_length sdk whole (hashedDigits address addrLen tmp)
  obtain ⟨target, cut, size⟩ : ∃ target, out = target ++ out.drop 43 ∧ target.length = 43 := by
    refine ⟨out.take 43, (List.take_append_drop 43 out).symm, ?_⟩
    rw [List.length_take]
    exact Nat.min_eq_left room
  have stored := storeAll_run [] (addressText sdk address (hashedDigits address addrLen tmp) ++ ['\x00'])
    target (out.drop 43) (by rw [size, List.length_append, length]; rfl)
  have reached : addrLen ≤ address.length := Nat.le_trans most whole
  rw [addressFormatStr, decide_eq_true small, decide_eq_true some, decide_eq_true most,
    decide_eq_true room, if_pos reached, if_pos whole]
  simp only [assertThat_true, inside_some, pure_bind]
  show (storeAll 0 (addressText sdk address (hashedDigits address addrLen tmp) ++ ['\x00']) >>=
    fun _ => pure _).run out = _
  simp only [List.length_nil, List.nil_append, ← cut] at stored
  rw [run_bind_ok stored, List.append_assoc]
  rfl

/-- The text of an address on the screen, from the array that the stack leaves for it. -/
theorem formattedAddress_writes (address : List UInt8) (addrLen size : Nat) (device : Device)
    (some : 0 < addrLen) (most : addrLen ≤ rawAddressSize) (whole : rawAddressSize ≤ address.length)
    (room : minAddressStrBufferSize ≤ size) (small : size < maxBufferSize) :
    (formattedAddress sdk address addrLen size).run device =
      .ok (⟨hashedDigits address addrLen (device.stack 0), true⟩,
          addressText sdk address (hashedDigits address addrLen (device.stack 0)))
        { device with stack := fun call => device.stack (call + 1) } := by
  have length : (List.replicate size '\x00').length = size := List.length_replicate
  have written := addressFormatStr_run sdk address addrLen (device.stack 0)
    (List.replicate size '\x00') some most whole (by rw [length]; exact room)
    (by rw [length]; exact small)
  have text := cString_terminated (addressText_clean sdk address
    (hashedDigits address addrLen (device.stack 0))) ((List.replicate size '\x00').drop 43)
  rw [length] at written
  show (formatted size (addressFormatStr sdk address addrLen (device.stack 0) size)).run
    { device with stack := fun call => device.stack (call + 1) } = _
  rw [formatted, run_bind_ok (onBuffer_ok written _)]
  show (inside (cString _) >>= fun text => pure (_, text)).run _ = _
  rw [text]
  rfl

theorem formattedAddress_run (address : List UInt8) (addrLen : Nat) (device : Device)
    (some : 0 < addrLen) (most : addrLen ≤ rawAddressSize) (whole : rawAddressSize ≤ address.length) :
    (formattedAddress sdk address addrLen 64).run device =
      .ok (⟨hashedDigits address addrLen (device.stack 0), true⟩,
          addressText sdk address (hashedDigits address addrLen (device.stack 0)))
        { device with stack := fun call => device.stack (call + 1) } :=
  formattedAddress_writes sdk address addrLen 64 device some most whole (by decide) (by decide)

section Context

variable {device : Device} {ctx : SignTxContext}

theorem onSignTx_run {α : Type} (context : device.instructionState = .signTx ctx)
    {body : SignCode α} {after : SignTxContext} {result : α} (run : body.run ctx = .ok result after) :
    (onSignTx body).run device = .ok result { device with instructionState := .signTx after } := by
  have found : device.signTx? = some ctx := by rw [Device.signTx?, context]
  simp only [EStateM.run, onSignTx] at run ⊢
  rw [found]
  simp only [run]

theorem onSignTx_modify_run (context : device.instructionState = .signTx ctx)
    (change : SignTxContext → SignTxContext) :
    (onSignTx (modify change)).run device =
      .ok () { device with instructionState := .signTx (change ctx) } :=
  onSignTx_run context rfl

theorem getSignTx_run (context : device.instructionState = .signTx ctx) :
    getSignTx.run device = .ok ctx device := by
  have run := onSignTx_run context (rfl : (get : SignCode SignTxContext).run ctx = .ok ctx ctx)
  rw [← context] at run
  exact run

/-- The device after an address was formatted for the screen. -/
def Device.hashing (device : Device) (ctx : SignTxContext) (hashed : List UInt8) : Device :=
  { device with
    stack := fun call => device.stack (call + 1)
    instructionState := .signTx (ctx.setSha3Context ⟨hashed, true⟩) }

/-- The digits that are hashed for a field which the device is about to show. -/
def fieldDigits (field : TxAddress) (device : Device) : List UInt8 :=
  hashedDigits field.value.toList field.length.toNat (device.stack 0)

theorem shownAddress_run (context : device.instructionState = .signTx ctx) (field : TxAddress)
    (some : 0 < field.length) (fits : field.length.toNat ≤ txMaxAddressLength) :
    (do
      let (sha3Context, addrStr) ← formattedAddress sdk field.value.toList field.length.toNat 64
      onSignTx (modify fun ctx => ctx.setSha3Context sha3Context)
      return addrStr : DeviceCode (List Char)).run device =
      .ok (addressText sdk field.value.toList (fieldDigits field device))
        (device.hashing ctx (fieldDigits field device)) := by
  have whole : rawAddressSize ≤ field.value.toList.length := by
    rw [Vector.length_toList]
    exact Nat.le_refl _
  have shown := formattedAddress_run sdk field.value.toList field.length.toNat device
    (UInt8.lt_iff_toNat_lt.mp some) fits whole
  rw [run_bind_ok shown]
  apply run_bind_ok
  apply onSignTx_modify_run
  exact context

theorem recipientText_run (context : device.instructionState = .signTx ctx)
    (fits : ctx.tx.recipient.length.toNat ≤ txMaxAddressLength) :
    (recipientText sdk).run device =
      if 0 < ctx.tx.recipient.length then
        .ok (addressText sdk ctx.tx.recipient.value.toList (fieldDigits ctx.tx.recipient device))
          (device.hashing ctx (fieldDigits ctx.tx.recipient device))
      else .ok "New Contract".toList device := by
  rw [recipientText, run_bind_ok (getSignTx_run context)]
  dsimp only
  rw [decide_eq_true fits, assertThat_true, pure_bind]
  split_ifs with some
  · exact shownAddress_run sdk context ctx.tx.recipient some fits
  · rfl

theorem senderText_run (context : device.instructionState = .signTx ctx)
    (some : 0 < ctx.tx.sender.length) (fits : ctx.tx.sender.length.toNat ≤ txMaxAddressLength) :
    (senderText sdk).run device =
      .ok (addressText sdk ctx.tx.sender.value.toList (fieldDigits ctx.tx.sender device))
        (device.hashing ctx (fieldDigits ctx.tx.sender device)) := by
  rw [senderText, run_bind_ok (getSignTx_run context)]
  dsimp only
  rw [decide_eq_true some, decide_eq_true fits]
  exact shownAddress_run sdk context ctx.tx.sender some fits

end Context

/-- What the formatter writes and hashes depends on the bytes in use alone: on none behind them,
and on nothing that the stack left. -/
def OnlyItem (field : TxAddress) : Prop :=
  0 < field.length → ∀ (other : TxAddress) (tmp tmp' : Vector UInt8 40) (out : List Char),
    other.length = field.length → other.bytes = field.bytes →
    (addressFormatStr sdk other.value.toList other.length.toNat tmp out.length).run out =
      (addressFormatStr sdk field.value.toList field.length.toNat tmp' out.length).run out

theorem bytes_whole {field : TxAddress} (whole : field.length.toNat = rawAddressSize) :
    field.bytes = field.value.toList := by
  rw [ByteField.bytes, whole]
  exact List.take_of_length_le (by rw [Vector.length_toList]; exact Nat.le_refl _)

theorem onlyItem_iff {field : TxAddress} (fits : field.length.toNat ≤ txMaxAddressLength) :
    OnlyItem sdk field ↔ field.length.toNat = 0 ∨ field.length.toNat = rawAddressSize := by
  constructor
  · intro only
    by_contra partial_
    obtain ⟨some, short⟩ := not_or.mp partial_
    have positive : 0 < field.length.toNat := Nat.pos_of_ne_zero some
    have whole : rawAddressSize ≤ field.value.toList.length := by
      rw [Vector.length_toList]
      exact Nat.le_refl _
    have left (fill : UInt8) := addressFormatStr_run sdk field.value.toList field.length.toNat
      (Vector.replicate 40 fill) (List.replicate 43 '\x00') positive fits whole (by decide) (by decide)
    have same := only (UInt8.lt_iff_toNat_lt.mpr positive) field (Vector.replicate 40 0)
      (Vector.replicate 40 1) (List.replicate 43 '\x00') rfl rfl
    rw [left, left, EStateM.Result.ok.injEq, Sha3Context.mk.injEq, hashedDigits, hashedDigits,
      List.append_cancel_left_eq, Vector.toList_replicate, Vector.toList_replicate,
      List.drop_replicate, List.drop_replicate, List.replicate_inj] at same
    have differ : ¬(0 : UInt8) = 1 := by decide
    have size : rawAddressSize = 20 := rfl
    have most : txMaxAddressLength = 20 := rfl
    rcases same.1.1.2 with none | equal
    · omega
    · exact differ equal
  · rintro (none | whole) some other tmp tmp' out sameLength sameBytes
    · exact absurd (UInt8.lt_iff_toNat_lt.mp some) (by rw [none]; exact Nat.lt_irrefl 0)
    · rw [bytes_whole whole, bytes_whole (by rw [sameLength, whole])] at sameBytes
      have rest (left : Vector UInt8 40) : left.toList.drop (2 * rawAddressSize) = [] :=
        List.drop_eq_nil_of_le (by rw [Vector.length_toList]; exact Nat.le_refl _)
      rw [sameLength, sameBytes, whole, addressFormatStr, addressFormatStr, rest, rest]

/-- The screen can show this text for a recipient. -/
def SendsTo (recipient : TxAddress) (text : List Char) : Prop :=
  ∃ device ctx after, device.instructionState = .signTx ctx ∧ ctx.tx.recipient = recipient ∧
    (recipientText sdk).run device = .ok text after

/-- A recipient that is shown and hashed as it was sent. -/
structure RecipientExact (recipient : TxAddress) : Prop where
  length : recipient.length.toNat = 0 ∨ recipient.length.toNat = rawAddressSize
  newContract : recipient.length.toNat = 0 →
    ∀ text, SendsTo sdk recipient text ↔ text = "New Contract".toList
  onlyItem : OnlyItem sdk recipient

variable {sdk}

theorem sendsTo_iff {recipient : TxAddress} (fits : recipient.length.toNat ≤ txMaxAddressLength)
    {text : List Char} :
    SendsTo sdk recipient text ↔
      if 0 < recipient.length then
        ∃ tmp, text = addressText sdk recipient.value.toList
          (hashedDigits recipient.value.toList recipient.length.toNat tmp)
      else text = "New Contract".toList := by
  constructor
  · rintro ⟨device, ctx, after, context, rfl, run⟩
    rw [recipientText_run sdk context fits] at run
    split_ifs at run ⊢
    · cases run
      exact ⟨device.stack 0, rfl⟩
    · cases run
      rfl
  · intro shown
    have runs (tmp : Vector UInt8 40) := @recipientText_run sdk
      ⟨none, .expectIo, .signTx _, .cleared, .idle, fun _ => tmp, []⟩
      (SignTxContext.zero.setTx { Transaction.zero with recipient := recipient }) rfl fits
    split_ifs at shown with some
    · obtain ⟨tmp, rfl⟩ := shown
      exact ⟨_, _, _, rfl, rfl, (runs tmp).trans (if_pos some)⟩
    · subst shown
      exact ⟨_, _, _, rfl, rfl, (runs (Vector.replicate 40 0)).trans (if_neg some)⟩

theorem addressText_ne_newContract (address hashed : List UInt8) :
    addressText sdk address hashed ≠ "New Contract".toList := by
  intro same
  have first := congrArg List.head? same
  cases first

theorem recipientExact_of_length {recipient : TxAddress}
    (whole : recipient.length.toNat = 0 ∨ recipient.length.toNat = rawAddressSize) :
    RecipientExact sdk recipient := by
  have fits : recipient.length.toNat ≤ txMaxAddressLength := by
    have size : rawAddressSize = txMaxAddressLength := rfl
    omega
  refine ⟨whole, ?_, (onlyItem_iff sdk fits).mpr whole⟩
  intro none text
  rw [sendsTo_iff fits, if_neg]
  intro some
  exact absurd (UInt8.lt_iff_toNat_lt.mp some) (by rw [none]; exact Nat.lt_irrefl 0)

/-- Two whole recipients with a text in common have the same bytes. -/
theorem sendsTo_inj {recipient other : TxAddress} {text : List Char}
    (whole : recipient.length.toNat = 0 ∨ recipient.length.toNat = rawAddressSize)
    (otherWhole : other.length.toNat = 0 ∨ other.length.toNat = rawAddressSize)
    (shown : SendsTo sdk recipient text) (alike : SendsTo sdk other text) :
    recipient.bytes = other.bytes := by
  have size : rawAddressSize = txMaxAddressLength := rfl
  rw [sendsTo_iff (by omega)] at shown alike
  split_ifs at shown alike with some otherSome otherSome
  · obtain ⟨tmp, rfl⟩ := shown
    obtain ⟨tmp', same⟩ := alike
    have positive := UInt8.lt_iff_toNat_lt.mp some
    have otherPositive := UInt8.lt_iff_toNat_lt.mp otherSome
    rw [bytes_whole (whole.resolve_left positive.ne'),
      bytes_whole (otherWhole.resolve_left otherPositive.ne')]
    exact addressText_inj sdk (Vector.length_toList) (Vector.length_toList) same
  · obtain ⟨tmp, rfl⟩ := shown
    exact absurd alike (addressText_ne_newContract _ _)
  · obtain ⟨tmp, rfl⟩ := alike
    exact absurd shown (addressText_ne_newContract _ _)
  · have none : recipient.length.toNat = 0 := by
      rw [UInt8.lt_iff_toNat_lt] at some
      exact Nat.eq_zero_of_not_pos some
    have otherNone : other.length.toNat = 0 := by
      rw [UInt8.lt_iff_toNat_lt] at otherSome
      exact Nat.eq_zero_of_not_pos otherSome
    rw [ByteField.bytes, ByteField.bytes, none, otherNone, List.take_zero, List.take_zero]

/-- The bytes of an address, or none for a new contract. -/
def WholeAddress (content : List UInt8) : Prop :=
  content.length = 0 ∨ content.length = rawAddressSize

/-- The recipient that a stream leaves in the transaction. -/
def fedRecipient (overrun : Store) (tx : Transaction) (calls : List Call) : TxAddress :=
  (feed (storeOver overrun) (txStreamInit tx) calls).stream.tx.recipient

theorem fedRecipient_holds (overrun : Store) (tx : Transaction) {calls : List Call} {item : TxRlpField → List UInt8}
    (decodes : Decodes (tagged calls).flatten item) :
    (fedRecipient overrun tx calls).bytes = item .recipient ∧
      (fedRecipient overrun tx calls).length.toNat = (item .recipient).length :=
  (feed_collects overrun decodes).holds .recipient (by decide) .recipient rfl

/-- Two accepted streams show their recipients as they were sent, and different ones differently,
exactly when both recipients are whole addresses: the parser accepts shorter ones, for which the
formatter goes on behind the bytes of the item. -/
theorem recipients_exact_iff (sdk : Sdk) (overrun : Store) (tx tx' : Transaction)
    {calls calls' : List Call} {item item' : TxRlpField → List UInt8} (decodes : Decodes (tagged calls).flatten item)
    (decodes' : Decodes (tagged calls').flatten item') :
    RecipientExact sdk (fedRecipient overrun tx calls) ∧ RecipientExact sdk (fedRecipient overrun tx' calls') ∧
        (item .recipient ≠ item' .recipient → ∀ text, SendsTo sdk (fedRecipient overrun tx calls) text →
          ¬SendsTo sdk (fedRecipient overrun tx' calls') text) ↔
      WholeAddress (item .recipient) ∧ WholeAddress (item' .recipient) := by
  obtain ⟨bytes, length⟩ := fedRecipient_holds overrun tx decodes
  obtain ⟨bytes', length'⟩ := fedRecipient_holds overrun tx' decodes'
  rw [WholeAddress, WholeAddress, ← length, ← length', ← bytes, ← bytes']
  constructor
  · rintro ⟨first, second, _⟩
    exact ⟨first.length, second.length⟩
  · rintro ⟨whole, whole'⟩
    refine ⟨recipientExact_of_length whole, recipientExact_of_length whole', ?_⟩
    intro different text shown alike
    exact different (sendsTo_inj whole whole' shown alike)

end Text

/-- The transfer to another recipient. -/
def transferTo (recipient : List UInt8) (fits : recipient.length ≤ txMaxAddressLength) :
    RlpTransaction :=
  { transfer with recipient := recipient, recipientFits := fits }

def creation : List Chunk :=
  [⟨(transferTo [] (by decide)).encode, by decide +kernel, by decide +kernel⟩]

theorem transfer_recipient_exact :
    RecipientExact zeroSdk (fedRecipient noOverrun .zero (withFlags 0 transferPieces)) ∧
        RecipientExact zeroSdk (fedRecipient noOverrun .zero (withFlags 0 creation)) ∧
        (transfer.item .recipient ≠ (transferTo [] (by decide)).item .recipient →
          ∀ text, SendsTo zeroSdk (fedRecipient noOverrun .zero (withFlags 0 transferPieces)) text →
            ¬SendsTo zeroSdk (fedRecipient noOverrun .zero (withFlags 0 creation)) text) ↔
      WholeAddress (transfer.item .recipient) ∧
        WholeAddress ((transferTo [] (by decide)).item .recipient) :=
  recipients_exact_iff zeroSdk noOverrun .zero .zero
    (decodes_encode transfer transferPieces (by decide +kernel) (by decide +kernel))
    (decodes_encode (transferTo [] (by decide)) creation (by decide +kernel) (by decide +kernel))

/-- The first byte of the zero address alone. -/
def shortRecipient : List Chunk :=
  [⟨(transferTo [0] (by decide)).encode, by decide +kernel, by decide +kernel⟩]

def zeroRecipient : List Chunk :=
  [⟨(transferTo (List.replicate 20 0) (by decide)).encode, by decide +kernel, by decide +kernel⟩]

theorem shortRecipient_shown_as_zeroRecipient :
    (feed (storeOver noOverrun) (txStreamInit .zero) (withFlags 0 shortRecipient)).status = .ok .finished ∧
      (feed (storeOver noOverrun) (txStreamInit .zero) (withFlags 0 zeroRecipient)).status = .ok .finished ∧
      (fedRecipient noOverrun .zero (withFlags 0 shortRecipient)).length = 1 ∧
      (fedRecipient noOverrun .zero (withFlags 0 shortRecipient)).bytes ≠
        (fedRecipient noOverrun .zero (withFlags 0 zeroRecipient)).bytes ∧
      ∃ text, SendsTo zeroSdk (fedRecipient noOverrun .zero (withFlags 0 shortRecipient)) text ∧
        SendsTo zeroSdk (fedRecipient noOverrun .zero (withFlags 0 zeroRecipient)) text := by
  have short : fedRecipient noOverrun .zero (withFlags 0 shortRecipient) = ⟨Vector.replicate 20 0, 1⟩ := by
    decide +kernel
  have zero : fedRecipient noOverrun .zero (withFlags 0 zeroRecipient) = ⟨Vector.replicate 20 0, 20⟩ := by
    decide +kernel
  rw [short, zero]
  refine ⟨by decide +kernel, by decide +kernel, rfl, by decide, '0' :: 'x' :: List.replicate 40 '0', ?_, ?_⟩
  · rw [sendsTo_iff (by decide), if_pos (by decide)]
    exact ⟨Vector.replicate 40 0, by decide +kernel⟩
  · rw [sendsTo_iff (by decide), if_pos (by decide)]
    exact ⟨Vector.replicate 40 0, by decide +kernel⟩

end FantomLedger
