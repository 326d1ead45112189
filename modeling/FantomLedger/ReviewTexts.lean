import FantomLedger.AddressChecksum
import FantomLedger.NbglScreens

/-! What the texts of a review say of the transaction that is signed, on the screens of both builds. -/

namespace FantomLedger

open Library Library.Program Library.Numerals StreamParser TextBuffer

section Numbers

/-- The text reads as this number of units of 10 ^ -18, and none of its digits is needless. -/
def ReadsAs (text : List Char) (number : Nat) : Prop :=
  ∃ value, Decimal.decimalValue text = some value ∧ value * 10 ^ 18 = number ∧ Decimal.Canonical text

theorem ReadsAs.unique {text : List Char} {first second : Nat} (one : ReadsAs text first)
    (two : ReadsAs text second) : first = second := by
  obtain ⟨value, reads, same, _⟩ := one
  obtain ⟨other, reads', same', _⟩ := two
  cases reads.symm.trans reads'
  exact_mod_cast same.symm.trans same'

theorem digitText_leadingZero (number : Nat) :
    digitText 10 number = ['0'] ∨ (digitText 10 number).head? ≠ some '0' := by
  rcases (digitText_digits number).leading with zero | ⟨first, rest, shape, nonzero⟩
  · exact .inl zero
  · right
    rw [shape, List.head?_cons, Ne, Option.some_inj]
    exact nonzero

theorem readsAs_fixedPoint (number : Nat) :
    ReadsAs (Decimal.fixedPoint 18 (digitText 10 number)) number := by
  have digits := digitText_isDigit number
  refine ⟨_, Decimal.decimalValue_fixedPoint 18 digits, ?_,
    Decimal.canonical_fixedPoint 18 digits (digitText_leadingZero number)⟩
  rw [wholeValue_digitText]
  field_simp

end Numbers

section Fields

variable {sdk : Sdk} {size : Nat} {tx : Transaction} {text : List Char}

/-- A text of an address in an array of this size. -/
def addressIn (sdk : Sdk) (size : Nat) (field : TxAddress) : DeviceCode (List Char) := do
  let (sha3Context, addrStr) ← formattedAddress sdk field.value.toList field.length.toNat size
  onSignTx (modify fun ctx => ctx.setSha3Context sha3Context)
  return addrStr

/-- The texts of a transaction in arrays of this size. The two builds differ in the size only. -/
def recipientIn (sdk : Sdk) (size : Nat) : DeviceCode (List Char) := do
  let recipient := (← getSignTx).tx.recipient
  assertThat (recipient.length.toNat ≤ txMaxAddressLength)
  if 0 < recipient.length then addressIn sdk size recipient else return "New Contract".toList

def senderIn (sdk : Sdk) (size : Nat) : DeviceCode (List Char) := do
  let sender := (← getSignTx).tx.sender
  assertThat (0 < sender.length)
  assertThat (sender.length.toNat ≤ txMaxAddressLength)
  addressIn sdk size sender

def amountIn (size : Nat) : DeviceCode (List Char) := do
  let value := (← getSignTx).tx.value
  assertThat (value.length.toNat ≤ txMaxInt256Length)
  return (← formatted size (txGetFormattedAmount value weiToFtmDecimals size)).2

def feeIn (size : Nat) : DeviceCode (List Char) := do
  let tx := (← getSignTx).tx
  assertThat (tx.gasPrice.length.toNat ≤ txMaxInt256Length)
  assertThat (tx.startGas.length.toNat ≤ txMaxInt256Length)
  return (← formatted size (txGetFormattedFee tx weiToFtmDecimals size)).2

theorem recipientText_eq : recipientText sdk = recipientIn sdk 64 := rfl

theorem senderText_eq : senderText sdk = senderIn sdk 64 := rfl

theorem amountText_eq : amountText = amountIn 40 := rfl

theorem feeText_eq : feeText = feeIn 40 := rfl

theorem recipientField_eq : Nbgl.recipientField sdk = recipientIn sdk Nbgl.fieldTextSize := rfl

theorem senderField_eq : Nbgl.senderField sdk = senderIn sdk Nbgl.fieldTextSize := rfl

theorem amountField_eq : Nbgl.amountField = amountIn Nbgl.fieldTextSize := rfl

theorem feeField_eq : Nbgl.feeField = feeIn Nbgl.fieldTextSize := rfl

theorem formatted_eq_ok {α : Type} {code : TextCode α} {device after : Device} {result : α}
    (run : (formatted size code).run device = .ok (result, text) after) :
    ∃ memory, code.run (List.replicate size '\x00') = .ok result memory ∧ cString memory = some text := by
  unfold formatted at run
  cases wrote : code.run (List.replicate size '\x00') with
  | error exc memory =>
    rw [run_bind_error (onBuffer_error wrote device)] at run
    cases run
  | ok written memory =>
    rw [run_bind_ok (onBuffer_ok wrote device)] at run
    obtain ⟨found, _, string, returned⟩ := run_bind_eq_ok.mp run
    cases returned
    exact ⟨memory, rfl, (inside_eq_ok.mp string).1⟩

/-- A number that is formatted has its one text. -/
theorem formatNumber_fixedPoint {number : Uint256} {memory : List Char}
    (run : (formatNumber number weiToFtmDecimals size).run (List.replicate size '\x00') = .ok () memory)
    (string : cString memory = some text) :
    text = Decimal.fixedPoint 18 (digitText 10 number.toNat) := by
  have written := @formatNumber_text number weiToFtmDecimals (List.replicate size '\x00') memory
  rw [List.length_replicate] at written
  exact Option.some.inj (string.symm.trans (written run))

theorem amountIn_text (shown : TextOf (amountIn size) tx text) :
    text = Decimal.fixedPoint 18 (digitText 10 (Rlp.beNat tx.value.bytes)) := by
  obtain ⟨device, ctx, after, context, rfl, run⟩ := shown
  rw [amountIn, run_bind_ok (getSignTx_run context)] at run
  obtain ⟨_, _, fits, run⟩ := run_bind_eq_ok.mp run
  obtain ⟨⟨_, written⟩, _, run, returned⟩ := run_bind_eq_ok.mp run
  cases returned
  obtain ⟨memory, run, string⟩ := formatted_eq_ok run
  have returns := @txGetFormattedAmount_returns ctx.tx.value weiToFtmDecimals (List.replicate size '\x00')
  have formats := txGetFormattedAmount_run ctx.tx.value weiToFtmDecimals (List.replicate size '\x00')
  rw [List.length_replicate] at returns formats
  obtain ⟨valueFits, small⟩ := returns run
  obtain ⟨number, same, number_eq⟩ := formats valueFits small
  rw [same] at run
  rw [formatNumber_fixedPoint run string, number_eq]

theorem feeIn_text (small : size < maxBufferSize) (shown : TextOf (feeIn size) tx text) :
    text = Decimal.fixedPoint 18
      (digitText 10 (computedFee (Rlp.beNat tx.gasPrice.bytes) (Rlp.beNat tx.startGas.bytes))) := by
  obtain ⟨device, ctx, after, context, rfl, run⟩ := shown
  rw [feeIn, run_bind_ok (getSignTx_run context)] at run
  obtain ⟨_, _, gasPrice, run⟩ := run_bind_eq_ok.mp run
  obtain ⟨_, _, startGas, run⟩ := run_bind_eq_ok.mp run
  obtain ⟨⟨_, written⟩, _, run, returned⟩ := run_bind_eq_ok.mp run
  cases returned
  obtain ⟨memory, run, string⟩ := formatted_eq_ok run
  have formats := txGetFormattedFee_run ctx.tx weiToFtmDecimals (List.replicate size '\x00')
    (of_decide_eq_true (assertThat_eq_ok.mp gasPrice).1) (of_decide_eq_true (assertThat_eq_ok.mp startGas).1)
  rw [List.length_replicate] at formats
  obtain ⟨number, same, number_eq⟩ := formats small
  rw [same] at run
  rw [formatNumber_fixedPoint run string, number_eq]

/-- An address of 20 bytes has its one text, whatever the stack left. -/
theorem addressIn_text {field : TxAddress} {device after : Device} (room : minAddressStrBufferSize ≤ size)
    (small : size < maxBufferSize) (whole : field.length.toNat = rawAddressSize)
    (run : (addressIn sdk size field).run device = .ok text after) :
    text = addressText sdk field.bytes (lowerHex field.bytes) := by
  have bytes := bytes_whole whole
  have length : field.bytes.length = rawAddressSize := by
    rw [bytes]
    exact field.value.length_toList
  have written := formattedAddress_writes sdk field.value.toList field.length.toNat size device
    (by rw [whole]; decide) whole.le field.value.length_toList.ge room small
  rw [whole, ← bytes, hashedDigits_whole length] at written
  rw [addressIn, whole, ← bytes, run_bind_ok written] at run
  obtain ⟨_, _, _, returned⟩ := run_bind_eq_ok.mp run
  cases returned
  rfl

theorem recipientIn_text (room : minAddressStrBufferSize ≤ size) (small : size < maxBufferSize)
    (whole : WholeAddress tx.recipient.bytes) (length : tx.recipient.length.toNat = tx.recipient.bytes.length)
    (shown : TextOf (recipientIn sdk size) tx text) :
    text = if tx.recipient.bytes = [] then "New Contract".toList
      else addressText sdk tx.recipient.bytes (lowerHex tx.recipient.bytes) := by
  obtain ⟨device, ctx, after, context, rfl, run⟩ := shown
  rw [recipientIn, run_bind_ok (getSignTx_run context)] at run
  obtain ⟨_, middle, _, run⟩ := run_bind_eq_ok.mp run
  rcases whole with none | whole
  · have zero : ¬0 < ctx.tx.recipient.length := by
      rw [UInt8.lt_iff_toNat_lt, length, none]
      exact Nat.lt_irrefl 0
    rw [if_neg zero] at run
    rw [if_pos (List.eq_nil_of_length_eq_zero none)]
    cases run
    rfl
  · have some : 0 < ctx.tx.recipient.length := by
      rw [UInt8.lt_iff_toNat_lt, length, whole]
      decide
    have nonempty : ctx.tx.recipient.bytes ≠ [] := by
      intro nil
      rw [nil] at whole
      cases whole
    rw [if_pos some] at run
    rw [if_neg nonempty]
    exact addressIn_text room small (length.trans whole) run

theorem senderIn_text (room : minAddressStrBufferSize ≤ size) (small : size < maxBufferSize)
    (whole : tx.sender.length.toNat = rawAddressSize) (shown : TextOf (senderIn sdk size) tx text) :
    text = addressText sdk tx.sender.bytes (lowerHex tx.sender.bytes) := by
  obtain ⟨device, ctx, after, context, rfl, run⟩ := shown
  rw [senderIn, run_bind_ok (getSignTx_run context)] at run
  obtain ⟨_, _, _, run⟩ := run_bind_eq_ok.mp run
  obtain ⟨_, _, _, run⟩ := run_bind_eq_ok.mp run
  exact addressIn_text room small whole run

end Fields

section Sender

variable {sdk : Sdk} {path : Bip44Path}

/-- The address of the key at a path, as the device exports it. -/
def AddressOf (sdk : Sdk) (path : Bip44Path) (address : List UInt8) : Prop :=
  ∃ sha3Context, (deriveAddress sdk path addressBufferSize : EStateM Exc Unit _).run () =
    .ok (sha3Context, address) ()

theorem AddressOf.length {address : List UInt8} (derived : AddressOf sdk path address) :
    address.length = rawAddressSize := by
  obtain ⟨_, run⟩ := derived
  exact deriveAddress_eq_ok run

theorem AddressOf.unique {address other : List UInt8} (one : AddressOf sdk path address)
    (two : AddressOf sdk path other) : address = other := by
  obtain ⟨_, run⟩ := one
  obtain ⟨_, run'⟩ := two
  cases run.symm.trans run'
  rfl

theorem addressOf_of_keys {σ : Type} {s t : σ} {privateKey : PrivateKey} {chainCode : ChainCode}
    {sha3Context : Sha3Context} {address : List UInt8}
    (derived : (derivePrivateKey sdk path).run s = .ok (privateKey, chainCode) t)
    (hashed : (getRawAddress sdk (deriveRawPublicKey sdk privateKey) txMaxAddressLength).run t =
      .ok (sha3Context, address) t) : AddressOf sdk path address := by
  have key := ((alike_derivePrivateKey sdk path).of_ok derived ()).2
  have raw := ((alike_getRawAddress sdk _ _).of_ok hashed ()).2
  refine ⟨sha3Context, ?_⟩
  show ((derivePrivateKey sdk path : EStateM Exc Unit _) >>= fun keys =>
    getRawAddress sdk (deriveRawPublicKey sdk keys.1) addressBufferSize).run () = _
  rw [run_bind_ok key]
  exact raw

/-- With the signature goes the address of the key that has signed. -/
theorem txGetSignature_sender {hash : Vector UInt8 32} {ctx after : SignTxContext}
    (run : (txGetSignature sdk hash).run ctx = .ok () after) :
    ∃ sender, after.tx = { ctx.tx with sender := sender } ∧
      sender.length.toNat = rawAddressSize ∧ AddressOf sdk ctx.path sender.bytes := by
  obtain ⟨privateKey, _, sha3Context, address, stored, signature, derived, hashed, store, _, rfl⟩ :=
    txGetSignature_signed run
  have whole := getRawAddress_eq_ok hashed
  obtain ⟨bytes, length⟩ := ByteField.bytes_store store (by rw [whole]; decide) (by decide)
  refine ⟨stored.setLength address.length, rfl, length.trans whole, ?_⟩
  rw [bytes]
  exact addressOf_of_keys derived hashed

end Sender

section Stream

/-- The bytes are a list header, whatever length it announces, and the nine items of a transaction. -/
def Consists (bytes : List UInt8) (item : TxRlpField → List UInt8) : Prop :=
  ∃ head length body, bytes = head ++ body ∧ Rlp.IsHeader rlpLengthBufferSize head ⟨true, length⟩ ∧
    Accepts signedFields body (signedFields.map item)

/-- What the device has consumed of a stream that is finished are the items that it has stored, if no v item
is too long for its array. -/
theorem consumed_consists {platform : Platform} {chunks : List Chunk} (spared : ¬LongV (tag 0 (joined chunks)))
    (finished : (fedChunks platform chunks).status = .ok .finished) :
    ∃ item, Consists (consumedBytes platform chunks) item ∧
      Collected (fedChunks platform chunks).stream.tx item := by
  rw [← tagged_withFlags] at spared
  have same : fedChunks platform chunks = feed storeInside (txStreamInit .zero) (withFlags 0 chunks) :=
    feed_spared platform.overrun .zero spared
  have whole := (feed_init_follows .zero (withFlags 0 chunks)).whole
  rw [tagged_withFlags, ← same] at whole
  cases ran : Machine.run step (init .zero) (tag 0 (joined chunks)) with
  | more q =>
    simp only [ran] at whole
    cases whole.1.symm.trans finished
  | failed stop =>
    rw [ran] at whole
    cases stop <;> cases whole.symm.trans finished
  | finished q rest =>
    simp only [ran] at whole
    obtain ⟨_, _, consumed, split, received, count, _⟩ := whole
    obtain ⟨head, body, length, contents, bytes, announces, accepts⟩ := split_of_run ran
    obtain ⟨item, rfl⟩ := exists_item (by decide) contents (accepts_length accepts)
    have decodes : Decodes (tag 0 (joined chunks)) item := by
      refine ⟨tag 0 head, length, 0, signedFields, tag 0 body, tag 0 (bytesOf rest), ?_,
        envelope_tag 0 announces, leads_signedFields, ?_⟩
      · rw [bytes, tag_append, tag_append, List.append_assoc]
      · rwa [bytesOf_tag]
    have read : bytesOf consumed = head ++ body := by
      have symbols := congrArg bytesOf split
      rw [bytesOf_tag, bytesOf_append, bytes] at symbols
      exact (List.append_cancel_right symbols).symm
    have taken : consumedBytes platform chunks = bytesOf consumed := by
      rw [consumedBytes, Fed.consumed, received, count, List.length_append, Nat.add_sub_cancel, List.take_left]
    refine ⟨item, ⟨head, length, body, taken.trans read, announces, accepts⟩, ?_⟩
    rw [← tagged_withFlags] at decodes
    exact feed_collects platform.overrun decodes

end Stream

section Tells

/-- The text stands for a recipient that has been sent: none, for a new contract, or an address. -/
def NamesRecipient (sdk : Sdk) (recipient : List UInt8) (text : List Char) : Prop :=
  recipient = [] ∧ text = "New Contract".toList ∨
    recipient.length = rawAddressSize ∧ ChecksumText sdk.keccak256 recipient text

/-- What the texts of a review say of the items of a transaction, and of who signs it. -/
structure Tells (sdk : Sdk) (path : Bip44Path) (item : TxRlpField → List UInt8)
    (recipient sender amount fee : List Char) : Prop where
  sendsTo : WholeAddress (item .recipient) → NamesRecipient sdk (item .recipient) recipient
  sendsFrom : ∃ address, AddressOf sdk path address ∧ ChecksumText sdk.keccak256 address sender
  shows : ReadsAs amount (Rlp.beNat (item .value))
  costs : ReadsAs fee (computedFee (Rlp.beNat (item .gasPrice)) (Rlp.beNat (item .startGas)))
  costsMost : Rlp.beNat (item .gasPrice) < 2 ^ 64 → Rlp.beNat (item .startGas) < 2 ^ 64 →
    ReadsAs fee (Rlp.beNat (item .gasPrice) * Rlp.beNat (item .startGas))

/-- Of two factors of one limb each no carry is misplaced. -/
theorem computedFee_small {gasPrice gasVolume : Nat} (price : gasPrice < 2 ^ 64)
    (volume : gasVolume < 2 ^ 64) : computedFee gasPrice gasVolume = gasPrice * gasVolume := by
  have product : gasPrice * gasVolume < 2 ^ 64 * 2 ^ 64 := Nat.mul_lt_mul'' price volume
  have upper (number : Nat) (small : number < 2 ^ 64) : limbsOf number 1 = 0 := by
    rw [limbsOf, Nat.div_eq_of_lt (by simpa using small), Nat.zero_mod]
  have lower (number : Nat) (small : number < 2 ^ 64) : limbsOf number 0 = number := by
    rw [limbsOf]
    simpa using Nat.mod_eq_of_lt small
  apply (wrapped_eq_iff gasPrice gasVolume).mpr
  constructor
  · rw [misplacedCarry_eq_zero_iff, secondColumn, Schoolbook.column1, upper _ price, upper _ volume,
      lower _ price, lower _ volume]
    rw [Nat.mul_zero, Nat.zero_mul, Nat.zero_mod, Nat.zero_add, Nat.add_zero]
    exact Nat.div_lt_of_lt_mul product
  · exact product.trans (by decide)

variable {platform : Platform} {path : Bip44Path} {chunks : List Chunk} {bytes : List UInt8}
  {size addressSize : Nat}

/-- The signature leaves the items of the stream in the transaction. -/
theorem Signs.collected {signed : SignTxContext} {item : TxRlpField → List UInt8}
    (signs : Signs platform path chunks bytes signed)
    (collected : Collected (fedChunks platform chunks).stream.tx item) :
    Collected signed.tx item := by
  obtain ⟨ctx, _, tx_eq, run⟩ := signs
  obtain ⟨sender, same, _⟩ := txGetSignature_sender run
  rw [same, tx_eq]
  refine ⟨?_, collected.flag⟩
  intro field member place known
  have holds := collected.holds field member place known
  cases place <;> exact holds

/-- The texts of a transaction that has been signed tell what the stream was, in arrays that hold the text
of an address. -/
theorem tells_of_texts {signed : SignTxContext} {item : TxRlpField → List UInt8}
    {recipient sender amount fee : List Char} (room : minAddressStrBufferSize ≤ addressSize)
    (addressSmall : addressSize < maxBufferSize) (small : size < maxBufferSize)
    (signs : Signs platform path chunks bytes signed)
    (collected : Collected (fedChunks platform chunks).stream.tx item)
    (sendsTo : TextOf (recipientIn platform.sdk addressSize) signed.tx recipient)
    (sendsFrom : TextOf (senderIn platform.sdk addressSize) signed.tx sender)
    (shows : TextOf (amountIn size) signed.tx amount) (costs : TextOf (feeIn size) signed.tx fee) :
    Tells platform.sdk path item recipient sender amount fee := by
  have kept := signs.collected collected
  obtain ⟨ctx, rfl, _, run⟩ := signs
  obtain ⟨address, same, whole, derived⟩ := txGetSignature_sender run
  have sender : signed.tx.sender = address := by rw [same]
  rw [← sender] at whole derived
  have recipients : signed.tx.recipient.bytes = item .recipient ∧
      signed.tx.recipient.length.toNat = (item .recipient).length :=
    kept.holds .recipient (by decide) .recipient rfl
  have values : signed.tx.value.bytes = item .value ∧ _ := kept.holds .value (by decide) .value rfl
  have prices : signed.tx.gasPrice.bytes = item .gasPrice ∧ _ :=
    kept.holds .gasPrice (by decide) .gasPrice rfl
  have volumes : signed.tx.startGas.bytes = item .startGas ∧ _ :=
    kept.holds .startGas (by decide) .startGas rfl
  have feeReads : ReadsAs fee (computedFee (Rlp.beNat (item .gasPrice)) (Rlp.beNat (item .startGas))) := by
    rw [feeIn_text small costs, ← prices.1, ← volumes.1]
    exact readsAs_fixedPoint _
  refine ⟨?_, ⟨signed.tx.sender.bytes, derived, ?_⟩, ?_, feeReads, ?_⟩
  · intro sent
    have text := recipientIn_text room addressSmall (recipients.1.symm ▸ sent)
      (recipients.2.trans (congrArg List.length recipients.1.symm)) sendsTo
    rw [recipients.1] at text
    rcases sent with none | sent
    · have nil := List.eq_nil_of_length_eq_zero none
      rw [if_pos nil] at text
      exact .inl ⟨nil, text⟩
    · have nonempty : item .recipient ≠ [] := by
        intro nil
        rw [nil] at sent
        cases sent
      rw [if_neg nonempty] at text
      rw [text]
      exact .inr ⟨sent, addressText_checksum platform.sdk sent⟩
  · rw [senderIn_text room addressSmall whole sendsFrom]
    exact addressText_checksum platform.sdk derived.length
  · rw [amountIn_text shows, ← values.1]
    exact readsAs_fixedPoint _
  · intro price volume
    rw [← computedFee_small price volume]
    exact feeReads

theorem NamesRecipient.unique {sdk other : Sdk} {recipient recipient' : List UInt8} {text : List Char}
    (one : NamesRecipient sdk recipient text) (two : NamesRecipient other recipient' text) :
    recipient = recipient' := by
  have start {hash : List UInt8 → Vector UInt8 32} {address : List UInt8}
      (shown : ChecksumText hash address text) : text ≠ "New Contract".toList := by
    rintro rfl
    cases shown.start
  rcases one with ⟨rfl, none⟩ | ⟨whole, shown⟩
  · rcases two with ⟨rfl, _⟩ | ⟨_, shown⟩
    · rfl
    · exact absurd none (start shown)
  · rcases two with ⟨_, none⟩ | ⟨whole', shown'⟩
    · exact absurd none (start shown)
    · exact (shown.read whole).symm.trans (shown'.read whole')

/-- Two transactions have the same recipient, the same amount and the same fee, and they are sent from the
same address. -/
structure ReviewedAlike (sdk other : Sdk) (path path' : Bip44Path)
    (item item' : TxRlpField → List UInt8) : Prop where
  recipient : WholeAddress (item .recipient) → WholeAddress (item' .recipient) →
    item .recipient = item' .recipient
  sender : ∃ address, AddressOf sdk path address ∧ AddressOf other path' address
  value : Rlp.beNat (item .value) = Rlp.beNat (item' .value)
  fee : computedFee (Rlp.beNat (item .gasPrice)) (Rlp.beNat (item .startGas)) =
    computedFee (Rlp.beNat (item' .gasPrice)) (Rlp.beNat (item' .startGas))

/-- The texts of a review determine what they tell. -/
theorem Tells.alike {sdk other : Sdk} {path path' : Bip44Path} {item item' : TxRlpField → List UInt8}
    {recipient sender amount fee : List Char} (one : Tells sdk path item recipient sender amount fee)
    (two : Tells other path' item' recipient sender amount fee) :
    ReviewedAlike sdk other path path' item item' := by
  obtain ⟨address, derived, shown⟩ := one.sendsFrom
  obtain ⟨address', derived', shown'⟩ := two.sendsFrom
  have same : address' = address :=
    (shown'.read derived'.length).symm.trans (shown.read derived.length)
  rw [same] at derived'
  refine ⟨?_, ⟨address, derived, derived'⟩, one.shows.unique two.shows, one.costs.unique two.costs⟩
  intro whole whole'
  exact (one.sendsTo whole).unique (two.sendsTo whole')

end Tells

end FantomLedger
