import FantomLedger.NbglMainLoop
import FantomLedger.PathWire
import FantomLedger.SignScreens

/-! What the handlers leave behind before they turn to the screen, and the texts that the build for
large screens shows of a transaction. -/

namespace FantomLedger

open Library.Program

section Shared

variable {device : Device} {ins : Option Ins} {outputs : List Output} {sdk : Sdk}

theorem takeFirstStep_goes {α : Type} {step : Option α} {setStep : α → DeviceCode Unit}
    {good : Unit → Device → Prop}
    (takes : ∀ uiStep, step = some uiStep → Goes Device.outputs (setStep uiStep) device good) :
    Goes Device.outputs (takeFirstStep step setStep) device good := by
  cases step with
  | none => exact goes_throw _
  | some uiStep => exact takes uiStep rfl

/-- A request for the public key of a path: its payload is the encoding of the path. -/
structure AsksKey (sdk : Sdk) (p1 p2 : UInt8) (wire : List UInt8) (path : Bip44Path)
    (policy : SecurityPolicy) (key : ExtendedPublicKey) : Prop where
  zero : p1 = 0 ∧ p2 = 0
  wire : wire = encodePath path.indexes
  classified : (policyForGetPublicKey path : EStateM Exc Unit _).run () = .ok policy ()
  notDenied : policy ≠ .deny
  derives : (deriveExtendedPublicKey sdk path : EStateM Exc Unit _).run () = .ok key ()

theorem AsksKey.valid {p1 p2 : UInt8} {wire : List UInt8} {path : Bip44Path} {policy : SecurityPolicy}
    {key : ExtendedPublicKey} (asks : AsksKey sdk p1 p2 wire path policy key) :
    bip44HasValidFantomPrefix path = true := by
  apply @prefix_of_policy Unit .getKey path ()
  intro denied
  cases asks.classified.symm.trans denied
  exact asks.notDenied rfl

/-- The context of the key is set up, whatever it was before. -/
theorem beginGetPublicKey_goes {ctx : GetPubKeyContext} (p1 p2 : UInt8) (wire : List UInt8)
    {isOnInit : Bool} (ins : device.currentIns = some .getKey)
    (context : isOnInit = false → device.instructionState = .getPubKey ctx) :
    Goes Device.outputs (beginGetPublicKey sdk p1 p2 wire isOnInit) device fun _ after =>
      ∃ path policy key uiStep, AsksKey sdk p1 p2 wire path policy key ∧
        pubKeyUiStep policy = some uiStep ∧ Holding (some .getKey) device.outputs
          (.getPubKey ⟨pubKeyReadyTag, path, key, uiStep⟩) after := by
  have begins {device : Device} {ctx : GetPubKeyContext} {outputs : List Output}
      (holding : Holding (some .getKey) outputs (.getPubKey ctx) device) :
      Goes Device.outputs (beginGetPublicKey sdk p1 p2 wire false) device fun _ after =>
        ∃ path policy key uiStep, AsksKey sdk p1 p2 wire path policy key ∧
          pubKeyUiStep policy = some uiStep ∧
          Holding (some .getKey) outputs (.getPubKey ⟨pubKeyReadyTag, path, key, uiStep⟩) after := by
    apply goes_bind_onGetPubKey holding (EStateM.run_modify _ _)
    intro _ holding
    apply goes_bind_validate
    intro zero
    apply goes_bind_validate
    intro zero'
    apply goes_bind_onGetPubKey holding (EStateM.run_get _)
    intro _ holding
    apply (alike_bip44ParseFromWire _ _).goes_bind ()
    rintro ⟨path, parsedSize⟩ parsed
    apply goes_bind_onGetPubKey holding (EStateM.run_modify _ _)
    intro _ holding
    apply goes_bind_validate
    intro size
    cases beq_iff_eq.mp size
    apply (alike_policyForGetPublicKey path).goes_bind ()
    intro policy classified
    apply goes_bind_validate
    intro allowed
    apply (alike_deriveExtendedPublicKey sdk path).goes_bind ()
    intro key derived
    apply goes_bind_onGetPubKey holding (EStateM.run_modify _ _)
    intro _ holding
    apply takeFirstStep_goes
    intro uiStep starts
    apply goes_of_ok (setPubKeyStep_run holding.state uiStep)
    exact ⟨path, policy, key, uiStep, ⟨⟨beq_iff_eq.mp zero, beq_iff_eq.mp zero'⟩, wire_of_parse parsed,
      classified, bne_iff_ne.mp allowed, derived⟩, starts, holding.ins, holding.outputs, rfl⟩
  cases isOnInit with
  | false => exact begins ⟨ins, rfl, context rfl⟩
  | true =>
    apply goes_bind_ok (EStateM.run_modify _ _) rfl
    exact begins ⟨ins, rfl, rfl⟩

/-- A request for the address of a path. -/
structure AsksAddress (sdk : Sdk) (p1 p2 : UInt8) (wire : List UInt8) (path : Bip44Path)
    (policy : SecurityPolicy) (address : List UInt8) : Prop where
  known : p1 = p1ReturnAddress ∨ p1 = p1DisplayAddress
  zero : p2 = 0
  wire : wire = encodePath path.indexes
  classified : (policyForGetAddress path (p1 == p1DisplayAddress) : EStateM Exc Unit _).run () =
    .ok policy ()
  notDenied : policy ≠ .deny
  derives : ∃ sha3Context, (deriveAddress sdk path addressBufferSize : EStateM Exc Unit _).run () =
    .ok (sha3Context, address) ()

theorem AsksAddress.valid {p1 p2 : UInt8} {wire : List UInt8} {path : Bip44Path}
    {policy : SecurityPolicy} {address : List UInt8}
    (asks : AsksAddress sdk p1 p2 wire path policy address) : bip44HasValidFantomPrefix path = true := by
  apply @prefix_of_policy Unit (.getAddr (p1 == p1DisplayAddress)) path ()
  intro denied
  cases asks.classified.symm.trans denied
  exact asks.notDenied rfl

/-- The context of an address that has been derived. -/
structure AddressBegun (ctx : GetAddressContext) (path : Bip44Path) (isShowAddress : Bool)
    (uiStep : UiStep) : Prop extends AddressReady ctx where
  path : ctx.path = path
  isShowAddress : ctx.isShowAddress = isShowAddress
  uiStep : ctx.uiStep = uiStep

/-- The context of the address is set up, whatever it was before. -/
theorem beginGetAddress_goes {ctx : GetAddressContext}
    (firstStep : Bool → SecurityPolicy → Option UiStep) (p1 p2 : UInt8) (wire : List UInt8)
    {isOnInit : Bool} (ins : device.currentIns = some .getAddr)
    (context : isOnInit = false → device.instructionState = .getAddress ctx) :
    Goes Device.outputs (beginGetAddress sdk firstStep p1 p2 wire isOnInit) device fun _ after =>
      ∃ path policy uiStep begun, AsksAddress sdk p1 p2 wire path policy begun.address.bytes ∧
        firstStep (p1 == p1DisplayAddress) policy = some uiStep ∧
        AddressBegun begun path (p1 == p1DisplayAddress) uiStep ∧
        Holding (some .getAddr) device.outputs (.getAddress begun) after := by
  have begins {device : Device} {ctx : GetAddressContext} {outputs : List Output}
      (holding : Holding (some .getAddr) outputs (.getAddress ctx) device) :
      Goes Device.outputs (beginGetAddress sdk firstStep p1 p2 wire false) device fun _ after =>
        ∃ path policy uiStep begun, AsksAddress sdk p1 p2 wire path policy begun.address.bytes ∧
          firstStep (p1 == p1DisplayAddress) policy = some uiStep ∧
          AddressBegun begun path (p1 == p1DisplayAddress) uiStep ∧
          Holding (some .getAddr) outputs (.getAddress begun) after := by
    apply goes_bind_onGetAddress holding (EStateM.run_modify _ _)
    intro _ holding
    apply goes_bind_validate
    intro known
    apply goes_bind_validate
    intro zero
    apply goes_bind_onGetAddress holding (EStateM.run_modify _ _)
    intro _ holding
    apply goes_bind_onGetAddress holding (EStateM.run_get _)
    intro _ holding
    apply (alike_bip44ParseFromWire _ _).goes_bind ()
    rintro ⟨path, parsedSize⟩ parsed
    apply goes_bind_onGetAddress holding (EStateM.run_modify _ _)
    intro _ holding
    apply goes_bind_validate
    intro size
    cases beq_iff_eq.mp size
    apply (alike_policyForPath _ path).goes_bind ()
    intro policy classified
    apply goes_bind_validate
    intro allowed
    apply (alike_deriveAddress sdk path addressBufferSize).goes_bind ()
    rintro ⟨sha3Context, raw⟩ derived
    apply goes_bind_onGetAddress holding (EStateM.run_get _)
    intro _ holding
    apply goes_bind_inside
    intro stored kept
    apply goes_bind_onGetAddress holding (EStateM.run_modify _ _)
    intro _ holding
    have length := deriveAddress_eq_ok derived
    obtain ⟨bytes, used⟩ := ByteField.bytes_store kept (by rw [length]; decide) (by decide)
    apply takeFirstStep_goes
    intro uiStep starts
    apply goes_of_ok (setAddressStep_run holding.state uiStep)
    rw [Bool.or_eq_true, beq_iff_eq, beq_iff_eq] at known
    refine ⟨path, policy, uiStep, _, ?_, starts, ⟨⟨rfl, used.trans length⟩, rfl, rfl, rfl⟩,
      holding.ins, holding.outputs, rfl⟩
    refine ⟨known, beq_iff_eq.mp zero, wire_of_parse parsed, classified, bne_iff_ne.mp allowed,
      sha3Context, ?_⟩
    dsimp only
    rw [bytes]
    exact derived
  cases isOnInit with
  | false => exact begins ⟨ins, rfl, context rfl⟩
  | true =>
    apply goes_bind_ok (EStateM.run_modify _ _) rfl
    exact begins ⟨ins, rfl, rfl⟩

/-- The context of a new transaction under a path, before the user has been asked. -/
structure TxBegun (ctx : SignTxContext) (path : Bip44Path) (uiStep : SignUiStep) : Prop
    extends Starting ctx where
  path : ctx.path = path
  uiStep : ctx.uiStep = uiStep

theorem beginSignTx_goes (holding : Holding ins outputs (.signTx .zero) device) (p2 : UInt8)
    (wire : List UInt8) :
    Goes Device.outputs (beginSignTx p2 wire) device fun _ after =>
      ∃ path policy uiStep begun, RequestsStart p2 wire path policy ∧
        initUiStep policy = some uiStep ∧ TxBegun begun path uiStep ∧
        Holding ins outputs (.signTx begun) after := by
  apply goes_bind_assertStage holding.state
  intro _
  apply goes_bind_validate
  intro zero
  apply goes_bind_onSignTx holding (EStateM.run_modify _ _)
  intro _ holding
  apply goes_bind_onSignTx holding (EStateM.run_get _)
  intro _ holding
  apply (alike_bip44ParseFromWire _ _).goes_bind ()
  rintro ⟨path, parsedSize⟩ parsed
  apply goes_bind_onSignTx holding (EStateM.run_modify _ _)
  intro _ holding
  apply goes_bind_validate
  intro size
  cases beq_iff_eq.mp size
  apply (alike_policyForPath _ path).goes_bind ()
  intro policy classified
  apply goes_bind_validate
  intro allowed
  apply takeFirstStep_goes
  intro uiStep starts
  apply goes_of_ok (setUiStep_run holding.state uiStep)
  exact ⟨path, policy, uiStep, _,
    ⟨beq_iff_eq.mp zero, parsed, classified, bne_iff_ne.mp allowed⟩, starts,
    ⟨⟨rfl, rfl⟩, rfl, rfl⟩, holding.ins, holding.outputs, rfl⟩

/-- A transaction that has started cannot be started again. -/
theorem beginSignTx_refuses {ctx : SignTxContext} (holding : Holding ins outputs (.signTx ctx) device)
    (started : ctx.stage ≠ .none) (p2 : UInt8) (wire : List UInt8) {good : Unit → Device → Prop} :
    Goes Device.outputs (beginSignTx p2 wire) device good :=
  assertStage_goes holding.state started

/-- What a chunk leaves behind when it is taken up. -/
structure TookChunk (platform : Platform) (path : Bip44Path) (chunks : List Chunk) (outputs : List Output)
    (after : Device) : Prop extends Streaming platform path chunks after where
  ioState : after.ioState = .expectIo
  outputs : ∃ stage, (stage = .collect ∧ (fedChunks platform chunks).status = .ok .processing ∨
      stage = .finalize ∧ (fedChunks platform chunks).status = .ok .finished) ∧
    after.outputs = outputs ++ [.response success (.stage stage)]

theorem reportChunk_goes {platform : Platform} {ctx : SignTxContext} {path : Bip44Path} {chunks : List Chunk}
    (holding : Holding (some .signTx) outputs (.signTx ctx) device) (same : ctx.path = path)
    (stream : ctx.stream = (fedChunks platform chunks).stream)
    (stands : ctx.stage = .collect ∧ (fedChunks platform chunks).status = .ok .processing ∨
      ctx.stage = .finalize ∧ (fedChunks platform chunks).status = .ok .finished) :
    Goes Device.outputs (do ioSendBuf success (.stage (← getSignTx).stage)) device fun _ =>
      TookChunk platform path chunks outputs := by
  apply goes_bind_ok (getSignTx_run holding.state) rfl
  have fits : (Payload.stage ctx.stage).bytes.length + 2 < ioApduBufferSize := by
    show 1 + 2 < ioApduBufferSize
    decide
  apply goes_of_ok (ioSendBuf_run fits success device)
  refine ⟨⟨holding.ins, ctx, holding.state, same, stream, stands⟩, rfl, ctx.stage, stands, ?_⟩
  rw [← holding.outputs]

/-- A chunk goes to the stream, or it is refused without a change to the outputs. -/
theorem collectChunk_goes {platform : Platform} {path : Bip44Path} {chunks : List Chunk}
    (streaming : Streaming platform path chunks device) (p2 : UInt8) {wire : List UInt8}
    (small : wire.length < 2 ^ 32) :
    Goes Device.outputs (collectChunk platform.store p2 wire) device fun _ after =>
      p2 = 0 ∧ (fedChunks platform chunks).status = .ok .processing ∧ ∃ chunk : Chunk, chunk.bytes = wire ∧
        TookChunk platform path (chunks ++ [chunk]) device.outputs after := by
  obtain ⟨ctx, context, same, stream, stands⟩ := streaming.context
  apply goes_bind_assertStage context
  intro stage
  apply goes_bind_validate
  intro zero
  apply goes_bind_validate
  intro sent
  have asks : (fedChunks platform chunks).status = .ok .processing := by
    rcases stands with ⟨_, asks⟩ | ⟨ended, _⟩
    · exact asks
    · rw [stage] at ended
      cases ended
  have nonempty : wire ≠ [] := List.ne_nil_of_length_pos (of_decide_eq_true sent)
  cases run : (txStreamProcess platform.store wire wire.length 0).run ctx.stream with
  | error exc next =>
    have stopped : (onStream (txStreamProcess platform.store wire wire.length 0)).run ctx =
        .error exc { ctx with stream := next } := by
      simp only [EStateM.run, onStream] at run ⊢
      rw [run]
    exact goes_of_error (run_bind_error (onSignTx_error context stopped) _) rfl
  | ok status next =>
    have processed : (onStream (txStreamProcess platform.store wire wire.length 0)).run ctx =
        .ok status { ctx with stream := next } := by
      simp only [EStateM.run, onStream] at run ⊢
      rw [run]
    rw [stream] at run
    obtain ⟨streamed, answered⟩ := @fedChunks_snoc platform chunks ⟨wire, nonempty, small⟩ _ _ asks run
    have holding : Holding (some .signTx) device.outputs (.signTx ctx) device :=
      ⟨streaming.ins, rfl, context⟩
    apply goes_bind_onSignTx holding processed
    intro _ holding
    cases status with
    | processing =>
      apply Goes.mono (reportChunk_goes holding same streamed.symm (.inl ⟨stage, answered⟩))
      intro _ _ took
      exact ⟨beq_iff_eq.mp zero, asks, ⟨wire, nonempty, small⟩, rfl, took⟩
    | finished =>
      apply goes_bind_onSignTx holding (EStateM.run_modify _ _)
      intro _ holding
      apply Goes.mono (reportChunk_goes holding same streamed.symm (.inr ⟨rfl, answered⟩))
      intro _ _ took
      exact ⟨beq_iff_eq.mp zero, asks, ⟨wire, nonempty, small⟩, rfl, took⟩
    | fault => exact goes_throw _

/-- The context of a review of the transaction that came in: it has been signed. -/
structure TxSigned (platform : Platform) (path : Bip44Path) (chunks : List Chunk) (ctx : SignTxContext) :
    Prop where
  finished : (fedChunks platform chunks).status = .ok .finished
  signs : ∃ signed, Signs platform path chunks (absorbedBytes platform chunks) signed ∧
    signed.tx = ctx.tx ∧ signed.signature = ctx.signature

/-- The checks leave a context that is ready for the review. The transaction in it is the one that
came in if the stream is still what the chunks have left. -/
theorem finalStep_goes {platform : Platform} {ctx : SignTxContext}
    (holding : Holding (some .signTx) outputs (.signTx ctx) device) (p2 : UInt8) (wire : List UInt8) :
    Goes Device.outputs
      (do takeFirstStep (finalUiStep (← finalChecks platform.sdk p2 wire)) setUiStep) device
      fun _ after => p2 = 0 ∧ wire = [] ∧ ctx.stage = .finalize ∧
        ∃ signed, signed.stage = .finalize ∧ signed.uiStep = .txRecipient ∧
          (∀ path chunks, Streaming platform path chunks device → TxSigned platform path chunks signed) ∧
          Holding (some .signTx) outputs (.signTx signed) after := by
  apply Goes.bind
  apply goes_of_keeps (keeps_finalChecks platform.sdk p2 wire)
  intro policy checked passed
  obtain ⟨rfl, stage, rfl, rfl, signed, run, rfl⟩ := finalChecks_signs holding.state passed
  have kept : signed.stage = .finalize := by
    obtain ⟨_, _, _, _, rfl⟩ := txGetSignature_eq_ok run
    exact stage
  refine ⟨rfl, ?_⟩
  apply goes_of_ok (setUiStep_run rfl .txRecipient)
  refine ⟨rfl, rfl, stage, { signed with responseReady := signReadyTag, uiStep := .txRecipient }, kept,
    rfl, ?_, holding.ins, holding.outputs, rfl⟩
  intro path chunks streaming
  have goes := finalChecks_goes platform streaming 0 []
  unfold Goes at goes
  rw [passed] at goes
  obtain ⟨_, _, _, finished, other, signs, _, _, same⟩ := goes
  have contexts := InstructionState.signTx.inj (congrArg Device.instructionState same)
  refine ⟨finished, other, signs, ?_, ?_⟩
  · exact (congrArg SignTxContext.tx contexts).symm
  · exact (congrArg SignTxContext.signature contexts).symm

theorem goes_bind_formattedAddress {state : InstructionState} (holding : Holding ins outputs state device)
    (address : List UInt8) (addrLen size : Nat) {α : Type} {next : Sha3Context × List Char → DeviceCode α}
    {good : α → Device → Prop}
    (rest : ∀ result after, Holding ins outputs state after →
      Goes Device.outputs (next result) after good) :
    Goes Device.outputs (formattedAddress sdk address addrLen size >>= next) device good := by
  unfold formattedAddress
  simp only [bind_assoc]
  apply goes_bind_ok (EStateM.run_get _) rfl
  apply goes_bind_ok (EStateM.run_modify _ _) rfl
  apply goes_bind_formatted
  intro sha3Context text _ _ _
  exact rest (sha3Context, text) _ ⟨holding.ins, holding.outputs, holding.state⟩

/-- Of a transaction only the hash context has been used. -/
def Hashed (ins : Option Ins) (outputs : List Output) (ctx : SignTxContext) (device : Device) : Prop :=
  ∃ sha3Context, Holding ins outputs (.signTx (ctx.setSha3Context sha3Context)) device

variable {ctx : SignTxContext}

theorem Hashed.outputs_eq (hashed : Hashed ins outputs ctx device) : device.outputs = outputs := by
  obtain ⟨_, holding⟩ := hashed
  exact holding.outputs

theorem addressField_goes {size : Nat} (hashed : Hashed ins outputs ctx device) (field : ByteField size) :
    Goes Device.outputs (Nbgl.addressField sdk field) device fun _ => Hashed ins outputs ctx := by
  obtain ⟨_, holding⟩ := hashed
  apply goes_bind_formattedAddress holding
  rintro ⟨sha3Context, text⟩ after holding
  apply goes_bind_onSignTx holding (EStateM.run_modify _ _)
  intro _ holding
  exact goes_of_ok rfl ⟨sha3Context, holding⟩

theorem recipientField_goes (hashed : Hashed ins outputs ctx device) :
    Goes Device.outputs (Nbgl.recipientField sdk) device fun _ => Hashed ins outputs ctx := by
  have used := hashed
  obtain ⟨sha3Context, holding⟩ := hashed
  apply goes_bind_ok (getSignTx_run holding.state) rfl
  apply goes_bind_assert
  intro _
  split_ifs
  · exact addressField_goes used _
  · exact goes_of_ok rfl used

theorem senderField_goes (hashed : Hashed ins outputs ctx device) :
    Goes Device.outputs (Nbgl.senderField sdk) device fun _ => Hashed ins outputs ctx := by
  have used := hashed
  obtain ⟨sha3Context, holding⟩ := hashed
  apply goes_bind_ok (getSignTx_run holding.state) rfl
  apply goes_bind_assert
  intro _
  apply goes_bind_assert
  intro _
  exact addressField_goes used _

theorem amountField_goes (hashed : Hashed ins outputs ctx device) :
    Goes Device.outputs Nbgl.amountField device fun _ => Hashed ins outputs ctx := by
  have used := hashed
  obtain ⟨sha3Context, holding⟩ := hashed
  apply goes_bind_ok (getSignTx_run holding.state) rfl
  apply goes_bind_assert
  intro _
  apply goes_bind_formatted
  intro _ _ _ _ _
  exact goes_of_ok rfl used

theorem feeField_goes (hashed : Hashed ins outputs ctx device) :
    Goes Device.outputs Nbgl.feeField device fun _ => Hashed ins outputs ctx := by
  have used := hashed
  obtain ⟨sha3Context, holding⟩ := hashed
  apply goes_bind_ok (getSignTx_run holding.state) rfl
  apply goes_bind_assert
  intro _
  apply goes_bind_assert
  intro _
  apply goes_bind_formatted
  intro _ _ _ _ _
  exact goes_of_ok rfl used

/-- A line whose text is that of the transaction, and the lines after it. -/
theorem goes_bind_field {text : DeviceCode (List Char)} {α : Type} {next : List Char → DeviceCode α}
    {good : α → Device → Prop} (hashed : Hashed ins outputs ctx device)
    (field : Goes Device.outputs text device fun _ => Hashed ins outputs ctx)
    (rest : ∀ shown after, TextOf text ctx.tx shown → Hashed ins outputs ctx after →
      Goes Device.outputs (next shown) after good) :
    Goes Device.outputs (text >>= next) device good := by
  have before := hashed
  obtain ⟨sha3Context, holding⟩ := hashed
  unfold Goes at field
  cases run : text.run device with
  | ok shown after =>
    rw [run] at field
    have kept : after.outputs = device.outputs := field.outputs_eq.trans before.outputs_eq.symm
    exact goes_bind_ok run kept
      (rest shown after ⟨device, _, after, holding.state, rfl, run⟩ field)
  | error exc after =>
    rw [run] at field
    exact goes_of_error (run_bind_error run next) field

theorem goes_bind_addPair {pairs : List Nbgl.TagValue} {header text : List Char} {α : Type}
    {next : List Nbgl.TagValue → DeviceCode α} {good : α → Device → Prop}
    (rest : Goes Device.outputs (next (pairs ++ [⟨some header, text⟩])) device good) :
    Goes Device.outputs (Nbgl.addPair pairs header text >>= next) device good := by
  rw [Nbgl.addPair, bind_assoc]
  apply goes_bind_assert
  intro _
  exact rest

/-- The lines of the review of a transaction. -/
def ReviewLines (sdk : Sdk) (tx : Transaction) (lines : List Nbgl.TagValue) : Prop :=
  ∃ recipient sender amount fee,
    TextOf (Nbgl.recipientField sdk) tx recipient ∧ TextOf (Nbgl.senderField sdk) tx sender ∧
      TextOf Nbgl.amountField tx amount ∧ TextOf Nbgl.feeField tx fee ∧
      lines = [⟨some "Send To".toList, recipient⟩, ⟨some "Send From".toList, sender⟩,
        ⟨some "Amount (FTM)".toList, amount⟩, ⟨some "Max Fee (FTM)".toList, fee⟩]

theorem reviewPairs_goes (hashed : Hashed ins outputs ctx device) :
    Goes Device.outputs (Nbgl.reviewPairs sdk) device fun lines after =>
      ReviewLines sdk ctx.tx lines ∧ Hashed ins outputs ctx after := by
  apply goes_bind_field hashed (recipientField_goes hashed)
  intro recipient _ sendsTo hashed
  apply goes_bind_addPair
  apply goes_bind_field hashed (senderField_goes hashed)
  intro sender _ sendsFrom hashed
  apply goes_bind_addPair
  apply goes_bind_field hashed (amountField_goes hashed)
  intro amount _ shows hashed
  apply goes_bind_addPair
  apply goes_bind_field hashed (feeField_goes hashed)
  intro fee _ costs hashed
  apply goes_bind_assert
  intro _
  exact goes_of_ok rfl ⟨⟨recipient, sender, amount, fee, sendsTo, sendsFrom, shows, costs, rfl⟩, hashed⟩

end Shared

end FantomLedger
