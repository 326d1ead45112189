import FantomLedger.Lockstep

/-! What two devices side by side do in the handlers of the instructions and in the steps of their
user interface. -/

namespace FantomLedger

open Library.Program

variable {shared : Prop} {base base' : List Output} {state : InstructionState} {s t : Device}

section GetPublicKey

variable {α β : Type} {body : EStateM Exc GetPubKeyContext α} {next later : α → DeviceCode β}
  {good : β → Device → Device → Prop}

theorem onGetPubKey_eq (body : EStateM Exc GetPubKeyContext α) :
    onGetPubKey body = onContext Device.getPubKey? .getPubKey body := by
  funext device
  unfold onGetPubKey onContext
  cases device.getPubKey? with
  | none => rfl
  | some ctx =>
    dsimp only
    cases body.run ctx <;> rfl

theorem inStep_bind_someGetPubKey (beside : Beside shared base base' state s t)
    (rest : ∀ ctx result changed s' t', body.run ctx = .ok result changed →
      Beside shared base base' (.getPubKey changed) s' t' →
      InStep (Level shared base base') (next result) (later result) s' t' good) :
    InStep (Level shared base base') (onGetPubKey body >>= next) (onGetPubKey body >>= later) s t
      good := by
  have same : t.getPubKey? = s.getPubKey? := by
    rw [Device.getPubKey?, Device.getPubKey?, beside.context, beside.context']
  rw [onGetPubKey_eq]
  apply inStep_bind_onContext beside same
  intro ctx result changed s' t' _
  exact rest ctx result changed s' t'

theorem inStep_bind_onGetPubKey {ctx : GetPubKeyContext}
    (beside : Beside shared base base' (.getPubKey ctx) s t)
    (rest : ∀ result changed s' t', body.run ctx = .ok result changed →
      Beside shared base base' (.getPubKey changed) s' t' →
      InStep (Level shared base base') (next result) (later result) s' t' good) :
    InStep (Level shared base base') (onGetPubKey body >>= next) (onGetPubKey body >>= later) s t
      good := by
  rw [onGetPubKey_eq]
  apply inStep_bind_onContext_of_eq beside _ rest
  intro device context
  rw [Device.getPubKey?, context]

theorem runGetPublicKeyUIStep_inStep (beside : Beside shared base base' state s t) :
    InStep (Level shared base base') runGetPublicKeyUIStep runGetPublicKeyUIStep s t
      fun _ => Twins shared base base' := by
  apply inStep_bind_someGetPubKey beside
  intro ctx _ _ s t run beside
  cases run
  have stops : InStep (Level shared base base') (assertThat false) (assertThat false) s t
      fun _ => Twins shared base base' := inStep_of_error rfl rfl beside.level
  have notes (uiStep : UiStep) (shown : Device) (same : shown.instructionState = .getPubKey ctx) :
      (setPubKeyStep uiStep).run shown =
        .ok () { shown with instructionState := .getPubKey { ctx with uiStep := uiStep } } :=
    setPubKeyStep_run same uiStep
  cases step : ctx.uiStep with
  | none => exact stops
  | address => exact stops
  | invalid => exact stops
  | warning => exact inStep_present beside warningScreen _ (notes .displayPath) trivial
  | displayPath =>
    apply (alike_formatted _ _).inStep_bind s beside.level
    rintro ⟨_, text⟩ _
    exact inStep_present beside (.text _ text) _ (notes .confirm) trivial
  | confirm => exact inStep_present beside exportQuestion _ (notes .respond) trivial
  | respond =>
    apply inStep_bind_assert beside.level
    intro _
    exact inStep_answer beside (pubKey_fits ctx.pubKey) success (notes .invalid)

theorem handleGetPublicKey_inStep (beside : Beside shared base base' state s t) (sdk : Sdk)
    (p1 p2 : UInt8) (wire : List UInt8) (isOnInit : Bool) :
    InStep (Level shared base base') (handleGetPublicKey sdk p1 p2 wire isOnInit)
      (handleGetPublicKey sdk p1 p2 wire isOnInit) s t fun _ => Twins shared base base' := by
  have handles {state : InstructionState} {s t : Device}
      (beside : Beside shared base base' state s t) :
      InStep (Level shared base base') (handleGetPublicKey sdk p1 p2 wire false)
        (handleGetPublicKey sdk p1 p2 wire false) s t fun _ => Twins shared base base' := by
    apply inStep_bind_someGetPubKey beside
    intro _ _ ctx s t _ beside
    apply inStep_bind_validate beside.level
    intro _
    apply inStep_bind_validate beside.level
    intro _
    apply inStep_bind_onGetPubKey beside
    intro _ _ s t _ beside
    apply (alike_bip44ParseFromWire _ _).inStep_bind () beside.level
    rintro ⟨path, parsedSize⟩ _
    apply inStep_bind_onGetPubKey beside
    intro _ _ s t _ beside
    apply inStep_bind_validate beside.level
    intro _
    apply (alike_policyForGetPublicKey path).inStep_bind () beside.level
    intro policy _
    apply inStep_bind_validate beside.level
    intro _
    apply (alike_deriveExtendedPublicKey sdk path).inStep_bind () beside.level
    intro key _
    apply inStep_bind_onGetPubKey beside
    intro _ _ s t _ beside
    cases pubKeyUiStep policy with
    | none => exact inStep_of_error rfl rfl beside.level
    | some uiStep =>
      apply inStep_bind_onGetPubKey beside
      intro _ _ s t _ beside
      exact runGetPublicKeyUIStep_inStep beside
  cases isOnInit with
  | false => exact handles beside
  | true =>
    have cleared := beside.withState (.getPubKey .zero)
    exact inStep_bind_ok (EStateM.run_modify _ _) (EStateM.run_modify _ _) (handles cleared)

end GetPublicKey

section GetAddress

variable {α β : Type} {body : EStateM Exc GetAddressContext α} {next later : α → DeviceCode β}
  {good : β → Device → Device → Prop}

theorem onGetAddress_eq (body : EStateM Exc GetAddressContext α) :
    onGetAddress body = onContext Device.getAddress? .getAddress body := by
  funext device
  unfold onGetAddress onContext
  cases device.getAddress? with
  | none => rfl
  | some ctx =>
    dsimp only
    cases body.run ctx <;> rfl

theorem inStep_bind_someGetAddress (beside : Beside shared base base' state s t)
    (rest : ∀ ctx result changed s' t', s.getAddress? = some ctx → body.run ctx = .ok result changed →
      Beside shared base base' (.getAddress changed) s' t' →
      InStep (Level shared base base') (next result) (later result) s' t' good) :
    InStep (Level shared base base') (onGetAddress body >>= next) (onGetAddress body >>= later) s t
      good := by
  have same : t.getAddress? = s.getAddress? := by
    rw [Device.getAddress?, Device.getAddress?, beside.context, beside.context']
  rw [onGetAddress_eq]
  exact inStep_bind_onContext beside same rest

theorem inStep_bind_onGetAddress {ctx : GetAddressContext}
    (beside : Beside shared base base' (.getAddress ctx) s t)
    (rest : ∀ result changed s' t', body.run ctx = .ok result changed →
      Beside shared base base' (.getAddress changed) s' t' →
      InStep (Level shared base base') (next result) (later result) s' t' good) :
    InStep (Level shared base base') (onGetAddress body >>= next) (onGetAddress body >>= later) s t
      good := by
  rw [onGetAddress_eq]
  apply inStep_bind_onContext_of_eq beside _ rest
  intro device context
  rw [Device.getAddress?, context]

theorem wholeLength_of_getAddress {ctx : GetAddressContext} (whole : s.instructionState.Whole)
    (found : s.getAddress? = some ctx) : WholeLength ctx.address.length := by
  unfold Device.getAddress? at found
  cases context : s.instructionState with
  | cleared =>
    rw [context] at found
    cases found
    exact .inl rfl
  | getPubKey other =>
    rw [context] at found
    cases found
  | getAddress other =>
    rw [context] at found whole
    cases found
    exact whole
  | signTx other =>
    rw [context] at found
    cases found

theorem runGetAddressUIStep_inStep (beside : Beside shared base base' state s t) (whole : state.Whole)
    (sdk : Sdk) :
    InStep (Level shared base base') (runGetAddressUIStep sdk) (runGetAddressUIStep sdk) s t
      fun _ => Twins shared base base' := by
  apply inStep_bind_someGetAddress beside
  intro ctx _ _ s' t' found run beside'
  cases run
  have whole : WholeLength ctx.address.length :=
    wholeLength_of_getAddress (by rw [beside.context]; exact whole) found
  have stops : InStep (Level shared base base') (assertThat false) (assertThat false) s' t'
      fun _ => Twins shared base base' := inStep_of_error rfl rfl beside'.level
  have notes (uiStep : UiStep) (shown : Device) (same : shown.instructionState = .getAddress ctx) :
      (setAddressStep uiStep).run shown =
        .ok () { shown with instructionState := .getAddress { ctx with uiStep := uiStep } } :=
    setAddressStep_run same uiStep
  cases step : ctx.uiStep with
  | none => exact stops
  | invalid => exact stops
  | warning => exact inStep_present beside' warningScreen _ (notes .displayPath) whole
  | displayPath =>
    apply (alike_formatted _ _).inStep_bind s beside'.level
    rintro ⟨_, text⟩ _
    exact inStep_present beside' (.text _ text) _ (notes (afterPath ctx.isShowAddress)) whole
  | address =>
    apply inStep_bind_assert beside'.level
    intro _
    apply inStep_bind_formattedAddress beside' sdk _ (.inr whole)
    rintro ⟨sha3Context, text⟩ s t beside
    apply inStep_bind_onGetAddress beside
    intro _ _ s t run beside
    cases run
    exact inStep_present beside (.text _ text) _ (fun _ same => setAddressStep_run same .respond) whole
  | confirm => exact inStep_present beside' addressQuestion _ (notes .respond) whole
  | respond =>
    apply inStep_bind_assert beside'.level
    intro _
    apply inStep_bind_assert beside'.level
    intro _
    exact inStep_answer beside' (address_fits ctx.address) success (notes .invalid)

theorem handleGetAddress_inStep (beside : Beside shared base base' state s t) (sdk : Sdk)
    (p1 p2 : UInt8) (wire : List UInt8) (isOnInit : Bool) :
    InStep (Level shared base base') (handleGetAddress sdk p1 p2 wire isOnInit)
      (handleGetAddress sdk p1 p2 wire isOnInit) s t fun _ => Twins shared base base' := by
  have handles {state : InstructionState} {s t : Device}
      (beside : Beside shared base base' state s t) :
      InStep (Level shared base base') (handleGetAddress sdk p1 p2 wire false)
        (handleGetAddress sdk p1 p2 wire false) s t fun _ => Twins shared base base' := by
    apply inStep_bind_someGetAddress beside
    intro _ _ ctx s t _ _ beside
    apply inStep_bind_validate beside.level
    intro _
    apply inStep_bind_validate beside.level
    intro _
    apply inStep_bind_onGetAddress beside
    intro _ _ s t _ beside
    apply inStep_bind_onGetAddress beside
    intro _ _ s t _ beside
    apply (alike_bip44ParseFromWire _ _).inStep_bind () beside.level
    rintro ⟨path, parsedSize⟩ _
    apply inStep_bind_onGetAddress beside
    intro _ _ s t _ beside
    apply inStep_bind_validate beside.level
    intro _
    apply (alike_policyForPath _ path).inStep_bind () beside.level
    intro policy _
    apply inStep_bind_validate beside.level
    intro _
    apply (alike_deriveAddress sdk path addressBufferSize).inStep_bind () beside.level
    rintro ⟨sha3Context, raw⟩ derived
    apply inStep_bind_onGetAddress beside
    intro _ _ s t _ beside
    apply (alike_inside _).inStep_bind () beside.level
    intro stored kept
    apply inStep_bind_onGetAddress beside
    intro _ _ s t run beside
    cases run
    have length := deriveAddress_eq_ok derived
    obtain ⟨_, used⟩ := ByteField.bytes_store (inside_eq_ok.mp kept).1 (by rw [length]; decide)
      (by decide)
    cases addressUiStep (p1 == p1DisplayAddress) policy with
    | none => exact inStep_of_error rfl rfl beside.level
    | some uiStep =>
      apply inStep_bind_onGetAddress beside
      intro _ _ s t run beside
      cases run
      have whole : WholeLength (stored.setLength raw.length).length := .inr (used.trans length)
      exact runGetAddressUIStep_inStep beside whole sdk
  cases isOnInit with
  | false => exact handles beside
  | true =>
    have cleared := beside.withState (.getAddress .zero)
    exact inStep_bind_ok (EStateM.run_modify _ _) (EStateM.run_modify _ _) (handles cleared)

end GetAddress

section SignTransaction

section Context

variable {α β : Type} {body : SignCode α} {next later : α → DeviceCode β}
  {good : β → Device → Device → Prop}

theorem onSignTx_eq (body : SignCode α) : onSignTx body = onContext Device.signTx? .signTx body := by
  funext device
  unfold onSignTx onContext
  cases device.signTx? with
  | none => rfl
  | some ctx =>
    dsimp only
    cases body.run ctx <;> rfl

theorem inStep_bind_someSignTx (beside : Beside shared base base' state s t)
    (rest : ∀ ctx result changed s' t', s.signTx? = some ctx → body.run ctx = .ok result changed →
      Beside shared base base' (.signTx changed) s' t' →
      InStep (Level shared base base') (next result) (later result) s' t' good) :
    InStep (Level shared base base') (onSignTx body >>= next) (onSignTx body >>= later) s t good := by
  have same : t.signTx? = s.signTx? := by
    rw [Device.signTx?, Device.signTx?, beside.context, beside.context']
  rw [onSignTx_eq]
  exact inStep_bind_onContext beside same rest

theorem inStep_bind_onSignTx {ctx : SignTxContext}
    (beside : Beside shared base base' (.signTx ctx) s t)
    (rest : ∀ result changed s' t', body.run ctx = .ok result changed →
      Beside shared base base' (.signTx changed) s' t' →
      InStep (Level shared base base') (next result) (later result) s' t' good) :
    InStep (Level shared base base') (onSignTx body >>= next) (onSignTx body >>= later) s t good := by
  rw [onSignTx_eq]
  apply inStep_bind_onContext_of_eq beside _ rest
  intro device context
  rw [Device.signTx?, context]

theorem inStep_bind_getSignTx {ctx : SignTxContext} {next later : SignTxContext → DeviceCode β}
    (beside : Beside shared base base' (.signTx ctx) s t)
    (rest : InStep (Level shared base base') (next ctx) (later ctx) s t good) :
    InStep (Level shared base base') (getSignTx >>= next) (getSignTx >>= later) s t good :=
  inStep_bind_ok (getSignTx_run beside.context) (getSignTx_run beside.context') rest

theorem inStep_bind_someStage {stage : TxStage} {next later : Unit → DeviceCode β}
    (beside : Beside shared base base' state s t)
    (rest : ∀ ctx s' t', s.signTx? = some ctx → ctx.stage = stage →
      Beside shared base base' (.signTx ctx) s' t' →
      InStep (Level shared base base') (next ()) (later ()) s' t' good) :
    InStep (Level shared base base') (assertStage stage >>= next) (assertStage stage >>= later) s t
      good := by
  rw [assertStage, bind_assoc, bind_assoc]
  apply inStep_bind_someSignTx beside
  intro ctx _ _ s' t' found run beside
  cases run
  apply inStep_bind_validate beside.level
  intro same
  exact rest ctx s' t' found (beq_iff_eq.mp same) beside

theorem signTx?_eq_some {ctx : SignTxContext} (found : s.signTx? = some ctx) :
    s.instructionState = .cleared ∧ ctx = .zero ∨ s.instructionState = .signTx ctx := by
  unfold Device.signTx? at found
  cases context : s.instructionState with
  | cleared =>
    rw [context] at found
    cases found
    exact .inl ⟨rfl, rfl⟩
  | signTx other =>
    rw [context] at found
    cases found
    exact .inr rfl
  | _ =>
    rw [context] at found
    cases found

theorem wholeReview_of_signTx {ctx : SignTxContext} (whole : s.instructionState.Whole)
    (found : s.signTx? = some ctx) : WholeReview ctx := by
  rcases signTx?_eq_some found with ⟨_, rfl⟩ | context
  · exact wholeReview_of_step nofun nofun
  · rw [context] at whole
    exact whole

end Context

theorem runSignTransactionInitUIStep_inStep (beside : Beside shared base base' state s t) :
    InStep (Level shared base base') runSignTransactionInitUIStep runSignTransactionInitUIStep s t
      fun _ => Twins shared base base' := by
  apply inStep_bind_someStage beside
  intro ctx s t _ _ beside
  apply inStep_bind_getSignTx beside
  have stops : InStep (Level shared base base') (assertThat false) (assertThat false) s t
      fun _ => Twins shared base base' := inStep_of_error rfl rfl beside.level
  have notes (uiStep : SignUiStep) (shown : Device) (same : shown.instructionState = .signTx ctx) :
      (setUiStep uiStep).run shown =
        .ok () { shown with instructionState := .signTx { ctx with uiStep := uiStep } } :=
    setUiStep_run same uiStep
  cases step : ctx.uiStep with
  | initWarning =>
    exact inStep_present beside warningScreen _ (notes .initConfirm) (wholeReview_of_step nofun nofun)
  | initConfirm =>
    exact inStep_present beside startQuestion _ (notes .initRespond) (wholeReview_of_step nofun nofun)
  | initRespond =>
    have collects (busy : Device) (same : busy.instructionState = .signTx ctx) :
        (do onSignTx (modify fun ctx => { ctx with stage := .collect }); setUiStep .initInvalid :
          DeviceCode Unit).run busy = .ok () { busy with
            instructionState := .signTx { ctx with stage := .collect, uiStep := .initInvalid } } := by
      rw [run_bind_ok (onSignTx_modify_run same _)]
      rfl
    exact inStep_sendBusy beside (by decide) id collects (wholeReview_of_step nofun nofun)
  | _ => exact stops

theorem handleSignTxInit_inStep (beside : Beside shared base base' state s t) (p2 : UInt8)
    (wire : List UInt8) :
    InStep (Level shared base base') (handleSignTxInit p2 wire) (handleSignTxInit p2 wire) s t
      fun _ => Twins shared base base' := by
  apply inStep_bind_someStage beside
  intro _ s t _ _ beside
  apply inStep_bind_validate beside.level
  intro _
  apply inStep_bind_onSignTx beside
  intro _ _ s t _ beside
  apply inStep_bind_getSignTx beside
  apply (alike_bip44ParseFromWire _ _).inStep_bind () beside.level
  rintro ⟨path, parsedSize⟩ _
  apply inStep_bind_onSignTx beside
  intro _ _ s t _ beside
  apply inStep_bind_validate beside.level
  intro _
  apply (alike_policyForPath _ path).inStep_bind () beside.level
  intro policy _
  apply inStep_bind_validate beside.level
  intro _
  cases initUiStep policy with
  | none => exact inStep_of_error rfl rfl beside.level
  | some uiStep =>
    apply inStep_bind_onSignTx beside
    intro _ _ s t _ beside
    exact runSignTransactionInitUIStep_inStep beside

theorem onStream_eq_ok {α : Type} {body : StreamCode α} {ctx after : SignTxContext} {result : α}
    (run : (onStream body).run ctx = .ok result after) : ∃ stream, after = { ctx with stream := stream } := by
  simp only [EStateM.run, onStream] at run
  cases processed : body ctx.stream with
  | ok value stream =>
    rw [processed] at run
    cases run
    exact ⟨stream, rfl⟩
  | error exc stream =>
    rw [processed] at run
    cases run

theorem handleSignTxCollect_inStep (beside : Beside shared base base' state s t) (whole : state.Whole)
    (store : Store) (p2 : UInt8) (wire : List UInt8) :
    InStep (Level shared base base') (handleSignTxCollect store p2 wire) (handleSignTxCollect store p2 wire) s t
      fun _ => Twins shared base base' := by
  apply inStep_bind_someStage beside
  intro ctx s' t' found stage beside'
  have review : WholeReview ctx := wholeReview_of_signTx (by rw [beside.context]; exact whole) found
  have collecting : ctx.uiStep ≠ .txSender := by
    intro shows
    have finalize := (review.sender shows).1
    rw [stage] at finalize
    cases finalize
  have reports {changed : SignTxContext} {s t : Device}
      (beside : Beside shared base base' (.signTx changed) s t) (same : changed.uiStep = ctx.uiStep) :
      InStep (Level shared base base')
        (do ioSendBuf success (.stage (← getSignTx).stage); uiDisplayBusy)
        (do ioSendBuf success (.stage (← getSignTx).stage); uiDisplayBusy) s t
        fun _ => Twins shared base base' := by
    apply inStep_bind_getSignTx beside
    have fits : (Payload.stage changed.stage).bytes.length + 2 < ioApduBufferSize := by
      show 1 + 2 < ioApduBufferSize
      decide
    apply (sendBusy_inStep beside fits id).mono
    intro _ s t beside
    have whole : (InstructionState.signTx changed).Whole := by
      apply wholeReview_of_step
      · rw [same]
        exact review.recipient
      · rw [same]
        exact collecting
    exact .working whole beside
  apply inStep_bind_validate beside'.level
  intro _
  apply inStep_bind_validate beside'.level
  intro _
  apply inStep_bind_onSignTx beside'
  intro status _ s t run beside
  obtain ⟨stream, rfl⟩ := onStream_eq_ok run
  cases status with
  | processing => exact reports beside rfl
  | finished =>
    apply inStep_bind_onSignTx beside
    intro _ _ s t run beside
    cases run
    exact reports beside rfl
  | fault => exact inStep_of_error rfl rfl beside.level

section Texts

variable {ctx : SignTxContext}

/-- The devices still work on the context, in which only the hash may have changed. -/
def BesideHashing (shared : Prop) (base base' : List Output) (ctx : SignTxContext) (s t : Device) : Prop :=
  ∃ sha3Context, Beside shared base base' (.signTx (ctx.setSha3Context sha3Context)) s t

theorem Beside.hashing (beside : Beside shared base base' (.signTx ctx) s t) :
    BesideHashing shared base base' ctx s t := ⟨ctx.sha3Context, beside⟩

theorem hashedText_inStep (beside : Beside shared base base' (.signTx ctx) s t) (sdk : Sdk)
    (address : List UInt8) {length : UInt8} (whole : shared ∨ WholeLength length) :
    InStep (Level shared base base') (do
        let (sha3Context, addrStr) ← formattedAddress sdk address length.toNat 64
        onSignTx (modify fun ctx => ctx.setSha3Context sha3Context)
        return addrStr) (do
        let (sha3Context, addrStr) ← formattedAddress sdk address length.toNat 64
        onSignTx (modify fun ctx => ctx.setSha3Context sha3Context)
        return addrStr) s t fun _ => BesideHashing shared base base' ctx := by
  apply inStep_bind_formattedAddress beside sdk address whole
  rintro ⟨sha3Context, text⟩ s t beside
  apply inStep_bind_onSignTx beside
  intro _ _ s t run beside
  cases run
  exact inStep_of_ok rfl rfl ⟨sha3Context, beside⟩

theorem recipientText_inStep (beside : Beside shared base base' (.signTx ctx) s t) (sdk : Sdk)
    (whole : shared ∨ WholeLength ctx.tx.recipient.length) :
    InStep (Level shared base base') (recipientText sdk) (recipientText sdk) s t
      fun _ => BesideHashing shared base base' ctx := by
  apply inStep_bind_getSignTx beside
  apply inStep_bind_assert beside.level
  intro _
  split_ifs
  · exact hashedText_inStep beside sdk _ whole
  · exact inStep_of_ok rfl rfl beside.hashing

theorem senderText_inStep (beside : Beside shared base base' (.signTx ctx) s t) (sdk : Sdk)
    (whole : WholeLength ctx.tx.sender.length) :
    InStep (Level shared base base') (senderText sdk) (senderText sdk) s t
      fun _ => BesideHashing shared base base' ctx := by
  apply inStep_bind_getSignTx beside
  apply inStep_bind_assert beside.level
  intro _
  apply inStep_bind_assert beside.level
  intro _
  exact hashedText_inStep beside sdk _ (.inr whole)

theorem amountText_inStep (beside : Beside shared base base' (.signTx ctx) s t) :
    InStep (Level shared base base') amountText amountText s t
      fun _ => BesideHashing shared base base' ctx := by
  apply inStep_bind_getSignTx beside
  apply inStep_bind_assert beside.level
  intro _
  apply (alike_formatted _ _).inStep_bind s beside.level
  intro _ _
  exact inStep_of_ok rfl rfl beside.hashing

theorem feeText_inStep (beside : Beside shared base base' (.signTx ctx) s t) :
    InStep (Level shared base base') feeText feeText s t
      fun _ => BesideHashing shared base base' ctx := by
  apply inStep_bind_getSignTx beside
  apply inStep_bind_assert beside.level
  intro _
  apply inStep_bind_assert beside.level
  intro _
  apply (alike_formatted _ _).inStep_bind s beside.level
  intro _ _
  exact inStep_of_ok rfl rfl beside.hashing

end Texts

/-- The addresses that the review shows from its next step on are whole. -/
structure WholeScreens (shared : Prop) (ctx : SignTxContext) : Prop where
  recipient : ctx.uiStep = .txRecipient → shared ∨ WholeLength ctx.tx.recipient.length
  sender : ctx.uiStep = .txRecipient ∨ ctx.uiStep = .txSender → WholeLength ctx.tx.sender.length

theorem WholeReview.screens {ctx : SignTxContext} (whole : WholeReview ctx) : WholeScreens shared ctx := by
  constructor
  · intro shows
    exact absurd shows whole.recipient
  · rintro (shows | shows)
    · exact absurd shows whole.recipient
    · exact (whole.sender shows).2

theorem runSignTransactionUIStep_inStep (beside : Beside shared base base' state s t) (sdk : Sdk)
    (whole : ∀ ctx, s.signTx? = some ctx → WholeScreens shared ctx) :
    InStep (Level shared base base') (runSignTransactionUIStep sdk) (runSignTransactionUIStep sdk) s t
      fun _ => Twins shared base base' := by
  apply inStep_bind_someStage beside
  intro ctx s t found stage beside
  have screens := whole ctx found
  apply inStep_bind_getSignTx beside
  have stops : InStep (Level shared base base') (assertThat false) (assertThat false) s t
      fun _ => Twins shared base base' := inStep_of_error rfl rfl beside.level
  -- a text of the context, and then the step that comes next
  have shows {text : DeviceCode (List Char)} (header : List Char) {setStep : DeviceCode Unit}
      {next : SignUiStep}
      (yields : InStep (Level shared base base') text text s t
        fun _ => BesideHashing shared base base' ctx)
      (notes : ∀ (shown : Device) (changed : SignTxContext), changed.tx = ctx.tx →
        shown.instructionState = .signTx changed → setStep.run shown =
          .ok () { shown with instructionState := .signTx { changed with uiStep := next } })
      (review : ∀ sha3Context, WholeReview { ctx.setSha3Context sha3Context with uiStep := next }) :
      InStep (Level shared base base')
        (do uiDisplayPaginatedText header (← text) .runSignTransactionUIStep; setStep)
        (do uiDisplayPaginatedText header (← text) .runSignTransactionUIStep; setStep) s t
        fun _ => Twins shared base base' := by
    apply yields.bind
    rintro text s t _ ⟨sha3Context, beside⟩
    have noted (shown : Device) := notes shown (ctx.setSha3Context sha3Context) rfl
    exact inStep_present beside (.text header text) .runSignTransactionUIStep noted (review sha3Context)
  have sets (next : SignUiStep) (shown : Device) (changed : SignTxContext) (_ : changed.tx = ctx.tx)
      (same : shown.instructionState = .signTx changed) : (setUiStep next).run shown =
        .ok () { shown with instructionState := .signTx { changed with uiStep := next } } :=
    setUiStep_run same next
  cases step : ctx.uiStep with
  | txRecipient =>
    apply shows "Send To".toList (recipientText_inStep beside sdk (screens.recipient step))
      (sets .txSender)
    intro _
    exact ⟨nofun, fun _ => ⟨stage, screens.sender (.inl step)⟩⟩
  | txSender =>
    apply shows "Send From".toList (senderText_inStep beside sdk (screens.sender (.inr step)))
      (sets .txAmount)
    intro _
    exact wholeReview_of_step nofun nofun
  | txAmount =>
    apply shows "Amount (FTM)".toList (amountText_inStep beside) (sets .txFee)
    intro _
    exact wholeReview_of_step nofun nofun
  | txFee =>
    have calls (shown : Device) (changed : SignTxContext) (sameTx : changed.tx = ctx.tx)
        (same : shown.instructionState = .signTx changed) :
        (do setUiStep (if (← getSignTx).tx.isContractCall then .txContractCall else .txConfirm) :
          DeviceCode Unit).run shown = .ok () { shown with
            instructionState := .signTx { changed with
              uiStep := if ctx.tx.isContractCall then .txContractCall else .txConfirm } } := by
      rw [run_bind_ok (getSignTx_run same), ← sameTx]
      exact setUiStep_run same _
    apply shows "Max Fee (FTM)".toList (feeText_inStep beside) calls
    intro _
    split_ifs
    · exact wholeReview_of_step nofun nofun
    · exact wholeReview_of_step nofun nofun
  | txContractCall =>
    exact inStep_present beside alertScreen _ (fun shown same => sets .txConfirm shown ctx rfl same)
      (wholeReview_of_step nofun nofun)
  | txConfirm =>
    exact inStep_present beside sendQuestion _ (fun shown same => sets .txRespond shown ctx rfl same)
      (wholeReview_of_step nofun nofun)
  | txRespond =>
    apply inStep_bind_getSignTx beside
    apply inStep_bind_validate beside.level
    intro _
    apply inStep_bind_onSignTx beside
    intro _ changed s t _ beside
    apply inStep_bind_getSignTx beside
    apply inStep_answer beside (signature_fits changed.signature)
    intro answered same
    exact setUiStep_run same .txInvalid
  | _ => exact stops

theorem alike_txGetV {σ τ : Type} (tx : Transaction) :
    Alike (txGetV tx : EStateM Exc σ _) (txGetV tx : EStateM Exc τ _) := by
  apply (alike_validate _ _).bind
  intro _
  apply alike_ite
  · exact alike_pure _
  · exact alike_pure _

/-- The v of the transaction names the network that the application signs for. -/
def NamesNetwork (tx : Transaction) : Prop :=
  match (txGetV tx : EStateM Exc Unit _).run () with
  | .ok chainId _ => chainId = expectedChainId
  | .error _ _ => False

instance (tx : Transaction) : Decidable (NamesNetwork tx) :=
  show Decidable (match (txGetV tx : EStateM Exc Unit _).run () with
    | .ok chainId _ => chainId = expectedChainId
    | .error _ _ => False) from
  match (txGetV tx : EStateM Exc Unit _).run () with
  | .ok chainId _ => inferInstanceAs (Decidable (chainId = expectedChainId))
  | .error _ _ => inferInstanceAs (Decidable False)

theorem handleSignTxFinalize_inStep (beside : Beside shared base base' state s t) (sdk : Sdk)
    (p2 : UInt8) (wire : List UInt8)
    (whole : p2 = 0 → wire = [] → ∀ ctx, s.signTx? = some ctx → ctx.stage = .finalize →
      ctx.path.length < bip32MaxPathLength → NamesNetwork ctx.tx →
        shared ∨ WholeLength ctx.tx.recipient.length) :
    InStep (Level shared base base') (handleSignTxFinalize sdk p2 wire)
      (handleSignTxFinalize sdk p2 wire) s t fun _ => Twins shared base base' := by
  apply inStep_bind_someStage beside
  intro ctx s t found stage beside
  apply inStep_bind_validate beside.level
  intro zero
  apply inStep_bind_validate beside.level
  intro empty
  have recipient := whole (beq_iff_eq.mp zero)
    (List.eq_nil_of_length_eq_zero (beq_iff_eq.mp empty)) ctx found stage
  apply inStep_bind_ok (EStateM.run_modify _ _) (EStateM.run_modify _ _)
  have beside := beside.withIoState .expectUi
  apply inStep_bind_ok (EStateM.run_pure _ _) (EStateM.run_pure _ _)
  apply inStep_bind_ok (EStateM.run_pure _ _) (EStateM.run_pure _ _)
  apply inStep_bind_getSignTx beside
  apply (alike_txGetV ctx.tx).inStep_bind () beside.level
  intro chainId named
  apply inStep_bind_validate beside.level
  intro network
  have names : NamesNetwork ctx.tx := by
    rw [NamesNetwork, named]
    exact beq_iff_eq.mp network
  apply inStep_bind_onSignTx beside
  intro _ changed s t run beside
  rw [run_bind_ok (finalHash_run sdk ctx)] at run
  obtain ⟨_, signed, signs, readied⟩ := run_bind_eq_ok.mp run
  cases readied
  have short : ctx.path.length < bip32MaxPathLength := by
    obtain ⟨_, _, _, _, _, _, derived, _⟩ := txGetSignature_signed signs
    exact length_of_derived derived
  obtain ⟨sha3Context, sender, signature, sized, rfl⟩ := txGetSignature_eq_ok signs
  apply inStep_bind_onSignTx beside
  intro _ _ s t noted beside
  cases noted
  apply runSignTransactionUIStep_inStep beside
  intro reviewed found
  rw [Device.signTx?, beside.context] at found
  cases found
  exact ⟨fun _ => recipient short names, fun _ => .inr sized⟩

theorem handleSignTransaction_inStep (beside : Beside shared base base' state s t) (whole : state.Whole)
    (sdk : Sdk) (store : Store) (p1 p2 : UInt8) (wire : List UInt8) (isOnInit : Bool)
    (recipient : isOnInit = false → p1 = p1GetSignature → p2 = 0 → wire = [] →
      ∀ ctx, s.signTx? = some ctx → ctx.stage = .finalize → ctx.path.length < bip32MaxPathLength →
        NamesNetwork ctx.tx → shared ∨ WholeLength ctx.tx.recipient.length) :
    InStep (Level shared base base') (handleSignTransaction sdk store p1 p2 wire isOnInit)
      (handleSignTransaction sdk store p1 p2 wire isOnInit) s t fun _ => Twins shared base base' := by
  have handles {state : InstructionState} {s t : Device} (beside : Beside shared base base' state s t)
      (whole : state.Whole)
      (recipient : p1 = p1GetSignature → p2 = 0 → wire = [] →
        ∀ ctx, s.signTx? = some ctx → ctx.stage = .finalize → ctx.path.length < bip32MaxPathLength →
          NamesNetwork ctx.tx → shared ∨ WholeLength ctx.tx.recipient.length) :
      InStep (Level shared base base') (handleSignTransaction sdk store p1 p2 wire false)
        (handleSignTransaction sdk store p1 p2 wire false) s t fun _ => Twins shared base base' := by
    unfold handleSignTransaction
    rw [if_neg Bool.false_ne_true]
    split_ifs with first chunk last
    · exact handleSignTxInit_inStep beside p2 wire
    · exact handleSignTxCollect_inStep beside whole store p2 wire
    · exact handleSignTxFinalize_inStep beside sdk p2 wire (recipient last)
    · exact inStep_of_error rfl rfl beside.level
  cases isOnInit with
  | false => exact handles beside whole (recipient rfl)
  | true =>
    have cleared := beside.withState (.signTx .zero)
    apply inStep_bind_ok (EStateM.run_modify _ _) (EStateM.run_modify _ _)
    apply handles cleared (wholeReview_of_step nofun nofun)
    intro _ _ _ ctx found stage
    cases found
    cases stage

end SignTransaction

end FantomLedger
