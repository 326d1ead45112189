import FantomLedger.Consent
import FantomLedger.LockstepHandlers

/-! What an instruction leaves behind has no part in the instructions that come later. -/

namespace FantomLedger

open Library.Program

section Step

variable {shared : Prop} {base base' : List Output} {state : InstructionState} {s t : Device}
  (platform : Platform)

theorem answer_inStep (level : Level shared base base' s t) {payload : Payload}
    (fits : payload.bytes.length + 2 < ioApduBufferSize) (code : Nat) :
    InStep (Level shared base base') (do ioSendBuf code payload; uiIdle)
      (do ioSendBuf code payload; uiIdle) s t fun _ => Twins shared base base' := by
  apply inStep_of_ok (answer_run fits code s) (answer_run fits code t)
  exact .resting (atRest_rested _ _) (atRest_rested _ _) (level.append _ rfl rfl rfl rfl)

theorem handleGetVersion_inStep (beside : Beside shared base base' state s t) (appVersion : AppVersion)
    (p1 p2 : UInt8) (wire : List UInt8) :
    InStep (Level shared base base') (handleGetVersion appVersion p1 p2 wire)
      (handleGetVersion appVersion p1 p2 wire) s t fun _ => Twins shared base base' := by
  apply inStep_bind_validate beside.level
  intro _
  apply inStep_bind_validate beside.level
  intro _
  apply inStep_bind_validate beside.level
  intro _
  apply answer_inStep beside.level
  show 4 + 2 < ioApduBufferSize
  decide

theorem runHandler_inStep (beside : Beside shared base base' state s t) (whole : state.Whole)
    (ins : Ins) (p1 p2 : UInt8) (data : List UInt8) (isNew : Bool)
    (recipient : ins = .signTx → isNew = false → p1 = p1GetSignature → p2 = 0 → data = [] →
      ∀ ctx, s.signTx? = some ctx → ctx.stage = .finalize → ctx.path.length < bip32MaxPathLength →
        NamesNetwork ctx.tx → shared ∨ WholeLength ctx.tx.recipient.length) :
    InStep (Level shared base base') (runHandler platform ins p1 p2 data isNew)
      (runHandler platform ins p1 p2 data isNew) s t fun _ => Twins shared base base' := by
  cases ins with
  | version => exact handleGetVersion_inStep beside platform.appVersion p1 p2 data
  | getKey => exact handleGetPublicKey_inStep beside platform.sdk p1 p2 data isNew
  | getAddr => exact handleGetAddress_inStep beside platform.sdk p1 p2 data isNew
  | signTx =>
    exact handleSignTransaction_inStep beside whole platform.sdk platform.store p1 p2 data isNew (recipient rfl)

theorem runCallback_inStep (beside : Beside shared base base' state s t) (whole : state.Whole)
    (fn : UiCallbackFn) :
    InStep (Level shared base base') (runCallback platform fn) (runCallback platform fn) s t
      fun _ => Twins shared base base' := by
  cases fn with
  | runGetPublicKeyUIStep => exact runGetPublicKeyUIStep_inStep beside
  | runGetAddressUIStep => exact runGetAddressUIStep_inStep beside whole platform.sdk
  | runSignTransactionInitUIStep => exact runSignTransactionInitUIStep_inStep beside
  | runSignTransactionUIStep =>
    apply runSignTransactionUIStep_inStep beside platform.sdk
    intro ctx found
    have review : WholeReview ctx := wholeReview_of_signTx (by rw [beside.context]; exact whole) found
    exact review.screens
  | uiRespondWithUserReject => exact answer_inStep beside.level (by decide) errRejectedByUser

section Buttons

theorem tryCatchUi_inStep {level : Device → Device → Prop} {body : DeviceCode Unit}
    {good : Unit → Device → Device → Prop} (inStep : InStep level body body s t good) :
    InStep level (tryCatchUi body) (tryCatchUi body) s t good := by
  obtain ⟨result, s', t', run, run', holds⟩ | ⟨exc, s', t', run, run', levelled⟩ := inStep.cases
  · exact inStep_of_ok (tryCatchUi_ok run) (tryCatchUi_ok run') holds
  · exact inStep_of_error (tryCatchUi_error run) (tryCatchUi_error run') levelled

theorem uiCallbackFire_inStep (beside : Beside shared base base' state s t) (whole : state.Whole)
    (callback : UiCallback) (chosen : Option UiCallbackFn) :
    InStep (Level shared base base') (uiCallbackFire platform callback chosen)
      (uiCallbackFire platform callback chosen) s t fun _ => Twins shared base base' := by
  unfold uiCallbackFire
  cases chosen with
  | none => exact inStep_of_ok rfl rfl (.working whole beside)
  | some fn =>
    cases callback.state with
    | callbackRun => exact inStep_of_ok rfl rfl (.working whole beside)
    | callbackNotRun =>
      apply inStep_bind_ok (EStateM.run_modify _ _) (EStateM.run_modify _ _)
      apply runCallback_inStep platform _ whole
      refine ⟨beside.ins, beside.ioState, beside.flow, ?_, beside.context, beside.context',
        beside.stack, beside.outputs⟩
      intro shows
      dsimp only
      rw [beside.display shows]

theorem uiConfirmPaginatedText_inStep (beside : Beside shared base base' state s t)
    (whole : state.Whole) (display : t.displayState = s.displayState) :
    InStep (Level shared base base') (uiConfirmPaginatedText platform)
      (uiConfirmPaginatedText platform) s t fun _ => Twins shared base base' := by
  apply tryCatchUi_inStep
  apply inStep_bind_get
  rw [display]
  cases s.displayState with
  | paginatedText header text callback => exact uiCallbackFire_inStep platform beside whole callback _
  | _ => exact inStep_of_error rfl rfl beside.level

theorem uiConfirmPrompt_inStep (beside : Beside shared base base' state s t) (whole : state.Whole)
    (display : t.displayState = s.displayState) :
    InStep (Level shared base base') (uiConfirmPrompt platform) (uiConfirmPrompt platform) s t
      fun _ => Twins shared base base' := by
  apply tryCatchUi_inStep
  apply inStep_bind_get
  rw [display]
  cases s.displayState with
  | prompt header text callback => exact uiCallbackFire_inStep platform beside whole callback _
  | _ => exact inStep_of_error rfl rfl beside.level

theorem uiRejectPrompt_inStep (beside : Beside shared base base' state s t) (whole : state.Whole)
    (display : t.displayState = s.displayState) :
    InStep (Level shared base base') (uiRejectPrompt platform) (uiRejectPrompt platform) s t
      fun _ => Twins shared base base' := by
  apply tryCatchUi_inStep
  apply inStep_bind_get
  rw [display]
  cases s.displayState with
  | prompt header text callback => exact uiCallbackFire_inStep platform beside whole callback _
  | _ => exact inStep_of_error rfl rfl beside.level

theorem userConfirms_inStep (twins : Twins shared base base' s t) :
    InStep (Level shared base base') (userConfirms platform) (userConfirms platform) s t
      fun _ => Twins shared base base' := by
  apply inStep_bind_get
  cases twins with
  | resting rest rest' level =>
    rw [rest.flow, rest'.flow]
    exact inStep_of_ok rfl rfl (.resting rest rest' level)
  | working whole beside =>
    have display := beside.display
    rw [beside.flow]
    cases flow : s.flow with
    | idle => exact inStep_of_ok rfl rfl (.working whole beside)
    | busy => exact inStep_of_ok rfl rfl (.working whole beside)
    | paginatedText =>
      exact uiConfirmPaginatedText_inStep platform beside whole (display (by rw [flow]; nofun))
    | prompt => exact uiConfirmPrompt_inStep platform beside whole (display (by rw [flow]; nofun))

theorem userRejects_inStep (twins : Twins shared base base' s t) :
    InStep (Level shared base base') (userRejects platform) (userRejects platform) s t
      fun _ => Twins shared base base' := by
  apply inStep_bind_get
  cases twins with
  | resting rest rest' level =>
    rw [rest.flow, rest'.flow]
    exact inStep_of_ok rfl rfl (.resting rest rest' level)
  | working whole beside =>
    have display := beside.display
    rw [beside.flow]
    cases flow : s.flow with
    | idle => exact inStep_of_ok rfl rfl (.working whole beside)
    | busy => exact inStep_of_ok rfl rfl (.working whole beside)
    | paginatedText => exact inStep_of_ok rfl rfl (.working whole beside)
    | prompt => exact uiRejectPrompt_inStep platform beside whole (display (by rw [flow]; nofun))

end Buttons

section Apdu

/-- Since the outputs of now, the devices have put out nothing. -/
theorem Level.rebase (level : Level shared base base' s t) : Level shared s.outputs t.outputs s t :=
  ⟨level.stack, [], (List.append_nil _).symm, (List.append_nil _).symm⟩

theorem Beside.rebase (beside : Beside shared base base' state s t) :
    Beside shared s.outputs t.outputs state s t :=
  ⟨beside.ins, beside.ioState, beside.flow, beside.display, beside.context, beside.context',
    beside.stack, [], (List.append_nil _).symm, (List.append_nil _).symm, nofun⟩

theorem Twins.rebase (twins : Twins shared base base' s t) : Twins shared s.outputs t.outputs s t := by
  cases twins with
  | resting rest rest' level => exact .resting rest rest' level.rebase
  | working whole beside => exact .working whole beside.rebase

/-- The device that starts an instruction. -/
def Device.starting (device : Device) (ins : Ins) : Device :=
  { device with ioState := .expectNone, instructionState := .cleared, currentIns := some ins }

theorem Twins.starting (twins : Twins shared s.outputs t.outputs s t) (ins : Ins) :
    Beside shared s.outputs t.outputs .cleared (s.starting ins) (t.starting ins) := by
  have nothing : ∃ added, s.outputs = s.outputs ++ added ∧ t.outputs = t.outputs ++ added ∧
      ∀ output ∈ added, ¬output.Ends :=
    ⟨[], (List.append_nil _).symm, (List.append_nil _).symm, nofun⟩
  have stack := twins.level.stack
  cases twins with
  | resting rest rest' _ =>
    have idle : s.flow ≠ .idle → t.displayState = s.displayState := fun shows => absurd rest.flow shows
    exact ⟨rfl, rfl, rest'.flow.trans rest.flow.symm, idle, rfl, rfl, stack, nothing⟩
  | working whole beside =>
    exact ⟨rfl, rfl, beside.flow, beside.display, rfl, rfl, stack, nothing⟩

theorem Twins.continuing (twins : Twins shared s.outputs t.outputs s t) {ins : Ins}
    (running : s.currentIns = some ins) :
    ∃ state : InstructionState, state.Whole ∧
      Beside shared s.outputs t.outputs state { s with ioState := .expectNone }
        { t with ioState := .expectNone } := by
  cases twins with
  | resting rest _ _ =>
    rw [rest.ins] at running
    cases running
  | working whole beside => exact ⟨_, whole, beside.withIoState .expectNone⟩

theorem Twins.ioState (twins : Twins shared base base' s t) : t.ioState = s.ioState := by
  cases twins with
  | resting rest rest' _ => rw [rest.ioState, rest'.ioState]
  | working _ beside => exact beside.ioState

theorem Twins.ins (twins : Twins shared base base' s t) : t.currentIns = s.currentIns := by
  cases twins with
  | resting rest rest' _ => rw [rest.ins, rest'.ins]
  | working _ beside => exact beside.ins

/-- A transaction that the application would sign, with a key that it can derive, has a whole recipient. -/
def InstructionState.WholeRecipient : InstructionState → Prop
  | .signTx ctx => ctx.stage = .finalize → ctx.path.length < bip32MaxPathLength → NamesNetwork ctx.tx →
    WholeLength ctx.tx.recipient.length
  | _ => True

instance : (state : InstructionState) → Decidable state.WholeRecipient
  | .signTx _ => inferInstanceAs (Decidable (_ → _ → _ → _))
  | .cleared => inferInstanceAs (Decidable True)
  | .getPubKey _ => inferInstanceAs (Decidable True)
  | .getAddress _ => inferInstanceAs (Decidable True)

/-- The event is no request for the signature of a transaction with a short recipient. -/
def WholeStep (device : Device) (event : Event) : Prop :=
  event = sends .signTx p1GetSignature [] → device.ioState = .expectIo →
    device.currentIns = some .signTx → device.instructionState.WholeRecipient

instance (device : Device) (event : Event) : Decidable (WholeStep device event) :=
  inferInstanceAs (Decidable (_ → _ → _ → _))

theorem fantomMainTry_inStep (twins : Twins shared s.outputs t.outputs s t) (apdu : List UInt8)
    (unlocked : Bool) (recipient : shared ∨ WholeStep s (.apdu apdu unlocked)) :
    InStep (Level shared s.outputs t.outputs) (fantomMainTry platform apdu unlocked)
      (fantomMainTry platform apdu unlocked) s t fun _ => Twins shared s.outputs t.outputs := by
  have level : Level shared s.outputs t.outputs { s with ioState := .expectNone }
      { t with ioState := .expectNone } := ⟨twins.level.stack, twins.level.outputs⟩
  unfold fantomMainTry
  apply inStep_bind_get
  rw [twins.ioState]
  apply inStep_bind_validate twins.level
  intro waits
  apply inStep_bind_ok (EStateM.run_modify _ _) (EStateM.run_modify _ _)
  split_ifs with empty
  · exact inStep_throw _ level
  apply inStep_bind_validate level
  intro open_
  split
  · rename_i headerCla headerIns p1 p2 lc data
    apply inStep_bind_validate level
    intro length
    apply inStep_bind_validate level
    intro known
    cases found : getHandler headerIns with
    | none => exact inStep_of_error rfl rfl level
    | some ins =>
      apply inStep_bind_get
      dsimp only
      rw [twins.ins]
      cases running : s.currentIns with
      | none =>
        apply inStep_bind_ok (EStateM.run_modify _ _) (EStateM.run_modify _ _)
        exact runHandler_inStep platform (twins.starting ins) trivial ins p1 p2 data true nofun
      | some current =>
        obtain ⟨state, whole, beside⟩ := twins.continuing running
        apply inStep_bind_validate ⟨level.stack, level.outputs⟩
        intro continued
        have goesOn := runHandler_inStep platform beside whole ins p1 p2 data false
        rw [twins.ins, running] at goesOn
        apply goesOn
        rintro rfl _ rfl rfl rfl ctx signing ready short names
        rcases recipient with known | wholeStep
        · exact .inl known
        · cases beq_iff_eq.mp continued
          have last : Event.apdu (headerCla :: headerIns :: p1GetSignature :: 0 :: lc :: []) unlocked =
              sends .signTx p1GetSignature [] := by
            have size : (0 : Nat) = lc.toNat := beq_iff_eq.mp length
            rw [beq_iff_eq.mp known, getHandler_eq found, open_, sends, apduBytes, List.length_nil, size,
              UInt8.ofNat_toNat]
          have recipient := wholeStep last (beq_iff_eq.mp waits) running
          rcases signTx?_eq_some signing with ⟨_, rfl⟩ | context
          · cases ready
          · have context : s.instructionState = .signTx ctx := context
            rw [context] at recipient
            exact .inr (recipient ready short names)
  · exact inStep_of_error rfl rfl level

/-- What the main loop makes of an exception. -/
def caught : Exc → DeviceCode Unit
  | .thrown code =>
    if code = exceptionIoReset ∨ code = errAssert then restart
    else if errPassFrom < code ∧ code < errPassTo then (do ioSendBuf code .empty; uiIdle)
    else throw .reset
  | exc => throw exc

theorem fantomMain_error {apdu : List UInt8} {unlocked : Bool} {after : Device} {exc : Exc}
    (run : (fantomMainTry platform apdu unlocked).run s = .error exc after) :
    (fantomMain platform apdu unlocked).run s = (caught exc).run after := by
  simp only [EStateM.run, fantomMain] at run ⊢
  rw [run]
  cases exc with
  | thrown code =>
    dsimp only [caught]
    split_ifs <;> rfl
  | _ => rfl

theorem restart_run (device : Device) : restart.run device = .ok () (device.rested [.idle]) := rfl

theorem caught_inStep (level : Level shared base base' s t) (exc : Exc) :
    InStep (Level shared base base') (caught exc) (caught exc) s t fun _ => Twins shared base base' := by
  cases exc with
  | thrown code =>
    dsimp only [caught]
    split_ifs
    · apply inStep_of_ok (restart_run s) (restart_run t)
      exact .resting (atRest_rested _ _) (atRest_rested _ _) (level.append [.idle] rfl rfl rfl rfl)
    · exact answer_inStep level (by decide) code
    · exact inStep_throw _ level
  | _ => exact inStep_throw _ level

theorem fantomMain_inStep (twins : Twins shared s.outputs t.outputs s t) (apdu : List UInt8)
    (unlocked : Bool) (recipient : shared ∨ WholeStep s (.apdu apdu unlocked)) :
    InStep (Level shared s.outputs t.outputs) (fantomMain platform apdu unlocked)
      (fantomMain platform apdu unlocked) s t fun _ => Twins shared s.outputs t.outputs := by
  obtain ⟨_, s', t', run, run', twins⟩ | ⟨exc, s', t', run, run', level⟩ :=
    (fantomMainTry_inStep platform twins apdu unlocked recipient).cases
  · exact inStep_of_ok (fantomMain_ok platform run) (fantomMain_ok platform run') twins
  · have both := caught_inStep level exc
    unfold InStep at both ⊢
    rw [fantomMain_error platform run, fantomMain_error platform run']
    exact both

end Apdu

/-- Two twins put out the same at an event, and are twins after it. -/
theorem handleEvent_inStep (twins : Twins shared s.outputs t.outputs s t) (event : Event)
    (recipient : shared ∨ WholeStep s event) :
    InStep (Level shared s.outputs t.outputs) (handleEvent platform event)
      (handleEvent platform event) s t fun _ => Twins shared s.outputs t.outputs := by
  cases event with
  | apdu bytes unlocked => exact fantomMain_inStep platform twins bytes unlocked recipient
  | confirm => exact userConfirms_inStep platform twins
  | reject => exact userRejects_inStep platform twins

end Step

section Runs

variable (platform : Platform)

/-- What a device puts out at each of the events, and how it stops where it does not go on. -/
def transcript : List Event → Device → List (List Output × Option Exc)
  | [], _ => []
  | event :: events, device =>
    match (handleEvent platform event).run device with
    | .ok _ after => (emitted platform event device, none) :: transcript events after
    | .error exc _ => [(emitted platform event device, some exc)]

/-- No event of the run asks for the signature of a transaction with a short recipient. -/
def WholeSteps : List Event → Device → Prop
  | [], _ => True
  | event :: events, device => WholeStep device event ∧
    match (handleEvent platform event).run device with
    | .ok _ after => WholeSteps events after
    | .error _ _ => True

def WholeSteps.decidable : (events : List Event) → (device : Device) →
    Decidable (WholeSteps platform events device)
  | [], _ => inferInstanceAs (Decidable True)
  | event :: events, device =>
    have : Decidable (match (handleEvent platform event).run device with
        | .ok _ after => WholeSteps platform events after
        | .error _ _ => True) :=
      match (handleEvent platform event).run device with
      | .ok _ after => WholeSteps.decidable events after
      | .error _ _ => inferInstanceAs (Decidable True)
    inferInstanceAs (Decidable (_ ∧ _))

instance (events : List Event) (device : Device) : Decidable (WholeSteps platform events device) :=
  WholeSteps.decidable platform events device

/-- A reachable device that has just ended an instruction, with an error, after a rejection or with
its answer. -/
def Ended (device : Device) : Prop :=
  ∃ session before event, Run platform session before ∧
    (handleEvent platform event).run before = .ok () device ∧
    ∃ output ∈ emitted platform event before, output.Ends

variable {platform}

theorem Level.emitted {shared : Prop} {device other after after' : Device}
    (level : Level shared device.outputs other.outputs after after') :
    after'.outputs.drop other.outputs.length = after.outputs.drop device.outputs.length := by
  obtain ⟨added, same, same'⟩ := level.outputs
  rw [same, same', List.drop_left, List.drop_left]

/-- No sequence of events tells twins apart. -/
theorem Twins.transcript {device other : Device}
    (twins : Twins False device.outputs other.outputs device other) (events : List Event)
    (whole : WholeSteps platform events device) :
    transcript platform events other = transcript platform events device := by
  induction events generalizing device other with
  | nil => rfl
  | cons event events ih =>
    obtain ⟨wholeStep, rest⟩ := whole
    obtain ⟨_, after, after', run, run', twins⟩ | ⟨exc, after, after', run, run', level⟩ :=
      (handleEvent_inStep platform twins event (.inr wholeStep)).cases
    · rw [run] at rest
      simp only [FantomLedger.transcript, FantomLedger.emitted, run, run']
      rw [twins.level.emitted, ih twins.rebase rest]
    · simp only [FantomLedger.transcript, FantomLedger.emitted, run, run']
      rw [level.emitted]

/-- In every run a device is its own twin. -/
theorem Run.twins {session : List Happening} {device : Device} (run : Run platform session device) :
    Twins True device.outputs device.outputs device device := by
  induction run with
  | boot stack =>
    have rest : AtRest (bootDevice stack) := ⟨rfl, rfl, rfl⟩
    exact .resting rest rest ⟨fun _ => rfl, [], rfl, rfl⟩
  | event run event handled ih =>
    obtain ⟨_, _, _, ran, ran', twins⟩ | ⟨_, _, _, stopped, _⟩ :=
      (handleEvent_inStep platform ih event (.inl trivial)).cases
    · cases handled.symm.trans ran
      cases handled.symm.trans ran'
      exact twins.rebase
    · cases handled.symm.trans stopped

variable (platform)

end Runs

end FantomLedger
