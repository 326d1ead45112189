import FantomLedger.Library.Outcomes
import FantomLedger.SessionSigns

/-! What a step of the user interface needs in order to go on, and the one way in which it can fail. -/

namespace FantomLedger

open Library Library.Program Library.Outcomes StreamParser

/-- The main loop has an answer to the exception: a new start, or an error code to the host. -/
def Answered (exc : Exc) : Prop :=
  ∃ code, exc = .thrown code ∧
    ((code = exceptionIoReset ∨ code = errAssert) ∨ errPassFrom < code ∧ code < errPassTo)

theorem not_answered_reset : ¬Answered .reset := by
  rintro ⟨_, ⟨⟩, _⟩

theorem not_answered_undefined : ¬Answered .undefined := by
  rintro ⟨_, ⟨⟩, _⟩

theorem answered_thrown {code : Nat} (passes : errPassFrom < code ∧ code < errPassTo) : Answered (.thrown code) :=
  ⟨code, rfl, .inr passes⟩

theorem settles_bind_validate {σ α : Type} {fatal : Prop} {cond : Bool} {code : Nat}
    {next : Unit → EStateM Exc σ α} {s : σ} {good : α → σ → Prop}
    (passes : errPassFrom < code ∧ code < errPassTo) (refused : cond = false → ¬fatal)
    (rest : cond = true → Settles Answered fatal (next ()) s good) :
    Settles Answered fatal (validate cond code >>= next) s good := by
  cases cond with
  | false => exact settles_of_error rfl (iff_of_true (answered_thrown passes) (refused rfl))
  | true => exact rest rfl

section Display

variable {device : Device} {fn : UiCallbackFn}

/-- The texts of a screen fit their arrays. -/
def Screen.Fits : Screen → Prop
  | .text header body => header.length < headerSize ∧ body.length < paginatedTextSize
  | .question header body => header.length < headerSize ∧ body.length < promptTextSize

instance (screen : Screen) : Decidable screen.Fits := by
  cases screen
  · exact inferInstanceAs (Decidable (_ ∧ _))
  · exact inferInstanceAs (Decidable (_ ∧ _))

/-- A screen that fits is shown when the display has its turn. -/
theorem uiDisplay_run {screen : Screen} (fits : screen.Fits) (free : ScreenFree device) :
    (uiDisplay screen fn).run device = .ok () (device.presenting screen fn) := by
  obtain ⟨ins, io, state, display, flow, stack, outputs⟩ := device
  cases screen with
  | text header body =>
    rw [uiDisplay, uiDisplayPaginatedText, decide_eq_true fits.1, decide_eq_true fits.2, assertThat_true,
      pure_bind, pure_bind]
    rcases free with rfl | rfl
    · rfl
    · rfl
  | question header body =>
    rw [uiDisplay, uiDisplayPrompt, decide_eq_true fits.1, decide_eq_true fits.2, assertThat_true,
      pure_bind, pure_bind]
    rcases free with rfl | rfl
    · rfl
    · rfl

end Display

/-- A path whose text can be written, and whose keys can be derived. -/
structure Writable (path : Bip44Path) : Prop where
  valid : bip44HasValidFantomPrefix path = true
  nine : path.length ≤ 9

/-- The steps of the user interface that are run, by their function. -/
def keySteps : List UiStep := [.warning, .displayPath, .confirm, .respond]

def addressSteps : List UiStep := [.warning, .displayPath, .address, .confirm, .respond]

def startSteps : List SignUiStep := [.initWarning, .initConfirm, .initRespond]

def reviewSteps : List SignUiStep :=
  [.txRecipient, .txSender, .txAmount, .txFee, .txContractCall, .txConfirm, .txRespond]

/-- The context has what the step behind the screen needs. -/
inductive Prepared (device : Device) : UiCallbackFn → Prop
  | key {ctx : GetPubKeyContext} (context : device.instructionState = .getPubKey ctx)
      (ready : ctx.responseReady = pubKeyReadyTag) (path : Writable ctx.path)
      (step : ctx.uiStep ∈ keySteps) :
      Prepared device .runGetPublicKeyUIStep
  | address {ctx : GetAddressContext} (context : device.instructionState = .getAddress ctx)
      (ready : AddressReady ctx) (path : Writable ctx.path)
      (step : ctx.uiStep ∈ addressSteps) :
      Prepared device .runGetAddressUIStep
  | start {ctx : SignTxContext} (ins : device.currentIns = some .signTx)
      (context : device.instructionState = .signTx ctx) (starting : Starting ctx)
      (valid : bip44HasValidFantomPrefix ctx.path = true)
      (step : ctx.uiStep ∈ startSteps) :
      Prepared device .runSignTransactionInitUIStep
  | review {ctx : SignTxContext} (context : device.instructionState = .signTx ctx)
      (stage : ctx.stage = .finalize) (ready : ctx.responseReady = signReadyTag) (sized : Sized ctx.tx)
      (step : ctx.uiStep ∈ reviewSteps) :
      Prepared device .runSignTransactionUIStep

/-- How a device stands between two events. -/
inductive Ready (platform : Platform) (device : Device) : Prop
  | rest (rest : AtRest device)
  | collecting {path : Bip44Path} {chunks : List Chunk} (valid : bip44HasValidFantomPrefix path = true)
      (collecting : Collecting platform path chunks device)
  | asking {screen : Screen} {fn : UiCallbackFn} (asking : Asking screen fn device)
      (prepared : Prepared device fn)

section Steps

variable (platform : Platform) {device : Device} {fn : UiCallbackFn}

/-- A step that shows a screen and notes the step that comes next. -/
theorem present_returns {screen : Screen} {setStep : DeviceCode Unit} {noted : InstructionState}
    (fits : screen.Fits) (free : ScreenFree device) (running : device.currentIns ≠ none)
    (notes : ∀ shown : Device, shown.instructionState = device.instructionState →
      setStep.run shown = .ok () { shown with instructionState := noted })
    (prepared : ∀ shown : Device, shown.instructionState = noted → shown.currentIns = device.currentIns →
      Prepared shown fn) :
    Returns (do uiDisplay screen fn; setStep) device fun _ => Ready platform := by
  apply returns_bind_ok (uiDisplay_run fits free)
  apply returns_of_ok (notes (device.presenting screen fn) rfl)
  exact .asking ⟨running, rfl, rfl, rfl⟩ (prepared _ rfl rfl)

/-- A step that answers the host and ends the instruction. -/
theorem answer_returns {payload : Payload} (fits : payload.bytes.length + 2 < ioApduBufferSize) (code : Nat)
    {setStep : DeviceCode Unit} {noted : InstructionState}
    (notes : ∀ answered : Device, answered.instructionState = device.instructionState →
      setStep.run answered = .ok () { answered with instructionState := noted }) :
    Returns (do ioSendBuf code payload; uiIdle; setStep) device fun _ => Ready platform := by
  have whole : (do ioSendBuf code payload; uiIdle; setStep) =
      ((do ioSendBuf code payload; uiIdle) >>= fun _ => setStep : DeviceCode Unit) := by
    rw [bind_assoc]
  rw [whole]
  apply returns_bind_ok (answer_run fits code device)
  exact returns_of_ok (notes (device.rested [.response code payload, .idle]) rfl) (.rest ⟨rfl, rfl, rfl⟩)

theorem path_shown {path : Bip44Path} (writable : Writable path) (header : List Char)
    (fits : header.length < headerSize) :
    (formatted pathStrLength (bip44PathToStr path pathStrLength)).run device = .ok ((), path.text) device ∧
      (Screen.text header path.text).Fits := by
  have written := bip44PathToStr_run writable.valid writable.nine (List.replicate pathStrLength '\x00')
    (by rw [List.length_replicate]; decide) (by rw [List.length_replicate]; decide)
  rw [List.length_replicate] at written
  have short := text_length_le writable.valid writable.nine
  refine ⟨formatted_run written (TextBuffer.cString_terminated (nul_notMem_text path) _), fits, ?_⟩
  exact Nat.lt_of_le_of_lt short (by decide)

theorem keyStep_returns {ctx : GetPubKeyContext} (free : ScreenFree device) (running : device.currentIns ≠ none)
    (context : device.instructionState = .getPubKey ctx) (ready : ctx.responseReady = pubKeyReadyTag)
    (path : Writable ctx.path) (step : ctx.uiStep ∈ keySteps) :
    Returns runGetPublicKeyUIStep device fun _ => Ready platform := by
  apply returns_bind_ok (getPubKey_run context)
  have notes (uiStep : UiStep) (shown : Device) (same : shown.instructionState = device.instructionState) :=
    setPubKeyStep_run (same.trans context) uiStep
  simp only [keySteps, List.mem_cons, List.not_mem_nil, or_false] at step
  rcases step with step | step | step | step
  · rw [step]
    apply @present_returns platform _ _ warningScreen _ _ (by decide) free running (notes .displayPath)
    intro shown noted _
    exact .key noted ready path (by simp [keySteps])
  · rw [step]
    obtain ⟨written, fits⟩ := @path_shown device _ path "Exporting Key".toList (by decide)
    apply returns_bind_ok written
    apply @present_returns platform _ _ (.text "Exporting Key".toList ctx.path.text) _ _ fits free running
      (notes .confirm)
    intro shown noted _
    exact .key noted ready path (by simp [keySteps])
  · rw [step]
    apply @present_returns platform _ _ exportQuestion _ _ (by decide) free running (notes .respond)
    intro shown noted _
    exact .key noted ready path (by simp [keySteps])
  · rw [step, ready]
    exact answer_returns platform (pubKey_fits ctx.pubKey) success (notes .invalid)

theorem addressStep_returns {ctx : GetAddressContext} (free : ScreenFree device)
    (running : device.currentIns ≠ none) (context : device.instructionState = .getAddress ctx)
    (ready : AddressReady ctx) (path : Writable ctx.path)
    (step : ctx.uiStep ∈ addressSteps) :
    Returns (runGetAddressUIStep platform.sdk) device fun _ => Ready platform := by
  apply returns_bind_ok (getAddress_run context)
  have notes (uiStep : UiStep) (shown : Device) (same : shown.instructionState = device.instructionState) :=
    setAddressStep_run (same.trans context) uiStep
  simp only [addressSteps, List.mem_cons, List.not_mem_nil, or_false] at step
  rcases step with step | step | step | step | step
  · rw [step]
    apply @present_returns platform _ _ warningScreen _ _ (by decide) free running (notes .displayPath)
    intro shown noted _
    exact .address noted ⟨ready.ready, ready.whole⟩ path (by simp [addressSteps])
  · rw [step]
    obtain ⟨written, fits⟩ := @path_shown device _ path "Address Path".toList (by decide)
    apply returns_bind_ok written
    apply @present_returns platform _ _ (.text "Address Path".toList ctx.path.text) _ _ fits free running
      (notes (afterPath ctx.isShowAddress))
    intro shown noted _
    refine .address noted ⟨ready.ready, ready.whole⟩ path ?_
    cases ctx.isShowAddress <;> simp [afterPath, addressSteps]
  · rw [step]
    have size : 0 < ctx.address.length.toNat := by
      rw [ready.whole]
      decide
    have inBuffer : decide (ctx.address.length.toNat < addressBufferSize) = true := by
      rw [ready.whole]
      decide
    have formatted := formattedAddress_run platform.sdk ctx.address.value.toList
      ctx.address.length.toNat device size ready.whole.le (by rw [Vector.length_toList]; decide)
    dsimp only
    rw [inBuffer, assertThat_true, pure_bind]
    apply returns_bind_ok formatted
    apply returns_bind_ok (@onGetAddress_run { device with
      stack := fun call => device.stack (call + 1) } ctx _ context _ _ _ (EStateM.run_modify _ _))
    apply @present_returns platform { device with
      stack := fun call => device.stack (call + 1)
      instructionState := .getAddress { ctx with sha3Context := _ } } _ (.text "Address".toList _) _ _
      ⟨by decide, ?_⟩ free running
    · intro shown same
      exact setAddressStep_run same .respond
    · intro shown noted _
      exact .address noted ⟨ready.ready, ready.whole⟩ path (by simp [addressSteps])
    · rw [addressText_length]
      · decide
      · rw [Vector.length_toList]
        decide
  · rw [step]
    apply @present_returns platform _ _ addressQuestion _ _ (by decide) free running (notes .respond)
    intro shown noted _
    exact .address noted ⟨ready.ready, ready.whole⟩ path (by simp [addressSteps])
  · have inBuffer : decide (ctx.address.length.toNat ≤ addressBufferSize) = true := by
      rw [ready.whole]
      decide
    rw [step, ready.ready]
    dsimp only
    rw [inBuffer]
    exact answer_returns platform (address_fits ctx.address) success (notes .invalid)

theorem startStep_returns {ctx : SignTxContext} (free : ScreenFree device)
    (ins : device.currentIns = some .signTx) (context : device.instructionState = .signTx ctx)
    (starting : Starting ctx) (valid : bip44HasValidFantomPrefix ctx.path = true)
    (step : ctx.uiStep ∈ startSteps) :
    Returns runSignTransactionInitUIStep device fun _ => Ready platform := by
  have stage : (assertStage .init).run device = .ok () device :=
    (assertStage_eq_ok context).mpr ⟨starting.stage, rfl⟩
  apply returns_bind_ok stage
  apply returns_bind_ok (getSignTx_run context)
  have notes (uiStep : SignUiStep) (shown : Device) (same : shown.instructionState = device.instructionState) :=
    setUiStep_run (same.trans context) uiStep
  simp only [startSteps, List.mem_cons, List.not_mem_nil, or_false] at step
  rcases step with step | step | step
  · rw [step]
    apply @present_returns platform _ _ warningScreen _ _ (by decide) free (running_of_ins ins) (notes .initConfirm)
    intro shown noted same
    exact .start (same.trans ins) noted ⟨starting.stage, starting.stream⟩ valid (by simp [startSteps])
  · rw [step]
    apply @present_returns platform _ _ startQuestion _ _ (by decide) free (running_of_ins ins) (notes .initRespond)
    intro shown noted same
    exact .start (same.trans ins) noted ⟨starting.stage, starting.stream⟩ valid (by simp [startSteps])
  · have collects (busy : Device) (same : busy.instructionState = device.instructionState) :
        (do onSignTx (modify fun ctx => { ctx with stage := .collect }); setUiStep .initInvalid :
          DeviceCode Unit).run busy = .ok () { busy with
            instructionState := .signTx { ctx with stage := .collect, uiStep := .initInvalid } } := by
      rw [run_bind_ok (onSignTx_modify_run (same.trans context) _)]
      rfl
    rw [step]
    dsimp only
    rw [← bind_assoc]
    apply returns_bind_ok (sendBusy_run (by decide) success device)
    refine ⟨_, _, collects _ rfl, ?_⟩
    have streaming : Streaming platform ctx.path [] { device with
        instructionState := .signTx { ctx with stage := .collect, uiStep := .initInvalid } } :=
      ⟨ins, _, rfl, rfl, starting.stream, .inl ⟨rfl, rfl⟩⟩
    exact .collecting valid ⟨⟨ins, streaming.context⟩, rfl, rfl⟩

end Steps

section Review

variable (platform : Platform) {device : Device} {ctx : SignTxContext}

/-- The step is to show a number that the screen has no room for. -/
def Unshown (ctx : SignTxContext) : Prop :=
  ctx.uiStep = .txAmount ∧ ¬Showable (shownAmount ctx.tx) ∨ ctx.uiStep = .txFee ∧ ¬Showable (shownFee ctx.tx)

theorem UnderReview.ready {tx : Transaction} {signature : TxSignature} {uiStep : SignUiStep}
    (under : UnderReview tx signature uiStep device) (sized : Sized tx)
    (step : uiStep ∈ reviewSteps) :
    Ready platform device := by
  obtain ⟨⟨screen, asking⟩, ctx, context, stage, ready, rfl, _, rfl⟩ := under
  exact .asking asking (.review context stage ready sized step)

theorem unshown_of_step {uiStep : SignUiStep} (step : ctx.uiStep = uiStep)
    (plain : uiStep ≠ .txAmount ∧ uiStep ≠ .txFee) : ¬Unshown ctx := by
  rintro (⟨same, _⟩ | ⟨same, _⟩)
  · exact plain.1 (step.symm.trans same)
  · exact plain.2 (step.symm.trans same)

theorem text_returns {step : TextStep} (reviewing : ReviewingSigned device ctx) (sized : Sized ctx.tx)
    (known : textStep platform.sdk ctx.uiStep = some step) (yields : Yields step.text device ctx)
    (next : step.next ctx.tx ∈ reviewSteps) :
    Returns (runSignTransactionUIStep platform.sdk) device fun _ => Ready platform := by
  obtain ⟨_, after, _, run, under, _⟩ := text_shown platform reviewing known yields
  exact returns_of_ok run (under.ready platform sized next)

/-- A step that shows a number goes on exactly if there is room for it. -/
theorem number_settles {step : TextStep} {number : Nat} (reviewing : ReviewingSigned device ctx)
    (sized : Sized ctx.tx) (known : textStep platform.sdk ctx.uiStep = some step)
    (yields : YieldsNumber step.text number device ctx) (large : Unshown ctx ↔ ¬Showable number)
    (next : step.next ctx.tx ∈ reviewSteps) :
    Settles (fun _ => False) (Unshown ctx) (runSignTransactionUIStep platform.sdk) device fun _ => Ready platform := by
  by_cases small : Showable number
  · apply settles_of_returns (text_returns platform reviewing sized known (yields.shown small) next)
    exact fun unshown => large.mp unshown small
  · have stopped := (runSignTransactionUIStep_text reviewing.toReviewing known).trans
      (step.body_error (yields.stopped small))
    exact settles_of_error stopped (iff_of_false not_false (not_not.mpr (large.mpr small)))

/-- A step of the review fails only at a number that the screen has no room for. -/
theorem reviewStep_settles (reviewing : ReviewingSigned device ctx) (sized : Sized ctx.tx)
    (step : ctx.uiStep ∈ reviewSteps) :
    Settles (fun _ => False) (Unshown ctx) (runSignTransactionUIStep platform.sdk) device fun _ => Ready platform := by
  simp only [reviewSteps, List.mem_cons, List.not_mem_nil, or_false] at step
  rcases step with step | step | step | step | step | step | step
  · refine settles_of_returns ?_ (unshown_of_step step (by decide))
    exact text_returns platform reviewing sized (by rw [step]; rfl)
      (recipientText_yields reviewing.context sized.recipient) (by simp [reviewSteps])
  · refine settles_of_returns ?_ (unshown_of_step step (by decide))
    exact text_returns platform reviewing sized (by rw [step]; rfl)
      (senderText_yields reviewing.context sized.sender) (by simp [reviewSteps])
  · apply number_settles platform reviewing sized (by rw [step]; rfl)
      (amountText_yields reviewing.context sized.value) _ (by simp [reviewSteps])
    rw [Unshown, step]
    simp [shownAmount]
  · apply number_settles platform reviewing sized (by rw [step]; rfl)
      (feeText_yields reviewing.context sized.gasPrice sized.startGas)
    · rw [Unshown, step]
      simp [shownFee]
    · dsimp only
      split_ifs <;> simp [reviewSteps]
  · refine settles_of_returns ?_ (unshown_of_step step (by decide))
    exact text_returns platform reviewing sized (by rw [step]; rfl)
      (@yields_of_ok device ctx (pure "Alert".toList) _ reviewing.context (by decide) rfl)
      (by simp [reviewSteps])
  · refine settles_of_returns ?_ (unshown_of_step step (by decide))
    obtain ⟨after, run, under, _⟩ := question_shown platform reviewing step
    exact returns_of_ok run (under.ready platform sized (by decide))
  · refine settles_of_returns ?_ (unshown_of_step step (by decide))
    obtain ⟨after, run, rest, _⟩ := signature_sent platform reviewing step
    exact returns_of_ok run (.rest rest)

end Review

end FantomLedger
