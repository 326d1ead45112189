import FantomLedger.MainLoop

/-! The screens that the user answers, and what each event does to a device that shows one. -/

namespace FantomLedger

open Library.Program

theorem tryCatchUi_ok {device after : Device} {code : DeviceCode Unit} (run : code.run device = .ok () after) :
    (tryCatchUi code).run device = .ok () after := by
  simp only [EStateM.run, tryCatchUi] at run ⊢
  rw [run]

/-- What an exception in a callback does to the device. -/
def Exc.atUi : Exc → Exc
  | .thrown _ => .reset
  | other => other

theorem tryCatchUi_error {device after : Device} {code : DeviceCode Unit} {exc : Exc}
    (run : code.run device = .error exc after) :
    (tryCatchUi code).run device = .error exc.atUi after := by
  simp only [EStateM.run, tryCatchUi] at run ⊢
  rw [run]
  cases exc <;> rfl

/-- A screen that waits for the user: a text to acknowledge, or a question to accept or reject. -/
inductive Screen where
  | text (header body : List Char)
  | question (header body : List Char)
  deriving DecidableEq, Repr

namespace Screen

def output : Screen → Output
  | .text header body => .paginatedText header body
  | .question header body => .prompt header body

def flow : Screen → Flow
  | .text _ _ => .paginatedText
  | .question _ _ => .prompt

/-- The display state behind a screen. Only a question has a function for its rejection. -/
def display (fn : UiCallbackFn) : Screen → DisplayState
  | .text header body => .paginatedText header body (uiCallbackInit (some fn) none)
  | .question header body =>
    .prompt header body (uiCallbackInit (some fn) (some .uiRespondWithUserReject))

end Screen

/-- Display a screen whose confirmation calls the function. -/
def uiDisplay (screen : Screen) (fn : UiCallbackFn) : DeviceCode Unit :=
  match screen with
  | .text header body => uiDisplayPaginatedText header body fn
  | .question header body => uiDisplayPrompt header body fn .uiRespondWithUserReject

/-- The device with another screen. -/
def Device.presenting (device : Device) (screen : Screen) (fn : UiCallbackFn) : Device :=
  { device with
    ioState := .expectUi
    displayState := screen.display fn
    flow := screen.flow
    outputs := device.outputs ++ [screen.output] }

/-- Nothing is sent to the screen when the display fails. -/
theorem uiDisplay_goes (screen : Screen) (fn : UiCallbackFn) (device : Device) :
    Goes Device.outputs (uiDisplay screen fn) device fun _ after =>
      after = device.presenting screen fn := by
  cases screen with
  | text header body =>
    apply goes_bind_assert
    intro _
    apply goes_bind_assert
    intro _
    apply goes_bind_ok (EStateM.run_modify _ _) rfl
    apply goes_bind_ok (EStateM.run_get _) rfl
    apply goes_bind_assert
    intro _
    exact goes_of_ok rfl rfl
  | question header body =>
    apply goes_bind_assert
    intro _
    apply goes_bind_assert
    intro _
    apply goes_bind_ok (EStateM.run_modify _ _) rfl
    apply goes_bind_ok (EStateM.run_get _) rfl
    apply goes_bind_assert
    intro _
    exact goes_of_ok rfl rfl

/-- No instruction is going on, and the next APDU starts one. -/
structure AtRest (device : Device) : Prop where
  ins : device.currentIns = none
  ioState : device.ioState = .expectIo
  flow : device.flow = .idle

theorem running_of_ins {device : Device} {ins : Ins} (same : device.currentIns = some ins) :
    device.currentIns ≠ none := by
  rw [same]
  exact Option.some_ne_none ins

/-- The device back at rest, after these outputs. -/
def Device.rested (device : Device) (outputs : List Output) : Device :=
  { device with
    currentIns := none
    ioState := .expectIo
    flow := .idle
    outputs := device.outputs ++ outputs }

theorem atRest_rested (device : Device) (outputs : List Output) : AtRest (device.rested outputs) :=
  ⟨rfl, rfl, rfl⟩

theorem ioSendBuf_run {payload : Payload} (fits : payload.bytes.length + 2 < ioApduBufferSize)
    (code : Nat) (device : Device) :
    (ioSendBuf code payload).run device = .ok () { device with
      ioState := .expectIo, outputs := device.outputs ++ [.response code payload] } := by
  rw [ioSendBuf, decide_eq_true fits, assertThat_true, pure_bind]
  rfl

/-- A response that ends an instruction. -/
theorem answer_run {payload : Payload} (fits : payload.bytes.length + 2 < ioApduBufferSize)
    (code : Nat) (device : Device) :
    (do ioSendBuf code payload; uiIdle : DeviceCode Unit).run device =
      .ok () (device.rested [.response code payload, .idle]) := by
  rw [run_bind_ok (ioSendBuf_run fits code device), Device.rested]
  show EStateM.Result.ok () { device with
    currentIns := none, ioState := .expectIo, flow := .idle,
    outputs := (device.outputs ++ [Output.response code payload]) ++ [Output.idle] } = _
  rw [List.append_assoc]
  rfl

/-- A response that leaves the instruction going. -/
theorem sendBusy_run {payload : Payload} (fits : payload.bytes.length + 2 < ioApduBufferSize)
    (code : Nat) (device : Device) :
    (do ioSendBuf code payload; uiDisplayBusy : DeviceCode Unit).run device = .ok () { device with
      ioState := .expectIo
      displayState := .cleared
      flow := .busy
      outputs := device.outputs ++ [.response code payload, .busy] } := by
  rw [run_bind_ok (ioSendBuf_run fits code device)]
  show EStateM.Result.ok () { device with
    ioState := .expectIo, displayState := .cleared, flow := .busy,
    outputs := (device.outputs ++ [Output.response code payload]) ++ [Output.busy] } = _
  rw [List.append_assoc]
  rfl

/-- What the device says when an instruction ends without its answer: the error code, unless the
application starts over. -/
def notice : Option Nat → List Output
  | some code => [.response code .empty, .idle]
  | none => [.idle]

theorem goes_bind_formatted {α β : Type} {size : Nat} {code : TextCode α}
    {next : α × List Char → DeviceCode β} {device : Device} {good : β → Device → Prop}
    (rest : ∀ result text memory, code.run (List.replicate size '\x00') = .ok result memory →
      TextBuffer.cString memory = some text → Goes Device.outputs (next (result, text)) device good) :
    Goes Device.outputs (formatted size code >>= next) device good := by
  unfold formatted
  cases run : code.run (List.replicate size '\x00') with
  | error exc memory =>
    have stopped := TextBuffer.onBuffer_error run device
    exact goes_of_error (run_bind_error (run_bind_error stopped _) _) rfl
  | ok result memory =>
    have written := TextBuffer.onBuffer_ok run device
    rw [bind_assoc]
    apply goes_bind_ok written rfl
    rw [bind_assoc]
    apply goes_bind_inside
    intro text string
    rw [pure_bind]
    exact rest result text memory run string

/-- What a handler relies on while it works on the context of its instruction. -/
structure Holding (ins : Option Ins) (outputs : List Output) (state : InstructionState)
    (device : Device) : Prop where
  ins : device.currentIns = ins
  outputs : device.outputs = outputs
  state : device.instructionState = state

variable (platform : Platform)

theorem fantomMain_ok {apdu : List UInt8} {unlocked : Bool} {device after : Device}
    (run : (fantomMainTry platform apdu unlocked).run device = .ok () after) :
    (fantomMain platform apdu unlocked).run device = .ok () after := by
  simp only [EStateM.run, fantomMain] at run ⊢
  rw [run]

/-- An APDU is handled, or it is answered with an error and the device is back at rest. -/
theorem fantomMain_goes {apdu : List UInt8} {unlocked : Bool} {device : Device}
    {good : Device → Prop}
    (handled : Goes Device.outputs (fantomMainTry platform apdu unlocked) device fun _ => good)
    (ended : ∀ after code, AtRest after → (∀ error ∈ code, error ≠ success) →
      after.outputs = device.outputs ++ notice code → good after) :
    Goes Device.outputs (fantomMain platform apdu unlocked) device fun _ => good := by
  unfold Goes at handled ⊢
  simp only [EStateM.run, fantomMain] at handled ⊢
  cases run : fantomMainTry platform apdu unlocked device with
  | ok result after =>
    rw [run] at handled
    exact handled
  | error exc after =>
    rw [run] at handled
    cases exc with
    | thrown code =>
      dsimp only at handled ⊢
      split_ifs with starts passes
      · exact ended _ none ⟨rfl, rfl, rfl⟩ nofun (congrArg (· ++ _) handled)
      · have fits : Payload.empty.bytes.length + 2 < ioApduBufferSize := by decide
        have answered := answer_run fits code after
        simp only [EStateM.run] at answered
        rw [answered]
        have fails : ∀ error ∈ some code, error ≠ success := by
          rintro _ ⟨⟩ rfl
          exact absurd passes.2 (by decide)
        exact ended _ (some code) (atRest_rested _ _) fails (congrArg (· ++ _) handled)
      · exact handled
    | reset => exact handled
    | undefined => exact handled
    | diverges => exact handled

/-- A screen is shown, and its confirmation calls the function. -/
structure Asking (screen : Screen) (fn : UiCallbackFn) (device : Device) : Prop where
  ins : device.currentIns ≠ none
  ioState : device.ioState = .expectUi
  flow : device.flow = screen.flow
  display : device.displayState = screen.display fn

section Asking

variable {platform} {screen : Screen} {fn : UiCallbackFn} {device : Device}

/-- A confirmation calls the function of the screen. -/
theorem Asking.confirm_run (asking : Asking screen fn device) :
    ∃ displayState, (userConfirms platform).run device =
      (tryCatchUi (runCallback platform fn)).run { device with displayState := displayState } := by
  obtain ⟨ins, io, state, _, _, stack, outputs⟩ := device
  cases asking.flow
  cases asking.display
  cases screen with
  | text header body => exact ⟨.paginatedText header body (.mk .callbackRun (some fn) none), rfl⟩
  | question header body =>
    exact ⟨.prompt header body (.mk .callbackRun (some fn) (some .uiRespondWithUserReject)), rfl⟩

theorem Asking.confirm_goes (asking : Asking screen fn device) {good : Device → Prop}
    (fires : ∀ displayState, Goes Device.outputs (runCallback platform fn)
      { device with displayState := displayState } fun _ => good) :
    Goes Device.outputs (userConfirms platform) device fun _ => good := by
  obtain ⟨displayState, run⟩ := @Asking.confirm_run platform _ _ _ asking
  have outcome := fires displayState
  unfold Goes at outcome ⊢
  rw [run]
  cases called : (runCallback platform fn).run { device with displayState := displayState } with
  | ok result after =>
    rw [called] at outcome
    rw [tryCatchUi_ok called]
    exact outcome
  | error exc after =>
    rw [called] at outcome
    rw [tryCatchUi_error called]
    exact outcome

theorem Asking.reject_text {header body : List Char} (asking : Asking (.text header body) fn device) :
    (userRejects platform).run device = .ok () device := by
  obtain ⟨ins, io, state, _, _, stack, outputs⟩ := device
  cases asking.flow
  rfl

/-- The rejection of a question ends the instruction. -/
theorem Asking.reject_question {header body : List Char}
    (asking : Asking (.question header body) fn device) :
    ∃ after, (userRejects platform).run device = .ok () after ∧ AtRest after ∧
      after.outputs = device.outputs ++ notice (some errRejectedByUser) := by
  obtain ⟨ins, io, state, _, _, stack, outputs⟩ := device
  cases asking.flow
  cases asking.display
  refine ⟨_, rfl, ⟨rfl, rfl, rfl⟩, ?_⟩
  exact List.append_assoc outputs _ _

/-- An APDU that comes in while a screen waits for the user is refused. -/
theorem Asking.apdu_goes (asking : Asking screen fn device) (apdu : List UInt8) (unlocked : Bool)
    {good : Device → Prop}
    (ended : ∀ after code, AtRest after → (∀ error ∈ code, error ≠ success) →
      after.outputs = device.outputs ++ notice code → good after) :
    Goes Device.outputs (fantomMain platform apdu unlocked) device fun _ => good := by
  apply fantomMain_goes platform _ ended
  unfold fantomMainTry
  apply goes_bind_ok (EStateM.run_get _) rfl
  rw [asking.ioState]
  exact goes_throw _

end Asking

/-- A row of screens from the device on: each meets its condition and follows the confirmation of
the one before, and the last confirmation gets the answer. `before` is what had been put out when
the device came to show the first of them. -/
def Presents (fn : UiCallbackFn) (answer : List Output) (done : Device → Prop) :
    List (Screen → Prop) → List Output → Device → Prop
  | [], before, device => device.outputs = before ++ answer ∧ done device
  | shows :: rest, before, device =>
    ∃ screen, shows screen ∧ device.outputs = before ++ [screen.output] ∧ Asking screen fn device ∧
      Goes Device.outputs (userConfirms platform) device fun _ after =>
        Presents fn answer done rest device.outputs after

variable {platform} {fn : UiCallbackFn} {answer : List Output} {done : Device → Prop}

/-- A step of the user interface that answers the host and waits for its next APDU. -/
theorem goes_sendBusy {device : Device} {payload : Payload}
    (fits : payload.bytes.length + 2 < ioApduBufferSize) (code : Nat) {setStep : DeviceCode Unit}
    {noted : InstructionState}
    (notes : ∀ sent : Device, sent.instructionState = device.instructionState →
      setStep.run sent = .ok () { sent with instructionState := noted }) :
    Goes Device.outputs (do ioSendBuf code payload; uiDisplayBusy; setStep) device fun _ after =>
      after = { device with
        ioState := .expectIo
        instructionState := noted
        displayState := .cleared
        flow := .busy
        outputs := device.outputs ++ [.response code payload, .busy] } := by
  have whole : (do ioSendBuf code payload; uiDisplayBusy; setStep) =
      ((do ioSendBuf code payload; uiDisplayBusy) >>= fun _ => setStep : DeviceCode Unit) := by
    rw [bind_assoc]
  rw [whole]
  have noted := notes { device with
    ioState := .expectIo
    displayState := .cleared
    flow := .busy
    outputs := device.outputs ++ [.response code payload, .busy] } rfl
  exact goes_of_ok ((run_bind_ok (sendBusy_run fits code device) _).trans noted) rfl

/-- A step of the user interface that answers the host. -/
theorem goes_answer {device : Device} {payload : Payload}
    (fits : payload.bytes.length + 2 < ioApduBufferSize) (code : Nat) {setStep : DeviceCode Unit}
    {noted : InstructionState}
    (notes : ∀ answered : Device, answered.instructionState = device.instructionState →
      setStep.run answered = .ok () { answered with instructionState := noted }) :
    Goes Device.outputs (do ioSendBuf code payload; uiIdle; setStep) device fun _ =>
      Presents platform fn [.response code payload, .idle] AtRest [] device.outputs := by
  have answered := notes (device.rested [.response code payload, .idle]) rfl
  have sent := answer_run fits code device
  have whole : (do ioSendBuf code payload; uiIdle; setStep) =
      ((do ioSendBuf code payload; uiIdle) >>= fun _ => setStep : DeviceCode Unit) := by
    rw [bind_assoc]
  rw [whole]
  apply goes_of_ok ((run_bind_ok sent _).trans answered)
  exact ⟨rfl, rfl, rfl, rfl⟩

/-- A step of the user interface that shows a screen and notes the step that comes next. -/
theorem goes_present {device : Device} (screen : Screen) {shows : Screen → Prop}
    {rest : List (Screen → Prop)} {setStep : DeviceCode Unit} {noted : InstructionState}
    (running : device.currentIns ≠ none) (fits : shows screen)
    (notes : ∀ shown : Device, shown.instructionState = device.instructionState →
      setStep.run shown = .ok () { shown with instructionState := noted })
    (later : ∀ shown : Device, shown.instructionState = noted → shown.ioState = .expectUi →
      shown.currentIns = device.currentIns →
      Goes Device.outputs (runCallback platform fn) shown fun _ =>
        Presents platform fn answer done rest shown.outputs) :
    Goes Device.outputs (do uiDisplay screen fn; setStep) device fun _ =>
      Presents platform fn answer done (shows :: rest) device.outputs := by
  have displayed := uiDisplay_goes screen fn device
  cases run : (uiDisplay screen fn).run device with
  | error exc after =>
    unfold Goes at displayed
    rw [run] at displayed
    exact goes_of_error (run_bind_error run _) displayed
  | ok result after =>
    unfold Goes at displayed
    rw [run] at displayed
    subst displayed
    have stepped := notes (device.presenting screen fn) rfl
    apply goes_of_ok ((run_bind_ok run _).trans stepped)
    refine ⟨screen, fits, rfl, ⟨running, rfl, rfl, rfl⟩, ?_⟩
    have asking : Asking screen fn { device.presenting screen fn with instructionState := noted } :=
      ⟨running, rfl, rfl, rfl⟩
    apply asking.confirm_goes
    intro displayState
    exact later _ rfl rfl rfl

end FantomLedger
