import FantomLedger.NbglScreens

/-! The pages of the build for large screens, and what a touch of them does. -/

namespace FantomLedger

open Library.Program

namespace Nbgl

def State.outputs (s : State) : List Output := s.device.outputs

section Rules

variable {α β : Type} {s : State} {code : DeviceCode α}

theorem onShared_run {result : α} {after : Device} (run : code.run s.device = .ok result after) :
    (onShared code).run s = .ok result { s with device := after } := by
  simp only [EStateM.run, onShared] at run ⊢
  rw [run]

theorem onShared_error {exc : Exc} {after : Device} (run : code.run s.device = .error exc after) :
    (onShared code).run s = .error exc { s with device := after } := by
  simp only [EStateM.run, onShared] at run ⊢
  rw [run]

theorem goes_onShared {good : α → State → Prop}
    (goes : Goes Device.outputs code s.device fun result after => good result { s with device := after }) :
    Goes State.outputs (onShared code) s good := by
  unfold Goes at goes
  cases run : code.run s.device with
  | ok result after =>
    rw [run] at goes
    exact goes_of_ok (onShared_run run) goes
  | error exc after =>
    rw [run] at goes
    exact goes_of_error (onShared_error run) goes

theorem goes_bind_onShared {next : α → Code β} {good : β → State → Prop}
    (goes : Goes Device.outputs code s.device fun result after => after.outputs = s.device.outputs ∧
      Goes State.outputs (next result) { s with device := after } good) :
    Goes State.outputs (onShared code >>= next) s good :=
  Goes.bind (goes_onShared goes)

/-- Code that only reads. -/
theorem goes_bind_read {next : α → Code β} {result : α} {good : β → State → Prop}
    (run : code.run s.device = .ok result s.device) (rest : Goes State.outputs (next result) s good) :
    Goes State.outputs (onShared code >>= next) s good :=
  goes_bind_ok (onShared_run run) rfl rest

theorem returns_onShared {result : α} {after : Device} {good : α → State → Prop}
    (run : code.run s.device = .ok result after) (holds : good result { s with device := after }) :
    Returns (onShared code) s good :=
  returns_of_ok (onShared_run run) holds

theorem returns_bind_onShared {next : α → Code β} {result : α} {after : Device} {good : β → State → Prop}
    (run : code.run s.device = .ok result after)
    (rest : Returns (next result) { s with device := after } good) :
    Returns (onShared code >>= next) s good :=
  returns_bind_ok (onShared_run run) rest

theorem uiDisplayBusy_run (ioState : s.device.ioState = .expectIo) :
    uiDisplayBusy.run s = .ok () { s with page := .spinner "Loading transaction".toList } := by
  rw [uiDisplayBusy, run_bind_ok (EStateM.run_get s), ioState]
  rfl

variable {next : Unit → Code β} {good : β → State → Prop}

/-- A page comes on the screen only while no APDU is expected. -/
theorem goes_bind_assertIoState
    (rest : s.device.ioState ≠ .expectIo → Goes State.outputs (next ()) s good) :
    Goes State.outputs (assertIoState >>= next) s good := by
  rw [assertIoState, bind_assoc]
  apply goes_bind_ok (EStateM.run_get _) rfl
  apply goes_bind_assert
  intro allowed
  apply rest
  intro expects
  rw [expects] at allowed
  cases allowed

theorem returns_bind_uiDisplayBusy (ioState : s.device.ioState = .expectIo)
    (rest : Returns (next ()) { s with page := .spinner "Loading transaction".toList } good) :
    Returns (uiDisplayBusy >>= next) s good :=
  returns_bind_ok (uiDisplayBusy_run ioState) rest

theorem goes_bind_uiDisplayWarning {text : List Char} {confirm reject : UiCallbackFn}
    (rest : s.device.ioState ≠ .expectIo → Goes State.outputs (next ()) { s with
      confirmClbk := some confirm
      rejectClbk := some reject
      page := warningPage text } good) :
    Goes State.outputs (uiDisplayWarning text confirm reject >>= next) s good := by
  rw [uiDisplayWarning, bind_assoc]
  apply goes_bind_assertIoState
  exact rest

theorem goes_bind_uiReviewStart {confirm reject : UiCallbackFn}
    (rest : s.device.ioState ≠ .expectIo → Goes State.outputs (next ()) { s with
      confirmClbk := some confirm
      rejectClbk := some reject
      rejectionText := some "Transaction rejected".toList
      page := startPage confirm } good) :
    Goes State.outputs (uiReviewStart confirm reject >>= next) s good := by
  rw [uiReviewStart, bind_assoc]
  apply goes_bind_assertIoState
  exact rest

end Rules

section Pages

/-- The pages that a touch does nothing on. -/
def Page.isQuiet : Page → Bool
  | .home => true
  | .spinner _ => true
  | .status _ _ => true
  | _ => false

def Page.isStatus : Page → Bool
  | .status _ _ => true
  | _ => false

def alertPage : Page :=
  .choice ⟨"Contract call".toList, "Review carefully".toList, "Continue".toList, "Reject".toList⟩
    .contractWarningChoice

def reviewPage (lines : List TagValue) : Page :=
  .staticReview false lines ⟨"Send Transaction ?".toList, "Hold to confirm".toList⟩ "Reject".toList
    .reviewChoice

def keyPage (path : Bip44Path) : Page := .choice (exportChoice (choiceText path)) .displayPathCallback

def verifyPage : Page :=
  .reviewStart "Verify \naddress".toList "Cancel".toList .displayAddress .rejectAndDisplayIdleMenu

def addressPage (text : List Char) (pairs : List TagValue) : Page :=
  .addressConfirmation text pairs .displayAddressCallback

def pathPage (pairs : List TagValue) : Page :=
  .staticReview true pairs ⟨"Confirm address ?".toList, "Confirm".toList⟩ "Cancel".toList
    .displayAddressCallback

/-- The pages that the user accepts or refuses. -/
inductive Page.Asks : Page → Prop
  | warning (text : List Char) : Page.Asks (warningPage text)
  | start (fn : UiCallbackFn) : Page.Asks (startPage fn)
  | alert : Page.Asks alertPage
  | review (lines : List TagValue) : Page.Asks (reviewPage lines)
  | key (path : Bip44Path) : Page.Asks (keyPage path)
  | verify : Page.Asks verifyPage
  | address (text : List Char) (pairs : List TagValue) : Page.Asks (addressPage text pairs)
  | path (pairs : List TagValue) : Page.Asks (pathPage pairs)

theorem Page.Asks.isQuiet {page : Page} (asks : page.Asks) : page.isQuiet = false := by
  cases asks <;> rfl

/-- The device of the state works on a context of a transaction. -/
structure Signs (ctx : SignTxContext) (s : State) : Prop where
  ins : s.device.currentIns = some .signTx
  state : s.device.instructionState = .signTx ctx

theorem Signs.holding {ctx : SignTxContext} {s : State} (signs : Signs ctx s) :
    Holding (some .signTx) s.device.outputs (.signTx ctx) s.device := ⟨signs.ins, rfl, signs.state⟩

/-- The context of an instruction that the user is asked about. -/
inductive Inside (device : Device) : Prop
  | key {ctx : GetPubKeyContext} (ins : device.currentIns = some .getKey)
      (state : device.instructionState = .getPubKey ctx)
  | address {ctx : GetAddressContext} (ins : device.currentIns = some .getAddr)
      (state : device.instructionState = .getAddress ctx)
  | sign {ctx : SignTxContext} (ins : device.currentIns = some .signTx)
      (state : device.instructionState = .signTx ctx)
      (stage : ctx.stage = .init ∨ ctx.stage = .finalize ∨ ctx.stage = .done)

/-- The host has had its answer, but the instruction goes on until its last page is closed. -/
structure Ended (s : State) : Prop where
  inside : Inside s.device
  ioState : s.device.ioState = .expectIo
  quiet : s.page.isQuiet = true
  status : s.device.currentIns = some .signTx → s.page.isStatus = true

/-- A page of an instruction waits for the user. -/
structure Asking (ins : Ins) (s : State) : Prop where
  running : s.device.currentIns = some ins
  inside : Inside s.device
  ioState : s.device.ioState ≠ .expectIo
  reject : s.rejectClbk = some .uiRespondWithUserReject
  page : s.page.Asks

/-- The device that has told the host of a rejection and shows that to the user. -/
def State.rejected (s : State) : State :=
  { s with
    device := { s.device with
      ioState := .expectIo
      outputs := s.device.outputs ++ [.response errRejectedByUser .empty] }
    page := .status s.rejectionText false
    statusDue := true }

variable (platform : Platform) {s : State} {fn : UiCallbackFn} {good : Unit → State → Prop}

theorem Inside.sent {device : Device} (inside : Inside device) (ioState : IoState) (outputs : List Output) :
    Inside { device with ioState := ioState, outputs := outputs } := by
  cases inside with
  | key ins state => exact .key ins state
  | address ins state => exact .address ins state
  | sign ins state stage => exact .sign ins state stage

theorem Asking.rejected_ended {ins : Ins} (asking : Asking ins s) : Ended s.rejected :=
  ⟨asking.inside.sent _ _, rfl, rfl, fun _ => rfl⟩

theorem goes_touch {accepts : Bool} {page : Page} (shown : s.page = page)
    (answers : Goes State.outputs (match page with
      | .choice _ callback => runChoiceFn platform callback accepts
      | .staticReview _ _ _ _ callback => runChoiceFn platform callback accepts
      | .addressConfirmation _ _ callback => runChoiceFn platform callback accepts
      | .reviewStart _ _ continueFn rejectFn =>
        runPageFn platform (if accepts then continueFn else rejectFn)
      | .confirm _ callback under => if accepts then runPageFn platform callback else showPage under
      | _ => pure ()) s good) :
    Goes State.outputs (touch platform accepts) s good := by
  apply goes_bind_ok (EStateM.run_get s) rfl
  rw [shown]
  exact answers

theorem touch_run_quiet (quiet : s.page.isQuiet = true) (accepts : Bool) :
    (touch platform accepts).run s = .ok () s := by
  rw [touch, run_bind_ok (EStateM.run_get s)]
  cases page : s.page with
  | home => rfl
  | spinner text => rfl
  | status message isSuccess => rfl
  | _ =>
    rw [page] at quiet
    cases quiet

theorem goes_confirmClbk (confirm : s.confirmClbk = some fn)
    (calls : Goes State.outputs (runCallback platform fn) s good) :
    Goes State.outputs (confirmClbk platform) s good := by
  apply goes_bind_ok (EStateM.run_get s) rfl
  rw [confirm]
  exact calls

theorem rejectAndDisplayIdleMenu_run (reject : s.rejectClbk = some .uiRespondWithUserReject) :
    (rejectAndDisplayIdleMenu platform).run s = .ok () s.rejected := by
  have fits : Payload.empty.bytes.length + 2 < ioApduBufferSize := by decide
  have answered : (rejectClbk platform).run s = .ok () { s with
      device := { s.device with
        ioState := .expectIo
        outputs := s.device.outputs ++ [.response errRejectedByUser .empty] } } := by
    have static : runStatic platform s.rejectClbk = uiRespondWithUserReject := by
      rw [reject]
      rfl
    rw [Nbgl.rejectClbk, run_bind_ok (EStateM.run_get s), static]
    exact onShared_run (ioSendBuf_run fits errRejectedByUser s.device)
  rw [rejectAndDisplayIdleMenu, run_bind_ok answered]
  rfl

/-- Some pages ask back before they reject. -/
theorem goes_refuse (asks : s.page.Asks) (reject : s.rejectClbk = some .uiRespondWithUserReject)
    (rejects : good () s.rejected) (turns : good () { s with page := rejectPage s.page }) :
    Goes State.outputs (touch platform false) s good := by
  have rejected := rejectAndDisplayIdleMenu_run platform reject
  generalize page : s.page = shown at asks
  cases asks with
  | start fn =>
    apply goes_touch platform page
    exact goes_of_ok (EStateM.run_modify _ _) turns
  | review lines =>
    apply goes_touch platform page
    exact goes_of_ok (EStateM.run_modify _ _) turns
  | _ =>
    apply goes_touch platform page
    exact goes_of_ok rejected rejects

theorem goes_back_accept {under : Page} (shown : s.page = rejectPage under)
    (reject : s.rejectClbk = some .uiRespondWithUserReject) (rejects : good () s.rejected) :
    Goes State.outputs (touch platform true) s good := by
  apply goes_touch platform shown
  exact goes_of_ok (rejectAndDisplayIdleMenu_run platform reject) rejects

theorem goes_back_refuse {under : Page} (shown : s.page = rejectPage under)
    (turns : good () { s with page := under }) : Goes State.outputs (touch platform false) s good := by
  apply goes_touch platform shown
  exact goes_of_ok (EStateM.run_modify _ _) turns

end Pages

section Scripts

variable (platform : Platform)

/-- A row of pages of an instruction from the state on: each meets its condition and follows the acceptance of the one
before, and the last acceptance gets the answer. `before` is what had been put out until then. -/
def Presents (ins : Ins) (answer : Payload) (done : State → Prop) : List (Page → Prop) → List Output → State → Prop
  | [], before, s => s.outputs = before ++ [.response success answer] ∧ done s
  | shows :: rest, before, s => shows s.page ∧ s.outputs = before ∧ Asking ins s ∧
      Goes State.outputs (touch platform true) s fun _ after => Presents ins answer done rest before after

/-- The page is on the screen, or the question whether to reject is over it. -/
def Turned (base s : State) : Prop := s = base ∨ s = { base with page := rejectPage base.page }

/-- What a touch makes of a state that shows a page of a row. -/
inductive Touched (ins : Ins) (answer : Payload) (done : State → Prop) (rest : List (Page → Prop)) (base : State)
    (accepts : Bool) (s after : State) : Prop
  | moves (accepted : accepts = true) (shown : s = base)
      (presents : Presents platform ins answer done rest base.outputs after)
  | rejects (rejected : after = base.rejected)
  | turns (refused : accepts = false) (turned : Turned base after)

variable {platform} {ins : Ins} {answer : Payload} {done : State → Prop} {shows : Page → Prop}
  {rest : List (Page → Prop)} {before : List Output} {base s : State}

theorem Presents.asking {script : List (Page → Prop)}
    (presents : Presents platform ins answer done script before base) (more : script ≠ []) :
    Asking ins base := by
  cases script with
  | nil => exact absurd rfl more
  | cons shows rest => exact presents.2.2.1

theorem Presents.outputs_eq {script : List (Page → Prop)}
    (presents : Presents platform ins answer done script before base) (more : script ≠ []) :
    base.outputs = before := by
  cases script with
  | nil => exact absurd rfl more
  | cons shows rest => exact presents.2.1

theorem Presents.touch_goes (presents : Presents platform ins answer done (shows :: rest) before base)
    (turned : Turned base s) (accepts : Bool) :
    Goes State.outputs (touch platform accepts) s fun _ =>
      Touched platform ins answer done rest base accepts s := by
  obtain ⟨_, same, asking, moves⟩ := presents
  rcases turned with rfl | rfl
  · cases accepts with
    | false =>
      apply goes_refuse platform asking.page asking.reject
      · exact .rejects rfl
      · exact .turns rfl (.inr rfl)
    | true =>
      apply Goes.mono moves
      intro _ after presents
      rw [← same] at presents
      exact .moves rfl rfl presents
  · cases accepts with
    | false =>
      apply goes_back_refuse platform rfl
      exact .turns rfl (.inl rfl)
    | true =>
      apply goes_back_accept platform
      · rfl
      · exact asking.reject
      · exact .rejects rfl

theorem Turned.device_eq (turned : Turned base s) : s.device = base.device := by
  rcases turned with rfl | rfl
  · rfl
  · rfl

end Scripts

end Nbgl

end FantomLedger
