import FantomLedger.AmountText
import FantomLedger.FinalChecks
import FantomLedger.Screens

/-! The review of a transaction: the screens that follow the checks of the final APDU, one
confirmation after the other. -/

namespace FantomLedger

open Library Library.Program StreamParser TextBuffer

section Numbers

theorem cString_length_le {memory text : List Char} (string : cString memory = some text) :
    text.length ≤ memory.length := by
  unfold cString at string
  split_ifs at string
  cases string
  exact (List.takeWhile_sublist _).length_le

/-- The numbers of units of 10 ^ -18 that the screen has room for. -/
def Showable (number : Nat) : Prop := number < 10 ^ 37

instance (number : Nat) : Decidable (Showable number) := inferInstanceAs (Decidable (_ < _))

theorem fits_showable {number : Nat} : Fits number 40 ↔ Showable number := by
  unfold Fits Showable
  constructor
  · rintro ⟨_, zero | ⟨_, small⟩⟩
    · rw [zero]
      exact Nat.pow_pos (by decide)
    · exact small
  · exact fun small => ⟨by decide, .inr ⟨by decide, small⟩⟩

theorem formatNumber_showable {number : Uint256} (small : Showable number.toNat) :
    ∃ after text, (formatNumber number weiToFtmDecimals 40).run (List.replicate 40 '\x00') =
      .ok () after ∧ cString after = some text ∧ text.length < paginatedTextSize := by
  have room := (room_iff number.toNat 40).mpr (fits_showable.mpr small)
  have below : number.toNat < 10 ^ 39 :=
    Nat.lt_of_lt_of_le small (Nat.pow_le_pow_right (by decide) (by decide))
  obtain ⟨after, run, text⟩ :=
    formatNumber_writes number weiToFtmDecimals (List.replicate 40 '\x00') below room
  have kept := (keeps_formatNumber weiToFtmDecimals 40 number).of_ok run
  have short := cString_length_le text
  rw [kept, List.length_replicate] at short
  exact ⟨after, _, run, text, Nat.lt_of_le_of_lt short (by decide)⟩

/-- How the conversion of a larger number ends: with 40 digits it leaves its array. -/
def unshowable (number : Nat) : Exc :=
  if 10 ^ 39 ≤ number ∧ number < 10 ^ 40 then .undefined else .thrown errInvalidData

theorem formatNumber_unshowable {number : Uint256} (large : ¬Showable number.toNat) :
    ∃ after, (formatNumber number weiToFtmDecimals 40).run (List.replicate 40 '\x00') =
      .error (unshowable number.toNat) after := by
  unfold unshowable
  split_ifs with overrun
  · exact ⟨_, formatNumber_overruns number weiToFtmDecimals (List.replicate 40 '\x00') overrun.1 overrun.2⟩
  · by_cases refused : 10 ^ 40 ≤ number.toNat
    · exact ⟨_, formatNumber_refuses number weiToFtmDecimals (List.replicate 40 '\x00') refused⟩
    · have below : number.toNat < 10 ^ 39 := by
        by_contra above
        exact overrun ⟨Nat.le_of_not_lt above, Nat.lt_of_not_le refused⟩
      have narrow : ¬Room number.toNat weiToFtmDecimals.toNat (List.replicate 40 '\x00').length :=
        fun room => large (fits_showable.mp ((room_iff number.toNat 40).mp room))
      exact ⟨_, formatNumber_narrow number weiToFtmDecimals (List.replicate 40 '\x00') below narrow⟩

end Numbers

section Texts

variable {sdk : Sdk} {device : Device} {ctx : SignTxContext}

theorem formatted_run {α : Type} {size : Nat} {code : TextCode α} {after text : List Char} {result : α}
    (run : code.run (List.replicate size '\x00') = .ok result after) (string : cString after = some text) :
    (formatted size code).run device = .ok (result, text) device := by
  rw [formatted, run_bind_ok (onBuffer_ok run device)]
  show (inside (cString after) >>= fun text => pure (result, text)).run device = _
  rw [string]
  rfl

theorem formatted_error {α : Type} {size : Nat} {code : TextCode α} {after : List Char} {exc : Exc}
    (run : code.run (List.replicate size '\x00') = .error exc after) :
    (formatted size code).run device = .error exc device := by
  rw [formatted, run_bind_error (onBuffer_error run device)]

/-- The code yields a text that fits the screen; of the device it changes the hash context and
what the stack will leave. -/
def Yields (code : DeviceCode (List Char)) (device : Device) (ctx : SignTxContext) : Prop :=
  ∃ text stack sha3Context, text.length < paginatedTextSize ∧
    code.run device = .ok text { device with
      stack := stack
      instructionState := .signTx (ctx.setSha3Context sha3Context) }

theorem yields_of_ok {code : DeviceCode (List Char)} {text : List Char}
    (context : device.instructionState = .signTx ctx) (short : text.length < paginatedTextSize)
    (run : code.run device = .ok text device) : Yields code device ctx := by
  refine ⟨text, device.stack, ctx.sha3Context, short, run.trans ?_⟩
  have same : ctx.setSha3Context ctx.sha3Context = ctx := rfl
  rw [same, ← context]

theorem recipientText_yields (context : device.instructionState = .signTx ctx)
    (fits : ctx.tx.recipient.length.toNat ≤ txMaxAddressLength) :
    Yields (recipientText sdk) device ctx := by
  have run := recipientText_run sdk context fits
  split_ifs at run
  · refine ⟨_, _, _, ?_, run⟩
    rw [addressText_length]
    · decide
    · rw [Vector.length_toList]
      exact Nat.le_refl _
  · exact yields_of_ok context (by decide) run

theorem senderText_yields (context : device.instructionState = .signTx ctx)
    (whole : ctx.tx.sender.length.toNat = rawAddressSize) : Yields (senderText sdk) device ctx := by
  have positive : 0 < ctx.tx.sender.length := by
    rw [UInt8.lt_iff_toNat_lt, whole]
    decide
  refine ⟨_, _, _, ?_, senderText_run sdk context positive whole.le⟩
  rw [addressText_length]
  · decide
  · rw [Vector.length_toList]
    exact Nat.le_refl _

/-- The code yields a text exactly when there is room for the number, and fails otherwise. -/
structure YieldsNumber (code : DeviceCode (List Char)) (number : Nat) (device : Device)
    (ctx : SignTxContext) : Prop where
  shown : Showable number → Yields code device ctx
  stopped : ¬Showable number → code.run device = .error (unshowable number) device

theorem YieldsNumber.cases {code : DeviceCode (List Char)} {number : Nat}
    (yields : YieldsNumber code number device ctx) :
    Yields code device ctx ∨ ∃ exc, code.run device = .error exc device := by
  by_cases small : Showable number
  · exact .inl (yields.shown small)
  · exact .inr ⟨_, yields.stopped small⟩

theorem yieldsNumber_of_run {code : DeviceCode (List Char)} {format : TextCode Unit}
    {number : Uint256} (context : device.instructionState = .signTx ctx)
    (formats : code.run device = (formatted 40 format >>= fun result => pure result.2).run device)
    (run : format.run (List.replicate 40 '\x00') =
      (formatNumber number weiToFtmDecimals 40).run (List.replicate 40 '\x00')) :
    YieldsNumber code number.toNat device ctx := by
  constructor
  · intro small
    obtain ⟨after, text, written, string, short⟩ := formatNumber_showable small
    apply yields_of_ok context short
    rw [formats, run_bind_ok (formatted_run (run.trans written) string)]
    rfl
  · intro large
    obtain ⟨after, stopped⟩ := formatNumber_unshowable large
    rw [formats, run_bind_error (formatted_error (run.trans stopped))]

theorem amountText_yields (context : device.instructionState = .signTx ctx)
    (length : ctx.tx.value.length.toNat ≤ txMaxInt256Length) :
    YieldsNumber amountText (Rlp.beNat ctx.tx.value.bytes) device ctx := by
  obtain ⟨number, run, number_eq⟩ := txGetFormattedAmount_run ctx.tx.value weiToFtmDecimals
    (List.replicate 40 '\x00') length (by decide)
  rw [← number_eq]
  refine yieldsNumber_of_run context ?_ run
  rw [amountText, run_bind_ok (getSignTx_run context)]
  dsimp only
  rw [decide_eq_true length, assertThat_true, pure_bind]
  rfl

theorem feeText_yields (context : device.instructionState = .signTx ctx)
    (gasPrice : ctx.tx.gasPrice.length.toNat ≤ txMaxInt256Length)
    (startGas : ctx.tx.startGas.length.toNat ≤ txMaxInt256Length) :
    YieldsNumber feeText
      (computedFee (Rlp.beNat ctx.tx.gasPrice.bytes) (Rlp.beNat ctx.tx.startGas.bytes)) device ctx := by
  obtain ⟨number, run, number_eq⟩ := txGetFormattedFee_run ctx.tx weiToFtmDecimals
    (List.replicate 40 '\x00') gasPrice startGas (by decide)
  rw [← number_eq]
  refine yieldsNumber_of_run context ?_ run
  rw [feeText, run_bind_ok (getSignTx_run context)]
  dsimp only
  rw [decide_eq_true gasPrice, decide_eq_true startGas, assertThat_true, pure_bind, pure_bind]
  rfl

end Texts

section Steps

variable {device : Device} {ctx : SignTxContext}

/-- The device runs a step of the review. -/
structure Reviewing (device : Device) (ctx : SignTxContext) : Prop where
  context : device.instructionState = .signTx ctx
  stage : ctx.stage = .finalize
  ioState : device.ioState = .expectUi

/-- A text is on the screen, and its confirmation runs the next step. -/
structure ShowsText (device : Device) (ctx : SignTxContext) : Prop extends Reviewing device ctx where
  flow : device.flow = .paginatedText
  display : ∃ header text, device.displayState =
    .paginatedText header text (uiCallbackInit (some .runSignTransactionUIStep) none)

/-- The final prompt is on the screen. -/
structure AsksToSend (device : Device) : Prop where
  flow : device.flow = .prompt
  display : device.displayState = .prompt "Send".toList "Transaction?".toList
    (uiCallbackInit (some .runSignTransactionUIStep) (some .uiRespondWithUserReject))

theorem uiDisplayPaginatedText_run (ioState : device.ioState = .expectUi) {header text : List Char}
    (headerFits : header.length < headerSize) (textFits : text.length < paginatedTextSize)
    (callback : UiCallbackFn) :
    (uiDisplayPaginatedText header text callback).run device = .ok () { device with
      displayState := .paginatedText header text (uiCallbackInit (some callback) none)
      flow := .paginatedText
      outputs := device.outputs ++ [.paginatedText header text] } := by
  rw [uiDisplayPaginatedText, decide_eq_true headerFits, decide_eq_true textFits, assertThat_true,
    pure_bind, pure_bind]
  obtain ⟨ins, io, state, display, flow, stack, outputs⟩ := device
  cases ioState
  rfl

theorem uiDisplayPrompt_run (ioState : device.ioState = .expectUi) {header text : List Char}
    (headerFits : header.length < headerSize) (textFits : text.length < promptTextSize)
    (confirm reject : UiCallbackFn) :
    (uiDisplayPrompt header text confirm reject).run device = .ok () { device with
      displayState := .prompt header text (uiCallbackInit (some confirm) (some reject))
      flow := .prompt
      outputs := device.outputs ++ [.prompt header text] } := by
  rw [uiDisplayPrompt, decide_eq_true headerFits, decide_eq_true textFits, assertThat_true,
    pure_bind, pure_bind]
  obtain ⟨ins, io, state, display, flow, stack, outputs⟩ := device
  cases ioState
  rfl

/-- A step that shows a text: its header, the code of the text, and the step that follows. -/
structure TextStep where
  header : List Char
  text : DeviceCode (List Char)
  next : Transaction → SignUiStep

def TextStep.body (step : TextStep) : DeviceCode Unit := do
  uiDisplayPaginatedText step.header (← step.text) .runSignTransactionUIStep
  setUiStep (step.next (← getSignTx).tx)

/-- The steps of the review that show a text. -/
def textStep (sdk : Sdk) : SignUiStep → Option TextStep
  | .txRecipient => some ⟨"Send To".toList, recipientText sdk, fun _ => .txSender⟩
  | .txSender => some ⟨"Send From".toList, senderText sdk, fun _ => .txAmount⟩
  | .txAmount => some ⟨"Amount (FTM)".toList, amountText, fun _ => .txFee⟩
  | .txFee => some ⟨"Max Fee (FTM)".toList, feeText,
      fun tx => if tx.isContractCall then .txContractCall else .txConfirm⟩
  | .txContractCall => some ⟨"Smart Contract".toList, pure "Alert".toList, fun _ => .txConfirm⟩
  | _ => none

theorem textStep_header_fits {sdk : Sdk} {uiStep : SignUiStep} {step : TextStep}
    (known : textStep sdk uiStep = some step) : step.header.length < headerSize := by
  cases uiStep <;> cases known
  all_goals
    dsimp only
    decide

theorem setUiStep_run (context : device.instructionState = .signTx ctx) (uiStep : SignUiStep) :
    (setUiStep uiStep).run device =
      .ok () { device with instructionState := .signTx { ctx with uiStep := uiStep } } :=
  onSignTx_modify_run context _

theorem assertStage_run (reviewing : Reviewing device ctx) :
    (assertStage .finalize).run device = .ok () device :=
  (assertStage_eq_ok reviewing.context).mpr ⟨reviewing.stage, rfl⟩

theorem getSignTx_setUiStep (uiStep : SignUiStep) :
    (do let _ ← getSignTx; setUiStep uiStep) = setUiStep uiStep := by
  funext device
  show (getSignTx >>= fun _ => setUiStep uiStep).run device = (setUiStep uiStep).run device
  cases found : device.signTx? with
  | none =>
    have missing : getSignTx.run device = .error .undefined device := by
      simp only [getSignTx, onSignTx, EStateM.run, found]
    have refused : (setUiStep uiStep).run device = .error .undefined device := by
      simp only [setUiStep, onSignTx, EStateM.run, found]
    rw [run_bind_error missing, refused]
  | some ctx =>
    have read : getSignTx.run device = .ok ctx { device with instructionState := .signTx ctx } := by
      simp only [getSignTx, onSignTx, EStateM.run, found]
      rfl
    have written : (setUiStep uiStep).run device =
        .ok () { device with instructionState := .signTx { ctx with uiStep := uiStep } } := by
      simp only [setUiStep, onSignTx, EStateM.run, found]
      rfl
    rw [run_bind_ok read, written]
    exact setUiStep_run rfl uiStep

theorem runSignTransactionUIStep_text {sdk : Sdk} {step : TextStep} (reviewing : Reviewing device ctx)
    (known : textStep sdk ctx.uiStep = some step) :
    (runSignTransactionUIStep sdk).run device = step.body.run device := by
  rw [runSignTransactionUIStep, run_bind_ok (assertStage_run reviewing),
    run_bind_ok (getSignTx_run reviewing.context)]
  cases uiStep : ctx.uiStep <;> rw [uiStep] at known <;> cases known
  all_goals simp only [TextStep.body, getSignTx_setUiStep, pure_bind]

/-- The device with a text on the screen whose confirmation goes on with the review. -/
def Device.showing (device : Device) (header text : List Char) (ctx : SignTxContext) : Device :=
  { device with
    instructionState := .signTx ctx
    displayState := .paginatedText header text (uiCallbackInit (some .runSignTransactionUIStep) none)
    flow := .paginatedText
    outputs := device.outputs ++ [.paginatedText header text] }

theorem TextStep.body_run {step : TextStep} (reviewing : Reviewing device ctx)
    (fits : step.header.length < headerSize) {text : List Char} (short : text.length < paginatedTextSize)
    {stack : Nat → Vector UInt8 40} {sha3Context : Sha3Context}
    (run : step.text.run device = .ok text { device with
      stack := stack
      instructionState := .signTx (ctx.setSha3Context sha3Context) }) :
    step.body.run device = .ok () (Device.showing { device with stack := stack } step.header text
      { ctx.setSha3Context sha3Context with uiStep := step.next ctx.tx }) := by
  have displayed := @uiDisplayPaginatedText_run { device with
    stack := stack, instructionState := .signTx (ctx.setSha3Context sha3Context) }
    reviewing.ioState _ _ fits short .runSignTransactionUIStep
  rw [TextStep.body, run_bind_ok run, run_bind_ok displayed, run_bind_ok (getSignTx_run rfl)]
  exact setUiStep_run rfl _

theorem showing_showsText (reviewing : Reviewing device ctx) (header text : List Char)
    (sha3Context : Sha3Context) (stack : Nat → Vector UInt8 40) (uiStep : SignUiStep) :
    ShowsText (Device.showing { device with stack := stack } header text
        { ctx.setSha3Context sha3Context with uiStep := uiStep })
      { ctx.setSha3Context sha3Context with uiStep := uiStep } :=
  ⟨⟨rfl, reviewing.stage, reviewing.ioState⟩, rfl, header, text, rfl⟩

theorem TextStep.body_shows {step : TextStep} (reviewing : Reviewing device ctx)
    (fits : step.header.length < headerSize) (yields : Yields step.text device ctx) :
    ∃ text sha3Context after, step.body.run device = .ok () after ∧
      ShowsText after { ctx.setSha3Context sha3Context with uiStep := step.next ctx.tx } ∧
      after.outputs = device.outputs ++ [.paginatedText step.header text] := by
  obtain ⟨text, stack, sha3Context, short, run⟩ := yields
  exact ⟨text, sha3Context, _, TextStep.body_run reviewing fits short run,
    showing_showsText reviewing _ _ _ _ _, rfl⟩

theorem TextStep.body_error {step : TextStep} {exc : Exc} {after : Device}
    (stopped : step.text.run device = .error exc after) : step.body.run device = .error exc after := by
  rw [TextStep.body, run_bind_error stopped]

/-- The final prompt, from the step that shows it. -/
theorem runSignTransactionUIStep_asks (sdk : Sdk) (reviewing : Reviewing device ctx)
    (uiStep : ctx.uiStep = .txConfirm) :
    ∃ after, (runSignTransactionUIStep sdk).run device = .ok () after ∧ AsksToSend after ∧
      after.outputs = device.outputs ++ [.prompt "Send".toList "Transaction?".toList] := by
  have displayed := @uiDisplayPrompt_run device reviewing.ioState "Send".toList
    "Transaction?".toList (by decide) (by decide) .runSignTransactionUIStep .uiRespondWithUserReject
  have ran : (runSignTransactionUIStep sdk).run device = .ok () { device with
      instructionState := .signTx { ctx with uiStep := .txRespond }
      displayState := .prompt "Send".toList "Transaction?".toList
        (uiCallbackInit (some .runSignTransactionUIStep) (some .uiRespondWithUserReject))
      flow := .prompt
      outputs := device.outputs ++ [.prompt "Send".toList "Transaction?".toList] } := by
    rw [runSignTransactionUIStep, run_bind_ok (assertStage_run reviewing),
      run_bind_ok (getSignTx_run reviewing.context), uiStep]
    dsimp only
    rw [run_bind_ok displayed]
    apply setUiStep_run
    exact reviewing.context
  exact ⟨_, ran, ⟨rfl, rfl⟩, rfl⟩

variable (platform : Platform)

/-- A confirmation runs the next step; an exception resets the device. -/
theorem userConfirms_text (shows : ShowsText device ctx) :
    ∃ fired, Reviewing fired ctx ∧ fired.outputs = device.outputs ∧
      (userConfirms platform).run device =
        (tryCatchUi (runSignTransactionUIStep platform.sdk)).run fired := by
  obtain ⟨header, text, display⟩ := shows.display
  refine ⟨{ device with
    displayState := .paginatedText header text (.mk .callbackRun (some .runSignTransactionUIStep) none) },
    ⟨shows.context, shows.stage, shows.ioState⟩, rfl, ?_⟩
  obtain ⟨ins, io, state, _, _, stack, outputs⟩ := device
  cases shows.flow
  cases display
  rfl

end Steps

section Review

variable (platform : Platform) {device : Device} {tx : Transaction}

/-- A text of the review of a transaction is on the screen, and this step comes next. -/
def Stands (device : Device) (tx : Transaction) (uiStep : SignUiStep) : Prop :=
  ∃ ctx, ShowsText device ctx ∧ ctx.tx = tx ∧ ctx.uiStep = uiStep

theorem Stands.not_asks {uiStep : SignUiStep} (stands : Stands device tx uiStep) :
    ¬AsksToSend device := by
  obtain ⟨ctx, shows, _⟩ := stands
  intro asks
  have flow := shows.flow
  rw [asks.flow] at flow
  cases flow

theorem confirm_shows {uiStep : SignUiStep} {step : TextStep} (stands : Stands device tx uiStep)
    (known : textStep platform.sdk uiStep = some step)
    (yields : ∀ device ctx, device.instructionState = .signTx ctx → ctx.tx = tx →
      Yields step.text device ctx) :
    ∃ text after, (userConfirms platform).run device = .ok () after ∧
      Stands after tx (step.next tx) ∧
      after.outputs = device.outputs ++ [.paginatedText step.header text] := by
  obtain ⟨ctx, shows, rfl, rfl⟩ := stands
  obtain ⟨fired, reviewing, outputs, run⟩ := userConfirms_text platform shows
  obtain ⟨text, sha3Context, after, shown, next, more⟩ := step.body_shows reviewing
    (textStep_header_fits known) (yields fired ctx reviewing.context rfl)
  refine ⟨text, after, ?_, ⟨_, next, rfl, rfl⟩, by rw [more, outputs]⟩
  rw [run, tryCatchUi_ok ((runSignTransactionUIStep_text reviewing known).trans shown)]

theorem confirm_stops {uiStep : SignUiStep} {step : TextStep} {exc : Exc}
    (stands : Stands device tx uiStep) (known : textStep platform.sdk uiStep = some step)
    (stopped : ∀ device ctx, device.instructionState = .signTx ctx → ctx.tx = tx →
      step.text.run device = .error exc device) :
    ∃ after, (userConfirms platform).run device = .error exc.atUi after := by
  obtain ⟨ctx, shows, rfl, rfl⟩ := stands
  obtain ⟨fired, reviewing, _, run⟩ := userConfirms_text platform shows
  have failed := stopped fired ctx reviewing.context rfl
  have body := (runSignTransactionUIStep_text reviewing known).trans (step.body_error failed)
  exact ⟨fired, run.trans (tryCatchUi_error body)⟩

theorem confirm_asks (stands : Stands device tx .txConfirm) :
    ∃ after, (userConfirms platform).run device = .ok () after ∧ AsksToSend after ∧
      after.outputs = device.outputs ++ [.prompt "Send".toList "Transaction?".toList] := by
  obtain ⟨ctx, shows, rfl, uiStep⟩ := stands
  obtain ⟨fired, reviewing, outputs, run⟩ := userConfirms_text platform shows
  obtain ⟨after, asked, asks, more⟩ := runSignTransactionUIStep_asks platform.sdk reviewing uiStep
  exact ⟨after, by rw [run, tryCatchUi_ok asked], asks, by rw [more, outputs]⟩

/-- Some number of confirmations leads to the final prompt. -/
def Reaches (device : Device) : Prop :=
  ∃ count final, (runEvents platform (List.replicate count .confirm)).run device = .ok () final ∧
    AsksToSend final

theorem runEvents_confirm {after : Device} (run : (userConfirms platform).run device = .ok () after)
    (count : Nat) :
    (runEvents platform (List.replicate (count + 1) .confirm)).run device =
      (runEvents platform (List.replicate count .confirm)).run after :=
  run_bind_ok run _

theorem runEvents_stop {exc : Exc} {after : Device}
    (run : (userConfirms platform).run device = .error exc after) (count : Nat) :
    (runEvents platform (List.replicate (count + 1) .confirm)).run device = .error exc after :=
  run_bind_error run _

theorem reaches_step {after : Device} (run : (userConfirms platform).run device = .ok () after)
    (notYet : ¬AsksToSend device) : Reaches platform device ↔ Reaches platform after := by
  constructor
  · rintro ⟨count, final, ran, asks⟩
    cases count with
    | zero =>
      cases ran
      exact absurd asks notYet
    | succ count =>
      rw [runEvents_confirm platform run] at ran
      exact ⟨count, final, ran, asks⟩
  · rintro ⟨count, final, ran, asks⟩
    exact ⟨count + 1, final, (runEvents_confirm platform run count).trans ran, asks⟩

theorem not_reaches {exc : Exc} {after : Device}
    (run : (userConfirms platform).run device = .error exc after) (notYet : ¬AsksToSend device) :
    ¬Reaches platform device := by
  rintro ⟨count, final, ran, asks⟩
  cases count with
  | zero =>
    cases ran
    exact notYet asks
  | succ count =>
    rw [runEvents_stop platform run] at ran
    cases ran

/-- The lengths that the stream and the signature leave in a transaction. -/
structure Sized (tx : Transaction) : Prop where
  recipient : tx.recipient.length.toNat ≤ txMaxAddressLength
  sender : tx.sender.length.toNat = rawAddressSize
  value : tx.value.length.toNat ≤ txMaxInt256Length
  gasPrice : tx.gasPrice.length.toNat ≤ txMaxInt256Length
  startGas : tx.startGas.length.toNat ≤ txMaxInt256Length

def shownAmount (tx : Transaction) : Nat := Rlp.beNat tx.value.bytes

/-- The fee as the device computes it. -/
def shownFee (tx : Transaction) : Nat :=
  computedFee (Rlp.beNat tx.gasPrice.bytes) (Rlp.beNat tx.startGas.bytes)

theorem reaches_txConfirm (stands : Stands device tx .txConfirm) : Reaches platform device := by
  obtain ⟨after, run, asks, _⟩ := confirm_asks platform stands
  exact (reaches_step platform run stands.not_asks).mpr ⟨0, after, rfl, asks⟩

def alert : Output := .paginatedText "Smart Contract".toList "Alert".toList

theorem confirm_alerts (stands : Stands device tx .txContractCall) :
    ∃ after, (userConfirms platform).run device = .ok () after ∧ Stands after tx .txConfirm ∧
      after.outputs = device.outputs ++ [alert] := by
  obtain ⟨ctx, shows, rfl, uiStep⟩ := stands
  obtain ⟨fired, reviewing, outputs, run⟩ := userConfirms_text platform shows
  have known : textStep platform.sdk ctx.uiStep =
      some ⟨"Smart Contract".toList, pure "Alert".toList, fun _ => .txConfirm⟩ := by
    rw [uiStep]
    rfl
  have same : fired = { fired with
      stack := fired.stack
      instructionState := .signTx (ctx.setSha3Context ctx.sha3Context) } := by
    have kept : ctx.setSha3Context ctx.sha3Context = ctx := rfl
    rw [kept, ← reviewing.context]
  have body := TextStep.body_run reviewing (textStep_header_fits known)
    (show "Alert".toList.length < paginatedTextSize by decide)
    (show (pure "Alert".toList : DeviceCode _).run fired = .ok "Alert".toList _ from
      congrArg (EStateM.Result.ok "Alert".toList) same)
  have next := showing_showsText reviewing "Smart Contract".toList "Alert".toList
    ctx.sha3Context fired.stack .txConfirm
  refine ⟨_, ?_, ⟨_, next, rfl, rfl⟩, ?_⟩
  · rw [run, tryCatchUi_ok ((runSignTransactionUIStep_text reviewing known).trans body)]
  · show fired.outputs ++ [alert] = _
    rw [outputs]

theorem reaches_txContractCall (stands : Stands device tx .txContractCall) :
    Reaches platform device := by
  obtain ⟨after, run, next, _⟩ := confirm_alerts platform stands
  exact (reaches_step platform run stands.not_asks).mpr (reaches_txConfirm platform next)

theorem amount_yields (sized : Sized tx) (device : Device) (ctx : SignTxContext)
    (context : device.instructionState = .signTx ctx) (same : ctx.tx = tx) :
    YieldsNumber amountText (shownAmount tx) device ctx := by
  subst same
  exact amountText_yields context sized.value

theorem fee_yields (sized : Sized tx) (device : Device) (ctx : SignTxContext)
    (context : device.instructionState = .signTx ctx) (same : ctx.tx = tx) :
    YieldsNumber feeText (shownFee tx) device ctx := by
  subst same
  exact feeText_yields context sized.gasPrice sized.startGas

/-- A confirmation that asks for a number shows it, or it stops the device. -/
theorem confirm_number {uiStep : SignUiStep} {step : TextStep} {number : Nat}
    (stands : Stands device tx uiStep) (known : textStep platform.sdk uiStep = some step)
    (yields : ∀ device ctx, device.instructionState = .signTx ctx → ctx.tx = tx →
      YieldsNumber step.text number device ctx) :
    (Showable number ∧ ∃ text after, (userConfirms platform).run device = .ok () after ∧
        Stands after tx (step.next tx) ∧
        after.outputs = device.outputs ++ [.paginatedText step.header text]) ∨
      ¬Showable number ∧
        ∃ after, (userConfirms platform).run device = .error (unshowable number).atUi after := by
  by_cases small : Showable number
  · left
    exact ⟨small, confirm_shows platform stands known
      fun device ctx context same => (yields device ctx context same).shown small⟩
  · right
    exact ⟨small, confirm_stops platform stands known
      fun device ctx context same => (yields device ctx context same).stopped small⟩

theorem reaches_txFee (stands : Stands device tx .txFee) (sized : Sized tx) :
    Reaches platform device ↔ Showable (shownFee tx) := by
  rcases confirm_number platform stands rfl (fee_yields sized) with
    ⟨small, _, after, run, next, _⟩ | ⟨large, after, run⟩
  · apply iff_of_true _ small
    apply (reaches_step platform run stands.not_asks).mpr
    dsimp only at next
    split_ifs at next
    · exact reaches_txContractCall platform next
    · exact reaches_txConfirm platform next
  · exact iff_of_false (not_reaches platform run stands.not_asks) large

theorem reaches_txAmount (stands : Stands device tx .txAmount) (sized : Sized tx) :
    Reaches platform device ↔ Showable (shownAmount tx) ∧ Showable (shownFee tx) := by
  rcases confirm_number platform stands rfl (amount_yields sized) with
    ⟨small, _, after, run, next, _⟩ | ⟨large, after, run⟩
  · rw [reaches_step platform run stands.not_asks, reaches_txFee platform next sized]
    exact (and_iff_right small).symm
  · exact iff_of_false (not_reaches platform run stands.not_asks) fun both => large both.1

theorem reaches_txSender (stands : Stands device tx .txSender) (sized : Sized tx) :
    Reaches platform device ↔ Showable (shownAmount tx) ∧ Showable (shownFee tx) := by
  obtain ⟨_, after, run, next, _⟩ := confirm_shows platform stands rfl
    fun device ctx context same => senderText_yields context (same ▸ sized.sender)
  rw [reaches_step platform run stands.not_asks, reaches_txAmount platform next sized]

/-- The final APDU, and so many confirmations. -/
def review (p2 : UInt8) (wireBuffer : List UInt8) (count : Nat) : DeviceCode Unit := do
  handleSignTxFinalize platform.sdk p2 wireBuffer
  runEvents platform (List.replicate count .confirm)

variable {p2 : UInt8} {wireBuffer : List UInt8} {ctx : SignTxContext}

/-- Once its checks have passed, the final APDU puts the recipient on the screen. -/
theorem finalize_shows {checked : Device} {policy : SecurityPolicy}
    (context : device.instructionState = .signTx ctx)
    (recipient : ctx.tx.recipient.length.toNat ≤ txMaxAddressLength)
    (passed : (finalChecks platform.sdk p2 wireBuffer).run device = .ok policy checked) :
    ∃ sender text shown, sender.length.toNat = rawAddressSize ∧
      (handleSignTxFinalize platform.sdk p2 wireBuffer).run device = .ok () shown ∧
      Stands shown { ctx.tx with sender := sender } .txSender ∧
      shown.outputs = device.outputs ++ [.paginatedText "Send To".toList text] := by
  obtain ⟨rfl, stage, sha3Context, sender, signature, length, same⟩ := finalChecks_eq_ok context passed
  obtain ⟨signed, held, signedStage, tx, ioState, outputs⟩ : ∃ signed,
      checked.instructionState = .signTx signed ∧ signed.stage = .finalize ∧
        signed.tx = { ctx.tx with sender := sender } ∧ checked.ioState = .expectUi ∧
        checked.outputs = device.outputs := by
    rw [same]
    exact ⟨_, rfl, stage, rfl, rfl, rfl⟩
  have chosen := setUiStep_run held .txRecipient
  have reviewing : Reviewing
      { checked with instructionState := .signTx { signed with uiStep := .txRecipient } }
      { signed with uiStep := .txRecipient } := ⟨rfl, signedStage, ioState⟩
  have yields := @recipientText_yields platform.sdk _ _ reviewing.context
    (show signed.tx.recipient.length.toNat ≤ txMaxAddressLength by rw [tx]; exact recipient)
  obtain ⟨text, _, shown, run, shows, more⟩ := TextStep.body_shows reviewing
    (textStep_header_fits (rfl : textStep platform.sdk .txRecipient = some _)) yields
  refine ⟨sender, text, shown, length, ?_, ⟨_, shows, tx, rfl⟩, ?_⟩
  · rw [handleSignTxFinalize_eq, run_bind_ok passed]
    dsimp only [finalUiStep]
    rw [run_bind_ok chosen, runSignTransactionUIStep_text reviewing rfl]
    exact run
  · rw [more]
    exact congrArg (· ++ _) outputs

end Review

theorem holds_length {tx : Transaction} {field : TxRlpField} {content : List UInt8} {known : TxSlot}
    (holds : Holds tx field content) (place : slot field = some known) :
    (tx.field known).length.toNat ≤ known.capacity := by
  obtain ⟨bytes, length⟩ := holds known place
  rw [length, ← bytes, ByteField.bytes, List.length_take, Vector.length_toList]
  exact Nat.min_le_right _ _

theorem recipient_fits {tx : Transaction} {item : TxRlpField → List UInt8}
    (collected : Collected tx item) : tx.recipient.length.toNat ≤ txMaxAddressLength :=
  holds_length (collected.holds .recipient (by decide)) rfl

theorem sized_of_collected {tx : Transaction} {item : TxRlpField → List UInt8}
    (collected : Collected tx item) {sender : TxAddress}
    (whole : sender.length.toNat = rawAddressSize) : Sized { tx with sender := sender } where
  recipient := holds_length (collected.holds .recipient (by decide)) rfl
  sender := whole
  value := holds_length (collected.holds .value (by decide)) rfl
  gasPrice := holds_length (collected.holds .gasPrice (by decide)) rfl
  startGas := holds_length (collected.holds .startGas (by decide)) rfl

theorem shownAmount_sender (tx : Transaction) (sender : TxAddress) :
    shownAmount { tx with sender := sender } = shownAmount tx := rfl

theorem shownFee_sender (tx : Transaction) (sender : TxAddress) :
    shownFee { tx with sender := sender } = shownFee tx := rfl

/-- The amount of a transaction by the items of its stream. -/
theorem shownAmount_eq {tx : Transaction} {item : TxRlpField → List UInt8}
    (collected : Collected tx item) : shownAmount tx = Rlp.beNat (item .value) :=
  congrArg Rlp.beNat (collected.holds .value (by decide) .value rfl).1

theorem shownFee_eq {tx : Transaction} {item : TxRlpField → List UInt8}
    (collected : Collected tx item) :
    shownFee tx = computedFee (Rlp.beNat (item .gasPrice)) (Rlp.beNat (item .startGas)) := by
  rw [← (collected.holds .gasPrice (by decide) .gasPrice rfl).1,
    ← (collected.holds .startGas (by decide) .startGas rfl).1]
  rfl

section Stream

variable (platform : Platform)

/-- A transaction that passed the final checks can be reviewed up to the final prompt exactly when
there is room on the screen for its amount and for its fee, as the device computes it. -/
theorem review_reaches_prompt_iff (tx : Transaction) {calls : List Call}
    {item : TxRlpField → List UInt8} (decodes : Decodes (tagged calls).flatten item)
    {device checked : Device} {ctx : SignTxContext} {p2 : UInt8} {wireBuffer : List UInt8}
    {policy : SecurityPolicy} (context : device.instructionState = .signTx ctx)
    (stream : ctx.stream = (feed platform.store (txStreamInit tx) calls).stream)
    (passed : (finalChecks platform.sdk p2 wireBuffer).run device = .ok policy checked) :
    (∃ count final, (review platform p2 wireBuffer count).run device = .ok () final ∧
        AsksToSend final) ↔
      Showable (Rlp.beNat (item .value)) ∧
        Showable (computedFee (Rlp.beNat (item .gasPrice)) (Rlp.beNat (item .startGas))) := by
  have collected : Collected ctx.tx item := by
    rw [SignTxContext.tx, stream]
    exact feed_collects platform.overrun decodes
  obtain ⟨sender, text, shown, whole, ran, stands, _⟩ :=
    finalize_shows platform context (recipient_fits collected) passed
  have reaches := reaches_txSender platform stands (sized_of_collected collected whole)
  rw [shownAmount_sender, shownFee_sender, shownAmount_eq collected, shownFee_eq collected] at reaches
  rw [← reaches]
  have confirmed (count : Nat) : (review platform p2 wireBuffer count).run device =
      (runEvents platform (List.replicate count .confirm)).run shown := run_bind_ok ran _
  simp only [confirmed, Reaches]

/-- An operating system that signs: its signature holds two values of 32 bytes. -/
def signingSdk : Sdk :=
  { zeroSdk with
    cxEcdsaSign := fun _ _ => EcdsaSignature.mk
      (Vector.ofFn fun i => if i.val = 3 ∨ i.val = 37 then 0x20 else 0x02) 70 false false }

def signingPlatform : Platform := ⟨signingSdk, ⟨1, 0, 0⟩, noOverrun⟩

/-- A context whose stream has taken up these calls, and its device. -/
def contextAfter (calls : List Call) : SignTxContext :=
  { SignTxContext.zero with
    path := firstPath
    stage := .finalize
    stream := (feed signingPlatform.store (txStreamInit .zero) calls).stream }

def deviceAfter (calls : List Call) : Device :=
  { bootDevice (fun _ => Vector.replicate _ 0) with
    currentIns := some .signTx
    instructionState := .signTx (contextAfter calls) }

theorem deviceAfter_context (calls : List Call) :
    (deviceAfter calls).instructionState = .signTx (contextAfter calls) := rfl

theorem contextAfter_stream (calls : List Call) :
    (contextAfter calls).stream = (feed signingPlatform.store (txStreamInit .zero) calls).stream := rfl

theorem contextAfter_collected {calls : List Call} {item : TxRlpField → List UInt8}
    (decodes : Decodes (tagged calls).flatten item) : Collected (contextAfter calls).tx item :=
  feed_collects noOverrun decodes

theorem transfer_reaches_prompt :
    (∃ count final, (review signingPlatform 0 [] count).run
        (deviceAfter (withFlags 0 transferPieces)) = .ok () final ∧ AsksToSend final) ↔
      Showable (Rlp.beNat (transfer.item .value)) ∧
        Showable (computedFee (Rlp.beNat (transfer.item .gasPrice))
          (Rlp.beNat (transfer.item .startGas))) := by
  have passes : returnsIn (fun _ => true) (finalChecks signingPlatform.sdk 0 [])
      (deviceAfter (withFlags 0 transferPieces)) = true := by decide +kernel
  obtain ⟨policy, checked, passed, _⟩ := returnsIn_iff.mp passes
  exact review_reaches_prompt_iff signingPlatform .zero
    (decodes_encode transfer transferPieces (by decide +kernel) (by decide +kernel)) (deviceAfter_context _)
    (contextAfter_stream _) passed

/-- The transfer of 10 ^ 37 units. -/
def largeTransfer : RlpTransaction :=
  { transfer with
    value := [0x07, 0x85, 0xee, 0x10, 0xd5, 0xda, 0x46, 0xd9, 0x00, 0xf4, 0x36, 0xa0, 0, 0, 0, 0]
    valueFits := by decide }

def largeTransferPieces : List Chunk :=
  [⟨largeTransfer.encode, by decide +kernel, by decide +kernel⟩]

/-- The text of the amount throws, which resets the device in the middle of the review. -/
theorem largeTransfer_resets :
    (feed signingPlatform.store (txStreamInit .zero) (withFlags 0 largeTransferPieces)).status = .ok .finished ∧
      returnsIn (fun _ => true) (finalChecks signingPlatform.sdk 0 [])
        (deviceAfter (withFlags 0 largeTransferPieces)) = true ∧
      ∃ after, (review signingPlatform 0 [] 2).run (deviceAfter (withFlags 0 largeTransferPieces)) =
        .error .reset after := by
  have passes : returnsIn (fun _ => true) (finalChecks signingPlatform.sdk 0 [])
      (deviceAfter (withFlags 0 largeTransferPieces)) = true := by decide +kernel
  have decodes := decodes_encode largeTransfer largeTransferPieces (by decide +kernel) (by decide +kernel)
  have collected : Collected (contextAfter (withFlags 0 largeTransferPieces)).tx largeTransfer.item :=
    contextAfter_collected decodes
  refine ⟨feed_finished noOverrun .zero decodes, passes, ?_⟩
  obtain ⟨policy, checked, passed, _⟩ := returnsIn_iff.mp passes
  obtain ⟨sender, _, shown, whole, finalized, atSender, _⟩ := finalize_shows signingPlatform
    (deviceAfter_context _) (recipient_fits collected) passed
  obtain ⟨_, second, run, atAmount, _⟩ := confirm_shows signingPlatform atSender rfl
    fun device ctx context same => senderText_yields context (same ▸ whole)
  have amount : Rlp.beNat (largeTransfer.item .value) = 10 ^ 37 := by decide +kernel
  rcases confirm_number signingPlatform atAmount rfl
    (amount_yields (sized_of_collected collected whole)) with ⟨small, _⟩ | ⟨_, after, reset⟩
  · rw [shownAmount_sender, shownAmount_eq collected, amount] at small
    exact absurd small (Nat.lt_irrefl _)
  · refine ⟨after, ?_⟩
    have thrown : unshowable (10 ^ 37) = .thrown errInvalidData := by decide
    rw [shownAmount_sender, shownAmount_eq collected, amount, thrown] at reset
    rw [review, run_bind_ok finalized, runEvents_confirm signingPlatform run,
      runEvents_stop signingPlatform reset]
    rfl

/-- A method signature and at least one parameter. -/
def HasParameters (length : Nat) : Prop := ∃ count, 1 ≤ count ∧ length = 4 + 32 * count

theorem looksLikeContractCall_iff (length : Nat) :
    looksLikeContractCall length = true ↔ length = 4 ∨ HasParameters length := by
  unfold looksLikeContractCall HasParameters
  rw [Bool.and_eq_true, decide_eq_true_eq, beq_iff_eq]
  constructor
  · rintro ⟨four, padded⟩
    by_cases bare : length = 4
    · exact .inl bare
    · exact .inr ⟨(length - 4) / 32, by omega, by omega⟩
  · rintro (rfl | ⟨count, some, rfl⟩)
    · decide
    · omega

def finalPrompt : Output := .prompt "Send".toList "Transaction?".toList

/-- From the screen with the fee, these screens and no others lead to the final prompt. -/
def PromptedAfter (fee : Device) (screens : List Output) : Prop :=
  ∃ final, (runEvents platform (List.replicate screens.length .confirm)).run fee = .ok () final ∧
    AsksToSend final ∧ final.outputs = fee.outputs ++ screens

/-- Behind the fee comes the alert and then the final prompt, or the final prompt alone. -/
structure AlertFollows (contract : Prop) (fee : Device) : Prop where
  shown : ∃ text, fee.outputs.getLast? = some (.paginatedText "Max Fee (FTM)".toList text)
  alerted : contract → PromptedAfter platform fee [alert, finalPrompt]
  unalerted : ¬contract → PromptedAfter platform fee [finalPrompt]

variable {device : Device} {tx : Transaction}

theorem prompted_txConfirm (stands : Stands device tx .txConfirm) :
    PromptedAfter platform device [finalPrompt] := by
  obtain ⟨after, run, asks, outputs⟩ := confirm_asks platform stands
  exact ⟨after, runEvents_confirm platform run 0, asks, outputs⟩

theorem prompted_txContractCall (stands : Stands device tx .txContractCall) :
    PromptedAfter platform device [alert, finalPrompt] := by
  obtain ⟨after, run, next, outputs⟩ := confirm_alerts platform stands
  obtain ⟨final, ran, asks, more⟩ := prompted_txConfirm platform next
  refine ⟨final, (runEvents_confirm platform run 1).trans ran, asks, ?_⟩
  rw [more, outputs, List.append_assoc]
  rfl

/-- The screen with the fee, three confirmations after the final APDU. -/
theorem review_fee {ctx : SignTxContext} {p2 : UInt8} {wireBuffer : List UInt8} {fee : Device}
    (context : device.instructionState = .signTx ctx)
    (sized : ∀ sender : TxAddress, sender.length.toNat = rawAddressSize →
      Sized { ctx.tx with sender := sender })
    (ran : (review platform p2 wireBuffer 3).run device = .ok () fee) :
    ∃ sender, Stands fee { ctx.tx with sender := sender }
        (if ctx.tx.isContractCall then .txContractCall else .txConfirm) ∧
      ∃ text, fee.outputs.getLast? = some (.paginatedText "Max Fee (FTM)".toList text) := by
  obtain ⟨_, first, finalized, confirmed⟩ := run_bind_eq_ok.mp ran
  have checks := finalized
  rw [handleSignTxFinalize_eq] at checks
  obtain ⟨policy, checked, passed, _⟩ := run_bind_eq_ok.mp checks
  have recipient := (sized ⟨Vector.replicate _ 0, 20⟩ rfl).recipient
  obtain ⟨sender, _, shown, whole, same, atSender, _⟩ :=
    finalize_shows platform context recipient passed
  rw [finalized] at same
  cases same
  obtain ⟨_, second, run, atAmount, _⟩ := confirm_shows platform atSender rfl
    fun device ctx context same => senderText_yields context (same ▸ whole)
  rw [runEvents_confirm platform run] at confirmed
  rcases confirm_number platform atAmount rfl (amount_yields (sized sender whole)) with
    ⟨_, _, third, run, atFee, _⟩ | ⟨_, third, run⟩
  · rw [runEvents_confirm platform run] at confirmed
    rcases confirm_number platform atFee rfl (fee_yields (sized sender whole)) with
      ⟨_, text, fourth, run, next, outputs⟩ | ⟨_, fourth, run⟩
    · rw [runEvents_confirm platform run] at confirmed
      cases confirmed
      exact ⟨sender, next, text, by rw [outputs, List.getLast?_concat]⟩
    · rw [runEvents_stop platform run] at confirmed
      cases confirmed
  · rw [runEvents_stop platform run] at confirmed
    cases confirmed

theorem review_shows_fee {ctx : SignTxContext} {p2 : UInt8} {wireBuffer : List UInt8}
    {checked : Device} {policy : SecurityPolicy} (context : device.instructionState = .signTx ctx)
    (sized : ∀ sender : TxAddress, sender.length.toNat = rawAddressSize →
      Sized { ctx.tx with sender := sender })
    (passed : (finalChecks platform.sdk p2 wireBuffer).run device = .ok policy checked)
    (amount : Showable (shownAmount ctx.tx)) (fee : Showable (shownFee ctx.tx)) :
    ∃ sender shown, (review platform p2 wireBuffer 3).run device = .ok () shown ∧
      Stands shown { ctx.tx with sender := sender }
        (if ctx.tx.isContractCall then .txContractCall else .txConfirm) := by
  have recipient := (sized ⟨Vector.replicate _ 0, 20⟩ rfl).recipient
  obtain ⟨sender, _, first, whole, finalized, atSender, _⟩ :=
    finalize_shows platform context recipient passed
  obtain ⟨_, second, toAmount, atAmount, _⟩ := confirm_shows platform atSender rfl
    fun device ctx context same => senderText_yields context (same ▸ whole)
  obtain ⟨_, third, toFee, atFee, _⟩ := confirm_shows platform atAmount rfl
    fun device ctx context same =>
      (amount_yields (sized sender whole) device ctx context same).shown amount
  obtain ⟨_, shown, toNext, atNext, _⟩ := confirm_shows platform atFee rfl
    fun device ctx context same => (fee_yields (sized sender whole) device ctx context same).shown fee
  refine ⟨sender, shown, ?_, atNext⟩
  rw [review, run_bind_ok finalized, runEvents_confirm platform toAmount,
    runEvents_confirm platform toFee, runEvents_confirm platform toNext]
  rfl

/-- The mark of a contract call and the alert follow the length of the data item. -/
def AlertFollowsLength (tx : Transaction) (calls : List Call) (length : Nat) : Prop :=
  let stream := (feed platform.store (txStreamInit tx) calls).stream
  (stream.tx.isContractCall = true ↔ HasParameters length) ∧
    ∀ device ctx p2 wireBuffer fee, device.instructionState = .signTx ctx → ctx.stream = stream →
      (review platform p2 wireBuffer 3).run device = .ok () fee →
      AlertFollows platform (HasParameters length) fee

/-- The flag and the alert follow the length of the data unless a v item is too long for its array, but for
the bare method signature: it counts as a contract call, which the comment beside the test excludes. -/
theorem alert_follows_length_iff (tx : Transaction) {calls : List Call}
    (finished : (feed platform.store (txStreamInit tx) calls).status = .ok .finished)
    (spared : ¬LongV (tagged calls).flatten) :
    ∃ item, Decodes (tagged calls).flatten item ∧
      (AlertFollowsLength platform tx calls (item .data).length ↔ (item .data).length ≠ 4) := by
  have same : feed platform.store (txStreamInit tx) calls = feed storeInside (txStreamInit tx) calls :=
    feed_spared platform.overrun tx spared
  rw [same] at finished
  obtain ⟨item, decodes⟩ := (feed_finished_iff tx calls).mp finished
  refine ⟨item, decodes, ?_⟩
  have collected : Collected (feed platform.store (txStreamInit tx) calls).stream.tx item :=
    feed_collects platform.overrun decodes
  have flag : (feed platform.store (txStreamInit tx) calls).stream.tx.isContractCall = true ↔
      (item .data).length = 4 ∨ HasParameters (item .data).length := by
    rw [collected.flag, looksLikeContractCall_iff]
  constructor
  · rintro ⟨follows, _⟩ bare
    obtain ⟨count, some, length⟩ := follows.mp (flag.mpr (.inl bare))
    omega
  · intro notBare
    have exact_flag := flag.trans (or_iff_right notBare)
    refine ⟨exact_flag, ?_⟩
    intro device ctx p2 wireBuffer fee context stream ran
    have same : ctx.tx = (feed platform.store (txStreamInit tx) calls).stream.tx := by
      rw [SignTxContext.tx, stream]
    obtain ⟨sender, stands, shown⟩ := review_fee platform context
      (fun sender whole => same ▸ sized_of_collected collected whole) ran
    rw [same] at stands
    refine ⟨shown, ?_, ?_⟩
    · intro contract
      rw [if_pos (exact_flag.mpr contract)] at stands
      exact prompted_txContractCall platform stands
    · intro plain
      rw [if_neg (fun called => plain (exact_flag.mp called))] at stands
      exact prompted_txConfirm platform stands

end Stream

theorem transfer_without_alert :
    ∃ item, Decodes (tagged (withFlags 0 transferPieces)).flatten item ∧
      (AlertFollowsLength signingPlatform .zero (withFlags 0 transferPieces) (item .data).length ↔
        (item .data).length ≠ 4) := by
  have decodes := decodes_encode transfer transferPieces (by decide +kernel) (by decide +kernel)
  exact alert_follows_length_iff signingPlatform .zero (feed_finished noOverrun .zero decodes)
    (decodes_spared decodes)

/-- A call with a method signature and nothing else. -/
def bareCall : RlpTransaction := { transfer with data := [0xd0, 0xe3, 0x0d, 0xb0] }

def bareCallPieces : List Chunk := [⟨bareCall.encode, by decide +kernel, by decide +kernel⟩]

theorem bareCall_alerts :
    (feed signingPlatform.store (txStreamInit .zero) (withFlags 0 bareCallPieces)).status = .ok .finished ∧
      (contextAfter (withFlags 0 bareCallPieces)).tx.isContractCall = true ∧
      ¬HasParameters (bareCall.item .data).length ∧
      ∃ fee, (review signingPlatform 0 [] 3).run (deviceAfter (withFlags 0 bareCallPieces)) = .ok () fee ∧
        PromptedAfter signingPlatform fee [alert, finalPrompt] := by
  have passes : returnsIn (fun _ => true) (finalChecks signingPlatform.sdk 0 [])
      (deviceAfter (withFlags 0 bareCallPieces)) = true := by decide +kernel
  have decodes := decodes_encode bareCall bareCallPieces (by decide +kernel) (by decide +kernel)
  have collected : Collected (contextAfter (withFlags 0 bareCallPieces)).tx bareCall.item :=
    contextAfter_collected decodes
  have flag : (contextAfter (withFlags 0 bareCallPieces)).tx.isContractCall = true := collected.flag
  refine ⟨feed_finished noOverrun .zero decodes, flag, ?_, ?_⟩
  · rintro ⟨count, some, length⟩
    have four : (bareCall.item .data).length = 4 := rfl
    omega
  · obtain ⟨policy, checked, passed, _⟩ := returnsIn_iff.mp passes
    have amount : Showable (Rlp.beNat (bareCall.item .value)) := by decide +kernel
    have fee : Showable (computedFee (Rlp.beNat (bareCall.item .gasPrice))
      (Rlp.beNat (bareCall.item .startGas))) := by decide +kernel
    rw [← shownAmount_eq collected] at amount
    rw [← shownFee_eq collected] at fee
    obtain ⟨sender, shown, ran, stands⟩ := review_shows_fee signingPlatform
      (deviceAfter_context _) (fun sender whole => sized_of_collected collected whole) passed amount fee
    rw [if_pos flag] at stands
    exact ⟨shown, ran, prompted_txContractCall signingPlatform stands⟩

end FantomLedger
