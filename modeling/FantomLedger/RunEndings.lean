import FantomLedger.HandlerOutcomes

/-! What ends a run: a reset of the device, or an access outside an array. -/

namespace FantomLedger

open Library Library.Program Library.Outcomes StreamParser

/-- The device does not come back from the event. -/
def EndsRun (platform : Platform) (device : Device) (event : Event) : Prop :=
  ∃ exc after, (handleEvent platform event).run device = .error exc after

/-- The events that a device does not come back from: a request for the key or the address of a path of ten
indexes, a chunk with a v item that is too long for its array, a request for the signature under a path of ten
indexes, and the confirmation of a screen behind which there is a number that is too large for its array. -/
inductive Fatal (platform : Platform) (device : Device) : Event → Prop
  | key {wire : List UInt8} {path : Bip44Path} (rest : AtRest device) (parses : Parses wire path)
      (long : TooLong path) : Fatal platform device (sends .getKey 0 wire)
  | address {p1 : UInt8} {wire : List UInt8} {path : Bip44Path} (rest : AtRest device)
      (known : p1 = p1ReturnAddress ∨ p1 = p1DisplayAddress) (parses : Parses wire path) (long : TooLong path) :
      Fatal platform device (sends .getAddr p1 wire)
  | chunk {path : Bip44Path} {chunks : List Chunk} {wire : List UInt8}
      (collecting : Collecting platform path chunks device) (short : wire.length < 256)
      (long : ChunkTooLong platform chunks wire) : Fatal platform device (sends .signTx p1StreamData wire)
  | signature {path : Bip44Path} {chunks : List Chunk} (collecting : Collecting platform path chunks device)
      (long : FinalTooLong platform path chunks) : Fatal platform device (sends .signTx p1GetSignature [])
  | number {screen : Screen} {ctx : SignTxContext} (asking : Asking screen .runSignTransactionUIStep device)
      (context : device.instructionState = .signTx ctx) (large : Unshown ctx) : Fatal platform device .confirm

section MainLoop

variable {platform : Platform} {device : Device} {bytes : List UInt8} {unlocked : Bool}

/-- The main loop answers an exception and is back at rest, or it has no answer. -/
theorem fantomMain_ends {good : Device → Prop} {fatal : Prop}
    (handled : Ends (fantomMainTry platform bytes unlocked) device (fun _ => good) fun exc _ => Answered exc ∨ fatal)
    (ended : ∀ after, AtRest after → good after) :
    Ends (fantomMain platform bytes unlocked) device (fun _ => good) fun _ _ => fatal := by
  cases run : (fantomMainTry platform bytes unlocked).run device with
  | ok result after => exact ends_of_ok (fantomMain_ok platform run) (handled.of_ok run)
  | error exc after =>
    have stops := handled.of_error run
    unfold Ends
    simp only [EStateM.run, fantomMain] at run ⊢
    rw [run]
    cases exc with
    | thrown code =>
      dsimp only
      split_ifs with starts passes
      · exact ended _ ⟨rfl, rfl, rfl⟩
      · have answered := @answer_run .empty (by decide) code after
        simp only [EStateM.run] at answered
        rw [answered]
        exact ended _ (atRest_rested _ _)
      · apply stops.resolve_left
        rintro ⟨_, ⟨⟩, answers⟩
        exact not_or.mpr ⟨starts, passes⟩ answers
    | reset => exact stops.resolve_left not_answered_reset
    | undefined => exact stops.resolve_left not_answered_undefined
    | diverges => exact stops.resolve_left (by rintro ⟨_, ⟨⟩, _⟩)

theorem fantomMain_fails {exc : Exc} {thrown : Device}
    (run : (fantomMainTry platform bytes unlocked).run device = .error exc thrown) (missing : ¬Answered exc) :
    ∃ exc after, (fantomMain platform bytes unlocked).run device = .error exc after := by
  simp only [EStateM.run, fantomMain] at run ⊢
  rw [run]
  cases exc with
  | thrown code =>
    have unanswered : ¬((code = exceptionIoReset ∨ code = errAssert) ∨ errPassFrom < code ∧ code < errPassTo) :=
      fun answers => missing ⟨code, rfl, answers⟩
    rw [not_or] at unanswered
    dsimp only
    rw [if_neg unanswered.1, if_neg unanswered.2]
    exact ⟨_, _, rfl⟩
  | reset => exact ⟨_, _, rfl⟩
  | undefined => exact ⟨_, _, rfl⟩
  | diverges => exact ⟨_, _, rfl⟩

/-- An APDU comes to the handler of its instruction, or it is answered. -/
theorem fantomMainTry_ends {good : Device → Prop} {fatal : Prop}
    (starts : ∀ ins p1 p2 data, device.currentIns = none → data.length < 256 → unlocked = true →
      bytes = apduBytes ins p1 p2 data →
      Ends (runHandler platform ins p1 p2 data true) { device with
        ioState := .expectNone
        instructionState := .cleared
        currentIns := some ins } (fun _ => good) fun exc _ => Answered exc ∨ fatal)
    (continues : ∀ ins p1 p2 data, device.currentIns = some ins → data.length < 256 → unlocked = true →
      bytes = apduBytes ins p1 p2 data →
      Ends (runHandler platform ins p1 p2 data false) { device with ioState := .expectNone } (fun _ => good)
        fun exc _ => Answered exc ∨ fatal) :
    Ends (fantomMainTry platform bytes unlocked) device (fun _ => good) fun exc _ => Answered exc ∨ fatal := by
  have passes {code : Nat} (known : errPassFrom < code ∧ code < errPassTo) : Answered (.thrown code) ∨ fatal :=
    .inl (answered_thrown known)
  unfold fantomMainTry
  apply ends_bind_ok (EStateM.run_get _)
  apply ends_bind_validate (passes (by decide))
  intro _
  apply ends_bind_ok (EStateM.run_modify _ _)
  split_ifs with empty
  · exact ends_of_error rfl (.inl ⟨_, rfl, .inl (.inl rfl)⟩)
  apply ends_bind_validate (passes (by decide))
  intro open_
  split
  · rename_i headerCla headerIns p1 p2 lc data
    apply ends_bind_validate (passes (by decide))
    intro length
    apply ends_bind_validate (passes (by decide))
    intro known
    cases found : getHandler headerIns with
    | none => exact ends_of_error rfl (passes (by decide))
    | some ins =>
      have size := beq_iff_eq.mp length
      have same : headerCla :: headerIns :: p1 :: p2 :: lc :: data = apduBytes ins p1 p2 data := by
        rw [apduBytes, beq_iff_eq.mp known, getHandler_eq found, size, UInt8.ofNat_toNat]
      have short : data.length < 256 := by
        rw [size]
        exact lc.toNat_lt
      dsimp only
      apply ends_bind_ok (EStateM.run_get _)
      dsimp only
      cases running : device.currentIns with
      | none =>
        apply ends_bind_ok (EStateM.run_modify _ _)
        exact starts ins p1 p2 data running short open_ same
      | some current =>
        apply ends_bind_validate (passes (by decide))
        intro continued
        cases beq_iff_eq.mp continued
        have handled := continues ins p1 p2 data running short open_ same
        rw [running] at handled
        exact handled
  · exact ends_of_error rfl (passes (by decide))

end MainLoop

section Events

variable {platform : Platform} {device : Device}

theorem Ready.apdu_ends (inside : platform.overrun = noOverrun) (der : SignsDer platform.sdk)
    (ready : Ready platform device) (bytes : List UInt8) (unlocked : Bool) :
    Ends (fantomMain platform bytes unlocked) device (fun _ => Ready platform)
      fun _ _ => Fatal platform device (.apdu bytes unlocked) := by
  apply fantomMain_ends _ fun _ rest => .rest rest
  cases ready with
  | rest rest =>
    apply fantomMainTry_ends
    · rintro ins p1 p2 data _ short rfl rfl
      apply (runHandler_starts_settles ins p1 p2 data rfl rfl).ends
      intro long
      cases ins with
      | getKey =>
        obtain ⟨rfl, rfl, path, parses, long⟩ := long
        exact .key rest parses long
      | getAddr =>
        obtain ⟨known, rfl, path, parses, long⟩ := long
        exact .address rest known parses long
      | version => exact long.elim
      | signTx => exact long.elim
    · intro ins _ _ _ running
      cases rest.ins.symm.trans running
  | @collecting path chunks valid collecting =>
    apply fantomMainTry_ends
    · intro _ _ _ _ free
      cases collecting.ins.symm.trans free
    · rintro ins p1 p2 data running short rfl rfl
      cases collecting.ins.symm.trans running
      have streaming : Streaming platform path chunks { device with ioState := .expectNone } :=
        ⟨collecting.ins, collecting.context⟩
      apply (runHandler_continues_settles inside der valid streaming p1 p2 (Nat.lt_trans short (by decide))).ends
      rintro (⟨rfl, rfl, long⟩ | ⟨rfl, rfl, rfl, long⟩)
      · exact .chunk collecting short long
      · exact .signature collecting long
  | asking asking prepared =>
    have run : (fantomMainTry platform bytes unlocked).run device =
        .error (.thrown errInvalidState) device := by
      unfold fantomMainTry
      rw [run_bind_ok (EStateM.run_get _), asking.ioState]
      rfl
    exact ends_of_error run (.inl (answered_thrown (by decide)))

/-- The function behind a screen fails exactly at a number that is too large. -/
theorem Prepared.settles {fn : UiCallbackFn} (prepared : Prepared device fn) (ioState : device.ioState = .expectUi)
    (running : device.currentIns ≠ none) :
    Settles (fun _ => False)
      (fn = .runSignTransactionUIStep ∧ ∃ ctx, device.instructionState = .signTx ctx ∧ Unshown ctx)
      (runCallback platform fn) device fun _ => Ready platform := by
  have free : ScreenFree device := .inr ioState
  cases prepared with
  | key context ready path step =>
    apply settles_of_returns (keyStep_returns platform free running context ready path step)
    rintro ⟨⟨⟩, _⟩
  | address context ready path step =>
    apply settles_of_returns (addressStep_returns platform free running context ready path step)
    rintro ⟨⟨⟩, _⟩
  | start ins context starting valid step =>
    apply settles_of_returns (startStep_returns platform free ins context starting valid step)
    rintro ⟨⟨⟩, _⟩
  | @review ctx context stage ready sized step =>
    have fatal_iff : ((UiCallbackFn.runSignTransactionUIStep = .runSignTransactionUIStep) ∧
        ∃ ctx, device.instructionState = .signTx ctx ∧ Unshown ctx) ↔ Unshown ctx := by
      constructor
      · rintro ⟨_, other, same, large⟩
        cases context.symm.trans same
        exact large
      · exact fun large => ⟨rfl, ctx, context, large⟩
    rw [fatal_iff]
    exact reviewStep_settles platform ⟨⟨context, stage, ioState⟩, running, ready⟩ sized step

theorem tryCatchUi_settles {fatal : Prop} {code : DeviceCode Unit} {good : Unit → Device → Prop}
    (settles : Settles (fun _ => False) fatal code device good) :
    Settles (fun _ => False) fatal (tryCatchUi code) device good := by
  cases run : code.run device with
  | ok result after =>
    obtain ⟨spared, holds⟩ := settles.returns run
    exact settles_of_ok (tryCatchUi_ok run) spared holds
  | error exc after => exact settles_of_error (tryCatchUi_error run) (Ends.of_error settles run)

/-- A confirmation ends the run exactly at a number that is too large. -/
theorem Asking.confirm_settles {screen : Screen} {fn : UiCallbackFn} (asking : Asking screen fn device)
    (prepared : Prepared device fn) :
    Settles (fun _ => False)
      (fn = .runSignTransactionUIStep ∧ ∃ ctx, device.instructionState = .signTx ctx ∧ Unshown ctx)
      (userConfirms platform) device fun _ => Ready platform := by
  obtain ⟨displayState, run⟩ := @Asking.confirm_run platform _ _ _ asking
  have prepared' : Prepared { device with displayState := displayState } fn := by
    cases prepared with
    | key context ready path step => exact .key context ready path step
    | address context ready path step => exact .address context ready path step
    | start ins context starting valid step => exact .start ins context starting valid step
    | review context stage ready sized step => exact .review context stage ready sized step
  have settles := tryCatchUi_settles (@Prepared.settles platform _ _ prepared' asking.ioState asking.ins)
  unfold Settles Ends at settles ⊢
  rw [run]
  exact settles

theorem Ready.buttons_unmoved (idle : device.flow = .idle ∨ device.flow = .busy) :
    (handleEvent platform .confirm).run device = .ok () device ∧
      (handleEvent platform .reject).run device = .ok () device :=
  (@FantomLedger.buttons_unmoved platform device idle).2

/-- Whatever comes, the device stays ready, or the event is one that it does not come back from. -/
theorem Ready.event_ends (inside : platform.overrun = noOverrun) (der : SignsDer platform.sdk)
    (ready : Ready platform device) (event : Event) :
    Ends (handleEvent platform event) device (fun _ => Ready platform) fun _ _ => Fatal platform device event := by
  have kept := ready
  cases event with
  | apdu bytes unlocked => exact ready.apdu_ends inside der bytes unlocked
  | confirm =>
    cases ready with
    | rest rest => exact ends_of_ok (Ready.buttons_unmoved (.inl rest.flow)).1 kept
    | collecting _ collecting => exact ends_of_ok (Ready.buttons_unmoved (.inr collecting.flow)).1 kept
    | asking asking prepared =>
      apply ((@Asking.confirm_settles platform _ _ _ asking prepared).ends _).weaken
      · exact fun _ _ stops => stops.resolve_left not_false
      · rintro ⟨rfl, ctx, context, large⟩
        exact .number asking context large
  | reject =>
    cases ready with
    | rest rest => exact ends_of_ok (Ready.buttons_unmoved (.inl rest.flow)).2 kept
    | collecting _ collecting => exact ends_of_ok (Ready.buttons_unmoved (.inr collecting.flow)).2 kept
    | @asking screen _ asking prepared =>
      cases screen with
      | text header body => exact ends_of_ok asking.reject_text kept
      | question header body =>
        obtain ⟨after, rejects, rest, _⟩ := @Asking.reject_question platform _ _ _ _ asking
        exact ends_of_ok rejects (.rest rest)

/-- The first APDU of an instruction ends the run if its handler does. -/
theorem start_fails (rest : AtRest device) {ins : Ins} {p1 : UInt8} {wire : List UInt8}
    (short : wire.length < 256) (long : StartTooLong ins p1 0 wire) :
    EndsRun platform device (sends ins p1 wire) := by
  have settles := @runHandler_starts_settles platform { device with
    ioState := .expectNone, instructionState := .cleared, currentIns := some ins } ins p1 0 wire rfl rfl
  obtain ⟨exc, after, run, missing⟩ := settles.fatal_iff.mpr long
  apply fantomMain_fails _ missing
  · exact after
  · rw [fantomMainTry_run rest.ioState short, rest.ins]
    exact run

/-- A further APDU ends the run if the handler does. -/
theorem next_fails (inside : platform.overrun = noOverrun) (der : SignsDer platform.sdk)
    {path : Bip44Path} {chunks : List Chunk}
    (valid : bip44HasValidFantomPrefix path = true) (collecting : Collecting platform path chunks device) {p1 : UInt8}
    {wire : List UInt8} (short : wire.length < 256) (long : NextTooLong platform path chunks p1 0 wire) :
    EndsRun platform device (sends .signTx p1 wire) := by
  have streaming : Streaming platform path chunks { device with ioState := .expectNone } :=
    ⟨collecting.ins, collecting.context⟩
  obtain ⟨exc, after, run, missing⟩ := (runHandler_continues_settles inside der valid streaming p1 0
    (Nat.lt_trans short (by decide))).fatal_iff.mpr long
  exact fantomMain_fails ((fantomMainTry_continues collecting.ins collecting.ioState short).trans run) missing

theorem parses_short {wire : List UInt8} {path : Bip44Path} (parses : Parses wire path) : wire.length < 256 := by
  rw [wire_of_parse parses]
  exact path_short path

theorem Ready.valid {path : Bip44Path} {chunks : List Chunk} (ready : Ready platform device)
    (collecting : Collecting platform path chunks device) : bip44HasValidFantomPrefix path = true := by
  cases ready with
  | rest rest => cases rest.ins.symm.trans collecting.ins
  | collecting valid other =>
    obtain ⟨ctx, context, same, _⟩ := collecting.context
    obtain ⟨ctx', context', same', _⟩ := other.context
    cases context.symm.trans context'
    rw [← same, same']
    exact valid
  | asking asking _ => cases asking.ioState.symm.trans collecting.ioState

theorem Asking.prepared {screen : Screen} {fn : UiCallbackFn} (asking : Asking screen fn device)
    (ready : Ready platform device) : Prepared device fn := by
  cases ready with
  | rest rest => exact absurd rest.ins asking.ins
  | collecting _ collecting => cases collecting.ioState.symm.trans asking.ioState
  | @asking other _ asking' prepared =>
    have display := asking.display.symm.trans asking'.display
    cases screen <;> cases other <;> cases display <;> exact prepared

theorem Fatal.ends_run (inside : platform.overrun = noOverrun) (der : SignsDer platform.sdk)
    (ready : Ready platform device) {event : Event}
    (fatal : Fatal platform device event) : EndsRun platform device event := by
  cases fatal with
  | key rest parses long => exact start_fails rest (parses_short parses) ⟨rfl, rfl, _, parses, long⟩
  | address rest known parses long => exact start_fails rest (parses_short parses) ⟨known, rfl, _, parses, long⟩
  | chunk collecting short long =>
    exact next_fails inside der (ready.valid collecting) collecting short (.inl ⟨rfl, rfl, long⟩)
  | signature collecting long =>
    exact next_fails inside der (ready.valid collecting) collecting (by decide) (.inr ⟨rfl, rfl, rfl, long⟩)
  | number asking context large =>
    obtain ⟨exc, after, run, _⟩ := (@Asking.confirm_settles platform _ _ _ asking
      (asking.prepared ready)).fatal_iff.mpr ⟨rfl, _, context, large⟩
    exact ⟨exc, after, run⟩

end Events

section Runs

variable {platform : Platform} {session : List Happening} {device : Device}

theorem Run.ready (inside : platform.overrun = noOverrun) (der : SignsDer platform.sdk)
    (run : Run platform session device) : Ready platform device := by
  induction run with
  | boot stack => exact .rest ⟨rfl, rfl, rfl⟩
  | event run event handled ih => exact (ih.event_ends inside der event).of_ok handled

/-- In every run, an event ends the run exactly if it is one of those; an access outside an array counts as
an end. -/
theorem run_ends_iff (inside : platform.overrun = noOverrun) (der : SignsDer platform.sdk)
    (run : Run platform session device) (event : Event) :
    EndsRun platform device event ↔ Fatal platform device event := by
  have ready := run.ready inside der
  constructor
  · rintro ⟨exc, after, failed⟩
    exact (ready.event_ends inside der event).of_error failed
  · exact fun fatal => fatal.ends_run inside der ready

/-- A request for the key of a path of ten indexes, on a device that has just started. -/
theorem longKey_ends :
    EndsRun unevenPlatform (bootDevice fun _ => Vector.replicate 40 0) (sends .getKey 0 longPayload) := by
  have der : SignsDer unevenPlatform.sdk := fun _ _ => ⟨1, 2 ^ 255, transfer_signable.signs⟩
  have parses : Parses longPayload longPath := by
    unfold Parses
    decide +kernel
  exact (run_ends_iff rfl der (.boot _) _).mpr (.key ⟨rfl, rfl, rfl⟩ parses ⟨rfl, rfl⟩)

end Runs

end FantomLedger
