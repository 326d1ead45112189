import FantomLedger.NbglRejection
import FantomLedger.SessionProgress

/-! Events that a device with a large screen handles: from any state back to rest, to a new transaction, and
through the chunks of its stream. -/

namespace FantomLedger.Nbgl

open Library Library.Program Library.Progress

/-- Where the events lead. -/
abbrev Leads (platform : Platform) (s : State) (events : List Event) (outputs : List Output)
    (arrives : State → Prop) : Prop :=
  Progress.Leads (handleEvent platform) State.outputs s events outputs arrives

section Apdu

variable {platform : Platform} {s after : State}

theorem fantomMainTry_run {ins : Ins} {p1 : UInt8} {data : List UInt8}
    (ioState : s.device.ioState = .expectIo) (short : data.length < 256) :
    (fantomMainTry platform (apduBytes ins p1 0 data) true).run s =
      (match s.device.currentIns with
      | none => (runHandler platform ins p1 0 data true).run { s with device := { s.device with
          ioState := .expectNone, instructionState := .cleared, currentIns := some ins } }
      | some current =>
        (do validate (ins == current) errInvalidState; runHandler platform ins p1 0 data false).run
          s.handling) := by
  have size : (UInt8.ofNat data.length).toNat = data.length := UInt8.toNat_ofNat_of_lt' short
  unfold fantomMainTry
  rw [run_bind_ok (EStateM.run_get _), ioState, beq_self_eq_true, validate_true, pure_bind,
    run_bind_ok (EStateM.run_modify _ _), if_neg (by simp [apduBytes]), validate_true, pure_bind]
  dsimp only [apduBytes]
  rw [size, beq_self_eq_true, validate_true, pure_bind, beq_self_eq_true, validate_true, pure_bind,
    getHandler_byte]
  dsimp only
  rw [run_bind_ok (EStateM.run_get _)]
  dsimp only
  cases running : s.device.currentIns with
  | none => rfl
  | some current =>
    dsimp only [State.handling]
    rw [running]

/-- No instruction is going on, and the device waits for an APDU. -/
structure Idle (s : State) : Prop extends AtRest s where
  ioState : s.device.ioState = .expectIo

/-- The first APDU of an instruction. -/
theorem sends_starts (idle : Idle s) {ins : Ins} {p1 : UInt8} {data : List UInt8} (short : data.length < 256)
    (run : (runHandler platform ins p1 0 data true).run { s with device := { s.device with
      ioState := .expectNone, instructionState := .cleared, currentIns := some ins } } = .ok () after) :
    (handleEvent platform (sends ins p1 data)).run s = .ok () after := by
  apply catching_run
  have handled := @fantomMainTry_run platform _ ins p1 _ idle.ioState short
  rw [idle.ins] at handled
  exact handled.trans run

/-- A further APDU of the instruction that is running. -/
theorem sends_continues {ins : Ins} (running : s.device.currentIns = some ins)
    (ioState : s.device.ioState = .expectIo) {p1 : UInt8} {data : List UInt8} (short : data.length < 256)
    (run : (runHandler platform ins p1 0 data false).run s.handling = .ok () after) :
    (handleEvent platform (sends ins p1 data)).run s = .ok () after := by
  apply catching_run
  have handled := @fantomMainTry_run platform _ ins p1 _ ioState short
  rw [running] at handled
  dsimp only at handled
  rw [beq_self_eq_true, validate_true, pure_bind] at handled
  exact handled.trans run

/-- An APDU of another class. -/
def foreign : Event := .apdu [0, 0, 0, 0, 0] true

theorem refused_idle {body : Code Unit} {error : Nat} {thrown : State}
    (run : body.run s = .error (.thrown error) thrown)
    (known : error ≠ exceptionIoReset ∧ error ≠ errAssert) (passes : errPassFrom < error ∧ error < errPassTo) :
    ∃ after, (catching body).run s = .ok () after ∧ Idle after ∧
      after.outputs = thrown.outputs ++ [.response error .empty] := by
  have fits : Payload.empty.bytes.length + 2 < ioApduBufferSize := by decide
  have answered := onShared_run (ioSendBuf_run fits error thrown.device)
  refine ⟨{ thrown with
    device := { thrown.device with
      ioState := .expectIo
      currentIns := none
      outputs := thrown.device.outputs ++ [.response error .empty] }
    page := .home }, ?_, ⟨⟨rfl, rfl⟩, rfl⟩, rfl⟩
  simp only [EStateM.run, catching] at run ⊢
  rw [run]
  dsimp only
  rw [if_neg (not_or.mpr known), if_pos passes]
  exact run_bind_ok answered _

/-- In whatever state the device is, this brings it back to rest. -/
theorem foreign_idles (platform : Platform) (s : State) :
    ∃ error, Leads platform s [foreign] [.response error .empty] Idle := by
  by_cases ioState : s.device.ioState = .expectIo
  · have run : (fantomMainTry platform [0, 0, 0, 0, 0] true).run s =
        .error (.thrown errUnknownCla) s.handling := by
      unfold fantomMainTry
      rw [run_bind_ok (EStateM.run_get _), ioState]
      rfl
    obtain ⟨after, handled, idle, outputs⟩ := refused_idle run (by decide) (by decide)
    exact ⟨_, leads_input handled outputs idle⟩
  · have run : (fantomMainTry platform [0, 0, 0, 0, 0] true).run s =
        .error (.thrown errInvalidState) s := by
      unfold fantomMainTry
      rw [run_bind_ok (EStateM.run_get _), beq_false_of_ne ioState]
      rfl
    obtain ⟨after, handled, idle, outputs⟩ := refused_idle run (by decide) (by decide)
    exact ⟨_, leads_input handled outputs idle⟩

end Apdu

section Open

variable {platform : Platform} {path : Bip44Path} {s : State}

/-- A page of a new transaction, behind which this step comes. -/
structure Opening (platform : Platform) (path : Bip44Path) (uiStep : SignUiStep) (s : State) : Prop where
  accepts : (touch platform true).run s = runSignTransactionInitUIStep.run s
  ins : s.device.currentIns = some .signTx
  ioState : s.device.ioState = .expectNone
  context : s.device.instructionState = .signTx (startContext path uiStep)

/-- The pages of a new transaction, and the steps behind them. -/
def openingPage : SignUiStep → Option (Page × SignUiStep)
  | .initWarning => some (unusualPage, .initConfirm)
  | .initConfirm => some (startPage .runSignTransactionInitUIStep, .initRespond)
  | _ => none

theorem openingPage_shown {uiStep next : SignUiStep} {page : Page} (ins : s.device.currentIns = some .signTx)
    (ioState : s.device.ioState = .expectNone)
    (context : s.device.instructionState = .signTx (startContext path uiStep))
    (known : openingPage uiStep = some (page, next)) :
    ∃ after, runSignTransactionInitUIStep.run s = .ok () after ∧ Opening platform path next after ∧
      after.outputs = s.outputs := by
  obtain ⟨⟨current, io, state, display, flow, stack, outputs⟩, shown, confirm, reject, text, fields, count,
    press, address, isPath, showPath, due⟩ := s
  cases ins
  cases ioState
  cases context
  cases uiStep <;> cases known
  · exact ⟨_, rfl, ⟨rfl, rfl, rfl, rfl⟩, rfl⟩
  · exact ⟨_, rfl, ⟨rfl, rfl, rfl, rfl⟩, rfl⟩

/-- The device takes up a stream. -/
def Takes (platform : Platform) (path : Bip44Path) (chunks : List Chunk) (status : TxStreamStatus) (s : State) :
    Prop :=
  Taking platform path chunks status s.device

theorem opening_taken (opening : Opening platform path .initRespond s) :
    Leads platform s [.accept] [.response success .empty] (Takes platform path [] .processing) := by
  obtain ⟨accepts, ins, ioState, context⟩ := opening
  have responds : ∃ after, runSignTransactionInitUIStep.run s = .ok () after ∧
      Takes platform path [] .processing after ∧ after.outputs = s.outputs ++ [.response success .empty] := by
    obtain ⟨⟨current, io, state, display, flow, stack, outputs⟩, shown, confirm, reject, text, fields, count,
      press, address, isPath, showPath, due⟩ := s
    cases ins
    cases ioState
    cases context
    exact ⟨_, rfl, ⟨rfl, rfl, rfl, _, rfl, rfl, rfl, rfl, rfl⟩, rfl⟩
  obtain ⟨after, run, takes, outputs⟩ := responds
  exact leads_input (catching_run (accepts.trans run)) outputs takes

theorem opening_confirmed (opening : Opening platform path .initConfirm s) :
    Leads platform s [.accept, .accept] [.response success .empty] (Takes platform path [] .processing) := by
  obtain ⟨accepts, ins, ioState, context⟩ := opening
  obtain ⟨after, run, next, outputs⟩ := @openingPage_shown platform path s _ _ _ ins ioState context rfl
  have handled : (handleEvent platform .accept).run s = .ok () after := catching_run (accepts.trans run)
  exact leads_cons handled (outputs.trans (List.append_nil _).symm) (opening_taken next)

/-- From rest, a new transaction is opened by its first APDU and the acceptance of each page. -/
theorem session_opened {policy : SecurityPolicy} (idle : Idle s)
    (requests : RequestsStart 0 (encodePath path.indexes) path policy) :
    Leads platform s
      (sends .signTx p1NewTransaction (encodePath path.indexes) :: (startScreens policy).map fun _ => .accept)
      [.response success .empty] (Takes platform path [] .processing) := by
  have begins {uiStep next : SignUiStep} {page : Page} (starts : initUiStep policy = some uiStep)
      (known : openingPage uiStep = some (page, next)) :
      Leads platform s [sends .signTx p1NewTransaction (encodePath path.indexes)] []
        (Opening platform path next) := by
    have begun := @beginSignTx_run path { s.device with
      ioState := .expectNone
      instructionState := .signTx .zero
      currentIns := some .signTx } _ _ _ requests starts rfl
    obtain ⟨after, run, opening, outputs⟩ := @openingPage_shown platform path { s with device := { s.device with
      ioState := .expectNone
      instructionState := .signTx (startContext path uiStep)
      currentIns := some .signTx } } _ _ _ rfl rfl rfl known
    have handled : (runHandler platform .signTx p1NewTransaction 0 (encodePath path.indexes) true).run
        { s with device := { s.device with
          ioState := .expectNone
          instructionState := .cleared
          currentIns := some .signTx } } = .ok () after := by
      change (handleSignTxInit 0 (encodePath path.indexes)).run { s with device := { s.device with
        ioState := .expectNone
        instructionState := .signTx .zero
        currentIns := some .signTx } } = _
      rw [handleSignTxInit, run_bind_ok (onShared_run begun)]
      exact run
    exact leads_input (sends_starts idle (path_short path) handled) (outputs.trans (List.append_nil _).symm)
      opening
  rcases requests.asks with rfl | rfl
  · exact (begins rfl rfl).trans fun _ => opening_taken
  · exact (begins rfl rfl).trans fun _ => opening_confirmed

def sendsChunk (chunk : Chunk) : Event := sends .signTx p1StreamData chunk.bytes

def chunkAnswer (status : TxStreamStatus) : List Output := [.response success (.stage status.stage)]

theorem chunk_leads (platform : Platform) (path : Bip44Path) :
    TakesChunk platform (handleEvent platform) State.outputs (Takes platform path) sendsChunk chunkAnswer := by
  intro chunks chunk status s takes short accepted answered
  obtain ⟨after, collected, taken, outputs⟩ := chunk_taken takes accepted answered
  have busy := @uiDisplayBusy_run { s with device := after } taken.ioState
  have handled : (runHandler platform .signTx p1StreamData 0 chunk.bytes false).run s.handling =
      .ok () { s with device := after, page := .spinner "Loading transaction".toList } := by
    change (handleSignTxCollect platform 0 chunk.bytes).run _ = _
    rw [handleSignTxCollect, run_bind_ok (onShared_run collected)]
    exact busy
  exact leads_input (sends_continues takes.ins takes.ioState short handled) outputs taken

end Open

end FantomLedger.Nbgl
