import FantomLedger.SignScreens

/-! Two devices side by side: as long as they work on the same context they do the same, whatever
else their memory holds. -/

namespace FantomLedger

open Library.Program

/-- A length for which the text of an address takes nothing from the stack. -/
def WholeLength (length : UInt8) : Prop := length = 0 ∨ length.toNat = rawAddressSize

instance (length : UInt8) : Decidable (WholeLength length) := inferInstanceAs (Decidable (_ ∨ _))

/-- What an instruction was started for. -/
def Payload.Answers : Payload → Prop
  | .empty => False
  | .stage _ => False
  | _ => True

/-- An error, or the answer of an instruction. -/
def Output.Ends : Output → Prop
  | .response code payload => code ≠ success ∨ payload.Answers
  | _ => False

/-- Between two events a review is behind its first screen, and the addresses that it has left to
show are whole. -/
structure WholeReview (ctx : SignTxContext) : Prop where
  recipient : ctx.uiStep ≠ .txRecipient
  sender : ctx.uiStep = .txSender → ctx.stage = .finalize ∧ WholeLength ctx.tx.sender.length

theorem wholeReview_of_step {ctx : SignTxContext} (recipient : ctx.uiStep ≠ .txRecipient)
    (sender : ctx.uiStep ≠ .txSender) : WholeReview ctx :=
  ⟨recipient, fun shows => absurd shows sender⟩

def InstructionState.Whole : InstructionState → Prop
  | .getAddress ctx => WholeLength ctx.address.length
  | .signTx ctx => WholeReview ctx
  | _ => True

section Relation

-- whether the two stacks are the same, and what each device has put out before
variable (shared : Prop) (base base' : List Output)

/-- The two devices have put out the same since then. -/
structure Level (device other : Device) : Prop where
  stack : shared → other.stack = device.stack
  outputs : ∃ added, device.outputs = base ++ added ∧ other.outputs = base' ++ added

/-- Two devices that work on the same context of an instruction and have not ended it since then.
Their displays may differ until they show something. -/
structure Beside (state : InstructionState) (device other : Device) : Prop where
  ins : other.currentIns = device.currentIns
  ioState : other.ioState = device.ioState
  flow : other.flow = device.flow
  display : device.flow ≠ .idle → other.displayState = device.displayState
  context : device.instructionState = state
  context' : other.instructionState = state
  stack : shared → other.stack = device.stack
  outputs : ∃ added, device.outputs = base ++ added ∧ other.outputs = base' ++ added ∧
    ∀ output ∈ added, ¬output.Ends

/-- Two devices that no event tells apart. -/
inductive Twins (device other : Device) : Prop
  | resting (rest : AtRest device) (rest' : AtRest other) (level : Level shared base base' device other)
  | working {state : InstructionState} (whole : state.Whole)
      (beside : Beside shared base base' state device other)

end Relation

section Primitives

variable {shared : Prop} {base base' : List Output} {state : InstructionState} {s t : Device}

theorem Beside.level (beside : Beside shared base base' state s t) : Level shared base base' s t := by
  obtain ⟨added, same, same', _⟩ := beside.outputs
  exact ⟨beside.stack, added, same, same'⟩

theorem Level.append (level : Level shared base base' s t) (outputs : List Output) {s' t' : Device}
    (stack : s'.stack = s.stack) (stack' : t'.stack = t.stack)
    (added : s'.outputs = s.outputs ++ outputs) (added' : t'.outputs = t.outputs ++ outputs) :
    Level shared base base' s' t' := by
  obtain ⟨before, same, same'⟩ := level.outputs
  refine ⟨?_, before ++ outputs, ?_, ?_⟩
  · intro known
    rw [stack, stack', level.stack known]
  · rw [added, same, List.append_assoc]
  · rw [added', same', List.append_assoc]

theorem Twins.level (twins : Twins shared base base' s t) : Level shared base base' s t := by
  cases twins with
  | resting _ _ level => exact level
  | working _ beside => exact beside.level

theorem Beside.withState (beside : Beside shared base base' state s t) (changed : InstructionState) :
    Beside shared base base' changed { s with instructionState := changed }
      { t with instructionState := changed } :=
  ⟨beside.ins, beside.ioState, beside.flow, beside.display, rfl, rfl, beside.stack, beside.outputs⟩

theorem Beside.withIoState (beside : Beside shared base base' state s t) (ioState : IoState) :
    Beside shared base base' state { s with ioState := ioState } { t with ioState := ioState } :=
  ⟨beside.ins, rfl, beside.flow, beside.display, beside.context, beside.context', beside.stack,
    beside.outputs⟩

section Context

variable {κ : Type} (find : Device → Option κ) (wrap : κ → InstructionState)

/-- Code on a context in the union. -/
def onContext {α : Type} (body : EStateM Exc κ α) : DeviceCode α := fun device =>
  match find device with
  | none => .error .undefined device
  | some ctx =>
    match body.run ctx with
    | .ok result after => .ok result { device with instructionState := wrap after }
    | .error exc after => .error exc { device with instructionState := wrap after }

variable {find wrap}

theorem inStep_bind_onContext (beside : Beside shared base base' state s t) (same : find t = find s)
    {α β : Type} {body : EStateM Exc κ α} {next later : α → DeviceCode β}
    {good : β → Device → Device → Prop}
    (rest : ∀ ctx result changed s' t', find s = some ctx → body.run ctx = .ok result changed →
      Beside shared base base' (wrap changed) s' t' →
      InStep (Level shared base base') (next result) (later result) s' t' good) :
    InStep (Level shared base base') (onContext find wrap body >>= next)
      (onContext find wrap body >>= later) s t good := by
  cases found : find s with
  | none =>
    have stopped : (onContext find wrap body).run s = .error .undefined s := by
      simp only [EStateM.run, onContext, found]
    have stopped' : (onContext find wrap body).run t = .error .undefined t := by
      simp only [EStateM.run, onContext, same, found]
    exact inStep_of_error (run_bind_error stopped _) (run_bind_error stopped' _) beside.level
  | some ctx =>
    cases run : body.run ctx with
    | ok result changed =>
      have ran : (onContext find wrap body).run s =
          .ok result { s with instructionState := wrap changed } := by
        simp only [EStateM.run, onContext, found] at run ⊢
        simp only [run]
      have ran' : (onContext find wrap body).run t =
          .ok result { t with instructionState := wrap changed } := by
        simp only [EStateM.run, onContext, same, found] at run ⊢
        simp only [run]
      exact inStep_bind_ok ran ran' (rest ctx result changed _ _ found run (beside.withState _))
    | error exc changed =>
      have stopped : (onContext find wrap body).run s =
          .error exc { s with instructionState := wrap changed } := by
        simp only [EStateM.run, onContext, found] at run ⊢
        simp only [run]
      have stopped' : (onContext find wrap body).run t =
          .error exc { t with instructionState := wrap changed } := by
        simp only [EStateM.run, onContext, same, found] at run ⊢
        simp only [run]
      exact inStep_of_error (run_bind_error stopped _) (run_bind_error stopped' _)
        (beside.withState (wrap changed)).level

theorem inStep_bind_onContext_of_eq {ctx : κ} (beside : Beside shared base base' (wrap ctx) s t)
    (finds : ∀ device : Device, device.instructionState = wrap ctx → find device = some ctx)
    {α β : Type} {body : EStateM Exc κ α} {next later : α → DeviceCode β}
    {good : β → Device → Device → Prop}
    (rest : ∀ result changed s' t', body.run ctx = .ok result changed →
      Beside shared base base' (wrap changed) s' t' →
      InStep (Level shared base base') (next result) (later result) s' t' good) :
    InStep (Level shared base base') (onContext find wrap body >>= next)
      (onContext find wrap body >>= later) s t good := by
  have found := finds s beside.context
  apply inStep_bind_onContext beside ((finds t beside.context').trans found.symm)
  intro other result changed s' t' found' run changes
  cases found.symm.trans found'
  exact rest result changed s' t' run changes

end Context

theorem alike_formatted {α : Type} (size : Nat) (code : TextCode α) :
    Alike (formatted size code) (formatted size code) := by
  intro s t
  cases run : code.run (List.replicate size '\x00') with
  | error exc memory =>
    have stopped (device : Device) : (formatted size code).run device = .error exc device :=
      run_bind_error (TextBuffer.onBuffer_error run device) _
    rw [stopped, stopped]
    exact ⟨rfl, rfl, rfl⟩
  | ok result memory =>
    have written (device : Device) : (formatted size code).run device =
        (inside (TextBuffer.cString memory) >>= fun text => pure (result, text)).run device :=
      run_bind_ok (TextBuffer.onBuffer_ok run device) _
    rw [written, written]
    exact (alike_inside _).bind (fun _ => alike_pure _) s t

/-- The text of a whole address does not depend on the stack. -/
theorem addressFormatStr_whole (sdk : Sdk) (address : List UInt8) {length : UInt8}
    (whole : WholeLength length) (tmp tmp' : Vector UInt8 40) :
    addressFormatStr sdk address length.toNat tmp 64 =
      addressFormatStr sdk address length.toNat tmp' 64 := by
  rcases whole with rfl | whole
  · rfl
  · have nothing (tmp : Vector UInt8 40) : tmp.toList.drop (2 * length.toNat) = [] := by
      apply List.drop_eq_nil_of_le
      rw [Vector.length_toList, whole]
      decide
    simp only [addressFormatStr, nothing]

theorem inStep_bind_formattedAddress (beside : Beside shared base base' state s t) (sdk : Sdk)
    (address : List UInt8) {length : UInt8} (whole : shared ∨ WholeLength length) {β : Type}
    {next later : Sha3Context × List Char → DeviceCode β} {good : β → Device → Device → Prop}
    (rest : ∀ result s' t', Beside shared base base' state s' t' →
      InStep (Level shared base base') (next result) (later result) s' t' good) :
    InStep (Level shared base base') (formattedAddress sdk address length.toNat 64 >>= next)
      (formattedAddress sdk address length.toNat 64 >>= later) s t good := by
  have same : addressFormatStr sdk address length.toNat (t.stack 0) 64 =
      addressFormatStr sdk address length.toNat (s.stack 0) 64 := by
    rcases whole with known | whole
    · rw [beside.stack known]
    · exact addressFormatStr_whole sdk address whole _ _
  have shifted : Beside shared base base' state { s with stack := fun call => s.stack (call + 1) }
      { t with stack := fun call => t.stack (call + 1) } := by
    refine ⟨beside.ins, beside.ioState, beside.flow, beside.display, beside.context, beside.context', ?_,
      beside.outputs⟩
    intro known
    show (fun call => t.stack (call + 1)) = _
    rw [beside.stack known]
  unfold formattedAddress
  simp only [bind_assoc]
  apply inStep_bind_get
  apply inStep_bind_ok (EStateM.run_modify _ _) (EStateM.run_modify _ _)
  rw [same]
  apply (alike_formatted 64 (addressFormatStr sdk address length.toNat (s.stack 0) 64)).inStep_bind
    (bootDevice fun _ => Vector.replicate _ 0) shifted.level
  intro result _
  exact rest result _ _ shifted

/-- More that does not end the instruction is put out. -/
theorem Beside.outputs_append (beside : Beside shared base base' state s t) {outputs : List Output}
    (calm : ∀ output ∈ outputs, ¬output.Ends) :
    ∃ added, s.outputs ++ outputs = base ++ added ∧ t.outputs ++ outputs = base' ++ added ∧
      ∀ output ∈ added, ¬output.Ends := by
  obtain ⟨added, same, same', before⟩ := beside.outputs
  refine ⟨added ++ outputs, ?_, ?_, ?_⟩
  · rw [same, List.append_assoc]
  · rw [same', List.append_assoc]
  · intro output member
    rcases List.mem_append.mp member with earlier | late
    · exact before output earlier
    · exact calm output late

theorem Screen.not_ends (screen : Screen) : ∀ output ∈ [screen.output], ¬output.Ends := by
  intro output member
  rw [List.mem_singleton.mp member]
  cases screen <;> exact id

theorem Beside.presenting (beside : Beside shared base base' state s t) (screen : Screen)
    (fn : UiCallbackFn) :
    Beside shared base base' state (s.presenting screen fn) (t.presenting screen fn) :=
  ⟨beside.ins, rfl, rfl, fun _ => rfl, beside.context, beside.context', beside.stack,
    beside.outputs_append screen.not_ends⟩

theorem uiDisplay_inStep (beside : Beside shared base base' state s t) (screen : Screen)
    (fn : UiCallbackFn) :
    InStep (Level shared base base') (uiDisplay screen fn) (uiDisplay screen fn) s t
      fun _ => Beside shared base base' state := by
  have level := beside.level
  have ioState := beside.ioState
  have presents := beside.presenting screen fn
  cases screen with
  | text header body =>
    apply inStep_bind_assert level
    intro _
    apply inStep_bind_assert level
    intro _
    apply inStep_bind_ok (EStateM.run_modify _ _) (EStateM.run_modify _ _)
    apply inStep_bind_get
    dsimp only
    rw [ioState]
    apply inStep_bind_assert ⟨level.stack, level.outputs⟩
    intro _
    exact inStep_of_ok rfl rfl presents
  | question header body =>
    apply inStep_bind_assert level
    intro _
    apply inStep_bind_assert level
    intro _
    apply inStep_bind_ok (EStateM.run_modify _ _) (EStateM.run_modify _ _)
    apply inStep_bind_get
    dsimp only
    rw [ioState]
    apply inStep_bind_assert ⟨level.stack, level.outputs⟩
    intro _
    exact inStep_of_ok rfl rfl presents

/-- The step that comes next is noted in the context. -/
theorem inStep_note (beside : Beside shared base base' state s t) {setStep : DeviceCode Unit}
    {noted : InstructionState}
    (notes : ∀ shown : Device, shown.instructionState = state →
      setStep.run shown = .ok () { shown with instructionState := noted }) (whole : noted.Whole) :
    InStep (Level shared base base') setStep setStep s t fun _ => Twins shared base base' := by
  apply inStep_of_ok (notes s beside.context) (notes t beside.context')
  exact .working whole (beside.withState noted)

/-- A step that shows a screen and notes the step that comes next. -/
theorem inStep_present (beside : Beside shared base base' state s t) (screen : Screen)
    (fn : UiCallbackFn) {setStep : DeviceCode Unit} {noted : InstructionState}
    (notes : ∀ shown : Device, shown.instructionState = state →
      setStep.run shown = .ok () { shown with instructionState := noted }) (whole : noted.Whole) :
    InStep (Level shared base base') (do uiDisplay screen fn; setStep)
      (do uiDisplay screen fn; setStep) s t fun _ => Twins shared base base' := by
  apply (uiDisplay_inStep beside screen fn).bind
  intro _ shown shown' _ beside
  exact inStep_note beside notes whole

/-- A step that answers the host and ends the instruction. -/
theorem inStep_answer (beside : Beside shared base base' state s t) {payload : Payload}
    (fits : payload.bytes.length + 2 < ioApduBufferSize) (code : Nat) {setStep : DeviceCode Unit}
    {noted : InstructionState}
    (notes : ∀ answered : Device, answered.instructionState = state →
      setStep.run answered = .ok () { answered with instructionState := noted }) :
    InStep (Level shared base base') (do ioSendBuf code payload; uiIdle; setStep)
      (do ioSendBuf code payload; uiIdle; setStep) s t fun _ => Twins shared base base' := by
  have whole : (do ioSendBuf code payload; uiIdle; setStep) =
      ((do ioSendBuf code payload; uiIdle) >>= fun _ => setStep : DeviceCode Unit) := by
    rw [bind_assoc]
  rw [whole]
  apply inStep_bind_ok (answer_run fits code s) (answer_run fits code t)
  apply inStep_of_ok (notes (s.rested _) beside.context) (notes (t.rested _) beside.context')
  exact .resting ⟨rfl, rfl, rfl⟩ ⟨rfl, rfl, rfl⟩ (beside.level.append _ rfl rfl rfl rfl)

/-- An answer that leaves the instruction going. -/
theorem sendBusy_inStep (beside : Beside shared base base' state s t) {payload : Payload}
    (fits : payload.bytes.length + 2 < ioApduBufferSize) (goesOn : ¬payload.Answers) :
    InStep (Level shared base base') (do ioSendBuf success payload; uiDisplayBusy)
      (do ioSendBuf success payload; uiDisplayBusy) s t fun _ => Beside shared base base' state := by
  apply inStep_of_ok (sendBusy_run fits success s) (sendBusy_run fits success t)
  refine ⟨beside.ins, rfl, rfl, fun _ => rfl, beside.context, beside.context', beside.stack,
    beside.outputs_append ?_⟩
  intro output member
  rcases List.mem_cons.mp member with rfl | last
  · exact not_or_intro (fun error => error rfl) goesOn
  · rw [List.mem_singleton.mp last]
    exact id

/-- A step that answers the host and waits for its next APDU. -/
theorem inStep_sendBusy (beside : Beside shared base base' state s t) {payload : Payload}
    (fits : payload.bytes.length + 2 < ioApduBufferSize) (goesOn : ¬payload.Answers)
    {setStep : DeviceCode Unit} {noted : InstructionState}
    (notes : ∀ sent : Device, sent.instructionState = state →
      setStep.run sent = .ok () { sent with instructionState := noted }) (whole : noted.Whole) :
    InStep (Level shared base base') (do ioSendBuf success payload; uiDisplayBusy; setStep)
      (do ioSendBuf success payload; uiDisplayBusy; setStep) s t fun _ => Twins shared base base' := by
  have split : (do ioSendBuf success payload; uiDisplayBusy; setStep) =
      ((do ioSendBuf success payload; uiDisplayBusy) >>= fun _ => setStep : DeviceCode Unit) := by
    rw [bind_assoc]
  rw [split]
  apply (sendBusy_inStep beside fits goesOn).bind
  intro _ sent sent' _ beside
  exact inStep_note beside notes whole

end Primitives

end FantomLedger
