import FantomLedger.NbglPages

/-! The pages of a signature on the large screen: those before the device takes up the stream, and the
review of what came in. -/

namespace FantomLedger.Nbgl

open Library.Program

section Init

variable {s : State} {ctx : SignTxContext}

theorem goes_bind_stage {β : Type} {stage : TxStage} {next : Unit → Code β} {good : β → State → Prop}
    (signs : Signs ctx s) (rest : ctx.stage = stage → Goes State.outputs (next ()) s good) :
    Goes State.outputs (onShared (assertStage stage) >>= next) s good := by
  by_cases same : ctx.stage = stage
  · have reached : (assertStage stage).run s.device = .ok () s.device :=
      (assertStage_eq_ok signs.state).mpr ⟨same, rfl⟩
    exact goes_bind_read reached (rest same)
  · have refused : (assertStage stage).run s.device = .error (.thrown errInvalidState) s.device := by
      rw [assertStage, run_bind_ok (getSignTx_run signs.state), beq_eq_false_iff_ne.mpr same]
      rfl
    exact goes_of_error (run_bind_error (onShared_error refused) next) rfl

def unusualPage : Page := warningPage "Unusual Request\nBe careful!".toList

/-- The pages that a policy leads to before the device takes up the stream. -/
def initScript : SecurityPolicy → List (Page → Prop) :=
  startScript unusualPage (startPage .runSignTransactionInitUIStep)

theorem initScript_eq {p2 : UInt8} {wire : List UInt8} {path : Bip44Path} {policy : SecurityPolicy}
    (requests : RequestsStart p2 wire path policy) :
    ∃ warnings, initScript policy = warnings ++ [(· = startPage .runSignTransactionInitUIStep)] := by
  rcases requests.asks with rfl | rfl
  · exact ⟨[], rfl⟩
  · exact ⟨[(· = unusualPage)], rfl⟩

variable (platform : Platform)

/-- The device waits for the next part of the stream, or for the end of it. -/
structure Collecting (path : Bip44Path) (chunks : List Chunk) (s : State) : Prop where
  streaming : Streaming platform path chunks s.device
  ioState : s.device.ioState = .expectIo
  page : s.page = .spinner "Loading transaction".toList

/-- The device goes on with the pages of a new transaction. -/
def StartsSigning (ctx : SignTxContext) (script : List (Page → Prop)) (s : State) : Prop :=
  Goes State.outputs runSignTransactionInitUIStep s fun _ =>
    Presents platform .signTx .empty (Collecting platform ctx.path []) script s.outputs

theorem startsSigning_respond (signs : Signs ctx s) (starting : Starting ctx)
    (uiStep : ctx.uiStep = .initRespond) : StartsSigning platform ctx [] s := by
  apply goes_bind_stage signs
  intro _
  apply goes_bind_read (getSignTx_run signs.state)
  rw [uiStep]
  have fits : Payload.empty.bytes.length + 2 < ioApduBufferSize := by decide
  apply Goes.bind_returns
  apply goes_onShared
  apply goes_of_ok (ioSendBuf_run fits success s.device)
  apply returns_bind_uiDisplayBusy rfl
  apply returns_bind_onShared
  · apply onSignTx_modify_run
    exact signs.state
  apply returns_onShared
  · exact setUiStep_run rfl .initInvalid
  exact ⟨rfl, ⟨signs.ins, _, rfl, rfl, starting.stream, .inl ⟨rfl, rfl⟩⟩, rfl, rfl⟩

theorem startsSigning_confirm (signs : Signs ctx s) (starting : Starting ctx)
    (uiStep : ctx.uiStep = .initConfirm) :
    StartsSigning platform ctx [(· = startPage .runSignTransactionInitUIStep)] s := by
  apply goes_bind_stage signs
  intro _
  apply goes_bind_read (getSignTx_run signs.state)
  rw [uiStep]
  apply goes_bind_uiReviewStart
  intro ioState
  apply goes_onShared
  apply goes_of_ok (setUiStep_run signs.state .initRespond)
  refine ⟨rfl, rfl, ⟨signs.ins, .sign signs.ins rfl (.inl starting.stage), ioState, rfl, .start _⟩, ?_⟩
  apply goes_touch platform rfl
  change StartsSigning platform { ctx with uiStep := .initRespond } [] _
  apply startsSigning_respond
  · exact ⟨signs.ins, rfl⟩
  · exact ⟨starting.stage, starting.stream⟩
  · rfl

theorem startsSigning_warning (signs : Signs ctx s) (starting : Starting ctx)
    (uiStep : ctx.uiStep = .initWarning) : StartsSigning platform ctx (initScript .warn) s := by
  apply goes_bind_stage signs
  intro _
  apply goes_bind_read (getSignTx_run signs.state)
  rw [uiStep]
  apply goes_bind_uiDisplayWarning
  intro ioState
  apply goes_onShared
  apply goes_of_ok (setUiStep_run signs.state .initConfirm)
  refine ⟨rfl, rfl, ⟨signs.ins, .sign signs.ins rfl (.inl starting.stage), ioState, rfl, .warning _⟩, ?_⟩
  apply goes_touch platform rfl
  apply goes_confirmClbk platform rfl
  change StartsSigning platform { ctx with uiStep := .initConfirm } _ _
  apply startsSigning_confirm
  · exact ⟨signs.ins, rfl⟩
  · exact ⟨starting.stage, starting.stream⟩
  · rfl

theorem startsSigning_start {policy : SecurityPolicy} {uiStep : SignUiStep} (signs : Signs ctx s)
    (starting : Starting ctx) (starts : initUiStep policy = some uiStep) (first : ctx.uiStep = uiStep) :
    StartsSigning platform ctx (initScript policy) s := by
  cases policy <;> cases starts
  · exact startsSigning_confirm platform signs starting first
  · exact startsSigning_warning platform signs starting first
  · exact startsSigning_respond platform signs starting first

end Init

section Review

variable (platform : Platform) {s : State} {ctx : SignTxContext}

/-- The page of a review has the lines of the transaction. -/
def ShowsLines (sdk : Sdk) (tx : Transaction) (page : Page) : Prop :=
  ∃ lines, ReviewLines sdk tx lines ∧ page = reviewPage lines

/-- The pages that a transaction leads to before its signature is sent. -/
def reviewScript (sdk : Sdk) (tx : Transaction) : List (Page → Prop) :=
  if tx.isContractCall then [(· = alertPage), ShowsLines sdk tx] else [ShowsLines sdk tx]

/-- The signature in the context has been computed and waits for its review. -/
structure Reviewing (ctx : SignTxContext) (s : State) : Prop extends Signs ctx s where
  stage : ctx.stage = .finalize
  uiStep : ctx.uiStep = .txRespond

/-- The step that sends the signature. -/
theorem sendStep_goes (reviewing : Reviewing ctx s) :
    Goes State.outputs (runSignTransactionUIStep platform.sdk) s fun _ after =>
      after.outputs = s.outputs ++ [.response success (.signature ctx.signature)] ∧
        Inside after.device ∧ after.device.ioState = .expectIo := by
  have step := reviewing.uiStep
  apply goes_bind_stage reviewing.toSigns
  intro _
  apply goes_bind_read (getSignTx_run reviewing.state)
  rw [step]
  apply goes_onShared
  apply goes_bind_ok (getSignTx_run reviewing.state) rfl
  apply goes_bind_validate
  intro _
  apply goes_bind_onSignTx reviewing.holding (EStateM.run_modify _ _)
  intro done holding
  apply goes_bind_ok (getSignTx_run holding.state) rfl
  apply Goes.bind_returns
  apply goes_of_ok (ioSendBuf_run (signature_fits _) success done)
  apply returns_of_ok
  · apply setUiStep_run
    exact holding.state
  refine ⟨?_, .sign holding.ins rfl (.inr (.inr rfl)), rfl⟩
  show done.outputs ++ _ = _
  rw [holding.outputs]
  rfl

/-- The review of the lines lets the signature out. -/
theorem presents_review {tx : Transaction} {lines : List TagValue} (reviewing : Reviewing ctx s)
    (describes : ReviewLines platform.sdk tx lines) (ioState : s.device.ioState ≠ .expectIo)
    (confirm : s.confirmClbk = some .runSignTransactionUIStep)
    (reject : s.rejectClbk = some .uiRespondWithUserReject) (page : s.page = reviewPage lines) :
    Presents platform .signTx (.signature ctx.signature) Ended [ShowsLines platform.sdk tx] s.outputs s := by
  have asks : s.page.Asks := by
    rw [page]
    exact .review lines
  refine ⟨⟨lines, describes, page⟩, rfl,
    ⟨reviewing.ins, .sign reviewing.ins reviewing.state (.inr (.inl reviewing.stage)), ioState, reject,
      asks⟩, ?_⟩
  apply goes_touch platform page
  apply Goes.bind_returns
  apply goes_confirmClbk platform confirm
  apply Goes.mono (sendStep_goes platform reviewing)
  rintro _ after ⟨outputs, inside, expects⟩
  apply returns_of_ok (EStateM.run_modify _ _)
  exact ⟨outputs, inside, expects, rfl, fun _ => rfl⟩

/-- The step that shows a transaction, with an alert before it if it calls a contract. -/
theorem reviewStep_goes (signs : Signs ctx s) (stage : ctx.stage = .finalize)
    (uiStep : ctx.uiStep = .txRecipient) :
    Goes State.outputs (runSignTransactionUIStep platform.sdk) s fun _ =>
      Presents platform .signTx (.signature ctx.signature) Ended (reviewScript platform.sdk ctx.tx) s.outputs := by
  apply goes_bind_stage signs
  intro _
  apply goes_bind_read (getSignTx_run signs.state)
  rw [uiStep]
  apply goes_bind_onShared
  have hashed : Hashed (some .signTx) s.device.outputs ctx s.device := ⟨_, signs.holding⟩
  apply Goes.mono (reviewPairs_goes hashed)
  rintro lines device ⟨describes, sha3Context, holding⟩
  refine ⟨holding.outputs, ?_⟩
  have outputs : s.outputs = device.outputs := holding.outputs.symm
  have shown : lines.take lines.length = lines := List.take_length
  dsimp only [uiReviewDisplay]
  rw [bind_assoc]
  apply goes_bind_assertIoState
  intro ioState
  rw [bind_assoc]
  apply goes_bind_ok (EStateM.run_modify _ _) rfl
  rw [bind_assoc]
  apply goes_bind_ok (EStateM.run_modify _ _) rfl
  unfold reviewScript
  rw [outputs]
  split_ifs
  · apply goes_bind_ok (EStateM.run_modify _ _) rfl
    apply goes_onShared
    apply goes_of_ok (setUiStep_run holding.state .txRespond)
    refine ⟨rfl, rfl, ⟨holding.ins, .sign holding.ins rfl (.inr (.inl stage)), ioState, rfl, .alert⟩, ?_⟩
    apply goes_touch platform rfl
    apply goes_of_ok (EStateM.run_modify _ _)
    apply @presents_review platform _ { ctx.setSha3Context sha3Context with uiStep := .txRespond }
    · exact ⟨⟨holding.ins, rfl⟩, stage, rfl⟩
    · exact describes
    · exact ioState
    · rfl
    · rfl
    · exact congrArg reviewPage shown
  · apply goes_bind_ok (EStateM.run_modify _ _) rfl
    apply goes_onShared
    apply goes_of_ok (setUiStep_run holding.state .txRespond)
    apply @presents_review platform _ { ctx.setSha3Context sha3Context with uiStep := .txRespond }
    · exact ⟨⟨holding.ins, rfl⟩, stage, rfl⟩
    · exact describes
    · exact ioState
    · rfl
    · rfl
    · exact congrArg reviewPage shown

end Review

end FantomLedger.Nbgl
