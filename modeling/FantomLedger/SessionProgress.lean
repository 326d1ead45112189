import FantomLedger.Consent
import FantomLedger.Library.Progress
import FantomLedger.ReviewTexts

/-! Events that the device handles without a reset: from any state back to rest, from rest to a new
transaction, and through the chunks of its stream. -/

namespace FantomLedger

open Library Library.Program Library.Progress StreamParser

/-- Where the events lead. -/
abbrev Leads (platform : Platform) (device : Device) (events : List Event) (outputs : List Output)
    (arrives : Device → Prop) : Prop :=
  Progress.Leads (handleEvent platform) Device.outputs device events outputs arrives

section Apdu

variable {platform : Platform} {device after : Device}

theorem getHandler_byte (ins : Ins) : getHandler ins.byte = some ins := by
  cases ins <;> rfl

/-- An APDU that is well formed goes to its handler. -/
theorem fantomMainTry_run {ins : Ins} {p1 : UInt8} {data : List UInt8} (ioState : device.ioState = .expectIo)
    (short : data.length < 256) :
    (fantomMainTry platform (apduBytes ins p1 0 data) true).run device =
      (match device.currentIns with
      | none => (runHandler platform ins p1 0 data true).run { device with
          ioState := .expectNone, instructionState := .cleared, currentIns := some ins }
      | some current =>
        (do validate (ins == current) errInvalidState; runHandler platform ins p1 0 data false).run
          { device with ioState := .expectNone }) := by
  have size : (UInt8.ofNat data.length).toNat = data.length := UInt8.toNat_ofNat_of_lt' short
  obtain ⟨current, io, state, display, flow, stack, outputs⟩ := device
  cases ioState
  unfold fantomMainTry apduBytes
  rw [run_bind_ok (EStateM.run_get _)]
  dsimp only
  rw [beq_self_eq_true, validate_true, pure_bind, run_bind_ok (EStateM.run_modify _ _)]
  rw [if_neg (by simp), validate_true, pure_bind]
  dsimp only
  rw [size, beq_self_eq_true, validate_true, pure_bind, beq_self_eq_true, validate_true, pure_bind,
    getHandler_byte]
  dsimp only
  rw [run_bind_ok (EStateM.run_get _)]
  cases current with
  | none => rfl
  | some current => rfl

/-- The first APDU of an instruction. -/
theorem sends_starts (rest : AtRest device) {ins : Ins} {p1 : UInt8} {data : List UInt8}
    (short : data.length < 256)
    (run : (runHandler platform ins p1 0 data true).run { device with
      ioState := .expectNone, instructionState := .cleared, currentIns := some ins } = .ok () after) :
    (handleEvent platform (sends ins p1 data)).run device = .ok () after := by
  apply fantomMain_ok
  rw [fantomMainTry_run rest.ioState short, rest.ins]
  exact run

/-- A further APDU of the instruction that is running. -/
theorem fantomMainTry_continues {ins : Ins} (running : device.currentIns = some ins)
    (ioState : device.ioState = .expectIo) {p1 : UInt8} {data : List UInt8} (short : data.length < 256) :
    (fantomMainTry platform (apduBytes ins p1 0 data) true).run device =
      (runHandler platform ins p1 0 data false).run { device with ioState := .expectNone } := by
  obtain ⟨current, io, state, display, flow, stack, outputs⟩ := device
  cases running
  rw [fantomMainTry_run ioState short]
  dsimp only
  rw [beq_self_eq_true, validate_true, pure_bind]

theorem sends_continues {ins : Ins} (running : device.currentIns = some ins)
    (ioState : device.ioState = .expectIo) {p1 : UInt8} {data : List UInt8} (short : data.length < 256)
    (run : (runHandler platform ins p1 0 data false).run { device with ioState := .expectNone } =
      .ok () after) : (handleEvent platform (sends ins p1 data)).run device = .ok () after :=
  fantomMain_ok platform ((fantomMainTry_continues running ioState short).trans run)

/-- An APDU of another class, which no state of the device accepts. -/
def foreign : Event := .apdu [0, 0, 0, 0, 0] true

theorem fantomMain_refuses {apdu : List UInt8} {unlocked : Bool} {error : Nat} {thrown : Device}
    (run : (fantomMainTry platform apdu unlocked).run device = .error (.thrown error) thrown)
    (known : error ≠ exceptionIoReset ∧ error ≠ errAssert) (passes : errPassFrom < error ∧ error < errPassTo) :
    (fantomMain platform apdu unlocked).run device =
      .ok () (thrown.rested [.response error .empty, .idle]) := by
  simp only [EStateM.run, fantomMain] at run ⊢
  rw [run]
  dsimp only
  rw [if_neg (not_or.mpr known), if_pos passes]
  exact answer_run (by decide) error thrown

/-- In whatever state the device is, this brings it back to rest. -/
theorem foreign_rests (platform : Platform) (device : Device) :
    ∃ error, Leads platform device [foreign] [.response error .empty, .idle] AtRest := by
  by_cases ioState : device.ioState = .expectIo
  · have run : (fantomMainTry platform [0, 0, 0, 0, 0] true).run device =
        .error (.thrown errUnknownCla) { device with ioState := .expectNone } := by
      obtain ⟨current, io, state, display, flow, stack, outputs⟩ := device
      cases ioState
      rfl
    have handled := fantomMain_refuses run (by decide) (by decide)
    exact ⟨_, leads_input handled rfl (atRest_rested _ _)⟩
  · have run : (fantomMainTry platform [0, 0, 0, 0, 0] true).run device =
        .error (.thrown errInvalidState) device := by
      unfold fantomMainTry
      rw [run_bind_ok (EStateM.run_get _), beq_false_of_ne ioState]
      rfl
    have handled := fantomMain_refuses run (by decide) (by decide)
    exact ⟨_, leads_input handled rfl (atRest_rested _ _)⟩

end Apdu

section Open

variable {platform : Platform} {path : Bip44Path} {device : Device}

/-- A confirmation whose callback returns. -/
theorem Asking.leads {screen : Screen} {fn : UiCallbackFn} {outputs : List Output} {arrives : Device → Prop}
    (asking : Asking screen fn device)
    (fires : ∀ displayState, ∃ after,
      (runCallback platform fn).run { device with displayState := displayState } = .ok () after ∧
        arrives after ∧ after.outputs = device.outputs ++ outputs) :
    Leads platform device [.confirm] outputs arrives := by
  obtain ⟨displayState, run⟩ := @Asking.confirm_run platform _ _ _ asking
  obtain ⟨after, called, holds, same⟩ := fires displayState
  exact leads_input (run.trans (tryCatchUi_ok called)) same holds

/-- The context of a new transaction, at a step of its user interface. -/
def startContext (path : Bip44Path) (uiStep : SignUiStep) : SignTxContext :=
  { SignTxContext.zero with stage := .init, path := path, stream := txStreamInit .zero, uiStep := uiStep }

/-- The stage that the status of a stream leads to. -/
def TxStreamStatus.stage : TxStreamStatus → TxStage
  | .finished => .finalize
  | _ => .collect

/-- The device has taken up these chunks of a stream and waits for the next APDU; the signature is still
cleared. -/
structure Taking (platform : Platform) (path : Bip44Path) (chunks : List Chunk) (status : TxStreamStatus)
    (device : Device) : Prop where
  ins : device.currentIns = some .signTx
  ioState : device.ioState = .expectIo
  fed : (fedChunks platform chunks).status = .ok status
  context : ∃ ctx, device.instructionState = .signTx ctx ∧ ctx.path = path ∧ ctx.signature = .zero ∧
    ctx.stream = (fedChunks platform chunks).stream ∧ ctx.stage = status.stage

/-- A screen of a new transaction, behind which this step comes. -/
structure Opening (path : Bip44Path) (uiStep : SignUiStep) (device : Device) : Prop where
  asking : ∃ screen, Asking screen .runSignTransactionInitUIStep device
  ins : device.currentIns = some .signTx
  context : device.instructionState = .signTx (startContext path uiStep)

/-- The screens of a new transaction. -/
def startScreen : SignUiStep → Option (Screen × SignUiStep)
  | .initWarning => some (warningScreen, .initConfirm)
  | .initConfirm => some (startQuestion, .initRespond)
  | _ => none

/-- The display waits for its turn. -/
def ScreenFree (device : Device) : Prop := device.ioState = .expectNone ∨ device.ioState = .expectUi

theorem startScreen_run {uiStep next : SignUiStep} {screen : Screen} (free : ScreenFree device)
    (context : device.instructionState = .signTx (startContext path uiStep))
    (known : startScreen uiStep = some (screen, next)) :
    runSignTransactionInitUIStep.run device =
      .ok () { device.presenting screen .runSignTransactionInitUIStep with
        instructionState := .signTx (startContext path next) } := by
  obtain ⟨ins, io, state, display, flow, stack, outputs⟩ := device
  cases context
  cases uiStep <;> cases known
  · rcases free with rfl | rfl <;> rfl
  · rcases free with rfl | rfl <;> rfl

theorem startScreen_opening {uiStep next : SignUiStep} {screen : Screen} (free : ScreenFree device)
    (ins : device.currentIns = some .signTx)
    (context : device.instructionState = .signTx (startContext path uiStep))
    (known : startScreen uiStep = some (screen, next)) :
    ∃ after, runSignTransactionInitUIStep.run device = .ok () after ∧ Opening path next after ∧
      after.outputs = device.outputs ++ [screen.output] :=
  ⟨_, startScreen_run free context known, ⟨⟨screen, running_of_ins ins, rfl, rfl, rfl⟩, ins, rfl⟩, rfl⟩

theorem startRespond_taking (ins : device.currentIns = some .signTx)
    (context : device.instructionState = .signTx (startContext path .initRespond)) :
    ∃ after, runSignTransactionInitUIStep.run device = .ok () after ∧
      Taking platform path [] .processing after ∧
      after.outputs = device.outputs ++ initAnswer := by
  obtain ⟨current, io, state, display, flow, stack, outputs⟩ := device
  cases ins
  cases context
  refine ⟨_, rfl, ⟨rfl, rfl, rfl, _, rfl, rfl, rfl, rfl, rfl⟩, ?_⟩
  exact List.append_assoc outputs _ _

theorem opening_respond (opening : Opening path .initRespond device) :
    Leads platform device [.confirm] initAnswer (Taking platform path [] .processing) := by
  obtain ⟨⟨screen, asking⟩, ins, context⟩ := opening
  apply asking.leads
  intro displayState
  exact startRespond_taking ins context

theorem opening_confirm (opening : Opening path .initConfirm device) :
    Leads platform device [.confirm, .confirm] ([startQuestion.output] ++ initAnswer)
      (Taking platform path [] .processing) := by
  obtain ⟨⟨screen, asking⟩, ins, context⟩ := opening
  have asks : Leads platform device [.confirm] [startQuestion.output] (Opening path .initRespond) := by
    apply asking.leads
    intro displayState
    exact startScreen_opening (.inr asking.ioState) ins context rfl
  exact asks.trans fun _ => opening_respond

/-- The handler of a new transaction comes to the step that the policy starts with. -/
theorem beginSignTx_run {policy : SecurityPolicy} {uiStep : SignUiStep} {wire : List UInt8}
    (requests : RequestsStart 0 wire path policy) (starts : initUiStep policy = some uiStep)
    (fresh : device.instructionState = .signTx .zero) :
    (beginSignTx 0 wire).run device =
      .ok () { device with instructionState := .signTx (startContext path uiStep) } := by
  have parsed := ((alike_bip44ParseFromWire .zero wire).of_ok requests.parses
    { device with instructionState := .signTx (startContext .zero .none) }).2
  have classified := ((alike_policyForPath _ path).of_ok requests.classified
    { device with instructionState := .signTx (startContext path .none) }).2
  have allowed : (policy != .deny) = true := bne_iff_ne.mpr requests.notDenied
  have initial : (assertStage .none).run device = .ok () device :=
    (assertStage_eq_ok fresh).mpr ⟨rfl, rfl⟩
  have begun := onSignTx_modify_run fresh fun ctx => { ctx with
    stage := .init, responseReady := 0, stream := txStreamInit ctx.tx }
  rw [beginSignTx, run_bind_ok initial, beq_self_eq_true, validate_true, pure_bind,
    run_bind_ok begun]
  change (getSignTx >>= _).run { device with instructionState := .signTx (startContext .zero .none) } = _
  rw [run_bind_ok (getSignTx_run rfl)]
  change (bip44ParseFromWire .zero wire >>= _).run _ = _
  rw [run_bind_ok parsed]
  dsimp only
  rw [run_bind_ok (onSignTx_modify_run rfl _), beq_self_eq_true, validate_true, pure_bind]
  change (policyForPath .prompt path >>= _).run
    { device with instructionState := .signTx (startContext path .none) } = _
  rw [run_bind_ok classified, assertNotDenied, allowed, validate_true, pure_bind, starts]
  exact @setUiStep_run { device with
    instructionState := .signTx (startContext path .none) } (startContext path .none) rfl uiStep

theorem path_short (path : Bip44Path) : (encodePath path.indexes).length < 256 := by
  rw [encodePath, List.length_cons, encodeIndexes_length, Bip44Path.indexes, List.length_take,
    Vector.length_toList]
  have most := Nat.min_le_right path.length bip32MaxPathLength
  have ten : bip32MaxPathLength = 10 := rfl
  omega

/-- The screens that a policy leads to. -/
def startScreens (policy : SecurityPolicy) : List Screen :=
  (if policy = .warn then [warningScreen] else []) ++ [startQuestion]

/-- From rest, a new transaction is opened by its first APDU and a confirmation of each screen. -/
theorem session_opens {policy : SecurityPolicy} (rest : AtRest device)
    (requests : RequestsStart 0 (encodePath path.indexes) path policy) :
    Leads platform device
      (sends .signTx p1NewTransaction (encodePath path.indexes) ::
        (startScreens policy).map fun _ => .confirm)
      ((startScreens policy).map Screen.output ++ initAnswer) (Taking platform path [] .processing) := by
  have begins {uiStep next : SignUiStep} {screen : Screen} (starts : initUiStep policy = some uiStep)
      (known : startScreen uiStep = some (screen, next)) :
      Leads platform device [sends .signTx p1NewTransaction (encodePath path.indexes)] [screen.output]
        (Opening path next) := by
    obtain ⟨after, run, opening, outputs⟩ := @startScreen_opening path { device with
      ioState := .expectNone
      instructionState := .signTx (startContext path uiStep)
      currentIns := some .signTx } _ _ _ (.inl rfl) rfl rfl known
    have begun := @beginSignTx_run path { device with
      ioState := .expectNone
      instructionState := .signTx .zero
      currentIns := some .signTx } _ _ _ requests starts rfl
    have handled : (runHandler platform .signTx p1NewTransaction 0 (encodePath path.indexes) true).run
        { device with
          ioState := .expectNone
          instructionState := .cleared
          currentIns := some .signTx } = .ok () after := by
      change (handleSignTxInit 0 (encodePath path.indexes)).run { device with
        ioState := .expectNone
        instructionState := .signTx .zero
        currentIns := some .signTx } = _
      rw [handleSignTxInit_eq, run_bind_ok begun]
      exact run
    exact leads_input (sends_starts rest (path_short path) handled) outputs opening
  rcases requests.asks with rfl | rfl
  · exact (begins rfl rfl).trans fun _ => opening_respond
  · exact (begins rfl rfl).trans fun _ => opening_confirm

end Open

section Chunks

variable {platform : Platform} {path : Bip44Path} {chunks : List Chunk} {device : Device}

/-- The status after one more chunk is that of its call. -/
theorem fedChunks_last {chunk : Chunk} {status : TxStreamStatus}
    (asks : (fedChunks platform chunks).status = .ok .processing)
    (answered : (fedChunks platform (chunks ++ [chunk])).status = .ok status) :
    (txStreamProcess platform.store chunk.bytes chunk.bytes.length 0).run (fedChunks platform chunks).stream =
      .ok status (fedChunks platform (chunks ++ [chunk])).stream := by
  rw [fedChunks_concat] at answered ⊢
  exact @feed_last _ _ _ (chunk, 0) _ asks answered

theorem reportStage_run {ctx : SignTxContext} (context : device.instructionState = .signTx ctx) :
    (do ioSendBuf success (.stage (← getSignTx).stage) : DeviceCode Unit).run device =
      .ok () { device with
        ioState := .expectIo
        outputs := device.outputs ++ [.response success (.stage ctx.stage)] } := by
  have fits : (Payload.stage ctx.stage).bytes.length + 2 < ioApduBufferSize := by
    show 1 + 2 < ioApduBufferSize
    decide
  rw [run_bind_ok (getSignTx_run context)]
  exact ioSendBuf_run fits success device

theorem collectChunk_run {ctx : SignTxContext} {next : TxStreamContext} {status : TxStreamStatus}
    {wire : List UInt8} (context : device.instructionState = .signTx ctx) (stage : ctx.stage = .collect)
    (sent : 0 < wire.length) (accepted : status ≠ .fault)
    (processed : (txStreamProcess platform.store wire wire.length 0).run ctx.stream = .ok status next) :
    (collectChunk platform.store 0 wire).run device = .ok () { device with
      ioState := .expectIo
      instructionState := .signTx { ctx with stream := next, stage := status.stage }
      outputs := device.outputs ++ [.response success (.stage status.stage)] } := by
  have taken : (onStream (txStreamProcess platform.store wire wire.length 0)).run ctx =
      .ok status { ctx with stream := next } := by
    simp only [EStateM.run, onStream] at processed ⊢
    rw [processed]
  have collects : (assertStage .collect).run device = .ok () device :=
    (assertStage_eq_ok context).mpr ⟨stage, rfl⟩
  rw [collectChunk, run_bind_ok collects, beq_self_eq_true, validate_true, pure_bind,
    decide_eq_true sent, validate_true, pure_bind, run_bind_ok (onSignTx_run context taken)]
  cases status with
  | processing =>
    obtain ⟨responseReady, path, stream, signature, _, uiStep⟩ := ctx
    cases stage
    exact @reportStage_run { device with
      instructionState := .signTx ⟨responseReady, path, next, signature, .collect, uiStep⟩ } _ rfl
  | finished =>
    rw [run_bind_ok (onSignTx_modify_run rfl _)]
    exact @reportStage_run { device with
      instructionState := .signTx { ctx with stream := next, stage := .finalize } } _ rfl
  | fault => exact absurd rfl accepted

/-- A chunk that the stream accepts. -/
theorem chunk_taken (taking : Taking platform path chunks .processing device) {chunk : Chunk}
    {status : TxStreamStatus} (accepted : status ≠ .fault)
    (answered : (fedChunks platform (chunks ++ [chunk])).status = .ok status) :
    ∃ after, (collectChunk platform.store 0 chunk.bytes).run { device with ioState := .expectNone } =
        .ok () after ∧
      Taking platform path (chunks ++ [chunk]) status after ∧
      after.outputs = device.outputs ++ [.response success (.stage status.stage)] := by
  obtain ⟨ctx, context, path_eq, signature, stream, stage⟩ := taking.context
  have processed := fedChunks_last taking.fed answered
  rw [← stream] at processed
  have collected := @collectChunk_run platform { device with ioState := .expectNone } _ _ _ _ context stage
    (List.length_pos_of_ne_nil chunk.nonempty) accepted processed
  exact ⟨_, collected, ⟨taking.ins, rfl, answered, _, rfl, path_eq, signature, rfl, rfl⟩, rfl⟩

/-- Up to its last chunk the stream of an encoded transaction asks for more. -/
theorem encode_status (platform : Platform) (raw : RlpTransaction) (small : raw.payload.length < 2 ^ 32)
    {chunks later : List Chunk} (cut : joined (chunks ++ later) = raw.encode) :
    (fedChunks platform chunks).status = .ok (if later.isEmpty then .finished else .processing) := by
  have announces := Rlp.isHeader_lengthPrefix true raw.payload.length 4 small (by decide) (by decide)
  obtain ⟨q, _, _, ran⟩ := run_framed_items .zero [] announces (accepts_items raw small)
  have encoded : Rlp.lengthPrefix (Rlp.base true) raw.payload.length ++ raw.payload =
      joined chunks ++ joined later := by
    rw [← joined_append, cut]
    rfl
  rw [encoded, List.append_nil, tag_append] at ran
  have whole := (feed_init_follows .zero (withFlags 0 chunks)).whole
  rw [tagged_withFlags] at whole
  have answered : (feed storeInside (txStreamInit .zero) (withFlags 0 chunks)).status =
      .ok (if later.isEmpty then .finished else .processing) := by
    cases later with
    | nil =>
      have rest : tag 0 (joined chunks) ++ tag 0 (joined []) = tag 0 (joined chunks) := List.append_nil _
      rw [rest] at ran
      rw [ran] at whole
      exact whole.1
    | cons next later =>
      have positive := joined_pos (List.cons_ne_nil next later)
      obtain ⟨middle, more⟩ := Machine.run_prefix_more ran (by simpa [tag] using positive)
      rw [more] at whole
      exact whole.1
  have same : fedChunks platform chunks = feed storeInside (txStreamInit .zero) (withFlags 0 chunks) :=
    feed_spared platform.overrun .zero (spared_of_ok answered)
  rw [same, answered]

section Stream

variable {σ ε ι ω : Type} {handle : ι → EStateM ε σ Unit} {outputs : σ → List ω}
  {takes : List Chunk → TxStreamStatus → σ → Prop} {sending : Chunk → ι} {answer : TxStreamStatus → List ω}

/-- A device takes one more chunk that its stream accepts. -/
def TakesChunk (platform : Platform) (handle : ι → EStateM ε σ Unit) (outputs : σ → List ω)
    (takes : List Chunk → TxStreamStatus → σ → Prop) (sending : Chunk → ι)
    (answer : TxStreamStatus → List ω) : Prop :=
  ∀ chunks chunk status s, takes chunks .processing s → chunk.bytes.length < 256 → status ≠ .fault →
    (fedChunks platform (chunks ++ [chunk])).status = .ok status →
      Progress.Leads handle outputs s [sending chunk] (answer status) (takes (chunks ++ [chunk]) status)

/-- The answers to the chunks of a stream, by its status after each. -/
def streamAnswers (answer : TxStreamStatus → List ω) : List Chunk → List ω
  | [] => []
  | _ :: later => answer (if later.isEmpty then .finished else .processing) ++ streamAnswers answer later

/-- The chunks of an encoded transaction, however it is cut. -/
theorem chunks_lead (step : TakesChunk platform handle outputs takes sending answer) (raw : RlpTransaction)
    (small : raw.payload.length < 2 ^ 32) {before chunks : List Chunk}
    (cut : joined (before ++ chunks) = raw.encode) (short : ∀ chunk ∈ chunks, chunk.bytes.length < 256)
    {s : σ} {status : TxStreamStatus} (left : status = if chunks.isEmpty then .finished else .processing)
    (taking : takes before status s) :
    Progress.Leads handle outputs s (chunks.map sending) (streamAnswers answer chunks)
      (takes (before ++ chunks) .finished) := by
  induction chunks generalizing before s status with
  | nil =>
    cases left
    rw [List.append_nil]
    exact leads_nil taking
  | cons chunk chunks ih =>
    cases left
    have whole : before ++ chunk :: chunks = before ++ [chunk] ++ chunks := by simp
    rw [whole] at cut ⊢
    have answered := encode_status platform raw small cut
    have first := step _ _ _ _ taking (short chunk List.mem_cons_self) (by split <;> decide) answered
    exact first.trans fun middle taking =>
      ih cut (fun chunk member => short chunk (List.mem_cons_of_mem _ member)) rfl taking

end Stream

def sendsChunk (chunk : Chunk) : Event := sends .signTx p1StreamData chunk.bytes

def chunkAnswer (status : TxStreamStatus) : List Output := [.response success (.stage status.stage), .busy]

theorem chunk_leads (platform : Platform) (path : Bip44Path) :
    TakesChunk platform (handleEvent platform) Device.outputs (Taking platform path) sendsChunk chunkAnswer := by
  intro chunks chunk status device taking short accepted answered
  obtain ⟨after, collected, taken, outputs⟩ := chunk_taken taking accepted answered
  have busy : uiDisplayBusy.run after = .ok () { after with
      displayState := .cleared
      flow := .busy
      outputs := after.outputs ++ [.busy] } := by
    obtain ⟨current, io, state, display, flow, stack, outputs⟩ := after
    cases taken.ioState
    rfl
  have handled : (runHandler platform .signTx p1StreamData 0 chunk.bytes false).run
      { device with ioState := .expectNone } = .ok () { after with
        displayState := .cleared
        flow := .busy
        outputs := after.outputs ++ [.busy] } := by
    change (handleSignTxCollect platform.store 0 chunk.bytes).run _ = _
    rw [handleSignTxCollect_eq, run_bind_ok collected]
    exact busy
  apply leads_input (sends_continues taking.ins taking.ioState short handled)
  · dsimp only
    rw [outputs, List.append_assoc]
    rfl
  · exact ⟨taken.ins, taken.ioState, taken.fed, taken.context⟩

end Chunks

end FantomLedger
