import FantomLedger.ExportScreens
import FantomLedger.ReviewScreens

/-! The screens of a signature, and the chunks that the device takes up in between. -/

namespace FantomLedger

open Library Library.Program StreamParser

section Context

variable {device : Device} {ctx : SignTxContext}

theorem goes_bind_onSignTx {ins : Option Ins} {outputs : List Output} {α β : Type}
    {body : SignCode α} {changed : SignTxContext} {result : α} {next : α → DeviceCode β}
    {good : β → Device → Prop} (holding : Holding ins outputs (.signTx ctx) device)
    (run : body.run ctx = .ok result changed)
    (rest : ∀ after, Holding ins outputs (.signTx changed) after →
      Goes Device.outputs (next result) after good) :
    Goes Device.outputs (onSignTx body >>= next) device good :=
  goes_bind_ok (onSignTx_run holding.state run) rfl
    (rest _ ⟨holding.ins, holding.outputs, rfl⟩)

theorem onSignTx_error {α : Type} (context : device.instructionState = .signTx ctx)
    {body : SignCode α} {exc : Exc} {after : SignTxContext} (run : body.run ctx = .error exc after) :
    (onSignTx body).run device = .error exc { device with instructionState := .signTx after } := by
  have found : device.signTx? = some ctx := by rw [Device.signTx?, context]
  simp only [EStateM.run, onSignTx] at run ⊢
  rw [found]
  simp only [run]

theorem goes_bind_assertStage {stage : TxStage} {β : Type} {next : Unit → DeviceCode β}
    {good : β → Device → Prop} (context : device.instructionState = .signTx ctx)
    (rest : ctx.stage = stage → Goes Device.outputs (next ()) device good) :
    Goes Device.outputs (assertStage stage >>= next) device good := by
  rw [assertStage, bind_assoc]
  apply goes_bind_ok (getSignTx_run context) rfl
  apply goes_bind_validate
  intro same
  exact rest (beq_iff_eq.mp same)

end Context

section Init

def startQuestion : Screen := .question "Start New".toList "Transaction?".toList

/-- What a policy leads to before the device takes up the stream. -/
def startScript {α : Type} (unusual start : α) : SecurityPolicy → List (α → Prop)
  | .warn => [(· = unusual), (· = start)]
  | .prompt => [(· = start)]
  | _ => []

def initScript : SecurityPolicy → List (Screen → Prop) := startScript warningScreen startQuestion

def initAnswer : List Output := [.response success .empty, .busy]

variable (platform : Platform) {device : Device} {ctx : SignTxContext}

/-- What the chunks have left of a new stream. -/
def fedChunks (chunks : List Chunk) : Fed := feed platform.store (txStreamInit .zero) (withFlags 0 chunks)

/-- The context has taken up the stream of a transaction with these chunks so far. -/
structure Streaming (path : Bip44Path) (chunks : List Chunk) (device : Device) : Prop where
  ins : device.currentIns = some .signTx
  context : ∃ ctx, device.instructionState = .signTx ctx ∧ ctx.path = path ∧
    ctx.stream = (fedChunks platform chunks).stream ∧
    (ctx.stage = .collect ∧ (fedChunks platform chunks).status = .ok .processing ∨
      ctx.stage = .finalize ∧ (fedChunks platform chunks).status = .ok .finished)

/-- The device waits for the next part of the stream, or for the end of it. -/
structure Collecting (path : Bip44Path) (chunks : List Chunk) (device : Device) : Prop
    extends Streaming platform path chunks device where
  ioState : device.ioState = .expectIo
  flow : device.flow = .busy

/-- The device goes on with the screens of a new transaction. -/
def StartsSigning (ctx : SignTxContext) (script : List (Screen → Prop)) (device : Device) : Prop :=
  Goes Device.outputs runSignTransactionInitUIStep device fun _ =>
    Presents platform .runSignTransactionInitUIStep initAnswer (Collecting platform ctx.path []) script
      device.outputs

/-- The context of a new transaction, before the user agreed to it. -/
structure Starting (ctx : SignTxContext) : Prop where
  stage : ctx.stage = .init
  stream : ctx.stream = txStreamInit .zero

theorem startsSigning_respond (context : device.instructionState = .signTx ctx)
    (ins : device.currentIns = some .signTx) (starting : Starting ctx)
    (uiStep : ctx.uiStep = .initRespond) : StartsSigning platform ctx [] device := by
  apply goes_bind_assertStage context
  intro _
  apply goes_bind_ok (getSignTx_run context) rfl
  rw [uiStep]
  dsimp only
  have collects (busy : Device) (same : busy.instructionState = device.instructionState) :
      (do onSignTx (modify fun ctx => { ctx with stage := .collect }); setUiStep .initInvalid :
        DeviceCode Unit).run busy = .ok () { busy with
          instructionState := .signTx { ctx with stage := .collect, uiStep := .initInvalid } } := by
    rw [run_bind_ok (onSignTx_modify_run (same.trans context) _)]
    rfl
  apply Goes.mono (goes_sendBusy (by decide) success collects)
  rintro _ after rfl
  exact ⟨rfl, ⟨ins, _, rfl, rfl, starting.stream, .inl ⟨rfl, rfl⟩⟩, rfl, rfl⟩

theorem startsSigning_confirm (context : device.instructionState = .signTx ctx)
    (ins : device.currentIns = some .signTx) (starting : Starting ctx)
    (uiStep : ctx.uiStep = .initConfirm) :
    StartsSigning platform ctx [(· = startQuestion)] device := by
  apply goes_bind_assertStage context
  intro _
  apply goes_bind_ok (getSignTx_run context) rfl
  rw [uiStep]
  dsimp only
  apply goes_present startQuestion (running_of_ins ins)
  · rfl
  · intro shown same
    exact setUiStep_run (same.trans context) .initRespond
  · intro shown noted _ same
    have next := startsSigning_respond platform noted (same.trans ins)
      ⟨starting.stage, starting.stream⟩ rfl
    exact next

theorem startsSigning_warning (context : device.instructionState = .signTx ctx)
    (ins : device.currentIns = some .signTx) (starting : Starting ctx)
    (uiStep : ctx.uiStep = .initWarning) :
    StartsSigning platform ctx (initScript .warn) device := by
  apply goes_bind_assertStage context
  intro _
  apply goes_bind_ok (getSignTx_run context) rfl
  rw [uiStep]
  dsimp only
  apply goes_present warningScreen (running_of_ins ins)
  · rfl
  · intro shown same
    exact setUiStep_run (same.trans context) .initConfirm
  · intro shown noted _ same
    have next := startsSigning_confirm platform noted (same.trans ins)
      ⟨starting.stage, starting.stream⟩ rfl
    exact next

theorem startsSigning_start {policy : SecurityPolicy} {uiStep : SignUiStep}
    (context : device.instructionState = .signTx ctx) (ins : device.currentIns = some .signTx)
    (starting : Starting ctx) (starts : initUiStep policy = some uiStep)
    (first : ctx.uiStep = uiStep) : StartsSigning platform ctx (initScript policy) device := by
  cases policy <;> cases starts
  · exact startsSigning_confirm platform context ins starting first
  · exact startsSigning_warning platform context ins starting first
  · exact startsSigning_respond platform context ins starting first

/-- A request for a new transaction under a path. -/
structure RequestsStart (p2 : UInt8) (wire : List UInt8) (path : Bip44Path)
    (policy : SecurityPolicy) : Prop where
  zero : p2 = 0
  parses : Parses wire path
  classified : (policyForSignTxInit path : EStateM Exc Unit _).run () = .ok policy ()
  notDenied : policy ≠ .deny

/-- A new transaction is never allowed without a question. -/
theorem RequestsStart.asks {p2 : UInt8} {wire : List UInt8} {path : Bip44Path} {policy : SecurityPolicy}
    (requests : RequestsStart p2 wire path policy) : policy = .prompt ∨ policy = .warn := by
  have classified := requests.classified
  rw [policyForSignTxInit, policyForPath_eq] at classified
  cases classified
  have notDenied := requests.notDenied
  split_ifs at notDenied ⊢ with outside reasonable
  · exact absurd rfl notDenied
  · exact .inl rfl
  · exact .inr rfl

theorem handleSignTxInit_goes (context : device.instructionState = .signTx .zero)
    (ins : device.currentIns = some .signTx) (p2 : UInt8) (wire : List UInt8) :
    Goes Device.outputs (handleSignTxInit p2 wire) device fun _ after =>
      ∃ path policy, RequestsStart p2 wire path policy ∧
        Presents platform .runSignTransactionInitUIStep initAnswer (Collecting platform path [])
          (initScript policy) device.outputs after := by
  have holding : Holding (some .signTx) device.outputs (.signTx .zero) device := ⟨ins, rfl, context⟩
  apply goes_bind_assertStage context
  intro _
  apply goes_bind_validate
  intro zero
  apply goes_bind_onSignTx holding (EStateM.run_modify _ _)
  intro _ holding
  apply goes_bind_onSignTx holding (EStateM.run_get _)
  intro _ holding
  apply (alike_bip44ParseFromWire _ _).goes_bind ()
  rintro ⟨path, parsedSize⟩ parsed
  apply goes_bind_onSignTx holding (EStateM.run_modify _ _)
  intro _ holding
  apply goes_bind_validate
  intro size
  cases beq_iff_eq.mp size
  apply (alike_policyForPath _ path).goes_bind ()
  intro policy classified
  apply goes_bind_validate
  intro allowed
  cases starts : initUiStep policy with
  | none => exact goes_throw _
  | some uiStep =>
    apply goes_bind_onSignTx holding (EStateM.run_modify _ _)
    intro started holding
    have signing := startsSigning_start platform holding.state holding.ins ⟨rfl, rfl⟩ starts rfl
    apply Goes.mono signing
    intro _ after presents
    rw [holding.outputs] at presents
    exact ⟨path, policy, ⟨beq_iff_eq.mp zero, parsed, classified, bne_iff_ne.mp allowed⟩, presents⟩

end Init

section Collect

variable (platform : Platform) {device : Device} {path : Bip44Path} {chunks : List Chunk}

/-- The response to a chunk reports the stage. -/
theorem reportStage_goes {ctx : SignTxContext} {ins : Option Ins} {outputs : List Output}
    (holding : Holding ins outputs (.signTx ctx) device) :
    Goes Device.outputs (do ioSendBuf success (.stage (← getSignTx).stage); uiDisplayBusy) device
      fun _ after => after.currentIns = ins ∧ after.ioState = .expectIo ∧ after.flow = .busy ∧
        after.instructionState = .signTx ctx ∧
        after.outputs = outputs ++ [.response success (.stage ctx.stage), .busy] := by
  apply goes_bind_ok (getSignTx_run holding.state) rfl
  have fits : (Payload.stage ctx.stage).bytes.length + 2 < ioApduBufferSize := by
    show 1 + 2 < ioApduBufferSize
    decide
  apply goes_of_ok (sendBusy_run fits success device)
  refine ⟨holding.ins, rfl, rfl, holding.state, ?_⟩
  rw [holding.outputs]

theorem fedChunks_concat (chunk : Chunk) : fedChunks platform (chunks ++ [chunk]) =
    feed platform.store (txStreamInit .zero) (withFlags 0 chunks ++ [(chunk, 0)]) := by
  rw [fedChunks, withFlags, List.map_append]
  rfl

/-- The stream goes on with one more chunk. -/
theorem fedChunks_snoc {chunk : Chunk} {status : TxStreamStatus} {next : TxStreamContext}
    (asks : (fedChunks platform chunks).status = .ok .processing)
    (run : (txStreamProcess platform.store chunk.bytes chunk.bytes.length 0).run
      (fedChunks platform chunks).stream = .ok status next) :
    (fedChunks platform (chunks ++ [chunk])).stream = next ∧
      (fedChunks platform (chunks ++ [chunk])).status = .ok status := by
  rw [fedChunks_concat]
  exact @feed_snoc _ _ _ _ (chunk, 0) _ asks run

/-- A chunk goes to the stream, or it is refused without a change to the outputs. -/
theorem handleSignTxCollect_goes (streaming : Streaming platform path chunks device) (p2 : UInt8)
    {wire : List UInt8} (small : wire.length < 2 ^ 32) :
    Goes Device.outputs (handleSignTxCollect platform.store p2 wire) device fun _ after =>
      p2 = 0 ∧ (fedChunks platform chunks).status = .ok .processing ∧
        ∃ (chunk : Chunk) (stage : TxStage), chunk.bytes = wire ∧
          Collecting platform path (chunks ++ [chunk]) after ∧
          after.outputs = device.outputs ++ [.response success (.stage stage), .busy] := by
  obtain ⟨ctx, context, path_eq, stream, stands⟩ := streaming.context
  apply goes_bind_assertStage context
  intro stage
  apply goes_bind_validate
  intro zero
  apply goes_bind_validate
  intro sent
  have asks : (fedChunks platform chunks).status = .ok .processing := by
    rcases stands with ⟨_, asks⟩ | ⟨ended, _⟩
    · exact asks
    · rw [stage] at ended
      cases ended
  have nonempty : wire ≠ [] := List.ne_nil_of_length_pos (of_decide_eq_true sent)
  cases run : (txStreamProcess platform.store wire wire.length 0).run ctx.stream with
  | error exc next =>
    have stopped : (onStream (txStreamProcess platform.store wire wire.length 0)).run ctx =
        .error exc { ctx with stream := next } := by
      simp only [EStateM.run, onStream] at run ⊢
      rw [run]
    apply goes_of_error (run_bind_error (onSignTx_error context stopped) _) rfl
  | ok status next =>
    have processed : (onStream (txStreamProcess platform.store wire wire.length 0)).run ctx =
        .ok status { ctx with stream := next } := by
      simp only [EStateM.run, onStream] at run ⊢
      rw [run]
    rw [stream] at run
    obtain ⟨streamed, answered⟩ := @fedChunks_snoc platform chunks ⟨wire, nonempty, small⟩ _ _ asks run
    have holding : Holding (some .signTx) device.outputs (.signTx ctx) device :=
      ⟨streaming.ins, rfl, context⟩
    apply goes_bind_onSignTx holding processed
    intro took holding
    cases status with
    | processing =>
      apply Goes.mono (reportStage_goes holding)
      rintro _ after ⟨ins, ioState, flow, state, outputs⟩
      refine ⟨beq_iff_eq.mp zero, asks, ⟨wire, nonempty, small⟩, _, rfl, ?_, outputs⟩
      exact ⟨⟨ins, _, state, path_eq, streamed.symm, .inl ⟨stage, answered⟩⟩, ioState, flow⟩
    | finished =>
      apply goes_bind_onSignTx holding (EStateM.run_modify _ _)
      intro ended holding
      apply Goes.mono (reportStage_goes holding)
      rintro _ after ⟨ins, ioState, flow, state, outputs⟩
      refine ⟨beq_iff_eq.mp zero, asks, ⟨wire, nonempty, small⟩, _, rfl, ?_, outputs⟩
      exact ⟨⟨ins, _, state, path_eq, streamed.symm, .inr ⟨rfl, answered⟩⟩, ioState, flow⟩
    | fault => exact goes_throw _

end Collect

section Review

variable {device : Device} {ctx : SignTxContext}

/-- The code yields this text for the transaction. -/
def TextOf (code : DeviceCode (List Char)) (tx : Transaction) (text : List Char) : Prop :=
  ∃ device ctx after, device.instructionState = .signTx ctx ∧ ctx.tx = tx ∧
    code.run device = .ok text after

/-- A screen with the text of a field. -/
def ShowsField (header : List Char) (code : DeviceCode (List Char)) (tx : Transaction)
    (screen : Screen) : Prop :=
  ∃ text, TextOf code tx text ∧ screen = .text header text

def alertScreen : Screen := .text "Smart Contract".toList "Alert".toList

def sendQuestion : Screen := .question "Send".toList "Transaction?".toList

/-- The screens behind the fee. -/
def finalScript (tx : Transaction) : List (Screen → Prop) :=
  if tx.isContractCall then [(· = alertScreen), (· = sendQuestion)] else [(· = sendQuestion)]

def feeScript (tx : Transaction) : List (Screen → Prop) :=
  ShowsField "Max Fee (FTM)".toList feeText tx :: finalScript tx

def amountScript (tx : Transaction) : List (Screen → Prop) :=
  ShowsField "Amount (FTM)".toList amountText tx :: feeScript tx

/-- The screens that a transaction leads to before its signature is sent. -/
def reviewScript (sdk : Sdk) (tx : Transaction) : List (Screen → Prop) :=
  ShowsField "Send To".toList (recipientText sdk) tx ::
    ShowsField "Send From".toList (senderText sdk) tx :: amountScript tx

def signAnswer (signature : TxSignature) : List Output :=
  [.response success (.signature signature), .idle]

theorem signature_fits (signature : TxSignature) :
    (Payload.signature signature).bytes.length + 2 < ioApduBufferSize := by
  rw [Payload.bytes, List.cons_append, List.length_cons, List.length_append, Vector.length_toList,
    Vector.length_toList]
  decide

variable (platform : Platform)

/-- The device goes on with the screens of a review. -/
def Reviews (ctx : SignTxContext) (script : List (Screen → Prop)) (device : Device) : Prop :=
  Goes Device.outputs (runSignTransactionUIStep platform.sdk) device fun _ =>
    Presents platform .runSignTransactionUIStep (signAnswer ctx.signature) AtRest script
      device.outputs

/-- The device runs a step of a review whose signature has been computed. -/
structure ReviewingSigned (device : Device) (ctx : SignTxContext) : Prop
    extends Reviewing device ctx where
  running : device.currentIns ≠ none
  ready : ctx.responseReady = signReadyTag

theorem reviews_respond (reviewing : ReviewingSigned device ctx) (uiStep : ctx.uiStep = .txRespond) :
    Reviews platform ctx [] device := by
  apply goes_bind_ok (assertStage_run reviewing.toReviewing) rfl
  apply goes_bind_ok (getSignTx_run reviewing.context) rfl
  rw [uiStep]
  dsimp only
  apply goes_bind_ok (getSignTx_run reviewing.context) rfl
  rw [reviewing.ready]
  apply goes_bind_validate
  intro _
  have holding : Holding device.currentIns device.outputs (.signTx ctx) device :=
    ⟨rfl, rfl, reviewing.context⟩
  apply goes_bind_onSignTx holding (EStateM.run_modify _ _)
  intro _ holding
  apply goes_bind_onSignTx holding (EStateM.run_get _)
  intro ended holding
  rw [← holding.outputs]
  apply goes_answer (signature_fits _)
  intro answered same
  exact setUiStep_run (same.trans holding.state) _

/-- A step that shows a text, or stops because the text does not fit. -/
theorem reviews_text {step : TextStep} {rest : List (Screen → Prop)}
    (reviewing : ReviewingSigned device ctx) (known : textStep platform.sdk ctx.uiStep = some step)
    (yields : Yields step.text device ctx ∨ ∃ exc, step.text.run device = .error exc device)
    (later : ∀ (shown : Device) (next : SignTxContext), ReviewingSigned shown next →
      next.tx = ctx.tx → next.signature = ctx.signature → next.uiStep = step.next ctx.tx →
      Reviews platform next rest shown) :
    Reviews platform ctx (ShowsField step.header step.text ctx.tx :: rest) device := by
  apply goes_of_run_eq (runSignTransactionUIStep_text reviewing.toReviewing known)
  rcases yields with ⟨text, stack, sha3Context, _, run⟩ | ⟨exc, stopped⟩
  · apply goes_bind_ok run rfl
    apply goes_present (.text step.header text)
    · exact reviewing.running
    · exact ⟨text, ⟨device, ctx, _, reviewing.context, rfl, run⟩, rfl⟩
    · intro shown same
      rw [run_bind_ok (getSignTx_run same)]
      exact setUiStep_run same (step.next ctx.tx)
    · intro shown noted ioState ins
      have next := later shown _ ⟨⟨noted, reviewing.stage, ioState⟩, by
        rw [ins]; exact reviewing.running, reviewing.ready⟩ rfl rfl rfl
      exact next
  · exact goes_of_error (run_bind_error stopped _) rfl

theorem reviews_confirm (reviewing : ReviewingSigned device ctx) (uiStep : ctx.uiStep = .txConfirm) :
    Reviews platform ctx [(· = sendQuestion)] device := by
  apply goes_bind_ok (assertStage_run reviewing.toReviewing) rfl
  apply goes_bind_ok (getSignTx_run reviewing.context) rfl
  rw [uiStep]
  dsimp only
  apply goes_present sendQuestion reviewing.running
  · rfl
  · intro shown same
    exact setUiStep_run (same.trans reviewing.context) .txRespond
  · intro shown noted ioState ins
    have next := reviews_respond platform ⟨⟨noted, reviewing.stage, ioState⟩, by
      rw [ins]; exact reviewing.running, reviewing.ready⟩ rfl
    exact next

theorem reviews_contractCall (reviewing : ReviewingSigned device ctx)
    (uiStep : ctx.uiStep = .txContractCall) :
    Reviews platform ctx [(· = alertScreen), (· = sendQuestion)] device := by
  apply goes_bind_ok (assertStage_run reviewing.toReviewing) rfl
  apply goes_bind_ok (getSignTx_run reviewing.context) rfl
  rw [uiStep]
  dsimp only
  apply goes_present alertScreen reviewing.running
  · rfl
  · intro shown same
    exact setUiStep_run (same.trans reviewing.context) .txConfirm
  · intro shown noted ioState ins
    have next := reviews_confirm platform ⟨⟨noted, reviewing.stage, ioState⟩, by
      rw [ins]; exact reviewing.running, reviewing.ready⟩ rfl
    exact next

theorem reviews_final (reviewing : ReviewingSigned device ctx)
    (uiStep : ctx.uiStep = if ctx.tx.isContractCall then .txContractCall else .txConfirm) :
    Reviews platform ctx (finalScript ctx.tx) device := by
  unfold finalScript
  split_ifs at uiStep ⊢ with call
  · exact reviews_contractCall platform reviewing uiStep
  · exact reviews_confirm platform reviewing uiStep

theorem recipientText_cases (sdk : Sdk) (context : device.instructionState = .signTx ctx) :
    Yields (recipientText sdk) device ctx ∨ ∃ exc, (recipientText sdk).run device = .error exc device := by
  by_cases fits : ctx.tx.recipient.length.toNat ≤ txMaxAddressLength
  · exact .inl (recipientText_yields context fits)
  · refine .inr ⟨.reset, ?_⟩
    rw [recipientText, run_bind_ok (getSignTx_run context)]
    dsimp only
    rw [decide_eq_false fits]
    rfl

theorem amountText_cases (context : device.instructionState = .signTx ctx) :
    Yields amountText device ctx ∨ ∃ exc, amountText.run device = .error exc device := by
  by_cases length : ctx.tx.value.length.toNat ≤ txMaxInt256Length
  · exact (amountText_yields context length).cases
  · refine .inr ⟨.reset, ?_⟩
    rw [amountText, run_bind_ok (getSignTx_run context)]
    dsimp only
    rw [decide_eq_false length]
    rfl

theorem feeText_cases (context : device.instructionState = .signTx ctx) :
    Yields feeText device ctx ∨ ∃ exc, feeText.run device = .error exc device := by
  by_cases gasPrice : ctx.tx.gasPrice.length.toNat ≤ txMaxInt256Length
  · by_cases startGas : ctx.tx.startGas.length.toNat ≤ txMaxInt256Length
    · exact (feeText_yields context gasPrice startGas).cases
    · refine .inr ⟨.reset, ?_⟩
      rw [feeText, run_bind_ok (getSignTx_run context)]
      dsimp only
      rw [decide_eq_true gasPrice, decide_eq_false startGas]
      rfl
  · refine .inr ⟨.reset, ?_⟩
    rw [feeText, run_bind_ok (getSignTx_run context)]
    dsimp only
    rw [decide_eq_false gasPrice]
    rfl

theorem reviews_fee (reviewing : ReviewingSigned device ctx) (uiStep : ctx.uiStep = .txFee) :
    Reviews platform ctx (feeScript ctx.tx) device := by
  refine reviews_text platform reviewing (by rw [uiStep]; rfl) (feeText_cases reviewing.context) ?_
  intro shown next reviewing same signature uiStep
  rw [← same]
  exact reviews_final platform reviewing (by rw [uiStep, same])

theorem reviews_amount (reviewing : ReviewingSigned device ctx) (uiStep : ctx.uiStep = .txAmount) :
    Reviews platform ctx (amountScript ctx.tx) device := by
  refine reviews_text platform reviewing (by rw [uiStep]; rfl) (amountText_cases reviewing.context) ?_
  intro shown next reviewing same signature uiStep
  rw [← same]
  exact reviews_fee platform reviewing uiStep

theorem reviews_recipient (reviewing : ReviewingSigned device ctx)
    (whole : ctx.tx.sender.length.toNat = rawAddressSize) (uiStep : ctx.uiStep = .txRecipient) :
    Reviews platform ctx (reviewScript platform.sdk ctx.tx) device := by
  refine reviews_text platform reviewing (by rw [uiStep]; rfl)
    (recipientText_cases platform.sdk reviewing.context) ?_
  intro shown next reviewing same signature uiStep
  rw [← same] at whole ⊢
  refine reviews_text platform reviewing (by rw [uiStep]; rfl)
    (.inl (senderText_yields reviewing.context whole)) ?_
  intro shown next reviewing same signature uiStep
  rw [← same]
  exact reviews_amount platform reviewing uiStep

/-- The bytes that the digest of the stream has absorbed. -/
def absorbedBytes (chunks : List Chunk) : List UInt8 := (fedChunks platform chunks).stream.sha3Context.absorbed

/-- The bytes of the stream that the device has consumed. -/
def consumedBytes (chunks : List Chunk) : List UInt8 :=
  (fedChunks platform chunks).received.take (fedChunks platform chunks).consumed

/-- Once the stream is finished and none of its v items is too long for its array, they are the same. -/
theorem absorbed_consumed {chunks : List Chunk} (spared : ¬LongV (tag 0 (joined chunks)))
    (finished : (fedChunks platform chunks).status = .ok .finished) :
    absorbedBytes platform chunks = consumedBytes platform chunks := by
  rw [← tagged_withFlags] at spared
  have same : fedChunks platform chunks = feed storeInside (txStreamInit .zero) (withFlags 0 chunks) :=
    feed_spared platform.overrun .zero spared
  rw [absorbedBytes, consumedBytes, same]
  rw [same] at finished
  exact (digestExact_of_ok finished nofun).consumed

/-- The context in which the collected transaction has been signed, with the hash of some bytes. -/
def Signs (path : Bip44Path) (chunks : List Chunk) (bytes : List UInt8) (signed : SignTxContext) : Prop :=
  ∃ ctx, ctx.path = path ∧ ctx.tx = (fedChunks platform chunks).stream.tx ∧
    (txGetSignature platform.sdk (platform.sdk.keccak256 bytes)).run ctx = .ok () signed

/-- The final checks pass only on a stream that is complete; then what its digest has absorbed has been
signed. -/
theorem finalChecks_goes {path : Bip44Path} {chunks : List Chunk}
    (streaming : Streaming platform path chunks device) (p2 : UInt8) (wire : List UInt8) :
    Goes Device.outputs (finalChecks platform.sdk p2 wire) device fun policy checked =>
      policy = .prompt ∧ p2 = 0 ∧ wire = [] ∧ (fedChunks platform chunks).status = .ok .finished ∧
        ∃ signed, Signs platform path chunks (absorbedBytes platform chunks) signed ∧
          signed.stage = .finalize ∧ signed.tx.sender.length.toNat = rawAddressSize ∧
          checked = { device with
            ioState := .expectUi
            instructionState := .signTx { signed with responseReady := signReadyTag } } := by
  obtain ⟨ctx, context, path_eq, stream, stands⟩ := streaming.context
  apply goes_of_keeps (keeps_finalChecks platform.sdk p2 wire)
  intro policy checked passed
  obtain ⟨rfl, stage, rfl, rfl, signed, run, rfl⟩ := finalChecks_signs context passed
  have finished : (fedChunks platform chunks).status = .ok .finished := by
    rcases stands with ⟨collects, _⟩ | ⟨_, finished⟩
    · rw [stage] at collects
      cases collects
    · exact finished
  have tx_eq : ctx.tx = (fedChunks platform chunks).stream.tx := by rw [SignTxContext.tx, stream]
  have absorbed : ctx.sha3Context.absorbed = absorbedBytes platform chunks := by
    rw [SignTxContext.sha3Context, stream, absorbedBytes]
  have signs : Signs platform path chunks (absorbedBytes platform chunks) signed := by
    rw [← absorbed]
    exact ⟨ctx.setSha3Context ⟨ctx.sha3Context.absorbed, true⟩, path_eq, tx_eq, run⟩
  obtain ⟨sha3Context, sender, signature, whole, rfl⟩ := txGetSignature_eq_ok run
  exact ⟨rfl, rfl, rfl, finished, _, signs, stage, whole, rfl⟩

theorem handleSignTxFinalize_goes {path : Bip44Path} {chunks : List Chunk}
    (streaming : Streaming platform path chunks device) (p2 : UInt8) (wire : List UInt8) :
    Goes Device.outputs (handleSignTxFinalize platform.sdk p2 wire) device fun _ after =>
      p2 = 0 ∧ wire = [] ∧ (fedChunks platform chunks).status = .ok .finished ∧
        ∃ signed, Signs platform path chunks (absorbedBytes platform chunks) signed ∧
          Presents platform .runSignTransactionUIStep (signAnswer signed.signature) AtRest
            (reviewScript platform.sdk signed.tx) device.outputs after := by
  rw [handleSignTxFinalize_eq]
  apply Goes.bind
  apply Goes.mono (finalChecks_goes platform streaming p2 wire)
  rintro _ _ ⟨rfl, rfl, rfl, finished, signed, signs, stage, whole, rfl⟩
  refine ⟨rfl, ?_⟩
  have running := running_of_ins streaming.ins
  have reviewing : ReviewingSigned
      { device with
        ioState := .expectUi
        instructionState := .signTx { signed with
          responseReady := signReadyTag
          uiStep := .txRecipient } }
      { signed with responseReady := signReadyTag, uiStep := .txRecipient } :=
    ⟨⟨rfl, stage, rfl⟩, running, rfl⟩
  have reviews := reviews_recipient platform reviewing whole rfl
  apply goes_bind_ok (setUiStep_run rfl .txRecipient) rfl
  apply Goes.mono reviews
  intro _ after presents
  exact ⟨rfl, rfl, finished, _, signs, presents⟩

end Review

section Dispatch

variable (platform : Platform) {device : Device}

theorem assertStage_goes {ctx : SignTxContext} {stage : TxStage} {β : Type}
    {next : Unit → DeviceCode β} {good : β → Device → Prop}
    (context : device.instructionState = .signTx ctx) (other : ctx.stage ≠ stage) :
    Goes Device.outputs (assertStage stage >>= next) device good :=
  goes_bind_assertStage context fun same => absurd same other

/-- The first APDU of a signature is a request for a new transaction. -/
theorem handleSignTransaction_new (ins : device.currentIns = some .signTx) (p1 p2 : UInt8)
    (wire : List UInt8) :
    Goes Device.outputs (handleSignTransaction platform.sdk platform.store p1 p2 wire true) device fun _ after =>
      p1 = p1NewTransaction ∧ ∃ path policy, RequestsStart p2 wire path policy ∧
        Presents platform .runSignTransactionInitUIStep initAnswer (Collecting platform path [])
          (initScript policy) device.outputs after := by
  unfold handleSignTransaction
  rw [if_pos rfl]
  apply goes_bind_ok (EStateM.run_modify _ _) rfl
  split_ifs with first chunk last
  · have starts := @handleSignTxInit_goes platform
      { device with instructionState := .signTx .zero } rfl ins p2 wire
    apply Goes.mono starts
    intro _ after requested
    exact ⟨first, requested⟩
  · exact assertStage_goes rfl nofun
  · exact assertStage_goes rfl nofun
  · exact goes_throw _

/-- Further APDUs carry the stream, or ask for the signature. -/
theorem handleSignTransaction_next {path : Bip44Path} {chunks : List Chunk}
    (streaming : Streaming platform path chunks device) (p1 p2 : UInt8) {wire : List UInt8}
    (small : wire.length < 2 ^ 32) :
    Goes Device.outputs (handleSignTransaction platform.sdk platform.store p1 p2 wire false) device fun _ after =>
      p2 = 0 ∧ (p1 = p1StreamData ∧ (fedChunks platform chunks).status = .ok .processing ∧
          (∃ (chunk : Chunk) (stage : TxStage), chunk.bytes = wire ∧
            Collecting platform path (chunks ++ [chunk]) after ∧
            after.outputs = device.outputs ++ [.response success (.stage stage), .busy]) ∨
        p1 = p1GetSignature ∧ wire = [] ∧ (fedChunks platform chunks).status = .ok .finished ∧
          ∃ signed, Signs platform path chunks (absorbedBytes platform chunks) signed ∧
            Presents platform .runSignTransactionUIStep (signAnswer signed.signature) AtRest
              (reviewScript platform.sdk signed.tx) device.outputs after) := by
  unfold handleSignTransaction
  rw [if_neg Bool.false_ne_true]
  split_ifs with first chunk last
  · obtain ⟨ctx, context, _, _, stands⟩ := streaming.context
    apply assertStage_goes context
    rcases stands with ⟨stage, _⟩ | ⟨stage, _⟩
    · rw [stage]
      nofun
    · rw [stage]
      nofun
  · apply Goes.mono (handleSignTxCollect_goes platform streaming p2 small)
    rintro _ after ⟨zero, collected⟩
    exact ⟨zero, .inl ⟨chunk, collected⟩⟩
  · apply Goes.mono (handleSignTxFinalize_goes platform streaming p2 wire)
    rintro _ after ⟨zero, finalized⟩
    exact ⟨zero, .inr ⟨last, finalized⟩⟩
  · exact goes_throw _

end Dispatch

end FantomLedger
