import FantomLedger.NbglConsent
import FantomLedger.NbglProgress
import FantomLedger.NbglReviewRoom
import FantomLedger.SessionSigns

/-! A host and a user who go through with a transaction on the large screen: from whatever state of the device,
this ends with its signature. -/

namespace FantomLedger.Nbgl

open Library Library.Program Library.Progress

section Review

variable (platform : Platform) {s : State} {lines : List TagValue} {signature : TxSignature}

/-- A signature that is ready waits for its review. -/
structure Waiting (signature : TxSignature) (s : State) : Prop where
  confirm : s.confirmClbk = some .runSignTransactionUIStep
  context : ∃ ctx, s.device.instructionState = .signTx ctx ∧ ctx.stage = .finalize ∧
    ctx.responseReady = signReadyTag ∧ ctx.signature = signature ∧ ctx.uiStep = .txRespond

theorem signature_run (waiting : Waiting signature s) :
    ∃ after, (confirmClbk platform).run s = .ok () after ∧ after.device.ioState = .expectIo ∧
      after.outputs = s.outputs ++ [.response success (.signature signature)] := by
  obtain ⟨confirm, ctx, context, stage, ready, rfl, responds⟩ := waiting
  have reached : (assertStage .finalize).run s.device = .ok () s.device :=
    (assertStage_eq_ok context).mpr ⟨stage, rfl⟩
  have done := onSignTx_modify_run context fun ctx => { ctx with stage := .done }
  have sent : (do
      validate ((← getSignTx).responseReady == signReadyTag) errInvalidData
      onSignTx (modify fun ctx => { ctx with stage := .done })
      ioSendBuf success (.signature (← getSignTx).signature)
      setUiStep .txInvalid : DeviceCode Unit).run s.device = .ok () { s.device with
        ioState := .expectIo
        instructionState := .signTx { ctx with stage := .done, uiStep := .txInvalid }
        outputs := s.device.outputs ++ [.response success (.signature ctx.signature)] } := by
    rw [run_bind_ok (getSignTx_run context), beq_iff_eq.mpr ready, validate_true, pure_bind, run_bind_ok done,
      run_bind_ok (getSignTx_run rfl), run_bind_ok (ioSendBuf_run (signature_fits _) success _)]
    exact @setUiStep_run { s.device with
      ioState := .expectIo
      instructionState := .signTx { ctx with stage := .done }
      outputs := s.device.outputs ++ [.response success (.signature ctx.signature)] } _ rfl .txInvalid
  have called : (confirmClbk platform).run s = (runSignTransactionUIStep platform.sdk).run s := by
    rw [confirmClbk, run_bind_ok (EStateM.run_get s), confirm]
    rfl
  have step : (runSignTransactionUIStep platform.sdk).run s = .ok () { s with device := { s.device with
      ioState := .expectIo
      instructionState := .signTx { ctx with stage := .done, uiStep := .txInvalid }
      outputs := s.device.outputs ++ [.response success (.signature ctx.signature)] } } := by
    rw [runSignTransactionUIStep, run_bind_ok (onShared_run reached),
      run_bind_ok (onShared_run (getSignTx_run context)), responds]
    exact onShared_run sent
  exact ⟨_, called.trans step, rfl, rfl⟩

/-- The confirmation of the review gets the signature, and the end of its last page brings the device to rest. -/
theorem review_confirmed (waiting : Waiting signature s) (page : s.page = reviewPage lines) :
    Leads platform s [.accept, .statusDone] [.response success (.signature signature)] Idle := by
  obtain ⟨after, run, ioState, outputs⟩ := signature_run platform waiting
  have confirmed : (touch platform true).run s = .ok () { after with
      page := .status (some "TRANSACTION\nCONFIRMED".toList) true
      statusDue := true } := by
    rw [touch, run_bind_ok (EStateM.run_get s), page]
    change (reviewChoice platform true).run s = _
    rw [reviewChoice, if_pos rfl, run_bind_ok run]
    rfl
  have handled : (handleEvent platform .accept).run s = .ok () { after with
      page := .status (some "TRANSACTION\nCONFIRMED".toList) true
      statusDue := true } := catching_run confirmed
  have closed : Leads platform { after with
      page := .status (some "TRANSACTION\nCONFIRMED".toList) true
      statusDue := true } [.statusDone] [] Idle := by
    apply leads_input (catching_run rfl) (List.append_nil _).symm
    exact ⟨⟨rfl, rfl⟩, ioState⟩
  have whole := leads_cons handled outputs closed
  rwa [List.append_nil] at whole

/-- The lines of a review, which comes behind the alert. -/
structure Prepared (lines : List TagValue) (s : State) : Prop where
  fields : s.fields = lines
  nbPairs : s.nbPairs = lines.length
  infoLongPress : s.infoLongPress = ⟨"Send Transaction ?".toList, "Hold to confirm".toList⟩

/-- The page is on the screen, and its confirmation gets the signature. -/
def Confirms (page : Page) (signature : TxSignature) (s : State) : Prop :=
  s.page = page ∧ Leads platform s [.accept, .statusDone] [.response success (.signature signature)] Idle

theorem alert_accepted (waiting : Waiting signature s) (prepared : Prepared lines s) (page : s.page = alertPage) :
    Leads platform s [.accept] [] (Confirms platform (reviewPage lines) signature) := by
  have shows : Page.staticReview false (s.fields.take s.nbPairs) s.infoLongPress "Reject".toList .reviewChoice =
      reviewPage lines := by
    rw [prepared.fields, prepared.nbPairs, prepared.infoLongPress, List.take_length]
    rfl
  have turned : (touch platform true).run s = .ok () { s with page := reviewPage lines } := by
    rw [touch, run_bind_ok (EStateM.run_get s), page]
    change displayTransaction.run s = _
    rw [displayTransaction, run_bind_ok (EStateM.run_get s), shows]
    rfl
  have waits : Waiting signature { s with page := reviewPage lines } := ⟨waiting.confirm, waiting.context⟩
  apply leads_input (catching_run turned) (List.append_nil _).symm
  exact ⟨rfl, review_confirmed platform waits rfl⟩

/-- The review is on the screen, or the alert before it for a call; who goes on gets the signature. -/
def Reviewed (isContractCall : Bool) (page : Page) (signature : TxSignature) (s : State) : Prop :=
  if isContractCall then
    s.page = alertPage ∧ Leads platform s [.accept] [] (Confirms platform page signature)
  else
    Confirms platform page signature s

variable {platform} {path : Bip44Path} {chunks : List Chunk}

/-- The context in which a review starts. -/
def reviewContext (signed : SignTxContext) : SignTxContext :=
  { signed with responseReady := signReadyTag, uiStep := .txRecipient }

def reviewDevice (signed : SignTxContext) (device : Device) : Device :=
  { device with ioState := .expectUi, instructionState := .signTx (reviewContext signed) }

theorem reviewLines_of_run {sdk : Sdk} {signed : SignTxContext} {device after : Device}
    (ins : device.currentIns = some .signTx)
    (run : (reviewPairs sdk).run (reviewDevice signed device) = .ok lines after) :
    ReviewLines sdk signed.tx lines := by
  have hashed : Hashed (some .signTx) device.outputs (reviewContext signed) (reviewDevice signed device) :=
    ⟨_, ins, rfl, rfl⟩
  have goes := @reviewPairs_goes _ _ _ sdk _ hashed
  unfold Goes at goes
  rw [run] at goes
  exact goes.1

/-- The final APDU of a complete stream shows the transaction. -/
theorem finalize_shown {signed : SignTxContext} (takes : Takes platform path chunks .finished s)
    (stage : signed.stage = .finalize) (sized : Sized signed.tx)
    (amountFits : Convertible (shownAmount signed.tx)) (feeFits : Convertible (shownFee signed.tx))
    (checked : (finalChecks platform.sdk 0 []).run s.handling.device = .ok .prompt { s.device with
        ioState := .expectUi
        instructionState := .signTx { signed with responseReady := signReadyTag } }) :
    ∃ lines, ReviewLines platform.sdk signed.tx lines ∧ Leads platform s [asksSignature] []
      (Reviewed platform signed.tx.isContractCall (reviewPage lines) signed.signature) := by
  have chosen : (do takeFirstStep (finalUiStep (← finalChecks platform.sdk 0 [])) setUiStep :
      DeviceCode Unit).run s.handling.device = .ok () (reviewDevice signed s.device) := by
    rw [run_bind_ok checked]
    exact @setUiStep_run { s.device with
      ioState := .expectUi
      instructionState := .signTx { signed with responseReady := signReadyTag } } _ rfl .txRecipient
  obtain ⟨lines, stack, sha3Context, written, shown⟩ := @reviewStep_shows platform { s.handling with
    device := reviewDevice signed s.device } (reviewContext signed) rfl stage rfl rfl sized amountFits feeFits
  have describes := reviewLines_of_run takes.ins written
  have handled : (runHandler platform .signTx p1GetSignature 0 [] false).run s.handling = .ok ()
      (State.reviewing { s.handling with device := reviewDevice signed s.device } (reviewContext signed) lines
        stack sha3Context) := by
    change (handleSignTxFinalize platform 0 []).run s.handling = _
    rw [handleSignTxFinalize, run_bind_ok (onShared_run chosen)]
    exact shown
  have short : ([] : List UInt8).length < 256 := by decide
  refine ⟨lines, describes, leads_input (sends_continues takes.ins takes.ioState short handled)
    (List.append_nil _).symm ?_⟩
  unfold Reviewed
  split_ifs with call
  · have page : (if signed.tx.isContractCall then alertPage else reviewPage (lines.take lines.length)) =
        alertPage := if_pos call
    exact ⟨page, alert_accepted platform ⟨rfl, _, rfl, stage, rfl, rfl, rfl⟩ ⟨rfl, rfl, rfl⟩ page⟩
  · have page : (if signed.tx.isContractCall then alertPage else reviewPage (lines.take lines.length)) =
        reviewPage lines := by
      rw [if_neg call, List.take_length]
    exact ⟨page, review_confirmed platform ⟨rfl, _, rfl, stage, rfl, rfl, rfl⟩ page⟩

end Review

section Session

/-- The host sends a transaction in chunks and asks for its signature, and the user accepts the pages of the
beginning. -/
def asksSigning (path : Bip44Path) (policy : SecurityPolicy) (chunks : List Chunk) : List Event :=
  (sends .signTx p1NewTransaction (encodePath path.indexes) :: (startScreens policy).map fun _ => .accept) ++
    (chunks.map sendsChunk ++ [asksSignature])

variable {platform : Platform} {path : Bip44Path} {policy : SecurityPolicy} {raw : RlpTransaction}
  {privateKey : PrivateKey} {r s : Nat}

theorem session_reviewed (signable : Signable platform Convertible path policy raw privateKey r s)
    {chunks : List Chunk} (cut : joined chunks = raw.encode)
    (short : ∀ chunk ∈ chunks, chunk.bytes.length < 256) {state : State} (idle : Idle state) :
    ∃ recipient sender amount fee, Tells platform.sdk path raw.item recipient sender amount fee ∧
      Leads platform state (asksSigning path policy chunks)
        ([.response success .empty] ++ streamAnswers chunkAnswer chunks)
        (Reviewed platform (looksLikeContractCall raw.data.length) (textsPage recipient sender amount fee)
          (sentSignature (platform.sdk.cxEcdsaSign privateKey (platform.sdk.keccak256 raw.encode)) r s)) := by
  obtain ⟨_, opened, openOutputs, takes⟩ := @session_opened platform _ _ _ idle signable.requests
  obtain ⟨middle, sent, sentOutputs, taken⟩ := chunks_lead (chunk_leads platform path) raw signable.small
    (show joined ([] ++ chunks) = raw.encode from cut) short (encode_asks platform signable.small cut) takes
  obtain ⟨signed, signs, collected, stage, sized, signature, checked⟩ := signable_checked signable cut taken
  have kept := signs.collected collected
  obtain ⟨lines, ⟨recipient, sender, amount, fee, sendsTo, sendsFrom, shows, costs, rfl⟩, finalized⟩ :=
    finalize_shown taken stage sized (shownAmount_eq kept ▸ signable.amount) (shownFee_eq kept ▸ signable.fee) checked
  have call : signed.tx.isContractCall = looksLikeContractCall raw.data.length := kept.flag
  rw [signature, call] at finalized
  have tells := tells_of_texts (by decide) (by decide) (by decide) signs collected sendsTo sendsFrom shows costs
  have shown := leads_append opened openOutputs (leads_append sent sentOutputs finalized)
  rw [List.append_nil] at shown
  exact ⟨recipient, sender, amount, fee, tells, shown⟩

/-- In whatever state the device is: after one APDU that it refuses, a transaction that can be signed, cut into
chunks in whatever way, comes to a review that tells what it is, and who confirms that gets the signature. -/
theorem session_completes (signable : Signable platform Convertible path policy raw privateKey r s)
    (chunks : List Chunk) (cut : joined chunks = raw.encode)
    (short : ∀ chunk ∈ chunks, chunk.bytes.length < 256) (state : State) :
    ∃ error recipient sender amount fee, Tells platform.sdk path raw.item recipient sender amount fee ∧
      Leads platform state (foreign :: asksSigning path policy chunks)
        ([.response error .empty] ++ ([.response success .empty] ++ streamAnswers chunkAnswer chunks))
        (Reviewed platform (looksLikeContractCall raw.data.length) (textsPage recipient sender amount fee)
          (sentSignature (platform.sdk.cxEcdsaSign privateKey (platform.sdk.keccak256 raw.encode)) r s)) := by
  obtain ⟨error, _, refused, outputs, idle⟩ := foreign_idles platform state
  obtain ⟨recipient, sender, amount, fee, tells, leads⟩ := session_reviewed signable cut short idle
  exact ⟨error, recipient, sender, amount, fee, tells, leads_append refused outputs leads⟩

theorem largeTransfer_signable :
    Signable unevenPlatform Convertible firstPath .prompt largeTransfer (Vector.replicate 32 0) 1 (2 ^ 255) where
  requests := transfer_signable.requests
  derives := transfer_signable.derives
  small := by decide +kernel
  network := rfl
  amount := by decide +kernel
  fee := by decide +kernel
  signs := ⟨by decide, by decide, ⟨List.replicate 60 0, by decide +kernel⟩, by decide +kernel⟩

/-- From the middle of another signature, with an amount for which the small screen has no room. -/
theorem largeTransfer_completes :
    ∃ error recipient sender amount fee,
      Tells unevenSdk firstPath largeTransfer.item recipient sender amount fee ∧
      Leads unevenPlatform { bootState (fun _ => Vector.replicate _ 0) with
          device := deviceAfter (withFlags 0 transferPieces) }
        (foreign :: asksSigning firstPath .prompt largeTransferPieces)
        ([.response error .empty] ++
          ([.response success .empty] ++ streamAnswers chunkAnswer largeTransferPieces))
        (Reviewed unevenPlatform (looksLikeContractCall largeTransfer.data.length)
          (textsPage recipient sender amount fee) (sentSignature (unevenSdk.cxEcdsaSign (Vector.replicate 32 0)
            (unevenSdk.keccak256 largeTransfer.encode)) 1 (2 ^ 255))) :=
  session_completes largeTransfer_signable largeTransferPieces (by decide +kernel) (by decide +kernel) _

end Session

end FantomLedger.Nbgl
