import FantomLedger.SessionProgress
import FantomLedger.SignatureEncoding

/-! A host and a user who go through with a transaction: from whatever state of the device, this ends with
its signature. -/

namespace FantomLedger

open Library Library.Program Library.Progress StreamParser

section Review

variable (platform : Platform) {device : Device} {ctx : SignTxContext} {tx : Transaction}
  {signature : TxSignature} {uiStep : SignUiStep}

/-- A screen of a review, behind which this step comes. -/
structure UnderReview (tx : Transaction) (signature : TxSignature) (uiStep : SignUiStep) (device : Device) :
    Prop where
  asking : ∃ screen, Asking screen .runSignTransactionUIStep device
  context : ∃ ctx, device.instructionState = .signTx ctx ∧ ctx.stage = .finalize ∧
    ctx.responseReady = signReadyTag ∧ ctx.tx = tx ∧ ctx.signature = signature ∧ ctx.uiStep = uiStep

/-- A step that has a text to show. -/
theorem text_shown {step : TextStep} (reviewing : ReviewingSigned device ctx)
    (known : textStep platform.sdk ctx.uiStep = some step) (yields : Yields step.text device ctx) :
    ∃ text after, TextOf step.text ctx.tx text ∧
      (runSignTransactionUIStep platform.sdk).run device = .ok () after ∧
      UnderReview ctx.tx ctx.signature (step.next ctx.tx) after ∧
      after.outputs = device.outputs ++ [.paginatedText step.header text] := by
  obtain ⟨text, stack, sha3Context, short, run⟩ := yields
  have shown := TextStep.body_run reviewing.toReviewing (textStep_header_fits known) short run
  have ran := (runSignTransactionUIStep_text reviewing.toReviewing known).trans shown
  refine ⟨text, _, ⟨device, ctx, _, reviewing.context, rfl, run⟩, ran, ⟨?_, ?_⟩, rfl⟩
  · exact ⟨.text step.header text, reviewing.running, reviewing.ioState, rfl, rfl⟩
  · exact ⟨_, rfl, reviewing.stage, reviewing.ready, rfl, rfl, rfl⟩

theorem question_shown (reviewing : ReviewingSigned device ctx) (asks : ctx.uiStep = .txConfirm) :
    ∃ after, (runSignTransactionUIStep platform.sdk).run device = .ok () after ∧
      UnderReview ctx.tx ctx.signature .txRespond after ∧
      after.outputs = device.outputs ++ [sendQuestion.output] := by
  have displayed := @uiDisplayPrompt_run device reviewing.ioState "Send".toList
    "Transaction?".toList (by decide) (by decide) .runSignTransactionUIStep .uiRespondWithUserReject
  have ran : (runSignTransactionUIStep platform.sdk).run device = .ok ()
      { device.presenting sendQuestion .runSignTransactionUIStep with
        ioState := device.ioState
        instructionState := .signTx { ctx with uiStep := .txRespond } } := by
    rw [runSignTransactionUIStep, run_bind_ok (assertStage_run reviewing.toReviewing),
      run_bind_ok (getSignTx_run reviewing.context), asks]
    dsimp only
    rw [run_bind_ok displayed]
    apply setUiStep_run
    exact reviewing.context
  refine ⟨_, ran, ⟨⟨sendQuestion, reviewing.running, reviewing.ioState, rfl, rfl⟩, ?_⟩, rfl⟩
  exact ⟨_, rfl, reviewing.stage, reviewing.ready, rfl, rfl, rfl⟩

/-- The last step sends the signature. -/
theorem signature_sent (reviewing : ReviewingSigned device ctx) (responds : ctx.uiStep = .txRespond) :
    ∃ after, (runSignTransactionUIStep platform.sdk).run device = .ok () after ∧ AtRest after ∧
      after.outputs = device.outputs ++ signAnswer ctx.signature := by
  have done := onSignTx_modify_run reviewing.context fun ctx => { ctx with stage := .done }
  rw [runSignTransactionUIStep, run_bind_ok (assertStage_run reviewing.toReviewing),
    run_bind_ok (getSignTx_run reviewing.context), responds]
  dsimp only
  rw [run_bind_ok (getSignTx_run reviewing.context), reviewing.ready, beq_self_eq_true, validate_true,
    pure_bind, run_bind_ok done, run_bind_ok (getSignTx_run rfl), ← bind_assoc,
    run_bind_ok (answer_run (signature_fits _) success _)]
  exact ⟨_, setUiStep_run rfl _, ⟨rfl, rfl, rfl⟩, rfl⟩

/-- A confirmation runs the step behind the screen. -/
theorem UnderReview.confirms (under : UnderReview tx signature uiStep device) :
    ∃ fired ctx, ReviewingSigned fired ctx ∧ ctx.tx = tx ∧ ctx.signature = signature ∧ ctx.uiStep = uiStep ∧
      fired.outputs = device.outputs ∧ ∀ after,
        (runSignTransactionUIStep platform.sdk).run fired = .ok () after →
        (handleEvent platform .confirm).run device = .ok () after := by
  obtain ⟨⟨screen, asking⟩, ctx, context, stage, ready, same⟩ := under
  obtain ⟨displayState, run⟩ := @Asking.confirm_run platform _ _ _ asking
  refine ⟨{ device with displayState := displayState }, ctx, ⟨⟨context, stage, asking.ioState⟩, asking.ins,
    ready⟩, same.1, same.2.1, same.2.2, rfl, ?_⟩
  intro after ran
  exact run.trans (tryCatchUi_ok ran)

theorem text_leads {step : TextStep} (under : UnderReview tx signature uiStep device)
    (known : textStep platform.sdk uiStep = some step)
    (yields : ∀ device ctx, device.instructionState = .signTx ctx → ctx.tx = tx →
      Yields step.text device ctx) :
    ∃ text, TextOf step.text tx text ∧ Leads platform device [.confirm] [.paginatedText step.header text]
      (UnderReview tx signature (step.next tx)) := by
  obtain ⟨fired, ctx, reviewing, rfl, rfl, rfl, outputs, handled⟩ := under.confirms platform
  obtain ⟨text, after, shown, run, next, more⟩ := text_shown platform reviewing known
    (yields fired ctx reviewing.context rfl)
  exact ⟨text, shown, leads_input (handled after run) (outputs ▸ more) next⟩

theorem question_leads (under : UnderReview tx signature .txConfirm device) :
    Leads platform device [.confirm, .confirm] ([sendQuestion.output] ++ signAnswer signature) AtRest := by
  obtain ⟨fired, ctx, reviewing, rfl, rfl, asks, outputs, handled⟩ := under.confirms platform
  obtain ⟨after, run, next, more⟩ := question_shown platform reviewing asks
  apply leads_cons (handled after run) (outputs ▸ more)
  obtain ⟨fired, ctx, reviewing, same, signed, responds, outputs, handled⟩ := next.confirms platform
  obtain ⟨final, run, rest, more⟩ := signature_sent platform reviewing responds
  rw [signed, outputs] at more
  exact leads_input (handled final run) more rest

/-- The screens behind the texts of a review. -/
def finalScreens (isContractCall : Bool) : List Screen :=
  (if isContractCall then [alertScreen] else []) ++ [sendQuestion]

theorem review_ends (under : UnderReview tx signature
      (if tx.isContractCall then .txContractCall else .txConfirm) device) :
    Leads platform device (((finalScreens tx.isContractCall).map fun _ => .confirm) ++ [.confirm])
      ((finalScreens tx.isContractCall).map Screen.output ++ signAnswer signature) AtRest := by
  unfold finalScreens
  split_ifs at under ⊢ with call
  · obtain ⟨text, ⟨_, _, _, _, _, run⟩, alerts⟩ := @text_leads platform _ _ _ _
      ⟨"Smart Contract".toList, pure "Alert".toList, fun _ => .txConfirm⟩ under rfl
      fun device ctx context _ => yields_of_ok context (by decide) rfl
    cases run
    exact alerts.trans fun _ => question_leads platform
  · exact question_leads platform under

/-- The three texts behind that of the recipient. -/
theorem review_texts (under : UnderReview tx signature .txSender device) (sized : Sized tx)
    (amountFits : Showable (shownAmount tx)) (feeFits : Showable (shownFee tx)) :
    ∃ sender amount fee, TextOf (senderText platform.sdk) tx sender ∧ TextOf amountText tx amount ∧
      TextOf feeText tx fee ∧
      Leads platform device [.confirm, .confirm, .confirm]
        [.paginatedText "Send From".toList sender, .paginatedText "Amount (FTM)".toList amount,
          .paginatedText "Max Fee (FTM)".toList fee]
        (UnderReview tx signature (if tx.isContractCall then .txContractCall else .txConfirm)) := by
  obtain ⟨sender, sendsFrom, _, run, outputs, next⟩ := text_leads platform under rfl
    fun device ctx context same => senderText_yields context (same ▸ sized.sender)
  obtain ⟨amount, shows, _, run', outputs', next⟩ := text_leads platform next rfl
    fun device ctx context same => (amount_yields sized device ctx context same).shown amountFits
  obtain ⟨fee, costs, last⟩ := text_leads platform next rfl
    fun device ctx context same => (fee_yields sized device ctx context same).shown feeFits
  exact ⟨sender, amount, fee, sendsFrom, shows, costs,
    leads_append run outputs (leads_append run' outputs' last)⟩

end Review

section Finalize

variable {platform : Platform} {path : Bip44Path} {chunks : List Chunk} {device : Device} {ctx : SignTxContext}

theorem txGetV_run {σ : Type} {tx : Transaction} (network : tx.v.bytes = [0xfa])
    (single : tx.v.length.toNat = 1) (s : σ) : (txGetV tx).run s = .ok expectedChainId s := by
  have some : 0 < tx.v.length := by
    rw [UInt8.lt_iff_toNat_lt, single]
    decide
  rw [txGetV, single, network, if_pos some]
  rfl

/-- The checks of the final APDU pass on a complete stream. -/
theorem finalChecks_run {signed : SignTxContext} (context : device.instructionState = .signTx ctx)
    (stage : ctx.stage = .finalize)
    (network : ∀ device : Device, (txGetV ctx.tx).run device = .ok expectedChainId device)
    (signs : (txGetSignature platform.sdk (platform.sdk.keccak256 ctx.sha3Context.absorbed)).run
      (ctx.setSha3Context ⟨ctx.sha3Context.absorbed, true⟩) = .ok () signed) :
    (finalChecks platform.sdk 0 []).run device = .ok .prompt { device with
      ioState := .expectUi
      instructionState := .signTx { signed with responseReady := signReadyTag } } := by
  have final : (assertStage .finalize).run device = .ok () device :=
    (assertStage_eq_ok context).mpr ⟨stage, rfl⟩
  have hashed := finalHash_run platform.sdk ctx
  rw [List.append_nil] at hashed
  have body : (do
      let hash ← finalHash platform.sdk
      txGetSignature platform.sdk hash
      modify fun ctx => { ctx with responseReady := signReadyTag } : SignCode Unit).run ctx =
        .ok () { signed with responseReady := signReadyTag } := by
    rw [run_bind_ok hashed, run_bind_ok signs]
    rfl
  rw [finalChecks, run_bind_ok final, beq_self_eq_true, validate_true, pure_bind, List.length_nil,
    beq_self_eq_true, validate_true, pure_bind, run_bind_ok (EStateM.run_modify _ _)]
  change (getSignTx >>= _).run { device with ioState := .expectUi } = _
  have read := @getSignTx_run { device with ioState := .expectUi } ctx context
  have ran := @onSignTx_run { device with ioState := .expectUi } ctx _ context _ _ _ body
  rw [run_bind_ok read, run_bind_ok (network _), beq_self_eq_true, validate_true, pure_bind,
    run_bind_ok ran]
  rfl

/-- The checks of the final APDU pass on a complete stream, and the transaction has been signed. -/
theorem finalChecks_taken {item : TxRlpField → List UInt8} {privateKey : PrivateKey} {chainCode : ChainCode}
    {r s : Nat} (taking : Taking platform path chunks .finished device)
    (collected : Collected (fedChunks platform chunks).stream.tx item) (network : item .v = [0xfa])
    (derived : (derivePrivateKey platform.sdk path : EStateM Exc Unit _).run () =
      .ok (privateKey, chainCode) ())
    (der : DerSigned
      (platform.sdk.cxEcdsaSign privateKey (platform.sdk.keccak256 (absorbedBytes platform chunks))) r s) :
    ∃ signed, Signs platform path chunks (absorbedBytes platform chunks) signed ∧
      signed.stage = .finalize ∧ Sized signed.tx ∧
      signed.signature = sentSignature
        (platform.sdk.cxEcdsaSign privateKey (platform.sdk.keccak256 (absorbedBytes platform chunks))) r s ∧
      (finalChecks platform.sdk 0 []).run { device with ioState := .expectNone } = .ok .prompt { device with
        ioState := .expectUi
        instructionState := .signTx { signed with responseReady := signReadyTag } } := by
  obtain ⟨ctx, context, path_eq, cleared, stream, stage⟩ := taking.context
  have tx_eq : ctx.tx = (fedChunks platform chunks).stream.tx := by rw [SignTxContext.tx, stream]
  have absorbed : ctx.sha3Context.absorbed = absorbedBytes platform chunks := by
    rw [SignTxContext.sha3Context, stream, absorbedBytes]
  have key := ((alike_derivePrivateKey platform.sdk path).of_ok derived
    (ctx.setSha3Context ⟨absorbedBytes platform chunks, true⟩)).2
  rw [← path_eq] at key
  obtain ⟨signed, run, signature⟩ := @txGetSignature_der platform.sdk _
    (ctx.setSha3Context ⟨absorbedBytes platform chunks, true⟩) _ _ _ _ key der
  obtain ⟨signedStage, sized⟩ : signed.stage = .finalize ∧ Sized signed.tx := by
    obtain ⟨sha3Context, sender, signature, whole, rfl⟩ := txGetSignature_eq_ok run
    refine ⟨stage, ?_⟩
    show Sized { ctx.tx with sender := sender }
    rw [tx_eq]
    exact sized_of_collected collected whole
  have v : ctx.tx.v.bytes = item .v ∧ ctx.tx.v.length.toNat = (item .v).length := by
    rw [tx_eq]
    exact collected.holds .v (by decide) .v rfl
  rw [network] at v
  have checked := @finalChecks_run platform { device with ioState := .expectNone } ctx signed context stage
    (txGetV_run v.1 v.2) (absorbed ▸ run)
  exact ⟨signed, ⟨ctx.setSha3Context ⟨absorbedBytes platform chunks, true⟩, path_eq, tx_eq, run⟩, signedStage,
    sized, signature cleared, checked⟩

/-- The final APDU of a complete stream shows the recipient. -/
theorem finalize_leads {signed : SignTxContext} (taking : Taking platform path chunks .finished device)
    (stage : signed.stage = .finalize) (sized : Sized signed.tx)
    (checked : (finalChecks platform.sdk 0 []).run { device with ioState := .expectNone } =
      .ok .prompt { device with
        ioState := .expectUi
        instructionState := .signTx { signed with responseReady := signReadyTag } }) :
    ∃ recipient, TextOf (recipientText platform.sdk) signed.tx recipient ∧
      Leads platform device [sends .signTx p1GetSignature []] [.paginatedText "Send To".toList recipient]
        (UnderReview signed.tx signed.signature .txSender) := by
  have reviewing : ReviewingSigned
      { device with
        ioState := .expectUi
        instructionState := .signTx { signed with
          responseReady := signReadyTag
          uiStep := .txRecipient } }
      { signed with responseReady := signReadyTag, uiStep := .txRecipient } :=
    ⟨⟨rfl, stage, rfl⟩, running_of_ins taking.ins, rfl⟩
  obtain ⟨recipient, after, sendsTo, shown, under, outputs⟩ := text_shown platform reviewing rfl
    (recipientText_yields reviewing.context sized.recipient)
  have handled : (runHandler platform .signTx p1GetSignature 0 [] false).run
      { device with ioState := .expectNone } = .ok () after := by
    change (handleSignTxFinalize platform.sdk 0 []).run _ = _
    rw [handleSignTxFinalize_eq, run_bind_ok checked]
    dsimp only [finalUiStep]
    rw [run_bind_ok (setUiStep_run rfl _)]
    exact shown
  exact ⟨recipient, sendsTo,
    leads_input (sends_continues taking.ins taking.ioState (by decide) handled) outputs under⟩

end Finalize

section Session

/-- The digest of an encoded transaction has absorbed all of its bytes. -/
theorem encode_absorbed (platform : Platform) (raw : RlpTransaction) (small : raw.payload.length < 2 ^ 32)
    {chunks : List Chunk} (cut : joined chunks = raw.encode) : absorbedBytes platform chunks = raw.encode := by
  have announces := Rlp.isHeader_lengthPrefix true raw.payload.length 4 small (by decide) (by decide)
  obtain ⟨q, _, _, ran⟩ := run_framed_items .zero [] announces (accepts_items raw small)
  have encoded : Rlp.lengthPrefix (Rlp.base true) raw.payload.length ++ raw.payload = joined chunks := cut.symm
  rw [encoded, List.append_nil] at ran
  have whole := (feed_init_follows .zero (withFlags 0 chunks)).whole
  rw [tagged_withFlags, ran] at whole
  obtain ⟨answered, stands, consumed, split, _, _, absorbed⟩ := whole
  have same : fedChunks platform chunks = feed storeInside (txStreamInit .zero) (withFlags 0 chunks) :=
    feed_spared platform.overrun .zero (spared_of_ok answered)
  rw [List.append_nil] at split
  rw [absorbedBytes, same, stands.hash, absorbed, ← split, bytesOf_tag, cut]
  rfl

/-- A transaction that the device can sign under a path: no policy denies the path, its key can be derived,
amount and fee are numbers that it can show, and the signing call returns two numbers. -/
structure Signable (platform : Platform) (shows : Nat → Prop) (path : Bip44Path) (policy : SecurityPolicy)
    (raw : RlpTransaction) (privateKey : PrivateKey) (r s : Nat) : Prop where
  requests : RequestsStart 0 (encodePath path.indexes) path policy
  derives : ∃ chainCode, (derivePrivateKey platform.sdk path : EStateM Exc Unit _).run () =
    .ok (privateKey, chainCode) ()
  small : raw.payload.length < 2 ^ 32
  network : raw.v = [0xfa]
  amount : shows (Rlp.beNat raw.value)
  fee : shows (computedFee (Rlp.beNat raw.gasPrice) (Rlp.beNat raw.startGas))
  signs : DerSigned (platform.sdk.cxEcdsaSign privateKey (platform.sdk.keccak256 raw.encode)) r s

/-- The host sends a transaction in chunks, and the user confirms every screen. -/
def goesThrough (path : Bip44Path) (policy : SecurityPolicy) (raw : RlpTransaction) (chunks : List Chunk) :
    List Event :=
  sends .signTx p1NewTransaction (encodePath path.indexes) :: (startScreens policy).map (fun _ => .confirm) ++
    (chunks.map sendsChunk ++ ([sends .signTx p1GetSignature []] ++ ([.confirm, .confirm, .confirm] ++
      ((finalScreens (looksLikeContractCall raw.data.length)).map (fun _ => .confirm) ++ [.confirm]))))

/-- The screens with these texts, and those behind them. -/
def reviewScreens (raw : RlpTransaction) (recipient sender amount fee : List Char) : List Screen :=
  [.text "Send To".toList recipient, .text "Send From".toList sender, .text "Amount (FTM)".toList amount,
    .text "Max Fee (FTM)".toList fee] ++ finalScreens (looksLikeContractCall raw.data.length)

theorem encode_asks (platform : Platform) {raw : RlpTransaction} (small : raw.payload.length < 2 ^ 32)
    {chunks : List Chunk} (cut : joined chunks = raw.encode) :
    TxStreamStatus.processing = if chunks.isEmpty then .finished else .processing := by
  cases chunks with
  | nil => cases @encode_status platform raw small [] [] cut
  | cons chunk chunks => rfl

/-- The final checks pass on a transaction that can be signed. -/
theorem signable_checked {platform : Platform} {shows : Nat → Prop} {path : Bip44Path} {policy : SecurityPolicy}
    {raw : RlpTransaction} {privateKey : PrivateKey} {r s : Nat}
    (signable : Signable platform shows path policy raw privateKey r s) {chunks : List Chunk}
    (cut : joined chunks = raw.encode) {device : Device}
    (taken : Taking platform path chunks .finished device) :
    ∃ signed, Signs platform path chunks raw.encode signed ∧
      Collected (fedChunks platform chunks).stream.tx raw.item ∧ signed.stage = .finalize ∧
      Sized signed.tx ∧ signed.signature = sentSignature
        (platform.sdk.cxEcdsaSign privateKey (platform.sdk.keccak256 raw.encode)) r s ∧
      (finalChecks platform.sdk 0 []).run { device with ioState := .expectNone } = .ok .prompt { device with
        ioState := .expectUi
        instructionState := .signTx { signed with responseReady := signReadyTag } } := by
  obtain ⟨chainCode, derived⟩ := signable.derives
  have collected : Collected (fedChunks platform chunks).stream.tx raw.item :=
    feed_collects platform.overrun (decodes_encode raw chunks signable.small cut)
  have der := signable.signs
  rw [← encode_absorbed platform raw signable.small cut] at der ⊢
  obtain ⟨signed, signs, stage, sized, signature, checked⟩ :=
    finalChecks_taken taken collected signable.network derived der
  exact ⟨signed, signs, collected, stage, sized, signature, checked⟩

theorem session_goesThrough {platform : Platform} {path : Bip44Path} {policy : SecurityPolicy}
    {raw : RlpTransaction} {privateKey : PrivateKey} {r s : Nat}
    (signable : Signable platform Showable path policy raw privateKey r s) {chunks : List Chunk}
    (cut : joined chunks = raw.encode) (short : ∀ chunk ∈ chunks, chunk.bytes.length < 256) {device : Device}
    (rest : AtRest device) :
    ∃ recipient sender amount fee, Tells platform.sdk path raw.item recipient sender amount fee ∧
      Leads platform device (goesThrough path policy raw chunks)
        ((startScreens policy).map Screen.output ++ initAnswer ++ (streamAnswers chunkAnswer chunks ++
          ((reviewScreens raw recipient sender amount fee).map Screen.output ++
            signAnswer (sentSignature
              (platform.sdk.cxEcdsaSign privateKey (platform.sdk.keccak256 raw.encode)) r s)))) AtRest := by
  obtain ⟨_, opened, openOutputs, taking⟩ := @session_opens platform _ _ _ rest signable.requests
  obtain ⟨_, sent, sentOutputs, taken⟩ := chunks_lead (chunk_leads platform path) raw signable.small
    (show joined ([] ++ chunks) = raw.encode from cut) short (encode_asks platform signable.small cut) taking
  obtain ⟨signed, signs, collected, stage, sized, signature, checked⟩ := signable_checked signable cut taken
  obtain ⟨recipient, sendsTo, _, finalized, shownOutputs, under⟩ := finalize_leads taken stage sized checked
  rw [signature] at under
  have kept := signs.collected collected
  have call : signed.tx.isContractCall = looksLikeContractCall raw.data.length := kept.flag
  obtain ⟨sender, amount, fee, sendsFrom, shows, costs, _, reviewed, textOutputs, last⟩ :=
    review_texts platform under sized (shownAmount_eq kept ▸ signable.amount) (shownFee_eq kept ▸ signable.fee)
  have ends := review_ends platform last
  rw [call] at ends
  have tells := tells_of_texts (by decide) (by decide) (by decide) signs collected sendsTo sendsFrom shows costs
  refine ⟨recipient, sender, amount, fee, tells, ?_⟩
  apply leads_append opened openOutputs
  apply leads_append sent sentOutputs
  have reviews := leads_append finalized shownOutputs (leads_append reviewed textOutputs ends)
  exact reviews

/-- In whatever state the device is: after one APDU that it refuses, a transaction that can be signed, cut into
chunks in whatever way, ends with its signature, and the screens in between tell what it is. -/
theorem session_signs {platform : Platform} {path : Bip44Path} {policy : SecurityPolicy}
    {raw : RlpTransaction} {privateKey : PrivateKey} {r s : Nat}
    (signable : Signable platform Showable path policy raw privateKey r s) (chunks : List Chunk)
    (cut : joined chunks = raw.encode) (short : ∀ chunk ∈ chunks, chunk.bytes.length < 256) (device : Device) :
    ∃ error recipient sender amount fee, Tells platform.sdk path raw.item recipient sender amount fee ∧
      Leads platform device (foreign :: goesThrough path policy raw chunks)
        ([.response error .empty, .idle] ++
          ((startScreens policy).map Screen.output ++ initAnswer ++ (streamAnswers chunkAnswer chunks ++
            ((reviewScreens raw recipient sender amount fee).map Screen.output ++
              signAnswer (sentSignature
                (platform.sdk.cxEcdsaSign privateKey (platform.sdk.keccak256 raw.encode)) r s))))) AtRest := by
  obtain ⟨error, _, refused, outputs, rest⟩ := foreign_rests platform device
  obtain ⟨recipient, sender, amount, fee, tells, leads⟩ := session_goesThrough signable cut short rest
  exact ⟨error, recipient, sender, amount, fee, tells, leads_append refused outputs leads⟩

def unevenPlatform : Platform := ⟨unevenSdk, ⟨1, 0, 0⟩, noOverrun⟩

theorem transfer_signable :
    Signable unevenPlatform Showable firstPath .prompt transfer (Vector.replicate 32 0) 1 (2 ^ 255) where
  requests := ⟨rfl, by unfold Parses; decide +kernel, by decide +kernel, by decide⟩
  derives := ⟨Vector.replicate 32 0, by decide +kernel⟩
  small := by decide +kernel
  network := rfl
  amount := by decide +kernel
  fee := by decide +kernel
  signs := ⟨by decide, by decide, ⟨List.replicate 60 0, by decide +kernel⟩, by decide +kernel⟩

/-- From the middle of another signature. -/
theorem transfer_signs :
    ∃ error recipient sender amount fee, Tells unevenSdk firstPath transfer.item recipient sender amount fee ∧
      Leads unevenPlatform (deviceAfter (withFlags 0 transferPieces))
        (foreign :: goesThrough firstPath .prompt transfer transferPieces)
        ([.response error .empty, .idle] ++
          ((startScreens .prompt).map Screen.output ++ initAnswer ++ (streamAnswers chunkAnswer transferPieces ++
            ((reviewScreens transfer recipient sender amount fee).map Screen.output ++
              signAnswer (sentSignature (unevenSdk.cxEcdsaSign (Vector.replicate 32 0)
                (unevenSdk.keccak256 transfer.encode)) 1 (2 ^ 255)))))) AtRest :=
  session_signs transfer_signable transferPieces (by decide +kernel) (by decide +kernel) _

end Session

end FantomLedger
