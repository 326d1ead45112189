import FantomLedger.NbglReview
import FantomLedger.ReviewTexts

/-! Which transactions the large screen has room for. -/

namespace FantomLedger

open Library Library.Program StreamParser

section Texts

variable {sdk : Sdk} {size : Nat} {device : Device} {ctx : SignTxContext}

/-- The code writes a text; of the device it changes the hash context and what the stack will leave. -/
def Writes (code : DeviceCode (List Char)) (device : Device) (ctx : SignTxContext) : Prop :=
  ∃ text stack sha3Context, code.run device = .ok text { device with
    stack := stack
    instructionState := .signTx (ctx.setSha3Context sha3Context) }

theorem writes_of_ok {code : DeviceCode (List Char)} {text : List Char}
    (context : device.instructionState = .signTx ctx) (run : code.run device = .ok text device) :
    Writes code device ctx := by
  refine ⟨text, device.stack, ctx.sha3Context, run.trans ?_⟩
  have same : ctx.setSha3Context ctx.sha3Context = ctx := rfl
  rw [same, ← context]

theorem addressIn_writes {field : TxAddress} (context : device.instructionState = .signTx ctx)
    (room : minAddressStrBufferSize ≤ size) (small : size < maxBufferSize) (some : 0 < field.length)
    (fits : field.length.toNat ≤ txMaxAddressLength) : Writes (addressIn sdk size field) device ctx := by
  have whole : rawAddressSize ≤ field.value.toList.length := by
    rw [Vector.length_toList]
    exact Nat.le_refl _
  have shown := formattedAddress_writes sdk field.value.toList field.length.toNat size device
    (UInt8.lt_iff_toNat_lt.mp some) fits whole room small
  refine ⟨addressText sdk field.value.toList (fieldDigits field device), fun call => device.stack (call + 1),
    ⟨fieldDigits field device, true⟩, ?_⟩
  rw [addressIn, run_bind_ok shown]
  apply run_bind_ok
  apply onSignTx_modify_run
  exact context

theorem recipientIn_writes (context : device.instructionState = .signTx ctx)
    (room : minAddressStrBufferSize ≤ size) (small : size < maxBufferSize)
    (fits : ctx.tx.recipient.length.toNat ≤ txMaxAddressLength) :
    Writes (recipientIn sdk size) device ctx := by
  have begins : (recipientIn sdk size).run device = (if 0 < ctx.tx.recipient.length then
      addressIn sdk size ctx.tx.recipient else pure "New Contract".toList).run device := by
    rw [recipientIn, run_bind_ok (getSignTx_run context)]
    dsimp only
    rw [decide_eq_true fits, assertThat_true, pure_bind]
  unfold Writes
  rw [begins]
  split_ifs with some
  · exact addressIn_writes context room small some fits
  · exact writes_of_ok context rfl

theorem senderIn_writes (context : device.instructionState = .signTx ctx)
    (room : minAddressStrBufferSize ≤ size) (small : size < maxBufferSize)
    (whole : ctx.tx.sender.length.toNat = rawAddressSize) : Writes (senderIn sdk size) device ctx := by
  have some : 0 < ctx.tx.sender.length := by
    rw [UInt8.lt_iff_toNat_lt, whole]
    decide
  have begins : (senderIn sdk size).run device = (addressIn sdk size ctx.tx.sender).run device := by
    rw [senderIn, run_bind_ok (getSignTx_run context)]
    dsimp only
    rw [decide_eq_true some, decide_eq_true (show ctx.tx.sender.length.toNat ≤ txMaxAddressLength from
      whole.le), assertThat_true, pure_bind, pure_bind]
  unfold Writes
  rw [begins]
  exact addressIn_writes context room small some whole.le

/-- The numbers that the conversion to digits has room for in its own array. -/
def Convertible (number : Nat) : Prop := number < 10 ^ 39

instance (number : Nat) : Decidable (Convertible number) := inferInstanceAs (Decidable (_ < _))

theorem formatNumber_convertible {number : Uint256} (roomy : 41 < size) (small : Convertible number.toNat) :
    ∃ after text, (formatNumber number weiToFtmDecimals size).run (List.replicate size '\x00') =
      .ok () after ∧ TextBuffer.cString after = some text := by
  have fewer := (digitText_length_le number.toNat (show 0 < 39 by decide)).mpr small
  have room : Room number.toNat weiToFtmDecimals.toNat (List.replicate size '\x00').length := by
    rw [List.length_replicate]
    refine ⟨by omega, .inr ?_⟩
    have eighteen : weiToFtmDecimals.toNat = 18 := rfl
    unfold needed
    split_ifs <;> omega
  obtain ⟨after, run, text⟩ := formatNumber_writes number weiToFtmDecimals (List.replicate size '\x00') small room
  rw [List.length_replicate] at run
  exact ⟨after, _, run, text⟩

theorem formatNumber_inconvertible {number : Uint256} (large : ¬Convertible number.toNat) :
    (formatNumber number weiToFtmDecimals size).run (List.replicate size '\x00') =
      .error (unshowable number.toNat) (List.replicate size '\x00') := by
  have above : 10 ^ 39 ≤ number.toNat := Nat.le_of_not_lt large
  have overruns := formatNumber_overruns number weiToFtmDecimals (List.replicate size '\x00') above
  have refuses := formatNumber_refuses number weiToFtmDecimals (List.replicate size '\x00')
  rw [List.length_replicate] at overruns refuses
  unfold unshowable
  split_ifs with overrun
  · exact overruns overrun.2
  · exact refuses (Nat.le_of_not_lt fun below => overrun ⟨above, below⟩)

theorem not_fillsExactly {number : Nat} (small : Convertible number) : ¬FillsExactly 10 40 number := fun fills =>
  absurd small (Nat.not_lt.mpr (fills.2.resolve_left (by decide)))

/-- Unless it has 40 digits, a number that cannot be converted is refused. -/
theorem unshowable_inside {number : Nat} (inside : ¬FillsExactly 10 40 number) :
    unshowable number = .thrown errInvalidData :=
  if_neg fun overrun => inside ⟨overrun.2, .inr overrun.1⟩

/-- The code writes a text exactly when the number can be converted, and fails otherwise. -/
structure WritesNumber (code : DeviceCode (List Char)) (number : Nat) (device : Device)
    (ctx : SignTxContext) : Prop where
  shown : Convertible number → Writes code device ctx
  stopped : ¬Convertible number → code.run device = .error (unshowable number) device

theorem writesNumber_of_run {code : DeviceCode (List Char)} {format : TextCode Unit} {number : Uint256}
    (roomy : 41 < size) (context : device.instructionState = .signTx ctx)
    (formats : code.run device = (formatted size format >>= fun result => pure result.2).run device)
    (run : format.run (List.replicate size '\x00') =
      (formatNumber number weiToFtmDecimals size).run (List.replicate size '\x00')) :
    WritesNumber code number.toNat device ctx := by
  constructor
  · intro small
    obtain ⟨after, text, written, string⟩ := formatNumber_convertible roomy small
    apply writes_of_ok context
    rw [formats, run_bind_ok (formatted_run (run.trans written) string)]
    rfl
  · intro large
    rw [formats, run_bind_error (formatted_error (run.trans (formatNumber_inconvertible large)))]

theorem amountIn_writes (roomy : 41 < size) (small : size < maxBufferSize)
    (context : device.instructionState = .signTx ctx)
    (length : ctx.tx.value.length.toNat ≤ txMaxInt256Length) :
    WritesNumber (amountIn size) (shownAmount ctx.tx) device ctx := by
  have formats := txGetFormattedAmount_run ctx.tx.value weiToFtmDecimals (List.replicate size '\x00')
  rw [List.length_replicate] at formats
  obtain ⟨number, run, number_eq⟩ := formats length small
  rw [shownAmount, ← number_eq]
  refine writesNumber_of_run roomy context ?_ run
  rw [amountIn, run_bind_ok (getSignTx_run context)]
  dsimp only
  rw [decide_eq_true length, assertThat_true, pure_bind]

theorem feeIn_writes (roomy : 41 < size) (small : size < maxBufferSize)
    (context : device.instructionState = .signTx ctx)
    (gasPrice : ctx.tx.gasPrice.length.toNat ≤ txMaxInt256Length)
    (startGas : ctx.tx.startGas.length.toNat ≤ txMaxInt256Length) :
    WritesNumber (feeIn size) (shownFee ctx.tx) device ctx := by
  have formats := txGetFormattedFee_run ctx.tx weiToFtmDecimals (List.replicate size '\x00') gasPrice startGas
  rw [List.length_replicate] at formats
  obtain ⟨number, run, number_eq⟩ := formats small
  rw [shownFee, ← number_eq]
  refine writesNumber_of_run roomy context ?_ run
  rw [feeIn, run_bind_ok (getSignTx_run context)]
  dsimp only
  rw [decide_eq_true gasPrice, decide_eq_true startGas, assertThat_true, pure_bind, pure_bind]

end Texts

namespace Nbgl

section Pairs

variable {sdk : Sdk} {device : Device} {ctx : SignTxContext}

/-- The four texts, or the failure of the first number that cannot be converted. -/
structure Pairs (sdk : Sdk) (device : Device) (ctx : SignTxContext) : Prop where
  shown : Convertible (shownAmount ctx.tx) → Convertible (shownFee ctx.tx) →
    ∃ lines stack sha3Context, (reviewPairs sdk).run device = .ok lines { device with
      stack := stack
      instructionState := .signTx (ctx.setSha3Context sha3Context) }
  stopped : ¬(Convertible (shownAmount ctx.tx) ∧ Convertible (shownFee ctx.tx)) →
    ∃ after, (reviewPairs sdk).run device = .error (unshowable
      (if Convertible (shownAmount ctx.tx) then shownFee ctx.tx else shownAmount ctx.tx)) after

theorem addPair_run (pairs : List TagValue) (header text : List Char) (device : Device)
    (room : pairs.length < maxFieldsPerTransaction) :
    (addPair pairs header text).run device = .ok (pairs ++ [⟨some header, text⟩]) device := by
  have fits : (pairs ++ [TagValue.mk (some header) text]).length ≤ maxFieldsPerTransaction := by
    rw [List.length_append]
    exact room
  rw [addPair, decide_eq_true fits, assertThat_true, pure_bind]
  rfl

theorem reviewPairs_run (context : device.instructionState = .signTx ctx) (sized : Sized ctx.tx) :
    Pairs sdk device ctx := by
  obtain ⟨recipient, stack, sha3Context, sendsTo⟩ :=
    @recipientIn_writes sdk fieldTextSize device ctx context (by decide) (by decide) sized.recipient
  obtain ⟨sender, stack', sha3Context', sendsFrom⟩ := @senderIn_writes sdk fieldTextSize { device with
    stack := stack
    instructionState := .signTx (ctx.setSha3Context sha3Context) } _ rfl (by decide) (by decide) sized.sender
  have amounts := @amountIn_writes fieldTextSize { device with
    stack := stack'
    instructionState := .signTx (ctx.setSha3Context sha3Context') } _ (by decide) (by decide) rfl sized.value
  have pairs : (reviewPairs sdk).run device = (do
      let pairs ← addPair [⟨some "Send To".toList, recipient⟩, ⟨some "Send From".toList, sender⟩]
        "Amount (FTM)".toList (← amountIn fieldTextSize)
      addPair pairs "Max Fee (FTM)".toList (← feeIn fieldTextSize) : DeviceCode (List TagValue)).run { device with
        stack := stack'
        instructionState := .signTx (ctx.setSha3Context sha3Context') } := by
    rw [reviewPairs, recipientField_eq, senderField_eq, amountField_eq, feeField_eq, run_bind_ok sendsTo,
      run_bind_ok (addPair_run [] _ _ _ (by decide))]
    simp only [List.nil_append]
    rw [run_bind_ok sendsFrom, run_bind_ok (addPair_run [_] _ _ _ (show 1 < 4 by decide))]
    rfl
  constructor
  · intro amountFits feeFits
    obtain ⟨amount, stack, sha3Context, shows⟩ := amounts.shown amountFits
    have fees := @feeIn_writes fieldTextSize { device with
      stack := stack
      instructionState := .signTx (ctx.setSha3Context sha3Context) } _ (by decide) (by decide) rfl
      sized.gasPrice sized.startGas
    obtain ⟨fee, stack, sha3Context, costs⟩ := fees.shown feeFits
    refine ⟨[⟨some "Send To".toList, recipient⟩, ⟨some "Send From".toList, sender⟩,
      ⟨some "Amount (FTM)".toList, amount⟩, ⟨some "Max Fee (FTM)".toList, fee⟩], stack, sha3Context,
      pairs.trans ?_⟩
    rw [run_bind_ok shows, run_bind_ok (addPair_run [_, _] _ _ _ (show 2 < 4 by decide))]
    exact (run_bind_ok costs _).trans (addPair_run [_, _, _] _ _ _ (show 3 < 4 by decide))
  · intro large
    by_cases amountFits : Convertible (shownAmount ctx.tx)
    · obtain ⟨amount, stack, sha3Context, shows⟩ := amounts.shown amountFits
      have fees := @feeIn_writes fieldTextSize { device with
        stack := stack
        instructionState := .signTx (ctx.setSha3Context sha3Context) } _ (by decide) (by decide) rfl
        sized.gasPrice sized.startGas
      have stopped := fees.stopped fun feeFits => large ⟨amountFits, feeFits⟩
      rw [if_pos amountFits]
      refine ⟨{ device with
        stack := stack
        instructionState := .signTx (ctx.setSha3Context sha3Context) }, pairs.trans ?_⟩
      rw [run_bind_ok shows, run_bind_ok (addPair_run [_, _] _ _ _ (show 2 < 4 by decide))]
      exact run_bind_error stopped _
    · rw [if_neg amountFits]
      exact ⟨_, pairs.trans (run_bind_error (amounts.stopped amountFits) _)⟩

end Pairs

section Review

variable (platform : Platform) {s : State} {ctx : SignTxContext}

/-- The review is on the screen, or the alert before it. -/
def ShowsReview (isContractCall : Bool) (s : State) : Prop :=
  s.page = if isContractCall then alertPage else reviewPage s.fields

theorem uiReviewDisplay_run (ioState : s.device.ioState = .expectUi) (lines : List TagValue)
    (confirm reject : UiCallbackFn) (isContractCall : Bool) :
    (uiReviewDisplay lines confirm reject isContractCall).run s = .ok () { s with
      confirmClbk := some confirm
      rejectClbk := some reject
      infoLongPress := ⟨"Send Transaction ?".toList, "Hold to confirm".toList⟩
      fields := lines
      nbPairs := lines.length
      page := if isContractCall then alertPage else reviewPage (lines.take lines.length) } := by
  rw [uiReviewDisplay, assertIoState, bind_assoc, run_bind_ok (EStateM.run_get s), ioState]
  cases isContractCall <;> rfl

/-- The step with the four texts. -/
theorem reviewStep_run (context : s.device.instructionState = .signTx ctx) (stage : ctx.stage = .finalize)
    (uiStep : ctx.uiStep = .txRecipient) :
    (runSignTransactionUIStep platform.sdk).run s = (do
      uiReviewDisplay (← onShared (reviewPairs platform.sdk)) .runSignTransactionUIStep
        .uiRespondWithUserReject ctx.tx.isContractCall
      onShared (setUiStep .txRespond) : Code Unit).run s := by
  have reached : (assertStage .finalize).run s.device = .ok () s.device :=
    (assertStage_eq_ok context).mpr ⟨stage, rfl⟩
  rw [runSignTransactionUIStep, run_bind_ok (onShared_run reached),
    run_bind_ok (onShared_run (getSignTx_run context)), uiStep]

/-- The state with the lines of the review, behind the alert if there is one. -/
def State.reviewing (s : State) (ctx : SignTxContext) (lines : List TagValue) (stack : Nat → Vector UInt8 40)
    (sha3Context : Sha3Context) : State :=
  { s with
    device := { s.device with
      stack := stack
      instructionState := .signTx { ctx.setSha3Context sha3Context with uiStep := .txRespond } }
    confirmClbk := some .runSignTransactionUIStep
    rejectClbk := some .uiRespondWithUserReject
    infoLongPress := ⟨"Send Transaction ?".toList, "Hold to confirm".toList⟩
    fields := lines
    nbPairs := lines.length
    page := if ctx.tx.isContractCall then alertPage else reviewPage (lines.take lines.length) }

theorem reviewStep_shows (context : s.device.instructionState = .signTx ctx) (stage : ctx.stage = .finalize)
    (uiStep : ctx.uiStep = .txRecipient) (ioState : s.device.ioState = .expectUi) (sized : Sized ctx.tx)
    (amountFits : Convertible (shownAmount ctx.tx)) (feeFits : Convertible (shownFee ctx.tx)) :
    ∃ lines stack sha3Context, (reviewPairs platform.sdk).run s.device = .ok lines { s.device with
        stack := stack
        instructionState := .signTx (ctx.setSha3Context sha3Context) } ∧
      (runSignTransactionUIStep platform.sdk).run s = .ok () (s.reviewing ctx lines stack sha3Context) := by
  have pairs := @reviewPairs_run platform.sdk s.device ctx context sized
  obtain ⟨lines, stack, sha3Context, run⟩ := pairs.shown amountFits feeFits
  have displayed := @uiReviewDisplay_run { s with device := { s.device with
    stack := stack
    instructionState := .signTx (ctx.setSha3Context sha3Context) } } ioState lines
    .runSignTransactionUIStep .uiRespondWithUserReject ctx.tx.isContractCall
  refine ⟨lines, stack, sha3Context, run, ?_⟩
  rw [reviewStep_run platform context stage uiStep, run_bind_ok (onShared_run run), run_bind_ok displayed]
  exact onShared_run (setUiStep_run rfl .txRespond)

theorem showsReview_reviewing (lines : List TagValue) (stack : Nat → Vector UInt8 40)
    (sha3Context : Sha3Context) :
    ShowsReview ctx.tx.isContractCall (s.reviewing ctx lines stack sha3Context) := by
  dsimp only [ShowsReview, State.reviewing]
  rw [List.take_length]

theorem reviewStep_fails (context : s.device.instructionState = .signTx ctx) (stage : ctx.stage = .finalize)
    (uiStep : ctx.uiStep = .txRecipient) (sized : Sized ctx.tx)
    (large : ¬(Convertible (shownAmount ctx.tx) ∧ Convertible (shownFee ctx.tx))) :
    ∃ after, (runSignTransactionUIStep platform.sdk).run s = .error (unshowable
      (if Convertible (shownAmount ctx.tx) then shownFee ctx.tx else shownAmount ctx.tx)) after := by
  have pairs := @reviewPairs_run platform.sdk s.device ctx context sized
  obtain ⟨stopped, failed⟩ := pairs.stopped large
  rw [reviewStep_run platform context stage uiStep, run_bind_error (onShared_error failed)]
  exact ⟨_, rfl⟩

/-- Once the final checks have passed, the handler goes on with the step that shows the signed transaction. -/
theorem handleSignTxFinalize_reviews {p2 : UInt8} {wire : List UInt8} {policy : SecurityPolicy}
    {checked : Device} (context : s.device.instructionState = .signTx ctx)
    (passed : (finalChecks platform.sdk p2 wire).run s.device = .ok policy checked) :
    ∃ (device : Device) (signed : SignTxContext) (sender : TxAddress), sender.length.toNat = rawAddressSize ∧
      device.instructionState = .signTx signed ∧ signed.stage = .finalize ∧ signed.uiStep = .txRecipient ∧
      device.ioState = .expectUi ∧ signed.tx = { ctx.tx with sender := sender } ∧
      (handleSignTxFinalize platform p2 wire).run s =
        (runSignTransactionUIStep platform.sdk).run { s with device := device } := by
  obtain ⟨rfl, stage, sha3Context, sender, signature, whole, same⟩ := finalChecks_eq_ok context passed
  obtain ⟨signed, held, signedStage, tx, ioState⟩ : ∃ signed, checked.instructionState = .signTx signed ∧
      signed.stage = .finalize ∧ signed.tx = { ctx.tx with sender := sender } ∧
      checked.ioState = .expectUi := by
    rw [same]
    exact ⟨_, rfl, stage, rfl, rfl⟩
  have chosen : (do takeFirstStep (finalUiStep (← finalChecks platform.sdk p2 wire)) setUiStep :
      DeviceCode Unit).run s.device = .ok () { checked with
        instructionState := .signTx { signed with uiStep := .txRecipient } } := by
    rw [run_bind_ok passed]
    exact setUiStep_run held .txRecipient
  refine ⟨{ checked with instructionState := .signTx { signed with uiStep := .txRecipient } }, _, sender, whole,
    rfl, signedStage, rfl, ioState, tx, ?_⟩
  rw [handleSignTxFinalize, run_bind_ok (onShared_run chosen)]

/-- A transaction that passed the final checks is shown for its review exactly when its amount and its fee,
as the device computes it, can be converted, and otherwise it is refused. A number of 40 digits, which leaves
the array of the conversion by its terminator, is left out. -/
theorem review_shown_iff (tx : Transaction) {calls : List Call} {item : TxRlpField → List UInt8}
    (decodes : Decodes (tagged calls).flatten item) {p2 : UInt8} {wire : List UInt8} {policy : SecurityPolicy}
    {checked : Device} (context : s.device.instructionState = .signTx ctx)
    (stream : ctx.stream = (feed platform.store (txStreamInit tx) calls).stream)
    (amountInside : ¬FillsExactly 10 40 (Rlp.beNat (item .value)))
    (feeInside : ¬FillsExactly 10 40 (computedFee (Rlp.beNat (item .gasPrice)) (Rlp.beNat (item .startGas))))
    (passed : (finalChecks platform.sdk p2 wire).run s.device = .ok policy checked) :
    ((∃ after, (handleSignTxFinalize platform p2 wire).run s = .ok () after ∧
        ShowsReview (looksLikeContractCall (item .data).length) after) ↔
      Convertible (Rlp.beNat (item .value)) ∧
        Convertible (computedFee (Rlp.beNat (item .gasPrice)) (Rlp.beNat (item .startGas)))) ∧
      ((∃ after, (handleSignTxFinalize platform p2 wire).run s = .error (.thrown errInvalidData) after) ↔
        ¬(Convertible (Rlp.beNat (item .value)) ∧
          Convertible (computedFee (Rlp.beNat (item .gasPrice)) (Rlp.beNat (item .startGas))))) := by
  have collected : Collected ctx.tx item := by
    rw [SignTxContext.tx, stream]
    exact feed_collects platform.overrun decodes
  obtain ⟨device, signed, sender, whole, held, stage, uiStep, ioState, same, handled⟩ :=
    handleSignTxFinalize_reviews platform context passed
  have sized : Sized signed.tx := same ▸ sized_of_collected collected whole
  have amount : shownAmount signed.tx = Rlp.beNat (item .value) := by
    rw [same, shownAmount_sender, shownAmount_eq collected]
  have fee : shownFee signed.tx = computedFee (Rlp.beNat (item .gasPrice)) (Rlp.beNat (item .startGas)) := by
    rw [same, shownFee_sender, shownFee_eq collected]
  have flag : signed.tx.isContractCall = looksLikeContractCall (item .data).length := by
    rw [same]
    exact collected.flag
  rw [← amount] at amountInside ⊢
  rw [← fee] at feeInside ⊢
  rw [handled, ← flag]
  by_cases fits : Convertible (shownAmount signed.tx) ∧ Convertible (shownFee signed.tx)
  · obtain ⟨lines, stack, sha3Context, _, run⟩ := @reviewStep_shows platform { s with device := device } _ held
      stage uiStep ioState sized fits.1 fits.2
    have shows := @showsReview_reviewing { s with device := device } signed lines stack sha3Context
    rw [run]
    exact ⟨iff_of_true ⟨_, rfl, shows⟩ fits, iff_of_false (by rintro ⟨_, ⟨⟩⟩) (not_not.mpr fits)⟩
  · obtain ⟨after, failed⟩ := @reviewStep_fails platform { s with device := device } _ held stage uiStep sized
      fits
    have inside : ¬FillsExactly 10 40
        (if Convertible (shownAmount signed.tx) then shownFee signed.tx else shownAmount signed.tx) := by
      split_ifs
      · exact feeInside
      · exact amountInside
    rw [unshowable_inside inside] at failed
    rw [failed]
    exact ⟨iff_of_false (by rintro ⟨_, ⟨⟩, _⟩) fits, iff_of_true ⟨after, rfl⟩ fits⟩

/-- The transfer of 10 ^ 37 units, for which the small screen has no room. -/
theorem largeTransfer_shown :
    ∃ after, (handleSignTxFinalize signingPlatform 0 []).run
        { bootState (fun _ => Vector.replicate _ 0) with
          device := deviceAfter (withFlags 0 largeTransferPieces) } = .ok () after ∧
      ShowsReview (looksLikeContractCall (largeTransfer.item .data).length) after := by
  have passes : returnsIn (fun _ => true) (finalChecks signingPlatform.sdk 0 [])
      (deviceAfter (withFlags 0 largeTransferPieces)) = true := by decide +kernel
  obtain ⟨policy, checked, passed, _⟩ := returnsIn_iff.mp passes
  have amount : Convertible (Rlp.beNat (largeTransfer.item .value)) := by decide +kernel
  have fee : Convertible (computedFee (Rlp.beNat (largeTransfer.item .gasPrice))
      (Rlp.beNat (largeTransfer.item .startGas))) := by decide +kernel
  have decodes : Decodes (tagged (withFlags 0 largeTransferPieces)).flatten largeTransfer.item :=
    decodes_encode largeTransfer largeTransferPieces (by decide +kernel) (by decide +kernel)
  have shown := @review_shown_iff signingPlatform { bootState (fun _ => Vector.replicate _ 0) with
    device := deviceAfter (withFlags 0 largeTransferPieces) } _ .zero _ _ decodes _ _ _ _
    (deviceAfter_context _) (contextAfter_stream _) (not_fillsExactly amount) (not_fillsExactly fee) passed
  exact shown.1.mpr ⟨amount, fee⟩

end Review

end Nbgl

end FantomLedger
