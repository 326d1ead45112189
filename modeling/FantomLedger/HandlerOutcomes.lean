import FantomLedger.LockstepHandlers
import FantomLedger.StepOutcomes
import FantomLedger.StreamSafety

/-! Which requests of the host end the run in one of the handlers. All others are answered, or they leave a
device that goes on. -/

namespace FantomLedger

open Library Library.Machine Library.Program Library.Outcomes StreamParser

section Path

variable {platform : Platform} {device : Device} {path : Bip44Path}

/-- A path of ten indexes under 44'/60'. It is parsed, and no policy denies it. -/
structure TooLong (path : Bip44Path) : Prop where
  valid : bip44HasValidFantomPrefix path = true
  ten : path.length = bip32MaxPathLength

theorem writable_of_spared (valid : bip44HasValidFantomPrefix path = true) (spared : ¬TooLong path) :
    Writable path := by
  refine ⟨valid, ?_⟩
  by_contra long
  have fits := path.fits
  have ten : bip32MaxPathLength = 10 := rfl
  exact spared ⟨valid, by omega⟩

/-- The request is this path, and it is too long. -/
def AsksTooLong (wire : List UInt8) : Prop := ∃ path, Parses wire path ∧ TooLong path

theorem asksTooLong_iff {wire : List UInt8} (parsed : Parses wire path) : AsksTooLong wire ↔ TooLong path := by
  constructor
  · rintro ⟨other, parsed', long⟩
    cases parsed.symm.trans parsed'
    exact long
  · exact fun long => ⟨path, parsed, long⟩

theorem bip44ParseFromWire_error {old : Bip44Path} {wire : List UInt8} {exc : Exc} {s t : Unit}
    (failed : (bip44ParseFromWire old wire).run s = .error exc t) : exc = .thrown errInvalidData := by
  by_cases begins : ∃ indexes : List UInt32, indexes.length ≤ bip32MaxPathLength ∧ encodePath indexes <+: wire
  · obtain ⟨indexes, fits, rest, rfl⟩ := begins
    obtain ⟨path, run, _⟩ := bip44ParseFromWire_encode old indexes rest fits s
    cases failed.symm.trans run
  · have refused := bip44ParseFromWire_refuses old wire s fun indexes fits starts =>
      begins ⟨indexes, fits, starts⟩
    cases failed.symm.trans refused
    rfl

/-- The parser comes first; what it refuses is not a path that is too long. -/
theorem settles_bind_parse {α : Type} {fatal : Prop} {wire : List UInt8}
    {next : Bip44Path × Nat → DeviceCode α} {good : α → Device → Prop}
    (asks : fatal → AsksTooLong wire)
    (rest : ∀ path parsedSize, (bip44ParseFromWire .zero wire : EStateM Exc Unit _).run () =
      .ok (path, parsedSize) () → Settles Answered fatal (next (path, parsedSize)) device good) :
    Settles Answered fatal (bip44ParseFromWire .zero wire >>= next) device good := by
  apply settles_bind_alike (alike_bip44ParseFromWire _ _) ()
  · rintro ⟨path, parsedSize⟩ parsed
    exact rest path parsedSize parsed
  · intro exc failed
    rw [bip44ParseFromWire_error failed]
    refine iff_of_true (answered_thrown (by decide)) fun ends => ?_
    obtain ⟨path, parsed, _⟩ := asks ends
    cases failed.symm.trans parsed

/-- The payload is the path and nothing else. -/
theorem settles_bind_size {α : Type} {fatal : Prop} {wire : List UInt8} {parsedSize : Nat}
    {next : Unit → DeviceCode α} {good : α → Device → Prop} (asks : fatal → AsksTooLong wire)
    (parsed : (bip44ParseFromWire .zero wire : EStateM Exc Unit _).run () = .ok (path, parsedSize) ())
    (rest : Parses wire path → Settles Answered fatal (next ()) device good) :
    Settles Answered fatal (validate (parsedSize == wire.length) errInvalidData >>= next) device good := by
  apply settles_bind_validate (by decide)
  · intro other ends
    obtain ⟨_, whole, _⟩ := asks ends
    cases parsed.symm.trans whole
    rw [beq_self_eq_true] at other
    cases other
  · intro same
    cases beq_iff_eq.mp same
    exact rest parsed

theorem derivePrivateKey_run {σ : Type} (sdk : Sdk) (writable : Writable path) (s : σ) :
    (derivePrivateKey sdk path).run s = .ok (sdk.osPersoDeriveNodeBip32 path.indexes) s := by
  have few : decide (path.length < bip32MaxPathLength) = true := decide_eq_true (Nat.lt_succ_of_le writable.nine)
  rw [derivePrivateKey, writable.valid, few]
  rfl

theorem derivePrivateKey_resets {σ : Type} (sdk : Sdk) (long : TooLong path) (s : σ) :
    (derivePrivateKey sdk path).run s = .error .reset s := by
  have many : decide (path.length < bip32MaxPathLength) = false := decide_eq_false (by rw [long.ten]; omega)
  rw [derivePrivateKey, long.valid, many]
  rfl

end Path

section Key

variable {platform : Platform} {device : Device}

theorem policyForGetPublicKey_denies {path : Bip44Path} {policy : SecurityPolicy}
    (classified : (policyForGetPublicKey path : EStateM Exc Unit _).run () = .ok policy ()) :
    (policy = .deny → ¬TooLong path) ∧ (policy ≠ .deny → bip44HasValidFantomPrefix path = true ∧
      ∃ uiStep ∈ keySteps, pubKeyUiStep policy = some uiStep) := by
  rw [policyForGetPublicKey_eq] at classified
  cases classified
  constructor
  · intro denied long
    have ten : bip32MaxPathLength = 10 := rfl
    rw [if_pos ⟨long.valid, by rw [long.ten]; omega⟩] at denied
    split_ifs at denied
  · intro accepted
    split_ifs at accepted ⊢ with known reasonable
    · exact ⟨known.1, .displayPath, by decide, rfl⟩
    · exact ⟨known.1, .warning, by decide, rfl⟩
    · exact absurd rfl accepted

theorem beginGetPublicKey_settles (p1 p2 : UInt8) (wire : List UInt8) :
    Settles Answered (p1 = 0 ∧ p2 = 0 ∧ AsksTooLong wire) (beginGetPublicKey platform.sdk p1 p2 wire true)
      device fun _ after => after.currentIns = device.currentIns ∧ after.ioState = device.ioState ∧
        ∃ ctx, after.instructionState = .getPubKey ctx ∧ ctx.responseReady = pubKeyReadyTag ∧
          Writable ctx.path ∧ ctx.uiStep ∈ keySteps := by
  apply settles_bind_ok (EStateM.run_modify _ _)
  apply settles_bind_ok (onGetPubKey_run rfl (EStateM.run_modify _ _))
  apply settles_bind_validate (by decide)
  · intro other fatal
    rw [fatal.1] at other
    cases other
  intro zero
  apply settles_bind_validate (by decide)
  · intro other fatal
    rw [fatal.2.1] at other
    cases other
  intro zero'
  apply settles_bind_ok (getPubKey_run rfl)
  apply settles_bind_parse fun fatal => fatal.2.2
  intro path parsedSize parsed
  apply settles_bind_ok (onGetPubKey_run rfl (EStateM.run_modify _ _))
  apply settles_bind_size (fun fatal => fatal.2.2) parsed
  intro parses
  have fatal_iff : (p1 = 0 ∧ p2 = 0 ∧ AsksTooLong wire) ↔ TooLong path := by
    rw [beq_iff_eq.mp zero, beq_iff_eq.mp zero', asksTooLong_iff parses]
    exact ⟨fun fatal => fatal.2.2, fun long => ⟨rfl, rfl, long⟩⟩
  rw [fatal_iff]
  apply settles_bind_alike (alike_policyForGetPublicKey path) ()
  · intro policy classified
    obtain ⟨denies, accepts⟩ := policyForGetPublicKey_denies classified
    apply settles_bind_validate (by decide)
    · intro denied
      exact denies (by simpa using denied)
    · intro allowed
      obtain ⟨valid, uiStep, known, starts⟩ := accepts (bne_iff_ne.mp allowed)
      by_cases long : TooLong path
      · apply settles_bind_error
        · exact run_bind_error (derivePrivateKey_resets platform.sdk long _) _
        · exact iff_of_false not_answered_reset (not_not.mpr long)
      · have writable := writable_of_spared valid long
        apply settles_bind_ok
        · exact run_bind_ok (derivePrivateKey_run platform.sdk writable _) _
        apply settles_bind_ok (onGetPubKey_run rfl (EStateM.run_modify _ _))
        rw [starts]
        exact settles_of_ok (setPubKeyStep_run rfl uiStep) long ⟨rfl, rfl, _, rfl, rfl, writable, known⟩
  · intro exc failed
    rw [policyForGetPublicKey_eq] at failed
    cases failed

end Key

section Address

variable {platform : Platform} {device : Device}

theorem policyForPath_denies {default policy : SecurityPolicy} {path : Bip44Path} (accepting : default ≠ .deny)
    (classified : (policyForPath default path : EStateM Exc Unit _).run () = .ok policy ()) :
    (policy = .deny → ¬TooLong path) ∧
      (policy ≠ .deny → bip44HasValidFantomPrefix path = true ∧ (policy = default ∨ policy = .warn)) := by
  rw [policyForPath_eq] at classified
  cases classified
  constructor
  · intro denied long
    have inside : ¬path.Outside := by
      rw [Bip44Path.Outside, path.numbers_length, ← path.prefix_iff, long.ten, not_or, not_not]
      exact ⟨by decide, long.valid⟩
    rw [if_neg inside] at denied
    split_ifs at denied
    exact accepting denied
  · intro accepted
    by_cases outside : path.Outside
    · rw [if_pos outside] at accepted
      exact absurd rfl accepted
    · rw [if_neg outside]
      rw [Bip44Path.Outside, not_or, not_not, ← path.prefix_iff] at outside
      refine ⟨outside.2, ?_⟩
      split_ifs
      · exact .inl rfl
      · exact .inr rfl

theorem addressUiStep_starts {isShowAddress : Bool} {policy : SecurityPolicy}
    (follows : policy = (if isShowAddress then .prompt else .allow) ∨ policy = .warn) :
    ∃ uiStep ∈ addressSteps, addressUiStep isShowAddress policy = some uiStep := by
  rcases follows with rfl | rfl
  · cases isShowAddress
    · exact ⟨.respond, by decide, rfl⟩
    · exact ⟨.address, by decide, rfl⟩
  · exact ⟨.warning, by decide, rfl⟩

theorem deriveAddress_run {path : Bip44Path} {σ : Type} (sdk : Sdk) (writable : Writable path) (s : σ) :
    ∃ sha3Context address, (deriveAddress sdk path addressBufferSize).run s = .ok (sha3Context, address) s := by
  show ∃ sha3Context address, ((derivePrivateKey sdk path : EStateM Exc σ _) >>= fun keys =>
    getRawAddress sdk (deriveRawPublicKey sdk keys.1) addressBufferSize).run s = .ok (sha3Context, address) s
  rw [run_bind_ok (derivePrivateKey_run sdk writable s)]
  exact ⟨_, _, rfl⟩

theorem deriveAddress_resets {path : Bip44Path} {σ : Type} (sdk : Sdk) (long : TooLong path) (s : σ) :
    (deriveAddress sdk path addressBufferSize).run s = .error .reset s :=
  run_bind_error (derivePrivateKey_resets sdk long s) _

/-- The parameters and the payload of a request for the address of a path that is too long. -/
def AddressTooLong (p1 p2 : UInt8) (wire : List UInt8) : Prop :=
  (p1 = p1ReturnAddress ∨ p1 = p1DisplayAddress) ∧ p2 = 0 ∧ AsksTooLong wire

theorem beginGetAddress_settles (p1 p2 : UInt8) (wire : List UInt8) :
    Settles Answered (AddressTooLong p1 p2 wire) (beginGetAddress platform.sdk addressUiStep p1 p2 wire true)
      device fun _ after => after.currentIns = device.currentIns ∧ after.ioState = device.ioState ∧
        ∃ ctx, after.instructionState = .getAddress ctx ∧ AddressReady ctx ∧
          Writable ctx.path ∧ ctx.uiStep ∈ addressSteps := by
  apply settles_bind_ok (EStateM.run_modify _ _)
  apply settles_bind_ok (onGetAddress_run rfl (EStateM.run_modify _ _))
  apply settles_bind_validate (by decide)
  · rintro other ⟨rfl | rfl, _⟩
    · cases other
    · cases other
  intro known
  apply settles_bind_validate (by decide)
  · rintro other ⟨_, rfl, _⟩
    cases other
  intro zero
  apply settles_bind_ok (onGetAddress_run rfl (EStateM.run_modify _ _))
  apply settles_bind_ok (getAddress_run rfl)
  apply settles_bind_parse fun fatal : AddressTooLong p1 p2 wire => fatal.2.2
  intro path parsedSize parsed
  apply settles_bind_ok (onGetAddress_run rfl (EStateM.run_modify _ _))
  apply settles_bind_size (fun fatal : AddressTooLong p1 p2 wire => fatal.2.2) parsed
  intro parses
  have fatal_iff : AddressTooLong p1 p2 wire ↔ TooLong path := by
    rw [AddressTooLong, asksTooLong_iff parses]
    rw [Bool.or_eq_true, beq_iff_eq, beq_iff_eq] at known
    exact ⟨fun fatal => fatal.2.2, fun long => ⟨known, beq_iff_eq.mp zero, long⟩⟩
  rw [fatal_iff]
  apply settles_bind_alike (alike_policyForPath _ path) ()
  · intro policy classified
    obtain ⟨denies, accepts⟩ := policyForPath_denies (by split <;> decide) classified
    apply settles_bind_validate (by decide)
    · intro denied
      exact denies (by simpa using denied)
    · intro allowed
      obtain ⟨valid, follows⟩ := accepts (bne_iff_ne.mp allowed)
      by_cases long : TooLong path
      · apply settles_bind_error (deriveAddress_resets platform.sdk long _)
        exact iff_of_false not_answered_reset (not_not.mpr long)
      · have writable := writable_of_spared valid long
        obtain ⟨sha3Context, address, derived⟩ := deriveAddress_run platform.sdk writable ()
        have length := deriveAddress_eq_ok derived
        apply settles_bind_ok ((alike_deriveAddress platform.sdk path _).of_ok derived _).2
        apply settles_bind_ok (getAddress_run rfl)
        obtain ⟨stored, kept⟩ := Option.isSome_iff_exists.mp ((ByteField.store_isSome_iff
          GetAddressContext.zero.address 0 address).mpr (.inr (by rw [length]; decide)))
        have used := (ByteField.bytes_store kept (by rw [length]; decide) (by decide)).2
        dsimp only [GetAddressContext.zero] at kept ⊢
        rw [kept, inside_some, pure_bind]
        apply settles_bind_ok (onGetAddress_run rfl (EStateM.run_modify _ _))
        obtain ⟨uiStep, member, starts⟩ := addressUiStep_starts follows
        rw [starts]
        refine settles_of_ok (setAddressStep_run rfl uiStep) long ⟨rfl, rfl, _, rfl, ⟨rfl, ?_⟩, writable, member⟩
        exact used.trans length
  · intro exc failed
    rw [policyForPath_eq] at failed
    cases failed

end Address

section Start

variable {device : Device}

theorem assertStage_refuses {ctx : SignTxContext} {stage : TxStage}
    (context : device.instructionState = .signTx ctx) (other : ctx.stage ≠ stage) :
    (assertStage stage).run device = .error (.thrown errInvalidState) device := by
  rw [assertStage, run_bind_ok (getSignTx_run context), beq_false_of_ne other]
  rfl

/-- A request for a new transaction never ends the run. -/
theorem beginSignTx_settles (context : device.instructionState = .signTx .zero) (p2 : UInt8) (wire : List UInt8) :
    Settles Answered False (beginSignTx p2 wire) device fun _ after =>
      after.currentIns = device.currentIns ∧ after.ioState = device.ioState ∧
        ∃ ctx, after.instructionState = .signTx ctx ∧ Starting ctx ∧
          bip44HasValidFantomPrefix ctx.path = true ∧ ctx.uiStep ∈ startSteps := by
  have initial : (assertStage .none).run device = .ok () device :=
    (assertStage_eq_ok context).mpr ⟨rfl, rfl⟩
  apply settles_bind_ok initial
  apply settles_bind_validate (by decide) fun _ => not_false
  intro _
  apply settles_bind_ok (onSignTx_run context (EStateM.run_modify _ _))
  apply settles_bind_ok (getSignTx_run rfl)
  apply settles_bind_parse False.elim
  intro path parsedSize parsed
  apply settles_bind_ok (onSignTx_run rfl (EStateM.run_modify _ _))
  apply settles_bind_size False.elim parsed
  intro _
  apply settles_bind_alike (alike_policyForPath _ path) ()
  · intro policy classified
    obtain ⟨_, accepts⟩ := policyForPath_denies (by decide) classified
    apply settles_bind_validate (by decide) fun _ => not_false
    intro allowed
    obtain ⟨valid, follows⟩ := accepts (bne_iff_ne.mp allowed)
    rcases follows with rfl | rfl
    · exact settles_of_ok (setUiStep_run rfl .initConfirm) not_false
        ⟨rfl, rfl, _, rfl, ⟨rfl, rfl⟩, valid, by simp [startSteps]⟩
    · exact settles_of_ok (setUiStep_run rfl .initWarning) not_false
        ⟨rfl, rfl, _, rfl, ⟨rfl, rfl⟩, valid, by simp [startSteps]⟩
  · intro exc failed
    rw [policyForPath_eq] at failed
    cases failed

end Start

section Collect

variable {platform : Platform} {device : Device} {path : Bip44Path} {chunks : List Chunk}

/-- Where an access outside an array ends the run, the parser stores inside the arrays. -/
theorem fedChunks_inside (inside : platform.overrun = noOverrun) (chunks : List Chunk) :
    fedChunks platform chunks = feed storeInside (txStreamInit .zero) (withFlags 0 chunks) := by
  have same : storeOver noOverrun = storeInside := by
    funext slot index data stream
    exact Option.or_none
  rw [fedChunks, Platform.store, inside, same]

/-- The stream asks for more, and with this chunk it has a v item that is too long for its array. -/
def ChunkTooLong (platform : Platform) (chunks : List Chunk) (wire : List UInt8) : Prop :=
  (fedChunks platform chunks).status = .ok .processing ∧ LongV (tag 0 (joined chunks ++ wire))

/-- The chunk at hand decides how the calls end. -/
theorem chunk_outcome (inside : platform.overrun = noOverrun) {chunk : Chunk}
    (asks : (fedChunks platform chunks).status = .ok .processing) :
    match (txStreamProcess platform.store chunk.bytes chunk.bytes.length 0).run
      (fedChunks platform chunks).stream with
    | .ok _ _ => ¬ChunkTooLong platform chunks chunk.bytes
    | .error exc _ => exc = .undefined ∧ ChunkTooLong platform chunks chunk.bytes := by
  have outcome := feed_outcome .zero (withFlags 0 (chunks ++ [chunk]))
  rw [← fedChunks_inside inside, tagged_withFlags, joined_snoc] at outcome
  cases run : (txStreamProcess platform.store chunk.bytes chunk.bytes.length 0).run
      (fedChunks platform chunks).stream with
  | ok status next =>
    obtain ⟨_, answered⟩ := fedChunks_snoc platform asks run
    rcases outcome with ⟨overruns, _⟩ | ⟨_, spared⟩
    · cases answered.symm.trans overruns
    · exact fun long => spared long.2
  | error exc next =>
    have answered : (fedChunks platform (chunks ++ [chunk])).status = .error exc := by
      rw [fedChunks_concat, (@feed_append _ _ (withFlags 0 chunks) [(chunk, 0)] asks).2]
      exact congrArg Fed.status (@feed_error _ _ _ (chunk, 0) _ run [])
    rcases outcome with ⟨overruns, long⟩ | ⟨⟨_, status⟩, _⟩
    · cases answered.symm.trans overruns
      exact ⟨rfl, asks, long⟩
    · cases answered.symm.trans status

theorem collectChunk_settles (inside : platform.overrun = noOverrun)
    (streaming : Streaming platform path chunks device) (p2 : UInt8) {wire : List UInt8}
    (small : wire.length < 2 ^ 32) :
    Settles Answered (p2 = 0 ∧ ChunkTooLong platform chunks wire) (collectChunk platform.store p2 wire) device
      fun _ _ => True := by
  obtain ⟨ctx, context, _, stream, stands⟩ := streaming.context
  rcases stands with ⟨stage, asks⟩ | ⟨stage, finished⟩
  · have collects : (assertStage .collect).run device = .ok () device :=
      (assertStage_eq_ok context).mpr ⟨stage, rfl⟩
    apply settles_bind_ok collects
    apply settles_bind_validate (by decide)
    · rintro other ⟨rfl, _⟩
      cases other
    intro zero
    apply settles_bind_validate (by decide)
    · rintro empty ⟨_, _, long⟩
      have answered := asks
      rw [fedChunks_inside inside] at answered
      rw [List.length_eq_zero_iff.mp (Nat.eq_zero_of_not_pos (of_decide_eq_false empty)), List.append_nil,
        ← tagged_withFlags] at long
      exact spared_of_ok answered long
    intro sent
    have nonempty : wire ≠ [] := List.ne_nil_of_length_pos (of_decide_eq_true sent)
    have outcome := @chunk_outcome platform chunks inside ⟨wire, nonempty, small⟩ asks
    have fatal_iff : (p2 = 0 ∧ ChunkTooLong platform chunks wire) ↔ ChunkTooLong platform chunks wire :=
      and_iff_right (beq_iff_eq.mp zero)
    rw [fatal_iff]
    dsimp only at outcome
    rw [← stream] at outcome
    cases run : (txStreamProcess platform.store wire wire.length 0).run ctx.stream with
    | error exc next =>
      rw [run] at outcome
      obtain ⟨rfl, long⟩ := outcome
      have stopped : (onStream (txStreamProcess platform.store wire wire.length 0)).run ctx =
          .error .undefined { ctx with stream := next } := by
        simp only [EStateM.run, onStream] at run ⊢
        rw [run]
      apply settles_bind_error (onSignTx_error context stopped)
      exact iff_of_false not_answered_undefined (not_not.mpr long)
    | ok status next =>
      rw [run] at outcome
      have processed : (onStream (txStreamProcess platform.store wire wire.length 0)).run ctx =
          .ok status { ctx with stream := next } := by
        simp only [EStateM.run, onStream] at run ⊢
        rw [run]
      apply settles_bind_ok (onSignTx_run context processed)
      cases status with
      | processing => exact settles_of_ok (reportStage_run rfl) outcome trivial
      | finished =>
        apply settles_bind_ok (onSignTx_modify_run rfl _)
        exact settles_of_ok (reportStage_run rfl) outcome trivial
      | fault => exact settles_of_error rfl (iff_of_true (answered_thrown (by decide)) outcome)
  · apply settles_bind_error (assertStage_refuses context (by rw [stage]; decide))
    refine iff_of_true (answered_thrown (by decide)) ?_
    rintro ⟨_, asks, _⟩
    cases finished.symm.trans asks

end Collect

section Finalize

variable {platform : Platform} {device : Device} {path : Bip44Path} {chunks : List Chunk}

/-- What the signing call returns is the encoding of two numbers. -/
def SignsDer (sdk : Sdk) : Prop := ∀ privateKey hash, ∃ r s, DerSigned (sdk.cxEcdsaSign privateKey hash) r s

/-- The stream is complete and names the network, but the path is too long. -/
structure FinalTooLong (platform : Platform) (path : Bip44Path) (chunks : List Chunk) : Prop where
  finished : (fedChunks platform chunks).status = .ok .finished
  network : NamesNetwork (fedChunks platform chunks).stream.tx
  long : TooLong path

theorem namesNetwork_iff {tx : Transaction} {chainId : UInt32}
    (named : (txGetV tx : EStateM Exc Unit _).run () = .ok chainId ()) :
    NamesNetwork tx ↔ chainId = expectedChainId := by
  rw [NamesNetwork, named]

theorem not_namesNetwork {tx : Transaction} {exc : Exc}
    (failed : (txGetV tx : EStateM Exc Unit _).run () = .error exc ()) :
    exc = .thrown errInvalidData ∧ ¬NamesNetwork tx := by
  refine ⟨?_, fun names => by rw [NamesNetwork, failed] at names; exact names⟩
  by_cases fits : tx.v.length.toNat ≤ 4
  · rw [txGetV, decide_eq_true fits] at failed
    split at failed
    · cases failed
    · cases failed
  · rw [txGetV, decide_eq_false fits] at failed
    cases failed
    rfl

/-- The computation of the signature resets the device exactly if the path is too long. -/
theorem signature_settles (der : SignsDer platform.sdk) (valid : bip44HasValidFantomPrefix path = true)
    {ctx : SignTxContext} (same : ctx.path = path) :
    Settles Answered (TooLong path) (do
      let hash ← finalHash platform.sdk
      txGetSignature platform.sdk hash
      modify fun ctx => { ctx with responseReady := signReadyTag } : SignCode Unit) ctx fun _ _ => True := by
  apply settles_bind_ok (finalHash_run platform.sdk ctx)
  generalize platform.sdk.keccak256 (ctx.sha3Context.absorbed ++ []) = hash
  have kept : (ctx.setSha3Context ⟨ctx.sha3Context.absorbed ++ [], true⟩).path = path := same
  generalize ctx.setSha3Context ⟨ctx.sha3Context.absorbed ++ [], true⟩ = hashed at kept ⊢
  by_cases long : TooLong path
  · have resets : (txGetSignature platform.sdk hash).run hashed = .error .reset hashed := by
      rw [txGetSignature, run_bind_ok (EStateM.run_get _), kept]
      exact run_bind_error (derivePrivateKey_resets platform.sdk long _) _
    exact settles_bind_error resets (iff_of_false not_answered_reset (not_not.mpr long))
  · have derived := derivePrivateKey_run platform.sdk (writable_of_spared valid long) hashed
    rw [← kept] at derived
    obtain ⟨r, s, encoded⟩ := der (platform.sdk.osPersoDeriveNodeBip32 hashed.path.indexes).1 hash
    obtain ⟨signed, run, _⟩ := txGetSignature_der derived encoded
    apply settles_bind_ok run
    exact settles_of_ok (EStateM.run_modify _ _) long trivial

/-- The lengths in a transaction that has been signed, by the grammar of its stream. -/
theorem signs_sized (inside : platform.overrun = noOverrun) {bytes : List UInt8} {signed : SignTxContext}
    (finished : (fedChunks platform chunks).status = .ok .finished)
    (signs : Signs platform path chunks bytes signed) : Sized signed.tx := by
  have answered := finished
  rw [fedChunks_inside inside] at answered
  obtain ⟨item, decodes⟩ := (feed_finished_iff .zero (withFlags 0 chunks)).mp answered
  have collected : Collected (fedChunks platform chunks).stream.tx item :=
    feed_collects platform.overrun decodes
  obtain ⟨ctx, _, tx, run⟩ := signs
  obtain ⟨sha3Context, sender, signature, whole, rfl⟩ := txGetSignature_eq_ok run
  show Sized { ctx.tx with sender := sender }
  rw [tx]
  exact sized_of_collected collected whole

theorem finalChecks_settles (der : SignsDer platform.sdk) (valid : bip44HasValidFantomPrefix path = true)
    (streaming : Streaming platform path chunks device) (p2 : UInt8) (wire : List UInt8) :
    Settles Answered (p2 = 0 ∧ wire = [] ∧ FinalTooLong platform path chunks) (finalChecks platform.sdk p2 wire) device
      fun _ _ => True := by
  obtain ⟨ctx, context, same, stream, stands⟩ := streaming.context
  rcases stands with ⟨stage, asks⟩ | ⟨stage, finished⟩
  · apply settles_bind_error (assertStage_refuses context (by rw [stage]; decide))
    refine iff_of_true (answered_thrown (by decide)) ?_
    rintro ⟨_, _, final⟩
    cases asks.symm.trans final.finished
  · have final : (assertStage .finalize).run device = .ok () device :=
      (assertStage_eq_ok context).mpr ⟨stage, rfl⟩
    apply settles_bind_ok final
    apply settles_bind_validate (by decide)
    · rintro other ⟨rfl, _⟩
      cases other
    intro zero
    apply settles_bind_validate (by decide)
    · rintro other ⟨_, rfl, _⟩
      cases other
    intro empty
    have tx : ctx.tx = (fedChunks platform chunks).stream.tx := by rw [SignTxContext.tx, stream]
    have fatal_iff : (p2 = 0 ∧ wire = [] ∧ FinalTooLong platform path chunks) ↔ NamesNetwork ctx.tx ∧ TooLong path := by
      constructor
      · rintro ⟨_, _, _, network, long⟩
        exact ⟨tx ▸ network, long⟩
      · rintro ⟨network, long⟩
        exact ⟨beq_iff_eq.mp zero, List.eq_nil_of_length_eq_zero (beq_iff_eq.mp empty), finished, tx ▸ network, long⟩
    rw [fatal_iff]
    apply settles_bind_ok (EStateM.run_modify _ _)
    apply settles_bind_ok (EStateM.run_pure _ _)
    apply settles_bind_ok (EStateM.run_pure _ _)
    apply settles_bind_ok (@getSignTx_run { device with ioState := .expectUi } ctx context)
    apply settles_bind_alike (alike_txGetV ctx.tx) ()
    · intro chainId named
      rw [namesNetwork_iff named]
      apply settles_bind_validate (by decide)
      · rintro other ⟨rfl, _⟩
        cases other
      intro network
      rw [and_iff_right (beq_iff_eq.mp network)]
      have signs := signature_settles der valid same
      cases run : (do
          let hash ← finalHash platform.sdk
          txGetSignature platform.sdk hash
          modify fun ctx => { ctx with responseReady := signReadyTag } : SignCode Unit).run ctx with
      | ok result signed =>
        apply settles_bind_ok (@onSignTx_run { device with ioState := .expectUi } ctx _ context _ _ _ run)
        exact settles_of_ok rfl (signs.returns run).1 trivial
      | error exc stopped =>
        apply settles_bind_error (@onSignTx_error { device with ioState := .expectUi } ctx _ context _ _ _ run)
        exact Ends.of_error signs run
    · intro exc failed
      obtain ⟨rfl, unnamed⟩ := not_namesNetwork failed
      exact iff_of_true (answered_thrown (by decide)) fun fatal => unnamed fatal.1

end Finalize

section Handlers

variable {platform : Platform} {device : Device}

/-- The first APDU of an instruction ends the run at a path that is too long. -/
def StartTooLong : Ins → UInt8 → UInt8 → List UInt8 → Prop
  | .getKey, p1, p2, wire => p1 = 0 ∧ p2 = 0 ∧ AsksTooLong wire
  | .getAddr, p1, p2, wire => AddressTooLong p1 p2 wire
  | _, _, _, _ => False

theorem handleSignTxInit_settles (context : device.instructionState = .signTx .zero)
    (ins : device.currentIns = some .signTx) (free : device.ioState = .expectNone) (p2 : UInt8) (wire : List UInt8) :
    Settles Answered False (handleSignTxInit p2 wire) device fun _ => Ready platform := by
  rw [handleSignTxInit_eq]
  apply Settles.bind_returns
  apply (beginSignTx_settles context p2 wire).mono
  rintro _ after ⟨running, ioState, ctx, context, starting, valid, step⟩
  exact startStep_returns platform (.inl (ioState.trans free)) (running.trans ins) context starting valid step

/-- A handler starts on a device that was at rest. -/
theorem runHandler_starts_settles (ins : Ins) (p1 p2 : UInt8) (data : List UInt8)
    (running : device.currentIns = some ins) (free : device.ioState = .expectNone) :
    Settles Answered (StartTooLong ins p1 p2 data) (runHandler platform ins p1 p2 data true) device
      fun _ => Ready platform := by
  have busy := running_of_ins running
  cases ins with
  | version =>
    apply settles_bind_validate (by decide) fun _ => not_false
    intro _
    apply settles_bind_validate (by decide) fun _ => not_false
    intro _
    apply settles_bind_validate (by decide) fun _ => not_false
    intro _
    exact settles_of_ok (answer_run (by show 4 + 2 < ioApduBufferSize; decide) success device) not_false
      (.rest (atRest_rested _ _))
  | getKey =>
    change Settles _ _ (handleGetPublicKey platform.sdk p1 p2 data true) _ _
    rw [handleGetPublicKey_eq]
    apply Settles.bind_returns
    apply (beginGetPublicKey_settles p1 p2 data).mono
    rintro _ after ⟨same, ioState, ctx, context, ready, path, step⟩
    exact keyStep_returns platform (.inl (ioState.trans free)) (same ▸ busy) context ready path step
  | getAddr =>
    change Settles _ _ (handleGetAddress platform.sdk p1 p2 data true) _ _
    rw [handleGetAddress_eq]
    apply Settles.bind_returns
    apply (beginGetAddress_settles p1 p2 data).mono
    rintro _ after ⟨same, ioState, ctx, context, ready, path, step⟩
    exact addressStep_returns platform (.inl (ioState.trans free)) (same ▸ busy) context ready path step
  | signTx =>
    change Settles _ _ (handleSignTransaction platform.sdk platform.store p1 p2 data true) _ _
    unfold handleSignTransaction
    rw [if_pos rfl]
    apply settles_bind_ok (EStateM.run_modify _ _)
    split_ifs with first chunk last
    · exact @handleSignTxInit_settles platform { device with instructionState := .signTx .zero } rfl running free
        p2 data
    · apply settles_bind_error (assertStage_refuses rfl (by decide))
      exact iff_of_true (answered_thrown (by decide)) not_false
    · apply settles_bind_error (assertStage_refuses rfl (by decide))
      exact iff_of_true (answered_thrown (by decide)) not_false
    · exact settles_of_error rfl (iff_of_true (answered_thrown (by decide)) not_false)

/-- A further APDU of a signature ends the run at a v item that is too long, or when the key is to be derived
for a path that is too long. -/
def NextTooLong (platform : Platform) (path : Bip44Path) (chunks : List Chunk) (p1 p2 : UInt8)
    (wire : List UInt8) : Prop :=
  p1 = p1StreamData ∧ p2 = 0 ∧ ChunkTooLong platform chunks wire ∨
    p1 = p1GetSignature ∧ p2 = 0 ∧ wire = [] ∧ FinalTooLong platform path chunks

theorem handleSignTxCollect_settles (inside : platform.overrun = noOverrun) {path : Bip44Path}
    {chunks : List Chunk} (valid : bip44HasValidFantomPrefix path = true)
    (streaming : Streaming platform path chunks device) (p2 : UInt8) {wire : List UInt8}
    (small : wire.length < 2 ^ 32) :
    Settles Answered (p2 = 0 ∧ ChunkTooLong platform chunks wire)
      (handleSignTxCollect platform.store p2 wire) device fun _ => Ready platform := by
  rw [handleSignTxCollect_eq]
  apply Settles.bind_returns
  apply ((collectChunk_settles inside streaming p2 small).of_goes (collectChunk_goes streaming p2 small)).mono
  rintro _ after ⟨_, _, chunk, _, took⟩
  obtain ⟨ins, io, state, display, flow, stack, outputs⟩ := after
  cases took.ioState
  exact ⟨_, _, rfl, .collecting valid ⟨⟨took.ins, took.context⟩, rfl, rfl⟩⟩

theorem handleSignTxFinalize_settles (inside : platform.overrun = noOverrun) (der : SignsDer platform.sdk)
    {path : Bip44Path} {chunks : List Chunk}
    (valid : bip44HasValidFantomPrefix path = true) (streaming : Streaming platform path chunks device) (p2 : UInt8)
    (wire : List UInt8) :
    Settles Answered (p2 = 0 ∧ wire = [] ∧ FinalTooLong platform path chunks)
      (handleSignTxFinalize platform.sdk p2 wire) device fun _ => Ready platform := by
  rw [handleSignTxFinalize_eq]
  apply Settles.bind_returns
  apply ((finalChecks_settles der valid streaming p2 wire).of_goes
    (finalChecks_goes platform streaming p2 wire)).mono
  rintro _ _ ⟨rfl, _, _, finished, signed, signs, stage, _, rfl⟩
  have sized := signs_sized inside finished signs
  have reviewing : ReviewingSigned
      { device with
        ioState := .expectUi
        instructionState := .signTx { signed with
          responseReady := signReadyTag
          uiStep := .txRecipient } }
      { signed with responseReady := signReadyTag, uiStep := .txRecipient } :=
    ⟨⟨rfl, stage, rfl⟩, running_of_ins streaming.ins, rfl⟩
  have shown := text_returns platform reviewing sized rfl
    (recipientText_yields reviewing.context sized.recipient) (by simp [reviewSteps])
  apply returns_bind_ok (setUiStep_run rfl .txRecipient)
  exact shown

/-- The handler of a signature goes on with a device that takes up a stream. -/
theorem runHandler_continues_settles (inside : platform.overrun = noOverrun) (der : SignsDer platform.sdk)
    {path : Bip44Path} {chunks : List Chunk}
    (valid : bip44HasValidFantomPrefix path = true) (streaming : Streaming platform path chunks device) (p1 p2 : UInt8)
    {data : List UInt8} (small : data.length < 2 ^ 32) :
    Settles Answered (NextTooLong platform path chunks p1 p2 data) (runHandler platform .signTx p1 p2 data false) device
      fun _ => Ready platform := by
  change Settles _ _ (handleSignTransaction platform.sdk platform.store p1 p2 data false) _ _
  unfold handleSignTransaction NextTooLong
  rw [if_neg Bool.false_ne_true]
  split_ifs with first chunk last
  · obtain ⟨ctx, context, _, _, stands⟩ := streaming.context
    have started : ctx.stage ≠ .none := by
      rcases stands with ⟨stage, _⟩ | ⟨stage, _⟩
      · rw [stage]
        decide
      · rw [stage]
        decide
    apply settles_bind_error (assertStage_refuses context started)
    refine iff_of_true (answered_thrown (by decide)) ?_
    rintro (⟨rfl, _⟩ | ⟨rfl, _⟩)
    · cases first
    · cases first
  · rw [chunk, and_iff_right rfl, or_iff_left (fun fatal => absurd fatal.1 (by decide))]
    exact handleSignTxCollect_settles inside valid streaming p2 small
  · rw [last, and_iff_right (rfl : p1GetSignature = p1GetSignature),
      or_iff_right (fun fatal => absurd fatal.1 (by decide))]
    exact handleSignTxFinalize_settles inside der valid streaming p2 data
  · refine settles_of_error rfl (iff_of_true (answered_thrown (by decide)) ?_)
    rintro (⟨rfl, _⟩ | ⟨rfl, _⟩)
    · exact chunk rfl
    · exact last rfl

end Handlers

end FantomLedger
