import FantomLedger.AddressText

/-! The checks of the final APDU, and what they leave in the context when all of them pass. -/

namespace FantomLedger

open Library.Program

section Keeps

variable {σ γ : Type} {measure : σ → γ} (sdk : Sdk)

theorem keeps_derivePrivateKey (path : Bip44Path) :
    Keeps measure (derivePrivateKey sdk path) := by
  apply keeps_ite
  · exact (keeps_throw _).bind fun _ => (keeps_assertThat _).bind fun _ => keeps_pure _
  · exact (keeps_pure _).bind fun _ => (keeps_assertThat _).bind fun _ => keeps_pure _

theorem keeps_getRawAddress (publicKey : PublicKey) (outSize : Nat) :
    Keeps measure (getRawAddress sdk publicKey outSize) :=
  (keeps_assertThat _).bind fun _ => keeps_pure _

theorem keeps_signatureValue (sig : Vector UInt8 100) (xOffset : Nat) :
    Keeps measure (signatureValue sig xOffset) :=
  (keeps_inside _).bind fun _ => keeps_pure _

theorem keeps_txGetV (tx : Transaction) : Keeps measure (txGetV tx) := by
  apply (keeps_validate _ _).bind
  intro _
  apply keeps_ite
  · exact keeps_pure _
  · exact keeps_pure _

end Keeps

section Inversion

variable {sdk : Sdk}

/-- A signature that is computed is made with the key of the path. It leaves the rest of the context as it
was, but for the sender and the hash context, in which the sender's address was computed. -/
theorem txGetSignature_signed {hash : Vector UInt8 32} {ctx after : SignTxContext}
    (run : (txGetSignature sdk hash).run ctx = .ok () after) :
    ∃ privateKey chainCode sha3Context address stored signature,
      (derivePrivateKey sdk ctx.path).run ctx = .ok (privateKey, chainCode) ctx ∧
      (getRawAddress sdk (deriveRawPublicKey sdk privateKey) txMaxAddressLength).run ctx =
        .ok (sha3Context, address) ctx ∧
      ctx.tx.sender.store 0 address = some stored ∧
      signature.v = 27 + (if (sdk.cxEcdsaSign privateKey hash).parityOdd then 1 else 0) +
        (if (sdk.cxEcdsaSign privateKey hash).xGTn then 2 else 0) ∧
      after = { (ctx.setSha3Context sha3Context).setTx
          { ctx.tx with sender := stored.setLength address.length } with
        signature := signature } := by
  simp only [txGetSignature, run_bind_eq_ok, Prod.exists, EStateM.run_get, EStateM.run_modify,
    validate_eq_ok, assertThat_eq_ok, inside_eq_ok, EStateM.Result.ok.injEq, true_and, and_assoc,
    exists_const, exists_and_left, exists_eq_left'] at run
  obtain ⟨privateKey, chainCode, ctx₁, derived, sha3Context, address, ctx₂, hashed, stored, store, _, _, _,
    ctx₃, first, _, _, _, _, ctx₄, second, _, _, rfl⟩ := run
  obtain rfl : ctx₁ = ctx := state_of_ok (keeps_derivePrivateKey sdk _) derived
  obtain rfl : ctx₂ = ctx₁ := state_of_ok (keeps_getRawAddress sdk _ _) hashed
  obtain rfl := state_of_ok (keeps_signatureValue _ _) first
  obtain rfl := state_of_ok (keeps_signatureValue _ _) second
  exact ⟨privateKey, chainCode, sha3Context, address, stored, _, derived, hashed, store, rfl, rfl⟩

theorem txGetSignature_eq_ok {hash : Vector UInt8 32} {ctx after : SignTxContext}
    (run : (txGetSignature sdk hash).run ctx = .ok () after) :
    ∃ sha3Context sender signature, sender.length.toNat = rawAddressSize ∧
      after = { (ctx.setSha3Context sha3Context).setTx { ctx.tx with sender := sender } with
        signature := signature } := by
  obtain ⟨_, _, sha3Context, address, stored, signature, _, hashed, _, _, rfl⟩ := txGetSignature_signed run
  refine ⟨sha3Context, stored.setLength address.length, signature, ?_, rfl⟩
  rw [getRawAddress_eq_ok hashed]
  rfl

theorem onSignTx_eq_ok {α : Type} {device after : Device} {ctx : SignTxContext} {body : SignCode α}
    {result : α} (context : device.instructionState = .signTx ctx) :
    (onSignTx body).run device = .ok result after ↔
      ∃ changed, body.run ctx = .ok result changed ∧
        { device with instructionState := .signTx changed } = after := by
  have found : device.signTx? = some ctx := by rw [Device.signTx?, context]
  simp only [EStateM.run, onSignTx, found]
  cases body ctx <;> simp

theorem getSignTx_eq_ok {device after : Device} {ctx result : SignTxContext}
    (context : device.instructionState = .signTx ctx) :
    getSignTx.run device = .ok result after ↔ ctx = result ∧ device = after := by
  rw [getSignTx_run context, EStateM.Result.ok.injEq]

end Inversion

section Finalize

variable (sdk : Sdk)

/-- The checks of the final APDU with the signature, up to the first step of the user
interface. -/
def finalChecks (p2 : UInt8) (wireBuffer : List UInt8) : DeviceCode SecurityPolicy := do
  assertStage .finalize
  validate (p2 == 0) errInvalidParameters
  validate (wireBuffer.length == 0) errInvalidData
  modify fun device => { device with ioState := .expectUi }
  let policy ← policyForSignTxFinalize
  assertNotDenied policy
  validate ((← txGetV (← getSignTx).tx) == expectedChainId) errInvalidData
  onSignTx (do
    let hash ← finalHash sdk
    txGetSignature sdk hash
    modify fun ctx => { ctx with responseReady := signReadyTag })
  return policy

theorem handleSignTxFinalize_eq (p2 : UInt8) (wireBuffer : List UInt8) :
    handleSignTxFinalize sdk p2 wireBuffer = (do
      match finalUiStep (← finalChecks sdk p2 wireBuffer) with
      | some uiStep => setUiStep uiStep
      | none => assertThat false
      runSignTransactionUIStep sdk) := by
  simp only [finalChecks, bind_assoc, pure_bind]
  rfl

theorem keeps_onSignTx {α : Type} (body : SignCode α) : Keeps Device.outputs (onSignTx body) := by
  intro device
  simp only [EStateM.run, onSignTx]
  cases device.signTx? with
  | none => rfl
  | some ctx =>
    dsimp only
    cases body ctx <;> rfl

theorem keeps_finalChecks (p2 : UInt8) (wireBuffer : List UInt8) :
    Keeps Device.outputs (finalChecks sdk p2 wireBuffer) := by
  apply ((keeps_onSignTx _).bind fun _ => keeps_validate _ _).bind
  intro _
  apply (keeps_validate _ _).bind
  intro _
  apply (keeps_validate _ _).bind
  intro _
  apply Keeps.bind
  · exact keeps_modify fun _ => rfl
  intro _
  apply (keeps_pure _).bind
  intro policy
  apply (keeps_validate _ _).bind
  intro _
  apply (keeps_onSignTx _).bind
  intro ctx
  apply (keeps_txGetV _).bind
  intro v
  apply (keeps_validate _ _).bind
  intro _
  apply (keeps_onSignTx _).bind
  intro _
  exact keeps_pure _

/-- The digest that is signed is that of all bytes the stream absorbed. -/
theorem finalHash_run (ctx : SignTxContext) :
    (finalHash sdk).run ctx =
      .ok (sdk.keccak256 (ctx.sha3Context.absorbed ++ []))
        (ctx.setSha3Context ⟨ctx.sha3Context.absorbed ++ [], true⟩) := rfl

variable {sdk}

theorem assertStage_eq_ok {device after : Device} {ctx : SignTxContext} {stage : TxStage}
    (context : device.instructionState = .signTx ctx) {result : Unit} :
    (assertStage stage).run device = .ok result after ↔ ctx.stage = stage ∧ device = after := by
  rw [assertStage, run_bind_ok (getSignTx_run context), validate_eq_ok, beq_iff_eq]

/-- When the checks pass, the signature is that of the digest of the stream. -/
theorem finalChecks_signs {device checked : Device} {ctx : SignTxContext} {p2 : UInt8}
    {wireBuffer : List UInt8} {policy : SecurityPolicy}
    (context : device.instructionState = .signTx ctx)
    (passed : (finalChecks sdk p2 wireBuffer).run device = .ok policy checked) :
    policy = .prompt ∧ ctx.stage = .finalize ∧ p2 = 0 ∧ wireBuffer = [] ∧ ∃ signed,
      (txGetSignature sdk (sdk.keccak256 ctx.sha3Context.absorbed)).run
        (ctx.setSha3Context ⟨ctx.sha3Context.absorbed, true⟩) = .ok () signed ∧
      checked = { device with
        ioState := .expectUi
        instructionState := .signTx { signed with responseReady := signReadyTag } } := by
  have later : (Device.instructionState { device with ioState := .expectUi }) = .signTx ctx := context
  simp only [finalChecks, run_bind_eq_ok, assertStage_eq_ok context, EStateM.run_modify,
    validate_eq_ok, EStateM.Result.ok.injEq, true_and, and_assoc, exists_const, exists_and_left,
    exists_eq_left', policyForSignTxFinalize, assertNotDenied, EStateM.run_pure,
    getSignTx_eq_ok later] at passed
  obtain ⟨stage, zero, empty, _, v, middle, got, _, _, last, signed, rfl, rfl⟩ := passed
  obtain rfl : middle = { device with ioState := .expectUi } :=
    state_of_ok (keeps_txGetV _) got
  obtain ⟨after, signs, rfl⟩ := (onSignTx_eq_ok later).mp signed
  rw [run_bind_ok (finalHash_run sdk ctx), List.append_nil] at signs
  obtain ⟨_, computed, run, changed⟩ := run_bind_eq_ok.mp signs
  cases changed
  exact ⟨rfl, stage, beq_iff_eq.mp zero, List.eq_nil_of_length_eq_zero (beq_iff_eq.mp empty),
    computed, run, rfl⟩

/-- What the checks leave of a context: the signature and the sender are filled in, and the
hash context is used again. -/
theorem finalChecks_eq_ok {device checked : Device} {ctx : SignTxContext} {p2 : UInt8}
    {wireBuffer : List UInt8} {policy : SecurityPolicy}
    (context : device.instructionState = .signTx ctx)
    (passed : (finalChecks sdk p2 wireBuffer).run device = .ok policy checked) :
    policy = .prompt ∧ ctx.stage = .finalize ∧ ∃ sha3Context sender signature,
      sender.length.toNat = rawAddressSize ∧
      checked = { device with
        ioState := .expectUi
        instructionState := .signTx { (ctx.setSha3Context sha3Context).setTx
          { ctx.tx with sender := sender } with
          signature := signature
          responseReady := signReadyTag } } := by
  obtain ⟨prompts, stage, _, _, signed, run, rfl⟩ := finalChecks_signs context passed
  obtain ⟨sha3Context, sender, signature, length, rfl⟩ := txGetSignature_eq_ok run
  exact ⟨prompts, stage, sha3Context, sender, signature, length, rfl⟩

end Finalize

end FantomLedger
