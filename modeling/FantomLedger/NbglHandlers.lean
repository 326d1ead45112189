import FantomLedger.NbglExport
import FantomLedger.Sessions

/-! What an APDU makes of a device with a large screen. -/

namespace FantomLedger.Nbgl

open Library.Program

variable (platform : Platform) {s : State}

section Export

theorem handleGetVersion_goes (p1 p2 : UInt8) (data : List UInt8) :
    Goes State.outputs (handleGetVersion platform p1 p2 data) s fun _ after =>
      after.device.currentIns = none ∧ after.page = .home ∧
        after.outputs = s.outputs ++ [.response success (.version platform.appVersion.major
          platform.appVersion.minor platform.appVersion.patch 0)] := by
  apply Goes.bind_returns
  apply goes_onShared
  apply goes_bind_validate
  intro _
  apply goes_bind_validate
  intro _
  apply goes_bind_validate
  intro _
  have fits : (Payload.version platform.appVersion.major platform.appVersion.minor
      platform.appVersion.patch 0).bytes.length + 2 < ioApduBufferSize := by
    show 4 + 2 < ioApduBufferSize
    decide
  apply goes_of_ok (ioSendBuf_run fits success s.device)
  exact returns_of_ok rfl ⟨rfl, rfl, rfl⟩

theorem handleGetPublicKey_goes {ctx : GetPubKeyContext} (p1 p2 : UInt8) (wire : List UInt8)
    {isOnInit : Bool} (running : s.device.currentIns = some .getKey)
    (context : isOnInit = false → s.device.instructionState = .getPubKey ctx)
    (quiet : s.page.isQuiet = true) :
    Goes State.outputs (handleGetPublicKey platform p1 p2 wire isOnInit) s fun _ after =>
      ∃ path policy key, AsksKey platform.sdk p1 p2 wire path policy key ∧
        Presents platform .getKey (.pubKey key) Ended (keyScript path policy) s.outputs after := by
  apply goes_bind_onShared
  apply Goes.mono (beginGetPublicKey_goes p1 p2 wire running context)
  rintro _ device ⟨path, policy, key, uiStep, asks, starts, holding⟩
  refine ⟨holding.outputs, ?_⟩
  have has : HasKey ⟨pubKeyReadyTag, path, key, uiStep⟩ { s with device := device } :=
    ⟨holding.ins, holding.state, asks.valid⟩
  apply Goes.mono (exportsKey_start platform has quiet starts rfl)
  intro _ after presents
  rw [show State.outputs { s with device := device } = s.outputs from holding.outputs] at presents
  exact ⟨path, policy, key, asks, presents⟩

theorem handleGetAddress_goes {ctx : GetAddressContext} (p1 p2 : UInt8) (wire : List UInt8)
    {isOnInit : Bool} (running : s.device.currentIns = some .getAddr)
    (context : isOnInit = false → s.device.instructionState = .getAddress ctx)
    (quiet : s.page.isQuiet = true) :
    Goes State.outputs (handleGetAddress platform p1 p2 wire isOnInit) s fun _ after =>
      ∃ path policy address, AsksAddress platform.sdk p1 p2 wire path policy address.bytes ∧
        Presents platform .getAddr (.address address) Ended
          (addressScript platform.sdk path address.bytes (p1 == p1DisplayAddress) policy)
          s.outputs after := by
  have begins (isShowPath : Bool) :
      Goes State.outputs (do
        onShared (beginGetAddress platform.sdk (fun _ => addressUiStep) p1 p2 wire isOnInit)
        runGetAddressUIStep platform.sdk) { s with isShowPath := isShowPath } fun _ after =>
          ∃ path policy address, AsksAddress platform.sdk p1 p2 wire path policy address.bytes ∧
            Presents platform .getAddr (.address address) Ended
              (addressScript platform.sdk path address.bytes (p1 == p1DisplayAddress) policy)
              s.outputs after := by
    apply goes_bind_onShared
    apply Goes.mono (beginGetAddress_goes _ p1 p2 wire running context)
    rintro _ device ⟨path, policy, uiStep, ctx, asks, starts, begun, holding⟩
    refine ⟨holding.outputs, ?_⟩
    obtain ⟨ready, rfl, showsAddress, first⟩ := begun
    have has : HasAddress ctx { s with device := device, isShowPath := isShowPath } :=
      ⟨holding.ins, holding.state, ready, asks.valid⟩
    apply Goes.mono (exportsAddress_start platform has quiet starts first)
    intro _ after presents
    rw [show State.outputs { s with device := device, isShowPath := isShowPath } = s.outputs from
      holding.outputs, showsAddress] at presents
    exact ⟨ctx.path, policy, ctx.address, asks, presents⟩
  cases isOnInit with
  | false => exact begins s.isShowPath
  | true =>
    apply goes_bind_ok (EStateM.run_modify _ _) rfl
    exact begins false

end Export

section Sign

/-- Only a request for a new transaction starts anything. -/
theorem handleSignTransaction_new (running : s.device.currentIns = some .signTx) (p1 p2 : UInt8)
    (wire : List UInt8) :
    Goes State.outputs (handleSignTransaction platform p1 p2 wire true) s fun _ after =>
      p1 = p1NewTransaction ∧ ∃ path policy, RequestsStart p2 wire path policy ∧
        Presents platform .signTx .empty (Collecting platform path []) (initScript policy) s.outputs after := by
  have fresh : Holding (some .signTx) s.device.outputs (.signTx .zero)
      { s.device with instructionState := .signTx .zero } := ⟨running, rfl, rfl⟩
  unfold handleSignTransaction
  rw [if_pos rfl]
  apply goes_bind_onShared
  apply goes_of_ok (EStateM.run_modify _ _)
  refine ⟨rfl, ?_⟩
  split_ifs with first chunk last
  · apply goes_bind_onShared
    apply Goes.mono (beginSignTx_goes fresh p2 wire)
    rintro _ device ⟨path, policy, uiStep, ctx, requests, starts, begun, holding⟩
    refine ⟨holding.outputs, ?_⟩
    have signs : Signs ctx { s with device := device } := ⟨holding.ins, holding.state⟩
    apply Goes.mono (startsSigning_start platform signs begun.toStarting starts begun.uiStep)
    intro _ after presents
    rw [show State.outputs { s with device := device } = s.outputs from holding.outputs,
      begun.path] at presents
    exact ⟨first, path, policy, requests, presents⟩
  · apply Goes.bind
    apply goes_onShared
    exact assertStage_goes fresh.state nofun
  · apply goes_bind_onShared
    apply Goes.mono (finalStep_goes fresh p2 wire)
    rintro _ device ⟨_, _, ⟨⟩, _⟩
  · exact goes_throw _

/-- What an APDU makes of a transaction that has started. -/
inductive Followed (ctx : SignTxContext) (path : Bip44Path) (chunks : List Chunk) (p1 p2 : UInt8)
    (wire : List UInt8) (s after : State) : Prop
  | collects {chunk : Chunk} {stage : TxStage} (part : p1 = p1StreamData) (zero : p2 = 0)
      (began : ctx.stage = .collect) (asks : (fedChunks platform chunks).status = .ok .processing)
      (bytes : chunk.bytes = wire)
      (outputs : after.outputs = s.outputs ++ [.response success (.stage stage)])
      (collecting : Collecting platform path (chunks ++ [chunk]) after)
  | reviews {signed : SignTxContext} (last : p1 = p1GetSignature) (zero : p2 = 0) (empty : wire = [])
      (began : ctx.stage = .finalize)
      (signs : ∀ path chunks, Streaming platform path chunks s.device → TxSigned platform path chunks signed)
      (presents : Presents platform .signTx (.signature signed.signature) Ended
        (reviewScript platform.sdk signed.tx) s.outputs after)

theorem handleSignTransaction_next {ctx : SignTxContext} {path : Bip44Path} {chunks : List Chunk}
    (signs : Signs ctx s) (started : ctx.stage ≠ .none)
    (feeds : ctx.stage = .collect → Streaming platform path chunks s.device) (p1 p2 : UInt8) {wire : List UInt8}
    (small : wire.length < 2 ^ 32) :
    Goes State.outputs (handleSignTransaction platform p1 p2 wire false) s fun _ =>
      Followed platform ctx path chunks p1 p2 wire s := by
  unfold handleSignTransaction
  rw [if_neg Bool.false_ne_true]
  change Goes State.outputs (if p1 = p1NewTransaction then _ else _) s _
  split_ifs with first part last
  · apply Goes.bind
    apply goes_onShared
    exact beginSignTx_refuses signs.holding started p2 wire
  · apply Goes.bind_returns
    apply goes_onShared
    by_cases began : ctx.stage = .collect
    · apply Goes.mono (collectChunk_goes (feeds began) p2 small)
      rintro _ device ⟨zero, asks, chunk, bytes, took⟩
      obtain ⟨stage, _, outputs⟩ := took.outputs
      apply returns_of_ok
      · apply uiDisplayBusy_run
        exact took.ioState
      exact .collects part zero began asks bytes outputs ⟨took.toStreaming, took.ioState, rfl⟩
    · exact assertStage_goes signs.state began
  · apply goes_bind_onShared
    apply Goes.mono (finalStep_goes signs.holding p2 wire)
    rintro _ device ⟨zero, empty, began, signed, stage, uiStep, describes, holding⟩
    refine ⟨holding.outputs, ?_⟩
    have ready : Signs signed { s with device := device } := ⟨holding.ins, holding.state⟩
    apply Goes.mono (reviewStep_goes platform ready stage uiStep)
    intro _ after presents
    rw [show State.outputs { s with device := device } = s.outputs from holding.outputs] at presents
    exact .reviews last zero empty began describes presents
  · exact goes_throw _

end Sign

section MainLoop

/-- The state in which the handler of a running instruction is called. -/
def State.handling (s : State) : State :=
  { s with device := { s.device with ioState := .expectNone } }

theorem fantomMainTry_goes {bytes : List UInt8} {unlocked : Bool} {good : State → Prop}
    (starts : ∀ ins p1 p2 data, s.device.ioState = .expectIo → s.device.currentIns = none →
      unlocked = true → bytes = apduBytes ins p1 p2 data →
      Goes State.outputs (runHandler platform ins p1 p2 data true)
        { s with device := { s.device with
          ioState := .expectNone
          instructionState := .cleared
          currentIns := some ins } } fun _ => good)
    (continues : ∀ ins p1 p2 (data : List UInt8), s.device.ioState = .expectIo →
      s.device.currentIns = some ins → unlocked = true → data.length < 256 →
      bytes = apduBytes ins p1 p2 data →
      Goes State.outputs (runHandler platform ins p1 p2 data false) s.handling fun _ => good) :
    Goes State.outputs (fantomMainTry platform bytes unlocked) s fun _ => good := by
  unfold fantomMainTry
  apply goes_bind_ok (EStateM.run_get _) rfl
  apply goes_bind_validate
  intro expects
  apply goes_bind_ok (EStateM.run_modify _ _) rfl
  split_ifs with empty
  · exact goes_throw _
  apply goes_bind_validate
  intro isUnlocked
  split
  · rename_i headerCla headerIns p1 p2 lc data
    apply goes_bind_validate
    intro length
    apply goes_bind_validate
    intro known
    cases found : getHandler headerIns with
    | none => exact goes_throw _
    | some ins =>
      have size := beq_iff_eq.mp length
      have same : headerCla :: headerIns :: p1 :: p2 :: lc :: data = apduBytes ins p1 p2 data := by
        rw [apduBytes, beq_iff_eq.mp known, getHandler_eq found, size, UInt8.ofNat_toNat]
      have small : data.length < 256 := by
        rw [size]
        exact lc.toNat_lt
      dsimp only
      apply goes_bind_ok (EStateM.run_get _) rfl
      dsimp only
      cases running : s.device.currentIns with
      | none =>
        apply goes_bind_ok (EStateM.run_modify _ _) rfl
        exact starts ins p1 p2 data (beq_iff_eq.mp expects) running isUnlocked same
      | some current =>
        apply goes_bind_validate
        intro continued
        cases beq_iff_eq.mp continued
        have handled := continues ins p1 p2 data (beq_iff_eq.mp expects) running isUnlocked small same
        dsimp only [State.handling] at handled
        rw [running] at handled
        exact handled
  · exact goes_throw _

/-- The error that the host is told of, if any. -/
def errorNotice : Option Nat → List Output
  | none => []
  | some code => [.response code .empty]

/-- No instruction is going on. -/
structure AtRest (s : State) : Prop where
  ins : s.device.currentIns = none
  page : s.page = .home

theorem catching_run {body : Code Unit} {after : State} (run : body.run s = .ok () after) :
    (catching body).run s = .ok () after := by
  simp only [EStateM.run, catching] at run ⊢
  rw [run]

/-- What fails is reported, and the instruction is over; else it is as if nothing had failed. -/
theorem catching_goes {body : Code Unit} {good : State → Prop}
    (handled : Goes State.outputs body s fun _ => good)
    (ended : ∀ after code, AtRest after → (∀ error ∈ code, error ≠ success) →
      after.outputs = s.outputs ++ errorNotice code → good after) :
    Goes State.outputs (catching body) s fun _ => good := by
  unfold Goes at handled ⊢
  simp only [EStateM.run, catching] at handled ⊢
  cases run : body s with
  | ok result after =>
    rw [run] at handled
    exact handled
  | error exc after =>
    rw [run] at handled
    cases exc with
    | thrown code =>
      dsimp only at handled ⊢
      split_ifs with starts passes
      · apply ended _ none ⟨rfl, rfl⟩
        · intro _ member
          cases member
        · rw [errorNotice, List.append_nil]
          exact handled
      · have fits : Payload.empty.bytes.length + 2 < ioApduBufferSize := by decide
        have answered : (do onShared (ioSendBuf code .empty); uiIdle : Code Unit).run after =
            uiIdle.run { after with device := _ } :=
          run_bind_ok (onShared_run (ioSendBuf_run fits code after.device)) _
        simp only [EStateM.run] at answered
        rw [answered]
        have fails : code ≠ success := by
          rintro rfl
          exact absurd passes (by decide)
        apply ended _ (some code) ⟨rfl, rfl⟩
        · intro _ member
          cases member
          exact fails
        · exact congrArg (· ++ _) handled
      · exact handled
    | reset => exact handled
    | undefined => exact handled
    | diverges => exact handled

end MainLoop

end FantomLedger.Nbgl
