import FantomLedger.NbglReview

/-! The pages of an export on the large screen. -/

namespace FantomLedger.Nbgl

open Library.Program

variable (platform : Platform) {s : State}

/-- A step has let the payload out, and the page is still the same. -/
structure Sent (payload : Payload) (s after : State) : Prop where
  outputs : after.outputs = s.outputs ++ [.response success payload]
  inside : Inside after.device
  ioState : after.device.ioState = .expectIo
  page : after.page = s.page

/-- An answer that takes no page. -/
theorem Sent.presents {ins : Ins} {payload : Payload} {after : State} (sent : Sent payload s after)
    (quiet : s.page.isQuiet = true) (other : after.device.currentIns ≠ some .signTx) :
    Presents platform ins payload Ended [] s.outputs after := by
  refine ⟨sent.outputs, sent.inside, sent.ioState, ?_, fun signs => absurd signs other⟩
  rw [sent.page]
  exact quiet

/-- The page of an export whose acceptance lets the payload out. -/
theorem presents_export {ins : Ins} {payload : Payload} {shows : Page → Prop} {before : List Output}
    {message : List Char} {fn : UiCallbackFn} (same : s.outputs = before) (fits : shows s.page)
    (asking : Asking ins s) (other : ins ≠ .signTx)
    (accepts : ∀ good, Goes State.outputs (exportCallback platform message true) s good →
      Goes State.outputs (touch platform true) s good)
    (confirm : s.confirmClbk = some fn)
    (sends : Goes State.outputs (runCallback platform fn) s fun _ after =>
      Sent payload s after ∧ after.device.currentIns = s.device.currentIns) :
    Presents platform ins payload Ended [shows] before s := by
  subst same
  refine ⟨fits, rfl, asking, ?_⟩
  apply accepts
  apply Goes.bind_returns
  apply goes_confirmClbk platform confirm
  apply Goes.mono sends
  rintro _ after ⟨sent, same⟩
  apply returns_of_ok (EStateM.run_modify _ _)
  refine ⟨sent.outputs, sent.inside, sent.ioState, rfl, ?_⟩
  intro signs
  rw [same, asking.running] at signs
  exact absurd (Option.some.inj signs) other

section Key

variable {ctx : GetPubKeyContext}

/-- The pages that a policy leads to before a public key is sent. -/
def keyScript (path : Bip44Path) : SecurityPolicy → List (Page → Prop)
  | .warn => [(· = unusualPage), (· = keyPage path)]
  | .prompt => [(· = keyPage path)]
  | _ => []

/-- The device works on a context of a public key whose path is not denied. -/
structure HasKey (ctx : GetPubKeyContext) (s : State) : Prop where
  ins : s.device.currentIns = some .getKey
  state : s.device.instructionState = .getPubKey ctx
  valid : bip44HasValidFantomPrefix ctx.path = true

theorem keyRespond_goes (has : HasKey ctx s) (uiStep : ctx.uiStep = .respond) :
    Goes State.outputs runGetPublicKeyUIStep s fun _ after =>
      Sent (.pubKey ctx.pubKey) s after ∧ after.device.currentIns = s.device.currentIns := by
  apply goes_bind_read (getPubKey_run has.state)
  rw [uiStep]
  apply goes_bind_assert
  intro _
  apply Goes.bind_returns
  apply goes_onShared
  apply goes_of_ok (ioSendBuf_run (pubKey_fits ctx.pubKey) success s.device)
  apply returns_onShared
  · apply setPubKeyStep_run
    exact has.state
  exact ⟨⟨rfl, .key has.ins rfl, rfl, rfl⟩, rfl⟩

theorem goes_bind_displayPathChoice {path : Bip44Path} (valid : bip44HasValidFantomPrefix path = true)
    {ioState : IoState} {subtext : Vector Char 40} {α : Type} {next : Choice → Code α}
    {good : α → State → Prop}
    (rest : ioState ≠ .expectIo → Goes State.outputs (next (exportChoice (choiceText path))) s good) :
    Goes State.outputs (displayPathChoice ioState subtext path >>= next) s good := by
  have keeps {γ : Type} {measure : State → γ} : Keeps measure (displayPathChoice ioState subtext path) := by
    apply (TextBuffer.keeps_onBuffer _ _).bind
    intro _
    apply (TextBuffer.keeps_onBuffer _ _).bind
    intro _
    apply (keeps_assertThat _).bind
    intro _
    apply (keeps_inside _).bind
    intro _
    apply (keeps_inside _).bind
    intro _
    apply (TextBuffer.keeps_onBuffer _ _).bind
    intro _
    apply (keeps_inside _).bind
    intro _
    exact keeps_pure _
  apply goes_bind_keeps keeps
  intro choice after run
  cases state_of_ok keeps run
  obtain ⟨asks, rfl⟩ := displayPathChoice_eq_ok valid run
  exact rest asks

theorem goes_bind_exportKeyConfirm {path : Bip44Path} (valid : bip44HasValidFantomPrefix path = true)
    {confirm reject : UiCallbackFn} {α : Type} {next : Unit → Code α} {good : α → State → Prop}
    (rest : s.device.ioState ≠ .expectIo → Goes State.outputs (next ()) { s with
      confirmClbk := some confirm
      rejectClbk := some reject
      rejectionText := some "Key export cancelled".toList
      page := keyPage path } good) :
    Goes State.outputs (exportKeyConfirm path confirm reject >>= next) s good := by
  rw [exportKeyConfirm]
  simp only [bind_assoc]
  apply goes_bind_ok (EStateM.run_get s) rfl
  apply goes_bind_displayPathChoice valid
  intro ioState
  apply goes_bind_ok (EStateM.run_modify _ _) rfl
  apply goes_bind_ok (EStateM.run_modify _ _) rfl
  apply goes_bind_ok (EStateM.run_modify _ _) rfl
  exact rest ioState

/-- The device goes on with the pages of a key export. -/
def ExportsKey (ctx : GetPubKeyContext) (script : List (Page → Prop)) (s : State) : Prop :=
  Goes State.outputs runGetPublicKeyUIStep s fun _ =>
    Presents platform .getKey (.pubKey ctx.pubKey) Ended script s.outputs

theorem exportsKey_path (has : HasKey ctx s) (uiStep : ctx.uiStep = .displayPath) :
    ExportsKey platform ctx [(· = keyPage ctx.path)] s := by
  apply goes_bind_read (getPubKey_run has.state)
  rw [uiStep]
  apply goes_bind_exportKeyConfirm has.valid
  intro ioState
  apply goes_onShared
  apply goes_of_ok (setPubKeyStep_run has.state .respond)
  apply presents_export platform
  · rfl
  · rfl
  · exact ⟨has.ins, .key has.ins rfl, ioState, rfl, .key _⟩
  · decide
  · intro good answers
    exact goes_touch platform rfl answers
  · rfl
  · apply @keyRespond_goes _ { ctx with uiStep := .respond }
    · exact ⟨has.ins, rfl, has.valid⟩
    · rfl

theorem exportsKey_warning (has : HasKey ctx s) (uiStep : ctx.uiStep = .warning) :
    ExportsKey platform ctx (keyScript ctx.path .warn) s := by
  apply goes_bind_read (getPubKey_run has.state)
  rw [uiStep]
  apply goes_bind_uiDisplayWarning
  intro ioState
  apply goes_onShared
  apply goes_of_ok (setPubKeyStep_run has.state .displayPath)
  refine ⟨rfl, rfl, ⟨has.ins, .key has.ins rfl, ioState, rfl, .warning _⟩, ?_⟩
  apply goes_touch platform rfl
  apply goes_confirmClbk platform rfl
  apply @exportsKey_path platform _ { ctx with uiStep := .displayPath }
  · exact ⟨has.ins, rfl, has.valid⟩
  · rfl

theorem exportsKey_start {policy : SecurityPolicy} {uiStep : UiStep} (has : HasKey ctx s)
    (quiet : s.page.isQuiet = true) (starts : pubKeyUiStep policy = some uiStep)
    (first : ctx.uiStep = uiStep) : ExportsKey platform ctx (keyScript ctx.path policy) s := by
  cases policy <;> cases starts
  · exact exportsKey_path platform has first
  · exact exportsKey_warning platform has first
  · apply Goes.mono (keyRespond_goes has first)
    rintro _ after ⟨sent, same⟩
    apply sent.presents platform quiet
    rw [same, has.ins]
    decide

end Key

section Address

variable {ctx : GetAddressContext}

def unusualPathPage : Page := warningPage "Unusual derivation\npath be careful!".toList

def pathLine (path : Bip44Path) : TagValue := ⟨some "Derivation Path".toList, path.text⟩

/-- The text of an address, its letters in the case that the hash of its digits gives. -/
def shownAddress (sdk : Sdk) (address : List UInt8) : List Char :=
  addressText sdk address ((nibbles address).map hexByte)

/-- The last page before an address is sent. Without the address, it has the path. -/
def lastAddressPage (sdk : Sdk) (path : Bip44Path) (address : List UInt8)
    (isShowAddress isShowPath : Bool) : Page :=
  if isShowAddress then
    addressPage (shownAddress sdk address) (if isShowPath then [pathLine path] else [])
  else
    pathPage [pathLine path]

/-- The pages that a policy leads to before an address is sent. -/
def addressScript (sdk : Sdk) (path : Bip44Path) (address : List UInt8) (isShowAddress : Bool) :
    SecurityPolicy → List (Page → Prop)
  | .warn => [(· = unusualPathPage), (· = verifyPage),
      (· = lastAddressPage sdk path address isShowAddress true)]
  | .prompt => [(· = verifyPage),
      fun page => ∃ isShowPath, page = lastAddressPage sdk path address isShowAddress isShowPath]
  | _ => []

/-- The device works on a context of an address whose path is not denied. -/
structure HasAddress (ctx : GetAddressContext) (s : State) : Prop where
  ins : s.device.currentIns = some .getAddr
  state : s.device.instructionState = .getAddress ctx
  ready : AddressReady ctx
  valid : bip44HasValidFantomPrefix ctx.path = true

theorem addressRespond_goes (has : HasAddress ctx s) (uiStep : ctx.uiStep = .respond) :
    Goes State.outputs (runGetAddressUIStep platform.sdk) s fun _ after =>
      Sent (.address ctx.address) s after ∧ after.device.currentIns = s.device.currentIns := by
  apply goes_bind_read (getAddress_run has.state)
  rw [uiStep]
  apply goes_bind_assert
  intro _
  apply goes_bind_assert
  intro _
  apply Goes.bind_returns
  apply goes_onShared
  apply goes_of_ok (ioSendBuf_run (address_fits ctx.address) success s.device)
  apply returns_onShared
  · apply setAddressStep_run
    exact has.state
  exact ⟨⟨rfl, .address has.ins rfl, rfl, rfl⟩, rfl⟩

theorem goes_bind_pathText {path : Bip44Path} (valid : bip44HasValidFantomPrefix path = true) {α : Type}
    {next : List Char → Code α} {good : α → State → Prop}
    (rest : Goes State.outputs (next path.text) s good) :
    Goes State.outputs (pathText path >>= next) s good := by
  have size : (List.replicate fieldTextSize '\x00').length = fieldTextSize := List.length_replicate
  rw [pathText, bind_assoc]
  apply goes_bind_onShared
  rw [← bind_pure (formatted _ _)]
  apply goes_bind_formatted
  intro result text memory run string
  rw [← size] at run
  have written := (text_of_written valid (by rw [size]; decide) (by rw [size]; decide) run).2
  cases string.symm.trans written
  exact goes_of_ok rfl ⟨rfl, rest⟩

/-- The device goes on with the pages of an address. -/
def ExportsAddress (ctx : GetAddressContext) (script : List (Page → Prop)) (s : State) : Prop :=
  Goes State.outputs (runGetAddressUIStep platform.sdk) s fun _ =>
    Presents platform .getAddr (.address ctx.address) Ended script s.outputs

/-- The page behind the first one has what the static variables hold. -/
theorem displayAddress_run {sdk : Sdk} {path : Bip44Path} {address : List UInt8}
    (fields : s.fields = [pathLine path, ⟨none, shownAddress sdk address⟩]) (pairs : s.nbPairs = 1) :
    ∃ infoLongPress, displayAddress.run s = .ok () { s with
      infoLongPress := infoLongPress
      page := lastAddressPage sdk path address s.isDisplayAddress s.isDisplayPath } := by
  obtain ⟨_, _, _, _, _, _, _, _, isDisplayAddress, isDisplayPath, _, _⟩ := s
  cases fields
  cases pairs
  cases isDisplayAddress with
  | false => exact ⟨_, rfl⟩
  | true =>
    cases isDisplayPath with
    | false => exact ⟨_, rfl⟩
    | true => exact ⟨_, rfl⟩

theorem lastAddressPage_asks (sdk : Sdk) (path : Bip44Path) (address : List UInt8)
    (isShowAddress isShowPath : Bool) :
    (lastAddressPage sdk path address isShowAddress isShowPath).Asks := by
  unfold lastAddressPage
  split_ifs
  · exact .address _ _
  · exact .address _ _
  · exact .path _

theorem goes_accept_lastAddressPage {sdk : Sdk} {path : Bip44Path} {address : List UInt8}
    {isShowAddress isShowPath : Bool} {good : Unit → State → Prop}
    (page : s.page = lastAddressPage sdk path address isShowAddress isShowPath)
    (answers : Goes State.outputs (exportCallback platform "ADDRESS\nVERIFIED".toList true) s good) :
    Goes State.outputs (touch platform true) s good := by
  unfold lastAddressPage at page
  split_ifs at page
  · exact goes_touch platform page answers
  · exact goes_touch platform page answers
  · exact goes_touch platform page answers

/-- From the first page on, the acceptance of both lets the address out. -/
theorem presents_verify {before : List Output} {isShowPath : Bool} {shows : Page → Prop}
    (same : s.outputs = before) (has : HasAddress ctx s) (uiStep : ctx.uiStep = .respond)
    (page : s.page = verifyPage) (ioState : s.device.ioState ≠ .expectIo)
    (confirm : s.confirmClbk = some .runGetAddressUIStep)
    (reject : s.rejectClbk = some .uiRespondWithUserReject)
    (fields : s.fields = [pathLine ctx.path, ⟨none, shownAddress platform.sdk ctx.address.bytes⟩])
    (pairs : s.nbPairs = 1) (isDisplayAddress : s.isDisplayAddress = ctx.isShowAddress)
    (isDisplayPath : s.isDisplayPath = isShowPath)
    (fits : shows (lastAddressPage platform.sdk ctx.path ctx.address.bytes ctx.isShowAddress isShowPath)) :
    Presents platform .getAddr (.address ctx.address) Ended [(· = verifyPage), shows] before s := by
  have asks : s.page.Asks := by
    rw [page]
    exact .verify
  refine ⟨page, same, ⟨has.ins, .address has.ins has.state, ioState, reject, asks⟩, ?_⟩
  apply goes_touch platform page
  obtain ⟨infoLongPress, displayed⟩ := displayAddress_run fields pairs
  rw [isDisplayAddress, isDisplayPath] at displayed
  apply goes_of_ok displayed
  apply presents_export platform
  · exact same
  · exact fits
  · exact ⟨has.ins, .address has.ins has.state, ioState, reject, lastAddressPage_asks _ _ _ _ _⟩
  · decide
  · intro good answers
    exact goes_accept_lastAddressPage platform rfl answers
  · exact confirm
  · apply addressRespond_goes
    · exact ⟨has.ins, has.state, has.ready, has.valid⟩
    · exact uiStep

theorem goes_bind_uiVerifyAddress {path : TagValue} {text : List Char} {confirm reject : UiCallbackFn}
    {showAddr showPath : Bool} {α : Type} {next : Unit → Code α} {good : α → State → Prop}
    (rest : s.device.ioState ≠ .expectIo → Goes State.outputs (next ()) { s with
      page := verifyPage
      confirmClbk := some confirm
      rejectClbk := some reject
      rejectionText := some "Address rejected".toList
      fields := [path, ⟨none, text⟩]
      nbPairs := 1
      isDisplayAddress := showAddr
      isDisplayPath := showPath } good) :
    Goes State.outputs (uiVerifyAddress path text confirm reject showAddr showPath >>= next) s good := by
  rw [uiVerifyAddress]
  simp only [bind_assoc]
  apply goes_bind_assertIoState
  intro ioState
  apply goes_bind_ok (EStateM.run_modify _ _) rfl
  apply goes_bind_ok (EStateM.run_modify _ _) rfl
  apply goes_bind_ok (EStateM.run_modify _ _) rfl
  exact rest ioState

theorem exportsAddress_confirm {shows : Page → Prop} (has : HasAddress ctx s)
    (uiStep : ctx.uiStep = .confirm)
    (fits : shows (lastAddressPage platform.sdk ctx.path ctx.address.bytes ctx.isShowAddress s.isShowPath)) :
    ExportsAddress platform ctx [(· = verifyPage), shows] s := by
  have size : 0 < ctx.address.length.toNat := by
    rw [has.ready.whole]
    decide
  obtain ⟨sha3Context, formatted⟩ : ∃ sha3Context, (formattedAddress platform.sdk
      ctx.address.value.toList ctx.address.length.toNat fieldTextSize).run s.device =
        .ok (sha3Context, shownAddress platform.sdk ctx.address.bytes)
          { s.device with stack := fun call => s.device.stack (call + 1) } := by
    have written := formattedAddress_writes platform.sdk ctx.address.value.toList
      ctx.address.length.toNat fieldTextSize s.device size has.ready.whole.le
      (by rw [Vector.length_toList]; decide) (by decide) (by decide)
    rw [addressText_whole platform.sdk has.ready.whole] at written
    exact ⟨_, written⟩
  have context (stack : Nat → Vector UInt8 40) :
      Device.instructionState { s.device with stack := stack } = .getAddress ctx := has.state
  apply goes_bind_read (getAddress_run has.state)
  rw [uiStep]
  apply goes_bind_pathText has.valid
  apply goes_bind_assert
  intro _
  apply goes_bind_pathText has.valid
  apply goes_bind_ok (onShared_run formatted) rfl
  apply goes_bind_onShared
  apply goes_of_ok (onGetAddress_run (context _) (EStateM.run_modify _ _))
  refine ⟨rfl, ?_⟩
  apply goes_bind_ok (EStateM.run_get _) rfl
  apply goes_bind_uiVerifyAddress
  intro ioState
  apply goes_onShared
  apply goes_of_ok (setAddressStep_run rfl .respond)
  apply @presents_verify platform _ { ctx with sha3Context := sha3Context, uiStep := .respond } _
    s.isShowPath
  · rfl
  · exact ⟨has.ins, rfl, ⟨has.ready.ready, has.ready.whole⟩, has.valid⟩
  · rfl
  · rfl
  · exact ioState
  · rfl
  · rfl
  · rfl
  · rfl
  · rfl
  · rfl
  · exact fits

theorem exportsAddress_warning (has : HasAddress ctx s) (uiStep : ctx.uiStep = .warning) :
    ExportsAddress platform ctx
      (addressScript platform.sdk ctx.path ctx.address.bytes ctx.isShowAddress .warn) s := by
  apply goes_bind_read (getAddress_run has.state)
  rw [uiStep]
  apply goes_bind_uiDisplayWarning
  intro ioState
  apply goes_bind_ok (EStateM.run_modify _ _) rfl
  apply goes_onShared
  apply goes_of_ok (setAddressStep_run has.state .confirm)
  refine ⟨rfl, rfl, ⟨has.ins, .address has.ins rfl, ioState, rfl, .warning _⟩, ?_⟩
  apply goes_touch platform rfl
  apply goes_confirmClbk platform rfl
  apply @exportsAddress_confirm platform _ { ctx with uiStep := .confirm }
  · exact ⟨has.ins, rfl, ⟨has.ready.ready, has.ready.whole⟩, has.valid⟩
  · rfl
  · rfl

theorem exportsAddress_start {policy : SecurityPolicy} {uiStep : UiStep} (has : HasAddress ctx s)
    (quiet : s.page.isQuiet = true) (starts : addressUiStep policy = some uiStep)
    (first : ctx.uiStep = uiStep) :
    ExportsAddress platform ctx
      (addressScript platform.sdk ctx.path ctx.address.bytes ctx.isShowAddress policy) s := by
  cases policy <;> cases starts
  · exact exportsAddress_confirm platform has first ⟨_, rfl⟩
  · exact exportsAddress_warning platform has first
  · apply Goes.mono (addressRespond_goes platform has first)
    rintro _ after ⟨sent, same⟩
    apply sent.presents platform quiet
    rw [same, has.ins]
    decide

end Address

end FantomLedger.Nbgl
