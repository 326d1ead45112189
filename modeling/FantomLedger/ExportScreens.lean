import FantomLedger.AddressText
import FantomLedger.Screens

/-! The screens of the instructions that export a public key or an address. -/

namespace FantomLedger

open Library.Program

/-- The payload of a request is this path and nothing else. -/
def Parses (wire : List UInt8) (path : Bip44Path) : Prop :=
  (bip44ParseFromWire .zero wire : EStateM Exc Unit _).run () = .ok (path, wire.length) ()

/-- The device writes this text for a path. -/
def WritesPath (path : Bip44Path) (text : List Char) : Prop :=
  ∃ memory, (bip44PathToStr path pathStrLength).run (List.replicate pathStrLength '\x00') =
      .ok () memory ∧ TextBuffer.cString memory = some text

def warningScreen : Screen := .text "Unusual Request".toList "Be careful!".toList

/-- A screen with the text of a path. -/
def ShowsPath (header : List Char) (path : Bip44Path) (screen : Screen) : Prop :=
  ∃ text, WritesPath path text ∧ screen = .text header text

section Key

def exportQuestion : Screen := .question "Confirm".toList "Key Export?".toList

/-- The screens that a policy leads to before a public key is sent. -/
def keyScript (path : Bip44Path) : SecurityPolicy → List (Screen → Prop)
  | .warn => [(· = warningScreen), ShowsPath "Exporting Key".toList path, (· = exportQuestion)]
  | .prompt => [ShowsPath "Exporting Key".toList path, (· = exportQuestion)]
  | _ => []

def keyAnswer (key : ExtendedPublicKey) : List Output := [.response success (.pubKey key), .idle]

theorem pubKey_fits (key : ExtendedPublicKey) :
    (Payload.pubKey key).bytes.length + 2 < ioApduBufferSize := by
  have length : (Payload.pubKey key).bytes.length = 65 := by simp [Payload.bytes]
  rw [length]
  decide

variable {device : Device} {ctx : GetPubKeyContext}

theorem onGetPubKey_run {α : Type} (context : device.instructionState = .getPubKey ctx)
    {body : EStateM Exc GetPubKeyContext α} {after : GetPubKeyContext} {result : α}
    (run : body.run ctx = .ok result after) :
    (onGetPubKey body).run device =
      .ok result { device with instructionState := .getPubKey after } := by
  have found : device.getPubKey? = some ctx := by rw [Device.getPubKey?, context]
  simp only [EStateM.run, onGetPubKey] at run ⊢
  rw [found]
  simp only [run]

theorem getPubKey_run (context : device.instructionState = .getPubKey ctx) :
    (onGetPubKey get).run device = .ok ctx device := by
  have run := onGetPubKey_run context (EStateM.run_get ctx)
  rwa [← context] at run

theorem setPubKeyStep_run (context : device.instructionState = .getPubKey ctx) (uiStep : UiStep) :
    (setPubKeyStep uiStep).run device =
      .ok () { device with instructionState := .getPubKey { ctx with uiStep := uiStep } } :=
  onGetPubKey_run context rfl

theorem goes_bind_onGetPubKey {ins : Option Ins} {outputs : List Output} {α β : Type}
    {body : EStateM Exc GetPubKeyContext α} {changed : GetPubKeyContext} {result : α}
    {next : α → DeviceCode β} {good : β → Device → Prop}
    (holding : Holding ins outputs (.getPubKey ctx) device) (run : body.run ctx = .ok result changed)
    (rest : ∀ after, Holding ins outputs (.getPubKey changed) after →
      Goes Device.outputs (next result) after good) :
    Goes Device.outputs (onGetPubKey body >>= next) device good :=
  goes_bind_ok (onGetPubKey_run holding.state run) rfl
    (rest _ ⟨holding.ins, holding.outputs, rfl⟩)

variable (platform : Platform)

/-- The device goes on with the screens of a key export. -/
def ExportsKey (ctx : GetPubKeyContext) (script : List (Screen → Prop)) (device : Device) : Prop :=
  Goes Device.outputs runGetPublicKeyUIStep device fun _ =>
    Presents platform .runGetPublicKeyUIStep (keyAnswer ctx.pubKey) AtRest script device.outputs

theorem exportsKey_respond (context : device.instructionState = .getPubKey ctx)
    (uiStep : ctx.uiStep = .respond) (ready : ctx.responseReady = pubKeyReadyTag) :
    ExportsKey platform ctx [] device := by
  apply goes_bind_ok (getPubKey_run context) rfl
  rw [uiStep, ready]
  apply goes_bind_assert
  intro _
  apply goes_answer (pubKey_fits ctx.pubKey)
  intro answered same
  exact setPubKeyStep_run (same.trans context) _

theorem exportsKey_confirm (context : device.instructionState = .getPubKey ctx)
    (running : device.currentIns ≠ none) (uiStep : ctx.uiStep = .confirm)
    (ready : ctx.responseReady = pubKeyReadyTag) :
    ExportsKey platform ctx [(· = exportQuestion)] device := by
  apply goes_bind_ok (getPubKey_run context) rfl
  rw [uiStep]
  dsimp only
  apply goes_present exportQuestion running
  · rfl
  · intro shown same
    exact setPubKeyStep_run (same.trans context) .respond
  · intro shown noted _ _
    have next := exportsKey_respond platform noted rfl ready
    exact next

theorem exportsKey_path (context : device.instructionState = .getPubKey ctx)
    (running : device.currentIns ≠ none) (uiStep : ctx.uiStep = .displayPath)
    (ready : ctx.responseReady = pubKeyReadyTag) :
    ExportsKey platform ctx
      [ShowsPath "Exporting Key".toList ctx.path, (· = exportQuestion)] device := by
  apply goes_bind_ok (getPubKey_run context) rfl
  rw [uiStep]
  apply goes_bind_formatted
  intro _ text memory written string
  apply goes_present (.text "Exporting Key".toList text) running
  · exact ⟨text, ⟨memory, written, string⟩, rfl⟩
  · intro shown same
    exact setPubKeyStep_run (same.trans context) .confirm
  · intro shown noted _ ins
    have next := exportsKey_confirm platform noted (by rwa [ins]) rfl ready
    exact next

theorem exportsKey_warning (context : device.instructionState = .getPubKey ctx)
    (running : device.currentIns ≠ none) (uiStep : ctx.uiStep = .warning)
    (ready : ctx.responseReady = pubKeyReadyTag) :
    ExportsKey platform ctx (keyScript ctx.path .warn) device := by
  apply goes_bind_ok (getPubKey_run context) rfl
  rw [uiStep]
  dsimp only
  apply goes_present warningScreen running
  · rfl
  · intro shown same
    exact setPubKeyStep_run (same.trans context) .displayPath
  · intro shown noted _ ins
    have next := exportsKey_path platform noted (by rwa [ins]) rfl ready
    exact next

/-- The first screen of an export, by the policy. -/
theorem exportsKey_start {policy : SecurityPolicy} {uiStep : UiStep}
    (context : device.instructionState = .getPubKey ctx) (running : device.currentIns ≠ none)
    (starts : pubKeyUiStep policy = some uiStep) (first : ctx.uiStep = uiStep)
    (ready : ctx.responseReady = pubKeyReadyTag) :
    ExportsKey platform ctx (keyScript ctx.path policy) device := by
  cases policy <;> cases starts
  · exact exportsKey_path platform context running first ready
  · exact exportsKey_warning platform context running first ready
  · exact exportsKey_respond platform context first ready

/-- A request for the public key of a path. -/
structure RequestsKey (p1 p2 : UInt8) (wire : List UInt8) (path : Bip44Path)
    (policy : SecurityPolicy) (key : ExtendedPublicKey) : Prop where
  zero : p1 = 0 ∧ p2 = 0
  parses : Parses wire path
  classified : (policyForGetPublicKey path : EStateM Exc Unit _).run () = .ok policy ()
  notDenied : policy ≠ .deny
  derives : (deriveExtendedPublicKey platform.sdk path : EStateM Exc Unit _).run () = .ok key ()

theorem handleGetPublicKey_goes (running : device.currentIns ≠ none) (p1 p2 : UInt8)
    (wire : List UInt8) :
    Goes Device.outputs (handleGetPublicKey platform.sdk p1 p2 wire true) device fun _ after =>
      ∃ path policy key, RequestsKey platform p1 p2 wire path policy key ∧
        Presents platform .runGetPublicKeyUIStep (keyAnswer key) AtRest (keyScript path policy)
          device.outputs after := by
  unfold handleGetPublicKey
  rw [if_pos rfl]
  apply goes_bind_ok (EStateM.run_modify _ _) rfl
  apply goes_bind_onGetPubKey ⟨rfl, rfl, rfl⟩ (EStateM.run_modify _ _)
  intro _ holding
  apply goes_bind_validate
  intro zero
  apply goes_bind_validate
  intro zero'
  apply goes_bind_onGetPubKey holding (EStateM.run_get _)
  intro _ holding
  apply (alike_bip44ParseFromWire _ _).goes_bind ()
  rintro ⟨path, parsedSize⟩ parsed
  apply goes_bind_onGetPubKey holding (EStateM.run_modify _ _)
  intro _ holding
  apply goes_bind_validate
  intro size
  cases beq_iff_eq.mp size
  apply (alike_policyForGetPublicKey path).goes_bind ()
  intro policy classified
  apply goes_bind_validate
  intro allowed
  apply (alike_deriveExtendedPublicKey platform.sdk path).goes_bind ()
  intro key derived
  apply goes_bind_onGetPubKey holding (EStateM.run_modify _ _)
  intro _ holding
  cases starts : pubKeyUiStep policy with
  | none => exact goes_throw _
  | some uiStep =>
    apply goes_bind_onGetPubKey holding (EStateM.run_modify _ _)
    intro started holding
    have exports := exportsKey_start platform holding.state (by rwa [holding.ins]) starts rfl rfl
    apply Goes.mono exports
    intro _ after presents
    rw [holding.outputs] at presents
    exact ⟨path, policy, key, ⟨⟨beq_iff_eq.mp zero, beq_iff_eq.mp zero'⟩, parsed, classified,
      bne_iff_ne.mp allowed, derived⟩, presents⟩

end Key

section Address

def addressQuestion : Screen := .question "Confirm".toList "Address?".toList

/-- The screen with an address, its letters in the case that the hash of its digits gives. -/
def addressScreen (sdk : Sdk) (address : List UInt8) : Screen :=
  .text "Address".toList (addressText sdk address ((nibbles address).map hexByte))

/-- The last screen before an address is sent. -/
def lastAddressScreen (sdk : Sdk) (address : List UInt8) (isShowAddress : Bool) : Screen :=
  if isShowAddress then addressScreen sdk address else addressQuestion

/-- The screens that a policy leads to before an address is sent. -/
def addressScript (sdk : Sdk) (path : Bip44Path) (address : List UInt8) (isShowAddress : Bool) :
    SecurityPolicy → List (Screen → Prop)
  | .warn => [(· = warningScreen), ShowsPath "Address Path".toList path,
      (· = lastAddressScreen sdk address isShowAddress)]
  | .prompt => [(· = lastAddressScreen sdk address isShowAddress)]
  | _ => []

def addressAnswer (address : ByteField 64) : List Output :=
  [.response success (.address address), .idle]

theorem address_fits (address : ByteField 64) :
    (Payload.address address).bytes.length + 2 < ioApduBufferSize := by
  have used : address.bytes.length ≤ 64 := by
    rw [ByteField.bytes, List.length_take, Vector.length_toList]
    exact Nat.min_le_right _ _
  rw [Payload.bytes, List.length_cons]
  exact Nat.lt_of_le_of_lt (Nat.add_le_add_right (Nat.succ_le_succ used) 2) (by decide)

/-- The text of an address that fills 20 bytes of its buffer depends on nothing else. -/
theorem addressText_whole (sdk : Sdk) {address : ByteField 64}
    (whole : address.length.toNat = rawAddressSize) (tmp : Vector UInt8 40) :
    addressText sdk address.value.toList
        (hashedDigits address.value.toList address.length.toNat tmp) =
      addressText sdk address.bytes ((nibbles address.bytes).map hexByte) := by
  have rest : tmp.toList.drop (2 * rawAddressSize) = [] :=
    List.drop_eq_nil_of_le (by rw [Vector.length_toList]; exact Nat.le_refl _)
  rw [ByteField.bytes, hashedDigits, whole, rest, List.append_nil, addressText, addressText,
    addressDigits, addressDigits, List.take_take, Nat.min_self]

variable {device : Device} {ctx : GetAddressContext}

theorem onGetAddress_run {α : Type} (context : device.instructionState = .getAddress ctx)
    {body : EStateM Exc GetAddressContext α} {after : GetAddressContext} {result : α}
    (run : body.run ctx = .ok result after) :
    (onGetAddress body).run device =
      .ok result { device with instructionState := .getAddress after } := by
  have found : device.getAddress? = some ctx := by rw [Device.getAddress?, context]
  simp only [EStateM.run, onGetAddress] at run ⊢
  rw [found]
  simp only [run]

theorem getAddress_run (context : device.instructionState = .getAddress ctx) :
    (onGetAddress get).run device = .ok ctx device := by
  have run := onGetAddress_run context (EStateM.run_get ctx)
  rwa [← context] at run

theorem setAddressStep_run (context : device.instructionState = .getAddress ctx) (uiStep : UiStep) :
    (setAddressStep uiStep).run device =
      .ok () { device with instructionState := .getAddress { ctx with uiStep := uiStep } } :=
  onGetAddress_run context rfl

theorem goes_bind_onGetAddress {ins : Option Ins} {outputs : List Output} {α β : Type}
    {body : EStateM Exc GetAddressContext α} {changed : GetAddressContext} {result : α}
    {next : α → DeviceCode β} {good : β → Device → Prop}
    (holding : Holding ins outputs (.getAddress ctx) device) (run : body.run ctx = .ok result changed)
    (rest : ∀ after, Holding ins outputs (.getAddress changed) after →
      Goes Device.outputs (next result) after good) :
    Goes Device.outputs (onGetAddress body >>= next) device good :=
  goes_bind_ok (onGetAddress_run holding.state run) rfl
    (rest _ ⟨holding.ins, holding.outputs, rfl⟩)

variable (platform : Platform)

/-- The device goes on with the screens of an address export. -/
def ExportsAddress (ctx : GetAddressContext) (script : List (Screen → Prop)) (device : Device) :
    Prop :=
  Goes Device.outputs (runGetAddressUIStep platform.sdk) device fun _ =>
    Presents platform .runGetAddressUIStep (addressAnswer ctx.address) AtRest script device.outputs

/-- The address in the context has been derived. -/
structure AddressReady (ctx : GetAddressContext) : Prop where
  ready : ctx.responseReady = addressReadyTag
  whole : ctx.address.length.toNat = rawAddressSize

theorem exportsAddress_respond (context : device.instructionState = .getAddress ctx)
    (uiStep : ctx.uiStep = .respond) (ready : AddressReady ctx) :
    ExportsAddress platform ctx [] device := by
  apply goes_bind_ok (getAddress_run context) rfl
  rw [uiStep]
  dsimp only
  rw [ready.ready]
  apply goes_bind_assert
  intro _
  apply goes_bind_assert
  intro _
  apply goes_answer (address_fits ctx.address)
  intro answered same
  exact setAddressStep_run (same.trans context) _

theorem exportsAddress_confirm (context : device.instructionState = .getAddress ctx)
    (running : device.currentIns ≠ none) (uiStep : ctx.uiStep = .confirm) (ready : AddressReady ctx) :
    ExportsAddress platform ctx [(· = addressQuestion)] device := by
  apply goes_bind_ok (getAddress_run context) rfl
  rw [uiStep]
  dsimp only
  apply goes_present addressQuestion running
  · rfl
  · intro shown same
    exact setAddressStep_run (same.trans context) .respond
  · intro shown noted _ _
    have next := exportsAddress_respond platform noted rfl ⟨ready.ready, ready.whole⟩
    exact next

theorem exportsAddress_address (context : device.instructionState = .getAddress ctx)
    (running : device.currentIns ≠ none) (uiStep : ctx.uiStep = .address) (ready : AddressReady ctx) :
    ExportsAddress platform ctx [(· = addressScreen platform.sdk ctx.address.bytes)] device := by
  have size : 0 < ctx.address.length.toNat := by
    rw [ready.whole]
    decide
  have formatted := formattedAddress_run platform.sdk ctx.address.value.toList
    ctx.address.length.toNat device size ready.whole.le (by rw [Vector.length_toList]; decide)
  rw [addressText_whole platform.sdk ready.whole] at formatted
  apply goes_bind_ok (getAddress_run context) rfl
  rw [uiStep]
  dsimp only
  apply goes_bind_assert
  intro _
  apply goes_bind_ok formatted rfl
  have holding : Holding device.currentIns device.outputs (.getAddress ctx)
      { device with stack := fun call => device.stack (call + 1) } := ⟨rfl, rfl, context⟩
  apply goes_bind_onGetAddress holding (EStateM.run_modify _ _)
  intro hashing holding
  rw [← holding.outputs]
  apply goes_present (addressScreen platform.sdk ctx.address.bytes) (by rwa [holding.ins])
  · rfl
  · intro shown same
    exact setAddressStep_run (same.trans holding.state) .respond
  · intro shown noted _ _
    have next := exportsAddress_respond platform noted rfl ⟨ready.ready, ready.whole⟩
    exact next

/-- The last screen, by the parameter of the request. -/
theorem exportsAddress_last (context : device.instructionState = .getAddress ctx)
    (running : device.currentIns ≠ none) {isShowAddress : Bool}
    (uiStep : ctx.uiStep = afterPath isShowAddress) (ready : AddressReady ctx) :
    ExportsAddress platform ctx
      [(· = lastAddressScreen platform.sdk ctx.address.bytes isShowAddress)] device := by
  cases isShowAddress with
  | false => exact exportsAddress_confirm platform context running uiStep ready
  | true => exact exportsAddress_address platform context running uiStep ready

theorem exportsAddress_path (context : device.instructionState = .getAddress ctx)
    (running : device.currentIns ≠ none) (uiStep : ctx.uiStep = .displayPath)
    (ready : AddressReady ctx) :
    ExportsAddress platform ctx [ShowsPath "Address Path".toList ctx.path,
      (· = lastAddressScreen platform.sdk ctx.address.bytes ctx.isShowAddress)] device := by
  apply goes_bind_ok (getAddress_run context) rfl
  rw [uiStep]
  dsimp only
  apply goes_bind_formatted
  intro _ text memory written string
  apply goes_present (.text "Address Path".toList text) running
  · exact ⟨text, ⟨memory, written, string⟩, rfl⟩
  · intro shown same
    exact setAddressStep_run (same.trans context) (afterPath ctx.isShowAddress)
  · intro shown noted _ ins
    have next := exportsAddress_last platform noted (by rwa [ins]) rfl ⟨ready.ready, ready.whole⟩
    exact next

theorem exportsAddress_warning (context : device.instructionState = .getAddress ctx)
    (running : device.currentIns ≠ none) (uiStep : ctx.uiStep = .warning) (ready : AddressReady ctx) :
    ExportsAddress platform ctx
      (addressScript platform.sdk ctx.path ctx.address.bytes ctx.isShowAddress .warn) device := by
  apply goes_bind_ok (getAddress_run context) rfl
  rw [uiStep]
  dsimp only
  apply goes_present warningScreen running
  · rfl
  · intro shown same
    exact setAddressStep_run (same.trans context) .displayPath
  · intro shown noted _ ins
    have next := exportsAddress_path platform noted (by rwa [ins]) rfl ⟨ready.ready, ready.whole⟩
    exact next

theorem exportsAddress_start {policy : SecurityPolicy} {uiStep : UiStep}
    (context : device.instructionState = .getAddress ctx) (running : device.currentIns ≠ none)
    (starts : addressUiStep ctx.isShowAddress policy = some uiStep) (first : ctx.uiStep = uiStep)
    (ready : AddressReady ctx) :
    ExportsAddress platform ctx
      (addressScript platform.sdk ctx.path ctx.address.bytes ctx.isShowAddress policy) device := by
  cases policy <;> cases starts
  · exact exportsAddress_last platform context running first ready
  · exact exportsAddress_warning platform context running first ready
  · exact exportsAddress_respond platform context first ready

/-- A request for the address of a path. -/
structure RequestsAddress (p1 p2 : UInt8) (wire : List UInt8) (path : Bip44Path)
    (policy : SecurityPolicy) (address : List UInt8) : Prop where
  known : p1 = p1ReturnAddress ∨ p1 = p1DisplayAddress
  zero : p2 = 0
  parses : Parses wire path
  classified : (policyForGetAddress path (p1 == p1DisplayAddress) : EStateM Exc Unit _).run () =
    .ok policy ()
  notDenied : policy ≠ .deny
  derives : ∃ sha3Context, (deriveAddress platform.sdk path addressBufferSize : EStateM Exc Unit _).run () =
    .ok (sha3Context, address) ()

theorem handleGetAddress_goes (running : device.currentIns ≠ none) (p1 p2 : UInt8)
    (wire : List UInt8) :
    Goes Device.outputs (handleGetAddress platform.sdk p1 p2 wire true) device fun _ after =>
      ∃ path policy address, RequestsAddress platform p1 p2 wire path policy address.bytes ∧
        Presents platform .runGetAddressUIStep (addressAnswer address) AtRest
          (addressScript platform.sdk path address.bytes (p1 == p1DisplayAddress) policy)
          device.outputs after := by
  unfold handleGetAddress
  rw [if_pos rfl]
  apply goes_bind_ok (EStateM.run_modify _ _) rfl
  apply goes_bind_onGetAddress ⟨rfl, rfl, rfl⟩ (EStateM.run_modify _ _)
  intro _ holding
  apply goes_bind_validate
  intro known
  apply goes_bind_validate
  intro zero
  apply goes_bind_onGetAddress holding (EStateM.run_modify _ _)
  intro _ holding
  apply goes_bind_onGetAddress holding (EStateM.run_get _)
  intro _ holding
  apply (alike_bip44ParseFromWire _ _).goes_bind ()
  rintro ⟨path, parsedSize⟩ parsed
  apply goes_bind_onGetAddress holding (EStateM.run_modify _ _)
  intro _ holding
  apply goes_bind_validate
  intro size
  cases beq_iff_eq.mp size
  apply (alike_policyForPath _ path).goes_bind ()
  intro policy classified
  apply goes_bind_validate
  intro allowed
  apply (alike_deriveAddress platform.sdk path addressBufferSize).goes_bind ()
  rintro ⟨sha3Context, raw⟩ derived
  apply goes_bind_onGetAddress holding (EStateM.run_get _)
  intro _ holding
  apply goes_bind_inside
  intro stored kept
  apply goes_bind_onGetAddress holding (EStateM.run_modify _ _)
  intro _ holding
  have length := deriveAddress_eq_ok derived
  obtain ⟨bytes, used⟩ := ByteField.bytes_store kept (by rw [length]; decide) (by decide)
  cases starts : addressUiStep (p1 == p1DisplayAddress) policy with
  | none => exact goes_throw _
  | some uiStep =>
    apply goes_bind_onGetAddress holding (EStateM.run_modify _ _)
    intro started holding
    have exports := exportsAddress_start platform holding.state (by rwa [holding.ins]) starts rfl
      ⟨rfl, used.trans length⟩
    apply Goes.mono exports
    intro _ after presents
    rw [holding.outputs] at presents
    refine ⟨path, policy, stored.setLength raw.length, ?_, presents⟩
    rw [Bool.or_eq_true, beq_iff_eq, beq_iff_eq] at known
    refine ⟨known, beq_iff_eq.mp zero, parsed, classified, bne_iff_ne.mp allowed, sha3Context, ?_⟩
    rw [bytes]
    exact derived

end Address

end FantomLedger
