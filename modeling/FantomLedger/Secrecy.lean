import FantomLedger.Isolation
import FantomLedger.NbglProgress

/-! Private keys: nothing that a device does tells them apart from others with the same public keys and the
same signatures. -/

namespace FantomLedger

open Library Library.Program

/-- Two devices with the same public keys, chain codes and signatures, of whatever private keys. -/
structure SameOutside (first second : Sdk) : Prop where
  keccak256 : first.keccak256 = second.keccak256
  chainCode : ∀ indexes,
    (first.osPersoDeriveNodeBip32 indexes).2 = (second.osPersoDeriveNodeBip32 indexes).2
  publicKey : ∀ indexes, first.cxEcfpGeneratePair (first.osPersoDeriveNodeBip32 indexes).1 =
    second.cxEcfpGeneratePair (second.osPersoDeriveNodeBip32 indexes).1
  signature : ∀ indexes, first.cxEcdsaSign (first.osPersoDeriveNodeBip32 indexes).1 =
    second.cxEcdsaSign (second.osPersoDeriveNodeBip32 indexes).1

section Functions

variable {sdk other : Sdk} {σ α : Type} (same : SameOutside sdk other)

/-- Code goes on with the two keys alike. -/
theorem bind_derivePrivateKey (path : Bip44Path) {next continues : PrivateKey × ChainCode → EStateM Exc σ α}
    (goesOn : next (sdk.osPersoDeriveNodeBip32 path.indexes) =
      continues (other.osPersoDeriveNodeBip32 path.indexes)) :
    derivePrivateKey sdk path >>= next = derivePrivateKey other path >>= continues := by
  unfold derivePrivateKey
  cases bip44HasValidFantomPrefix path with
  | false => rfl
  | true =>
    simp only [Bool.not_true, Bool.false_eq_true, if_false, pure_bind, bind_assoc, goesOn]

include same

theorem deriveExtendedPublicKey_same :
    (deriveExtendedPublicKey sdk : Bip44Path → EStateM Exc σ _) = deriveExtendedPublicKey other := by
  funext path
  apply bind_derivePrivateKey
  simp only [deriveRawPublicKey, same.publicKey, same.chainCode]

theorem cxHashLast_same : Sha3Context.cxHashLast sdk = Sha3Context.cxHashLast other := by
  funext context data
  rw [Sha3Context.cxHashLast, same.keccak256]
  rfl

theorem getRawAddress_same :
    (getRawAddress sdk : PublicKey → Nat → EStateM Exc σ _) = getRawAddress other := by
  funext publicKey outSize
  rw [getRawAddress, cxHashLast_same same]
  rfl

theorem deriveAddress_same :
    (deriveAddress sdk : Bip44Path → Nat → EStateM Exc σ _) = deriveAddress other := by
  funext path outSize
  apply bind_congr
  intro _
  apply bind_congr
  intro _
  apply bind_derivePrivateKey
  simp only [deriveRawPublicKey, same.publicKey, getRawAddress_same same]

theorem addressFormatStr_same : addressFormatStr sdk = addressFormatStr other := by
  funext address addrLen tmp outSize
  unfold addressFormatStr
  rw [cxHashLast_same same]

theorem formattedAddress_same : formattedAddress sdk = formattedAddress other := by
  funext address addrLen size
  unfold formattedAddress
  rw [addressFormatStr_same same]

theorem finalHash_same : finalHash sdk = finalHash other := by
  unfold finalHash
  rw [cxHashLast_same same]

theorem txGetSignature_same : txGetSignature sdk = txGetSignature other := by
  funext hash
  apply bind_congr
  intro ctx
  apply bind_derivePrivateKey
  simp only [deriveRawPublicKey, same.publicKey, same.signature, getRawAddress_same same]

theorem recipientText_same : recipientText sdk = recipientText other := by
  unfold recipientText
  rw [formattedAddress_same same]

theorem senderText_same : senderText sdk = senderText other := by
  unfold senderText
  rw [formattedAddress_same same]

theorem finalChecks_same : finalChecks sdk = finalChecks other := by
  funext p2 wireBuffer
  unfold finalChecks
  rw [finalHash_same same, txGetSignature_same same]

end Functions

section Small

variable {platform other : Platform} (same : SameOutside platform.sdk other.sdk)
  (version : platform.appVersion = other.appVersion) (memory : platform.overrun = other.overrun)

section Steps

include same

theorem runGetAddressUIStep_same : runGetAddressUIStep platform.sdk = runGetAddressUIStep other.sdk := by
  unfold runGetAddressUIStep
  rw [formattedAddress_same same]

theorem runSignTransactionUIStep_same :
    runSignTransactionUIStep platform.sdk = runSignTransactionUIStep other.sdk := by
  unfold runSignTransactionUIStep
  rw [recipientText_same same, senderText_same same]

theorem handleGetPublicKey_same : handleGetPublicKey platform.sdk = handleGetPublicKey other.sdk := by
  funext p1 p2 wireBuffer isOnInit
  unfold handleGetPublicKey
  rw [deriveExtendedPublicKey_same same]

theorem handleGetAddress_same : handleGetAddress platform.sdk = handleGetAddress other.sdk := by
  funext p1 p2 wireBuffer isOnInit
  unfold handleGetAddress
  rw [deriveAddress_same same, runGetAddressUIStep_same same]

theorem handleSignTransaction_same (store : Store) :
    handleSignTransaction platform.sdk store = handleSignTransaction other.sdk store := by
  have finalize : handleSignTxFinalize platform.sdk = handleSignTxFinalize other.sdk := by
    funext p2 wireBuffer
    rw [handleSignTxFinalize_eq, handleSignTxFinalize_eq, finalChecks_same same,
      runSignTransactionUIStep_same same]
  funext p1 p2 wireBuffer isOnInit
  unfold handleSignTransaction
  rw [finalize]

theorem runCallback_same : runCallback platform = runCallback other := by
  funext fn
  cases fn with
  | runGetAddressUIStep => exact runGetAddressUIStep_same same
  | runSignTransactionUIStep => exact runSignTransactionUIStep_same same
  | _ => rfl

end Steps

include same version memory

theorem runHandler_same : runHandler platform = runHandler other := by
  funext ins p1 p2 data isNew
  unfold runHandler Platform.store
  rw [version, memory, handleGetPublicKey_same same, handleGetAddress_same same, handleSignTransaction_same same]

theorem handleEvent_same : handleEvent platform = handleEvent other := by
  funext event
  cases event with
  | apdu bytes unlocked =>
    unfold handleEvent fantomMain fantomMainTry
    rw [runHandler_same same version memory]
  | confirm =>
    unfold handleEvent userConfirms uiConfirmPaginatedText uiConfirmPrompt uiCallbackConfirm uiCallbackFire
    rw [runCallback_same same]
  | reject =>
    unfold handleEvent userRejects uiRejectPrompt uiCallbackReject uiCallbackFire
    rw [runCallback_same same]

/-- Whatever the host and the user do, a device does the same with other private keys, as long as its public
keys, its chain codes and its signatures are the same: it sends and shows the same, and its contexts hold the
same. -/
theorem secrets_stay_inside (events : List Event) : runEvents platform events = runEvents other events := by
  induction events with
  | nil => rfl
  | cons event events ih => rw [runEvents, runEvents, handleEvent_same same version memory, ih]

end Small

section Masked

/-- The device whose private keys are stored under a mask. -/
def Sdk.masked (sdk : Sdk) (mask : UInt8) : Sdk where
  keccak256 := sdk.keccak256
  osPersoDeriveNodeBip32 indexes :=
    ((sdk.osPersoDeriveNodeBip32 indexes).1.map (· ^^^ mask), (sdk.osPersoDeriveNodeBip32 indexes).2)
  cxEcfpGeneratePair privateKey := sdk.cxEcfpGeneratePair (privateKey.map (· ^^^ mask))
  cxEcdsaSign privateKey := sdk.cxEcdsaSign (privateKey.map (· ^^^ mask))

theorem masked_sameOutside (sdk : Sdk) (mask : UInt8) : SameOutside sdk (sdk.masked mask) := by
  have unmasked (privateKey : PrivateKey) :
      (privateKey.map (· ^^^ mask)).map (· ^^^ mask) = privateKey := by
    apply Vector.ext
    intro i inside
    rw [Vector.getElem_map, Vector.getElem_map, UInt8.xor_assoc, UInt8.xor_self, UInt8.xor_zero]
  constructor
  · rfl
  · intro indexes
    rfl
  · intro indexes
    exact congrArg sdk.cxEcfpGeneratePair (unmasked _).symm
  · intro indexes
    exact congrArg sdk.cxEcdsaSign (unmasked _).symm

/-- A device whose public keys and signatures show bytes of the private keys. -/
def keyedSdk : Sdk :=
  { signingSdk with
    osPersoDeriveNodeBip32 := fun indexes =>
      (Vector.replicate 32 (UInt8.ofNat indexes.length), Vector.replicate 32 0)
    cxEcfpGeneratePair := fun privateKey => Vector.replicate 65 (privateKey.toList.headD 0)
    cxEcdsaSign := fun privateKey _ => ⟨Vector.ofFn fun i =>
      if i.val == 3 || i.val == 37 then 0x20 else privateKey.toList.headD 0, 70, false, false⟩ }

def keyedPlatform : Platform := ⟨keyedSdk, ⟨1, 0, 0⟩, noOverrun⟩

def maskedPlatform : Platform := ⟨keyedSdk.masked 0x5a, ⟨1, 0, 0⟩, noOverrun⟩

theorem masked_secrets_stay_inside :
    runEvents keyedPlatform transferEvents = runEvents maskedPlatform transferEvents := by
  have same : SameOutside keyedPlatform.sdk maskedPlatform.sdk := masked_sameOutside keyedSdk 0x5a
  exact secrets_stay_inside same rfl rfl transferEvents

end Masked

namespace Nbgl

variable {platform other : Platform} (same : SameOutside platform.sdk other.sdk)
  (version : platform.appVersion = other.appVersion) (memory : platform.overrun = other.overrun)

section Steps

include same

theorem runGetAddressUIStep_same : runGetAddressUIStep platform.sdk = runGetAddressUIStep other.sdk := by
  unfold runGetAddressUIStep
  rw [formattedAddress_same same]

theorem reviewPairs_same : reviewPairs platform.sdk = reviewPairs other.sdk := by
  unfold reviewPairs recipientField senderField addressField
  rw [formattedAddress_same same]

theorem runSignTransactionUIStep_same :
    runSignTransactionUIStep platform.sdk = runSignTransactionUIStep other.sdk := by
  unfold runSignTransactionUIStep
  rw [reviewPairs_same same]

theorem handleGetPublicKey_same : handleGetPublicKey platform = handleGetPublicKey other := by
  funext p1 p2 wireBuffer isOnInit
  unfold handleGetPublicKey beginGetPublicKey
  rw [deriveExtendedPublicKey_same same]

theorem handleGetAddress_same : handleGetAddress platform = handleGetAddress other := by
  funext p1 p2 wireBuffer isOnInit
  unfold handleGetAddress beginGetAddress
  rw [deriveAddress_same same, runGetAddressUIStep_same same]

theorem runCallback_same : runCallback platform = runCallback other := by
  funext fn
  unfold runCallback
  rw [runGetAddressUIStep_same same, runSignTransactionUIStep_same same]

end Steps

section Runs

include same

theorem handleSignTransaction_same (memory : platform.overrun = other.overrun) :
    handleSignTransaction platform = handleSignTransaction other := by
  funext p1 p2 wireBuffer isOnInit
  unfold handleSignTransaction handleSignTxCollect handleSignTxFinalize Platform.store
  rw [memory, finalChecks_same same, runSignTransactionUIStep_same same]

include version memory

theorem runHandler_same : runHandler platform = runHandler other := by
  funext ins p1 p2 data isNew
  unfold runHandler handleGetVersion
  rw [version, handleGetPublicKey_same same, handleGetAddress_same same, handleSignTransaction_same same memory]

theorem handleEvent_same : handleEvent platform = handleEvent other := by
  have confirms : confirmClbk platform = confirmClbk other := by
    unfold confirmClbk runStatic
    rw [runCallback_same same]
  have rejects : rejectAndDisplayIdleMenu platform = rejectAndDisplayIdleMenu other := by
    unfold rejectAndDisplayIdleMenu rejectClbk runStatic
    rw [runCallback_same same]
  have chooses : runChoiceFn platform = runChoiceFn other := by
    funext fn accepts
    unfold runChoiceFn displayAddressCallback displayPathCallback exportCallback warningChoice
      contractWarningChoice reviewChoice
    rw [confirms, rejects]
  have turns : runPageFn platform = runPageFn other := by
    funext fn
    unfold runPageFn rejectConfirmation
    rw [runCallback_same same, rejects]
  funext event
  unfold handleEvent Event.code fantomMainTry touch
  rw [runHandler_same same version memory, chooses, turns]

/-- The same of a device with a large screen. -/
theorem keys_stay_inside (events : List Event) :
    Progress.runAll (handleEvent platform) events = Progress.runAll (handleEvent other) events := by
  rw [handleEvent_same same version memory]

end Runs

theorem masked_keys_stay_inside :
    Progress.runAll (handleEvent keyedPlatform) transferEvents =
      Progress.runAll (handleEvent maskedPlatform) transferEvents := by
  have same : SameOutside keyedPlatform.sdk maskedPlatform.sdk := masked_sameOutside keyedSdk 0x5a
  exact keys_stay_inside same rfl rfl transferEvents

end Nbgl

end FantomLedger
