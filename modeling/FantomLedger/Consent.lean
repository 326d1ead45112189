import FantomLedger.Sessions
import FantomLedger.StreamDigest

/-! What the user has agreed to when a key, an address or a signature leaves the device. -/

namespace FantomLedger

open Library.Program StreamParser

variable {platform : Platform} {session : List Happening} {device : Device}

section Export

/-- The user has seen the path and has agreed to the export of its key. -/
def KeyAgreed (platform : Platform) (session : List Happening) (key : ExtendedPublicKey) : Prop :=
  ∃ wire path policy text,
    Parses wire path ∧ (policyForGetPublicKey path : EStateM Exc Unit _).run () = .ok policy () ∧
      policy ≠ .deny ∧ WritesPath path text ∧
      (deriveExtendedPublicKey platform.sdk path : EStateM Exc Unit _).run () = .ok key () ∧
      session = request .getKey 0 0 wire ::
        ((if policy = .warn then [warningScreen] else []) ++
          [.text "Exporting Key".toList text, exportQuestion]).map .confirmed

theorem keyAgreed_of_released {key : ExtendedPublicKey} (released : KeyReleased platform session key) :
    KeyAgreed platform session key := by
  obtain ⟨p1, p2, wire, path, policy, screens, rfl, requests, follows⟩ := released
  obtain ⟨rfl, rfl⟩ := requests.zero
  rcases publicKeyPolicy_cases requests.classified requests.notDenied with rfl | rfl
  · obtain _ | ⟨⟨text, written, rfl⟩, _ | ⟨rfl, ⟨⟩⟩⟩ := follows
    exact ⟨wire, path, .prompt, text, requests.parses, requests.classified, nofun, written,
      requests.derives, rfl⟩
  · obtain _ | ⟨rfl, _ | ⟨⟨text, written, rfl⟩, _ | ⟨rfl, ⟨⟩⟩⟩⟩ := follows
    exact ⟨wire, path, .warn, text, requests.parses, requests.classified, nofun, written,
      requests.derives, rfl⟩

/-- The address is that of the requested path; nothing else than this request is enough for it
only under the policy for addresses that are not shown, and a request to show it has been
followed by the acknowledgement of its screen, which no other address has. -/
def AddressAgreed (platform : Platform) (session : List Happening) (address : ByteField 64) : Prop :=
  ∃ p1 wire path policy screens,
    RequestsAddress platform p1 0 wire path policy address.bytes ∧
      session = request .getAddr p1 0 wire :: screens.map .confirmed ∧
      (screens = [] → p1 = p1ReturnAddress ∧ policy = .allow) ∧
      (p1 = p1DisplayAddress → addressScreen platform.sdk address.bytes ∈ screens) ∧
      ∀ other, other.length = rawAddressSize →
        addressScreen platform.sdk other = addressScreen platform.sdk address.bytes →
          other = address.bytes

theorem addressAgreed_of_released {address : ByteField 64}
    (released : AddressReleased platform session address) : AddressAgreed platform session address := by
  obtain ⟨p1, p2, wire, path, policy, screens, rfl, requests, follows⟩ := released
  obtain rfl := requests.zero
  have policies := addressPolicy_cases requests.classified requests.notDenied
  refine ⟨p1, wire, path, policy, screens, requests, rfl, ?_, ?_, ?_⟩
  · rintro rfl
    rcases policies with rfl | ⟨_, rfl⟩ | ⟨other, rfl⟩
    · cases follows
    · cases follows
    · exact ⟨requests.known.resolve_right (beq_eq_false_iff_ne.mp other), rfl⟩
  · rintro rfl
    rcases policies with rfl | ⟨_, rfl⟩ | ⟨other, _⟩
    · obtain _ | ⟨_, _ | ⟨_, _ | ⟨rfl, ⟨⟩⟩⟩⟩ := follows
      exact List.mem_cons_of_mem _ (List.mem_cons_of_mem _ (List.mem_singleton.mpr rfl))
    · obtain _ | ⟨rfl, ⟨⟩⟩ := follows
      exact List.mem_singleton.mpr rfl
    · exact absurd rfl (beq_eq_false_iff_ne.mp other)
  · intro other whole same
    obtain ⟨_, derives⟩ := requests.derives
    injection same with _ text
    exact addressText_inj platform.sdk whole (deriveAddress_eq_ok derives) text

/-- In every run, a public key and an address leave the device only in these sessions. -/
theorem export_follows_consent (run : Run platform session device) (event : Event) :
    (∀ code key, .response code (.pubKey key) ∈ emitted platform event device →
      KeyAgreed platform (session ++ happenings device event) key) ∧
    ∀ code address, .response code (.address address) ∈ emitted platform event device →
      AddressAgreed platform (session ++ happenings device event) address := by
  constructor
  · intro code key sent
    have released := run.released event sent
    exact keyAgreed_of_released released
  · intro code address sent
    have released := run.released event sent
    exact addressAgreed_of_released released

/-- An APDU that the host sends to an unlocked device. -/
def sends (ins : Ins) (p1 : UInt8) (data : List UInt8) : Event :=
  .apdu (apduBytes ins p1 0 data) true

/-- A request for the key of a path, and the acknowledgement of the path. -/
def keyEvents : List Event := [sends .getKey 0 firstPayload, .confirm]

theorem first_exports_agreed :
    (∃ session device key, Run signingPlatform session device ∧
      KeyAgreed signingPlatform (session ++ happenings device .confirm) key) ∧
    ∃ session device address, Run signingPlatform session device ∧
      AddressAgreed signingPlatform (session ++ happenings device .confirm) address := by
  have exports : returnsIn (fun device => decide (.response success (.pubKey
      ⟨32, Vector.replicate _ 0, Vector.replicate _ 0⟩) ∈ emitted signingPlatform .confirm device))
      (runEvents signingPlatform keyEvents) (bootDevice fun _ => Vector.replicate _ 0) = true := by
    decide +kernel
  have shows : returnsIn (fun device => decide (.response success (.address
      ⟨Vector.replicate _ 0, 20⟩) ∈ emitted signingPlatform .confirm device))
      (runEvents signingPlatform [sends .getAddr p1DisplayAddress firstPayload])
      (bootDevice fun _ => Vector.replicate _ 0) = true := by
    decide +kernel
  obtain ⟨_, device, handled, sent⟩ := returnsIn_iff.mp exports
  obtain ⟨_, device', handled', sent'⟩ := returnsIn_iff.mp shows
  have run := (Run.boot _).events handled
  have run' := (Run.boot _).events handled'
  exact ⟨⟨_, device, _, run, (export_follows_consent run .confirm).1 _ _ (of_decide_eq_true sent)⟩,
    ⟨_, device', _, run', (export_follows_consent run' .confirm).2 _ _ (of_decide_eq_true sent')⟩⟩

end Export

section Sign

/-- The host has named an allowed path, the user has agreed to a new transaction, the stream has come
in and finished with its last chunk, and the user has gone through all screens of the transaction.
The signature is that of the bytes consumed from the stream, under the path that was named. -/
def SignatureAgreed (platform : Platform) (session : List Happening) (signature : TxSignature) :
    Prop :=
  ∃ wire path policy before last signed recipient sender amount fee,
    RequestsStart 0 wire path policy ∧
      (fedChunks platform before).status = .ok .processing ∧
      (fedChunks platform (before ++ [last])).status = .ok .finished ∧
      Signs platform path (before ++ [last]) (consumedBytes platform (before ++ [last])) signed ∧
      signed.signature = signature ∧
      TextOf (recipientText platform.sdk) signed.tx recipient ∧
      TextOf (senderText platform.sdk) signed.tx sender ∧
      TextOf amountText signed.tx amount ∧ TextOf feeText signed.tx fee ∧
      session = request .signTx p1NewTransaction 0 wire ::
          ((if policy = .warn then [warningScreen] else []) ++ [startQuestion]).map .confirmed ++
        (before ++ [last]).map (fun chunk => request .signTx p1StreamData 0 chunk.bytes) ++
        request .signTx p1GetSignature 0 [] ::
          ([Screen.text "Send To".toList recipient, Screen.text "Send From".toList sender,
              Screen.text "Amount (FTM)".toList amount, Screen.text "Max Fee (FTM)".toList fee] ++
            (if signed.tx.isContractCall then [alertScreen] else []) ++ [sendQuestion]).map .confirmed

theorem follows_final {tx : Transaction} {screens : List Screen}
    (follows : Follows (finalScript tx) screens) :
    screens = (if tx.isContractCall then [alertScreen] else []) ++ [sendQuestion] := by
  unfold finalScript at follows
  split_ifs at follows ⊢ with call
  · obtain _ | ⟨rfl, _ | ⟨rfl, ⟨⟩⟩⟩ := follows
    rfl
  · obtain _ | ⟨rfl, ⟨⟩⟩ := follows
    rfl

theorem signatureAgreed_of_released {signature : TxSignature} (spared : ¬StreamsLongV (apdus session))
    (released : SignatureReleased platform session signature) :
    SignatureAgreed platform session signature := by
  obtain ⟨path, before, last, started, signed, screens, ⟨⟨wire, policy, agreed, requests, begun, rfl⟩, _⟩, asks,
    finished, signs, same, follows, rfl⟩ := released
  rw [StreamsLongV, handed_session] at spared
  rw [absorbed_consumed platform spared finished] at signs
  obtain _ | ⟨⟨recipient, sendsTo, rfl⟩, _ | ⟨⟨sender, sendsFrom, rfl⟩, _ | ⟨⟨amount, shows, rfl⟩,
    _ | ⟨⟨fee, costs, rfl⟩, final⟩⟩⟩⟩ := follows
  refine ⟨wire, path, policy, before, last, signed, recipient, sender, amount, fee, requests, asks,
    finished, signs, same, sendsTo, sendsFrom, shows, costs, ?_⟩
  rw [follows_start requests.asks begun, follows_final final]
  rfl

/-- In every run, a signature leaves the device only at the end of such a session, if the session has not
handed over a v item that is too long for its array. -/
theorem signature_follows_consent (run : Run platform session device) (event : Event)
    (spared : ¬StreamsLongV (apdus (session ++ happenings device event))) {code : Nat} {signature : TxSignature}
    (sent : .response code (.signature signature) ∈ emitted platform event device) :
    SignatureAgreed platform (session ++ happenings device event) signature := by
  have released := run.released event sent
  exact signatureAgreed_of_released spared released

def transferEvents : List Event :=
  [sends .signTx p1NewTransaction firstPayload, .confirm,
    sends .signTx p1StreamData transfer.encode, sends .signTx p1GetSignature [],
    .confirm, .confirm, .confirm, .confirm]

/-- The two values of the operating system that signs. -/
def twosSignature : TxSignature := ⟨27, Vector.replicate _ 2, Vector.replicate _ 2⟩

theorem streamsLongV_encode {apdus : List (List UInt8)} (raw : RlpTransaction)
    (small : raw.payload.length < 2 ^ 32) (chunks : List Chunk) (cut : joined chunks = raw.encode)
    (streamed : (streamParts apdus).flatten = raw.encode) : ¬StreamsLongV apdus := by
  have spared := decodes_spared (decodes_encode raw chunks small cut)
  rwa [tagged_withFlags, cut, ← streamed] at spared

/-- The run up to the last confirmation. -/
theorem transfer_runs :
    ∃ session device, Run signingPlatform session device ∧
      ¬StreamsLongV (apdus (session ++ happenings device .confirm)) ∧
      .response success (.signature twosSignature) ∈ emitted signingPlatform .confirm device := by
  have signs : returnsIn (fun device => decide (streamParts (apdus (sessionAfter signingPlatform transferEvents []
        (bootDevice fun _ => Vector.replicate _ 0) ++ happenings device .confirm)) = [transfer.encode] ∧
      .response success (.signature twosSignature) ∈ emitted signingPlatform .confirm device))
      (runEvents signingPlatform transferEvents) (bootDevice fun _ => Vector.replicate _ 0) = true := by
    decide +kernel
  obtain ⟨_, device, handled, meets⟩ := returnsIn_iff.mp signs
  obtain ⟨streamed, sent⟩ := of_decide_eq_true meets
  refine ⟨_, device, (Run.boot _).events handled, ?_, sent⟩
  apply streamsLongV_encode transfer (by decide +kernel) transferPieces (by decide +kernel)
  rw [streamed, List.flatten_singleton]

theorem transfer_signature_agreed :
    ∃ session device, Run signingPlatform session device ∧
      SignatureAgreed signingPlatform (session ++ happenings device .confirm) twosSignature := by
  obtain ⟨session, device, run, spared, sent⟩ := transfer_runs
  exact ⟨session, device, run, signature_follows_consent run .confirm spared sent⟩

/-- An operating system whose hash tells the number of bytes, and whose signatures tell the hash of 42. -/
def tellingSdk : Sdk :=
  { signingSdk with
    keccak256 bytes := Vector.replicate _ (UInt8.ofNat bytes.length)
    cxEcdsaSign privateKey hash :=
      { signingSdk.cxEcdsaSign privateKey hash with parityOdd := hash.head == 42 } }

/-- A device on which the bytes of a v item that pass its array go to the members behind it. -/
def memoryPlatform : Platform := ⟨tellingSdk, ⟨1, 0, 0⟩, memoryOverrun sha3Address⟩

def unhashedEvents : List Event :=
  [sends .signTx p1NewTransaction firstPayload, .confirm,
    sends .signTx p1StreamData unhashedChunk.bytes, sends .signTx p1GetSignature [],
    .confirm, .confirm, .confirm, .confirm]

theorem SignatureAgreed.handed {signature : TxSignature} (agreed : SignatureAgreed platform session signature) :
    ∃ path chunks signed, streamParts (apdus session) = chunks.map Chunk.bytes ∧
      Signs platform path chunks (consumedBytes platform chunks) signed ∧ signed.signature = signature := by
  obtain ⟨wire, path, policy, before, last, signed, recipient, sender, amount, fee, requests, asks, finished,
    signs, same, _, _, _, _, rfl⟩ := agreed
  exact ⟨path, before ++ [last], signed, handed_session wire _ _ _, signs, same⟩

/-- A chunk that passes the array of v hides from the digest what the device signs. -/
theorem unhashed_signature_sent :
    ∃ session device, Run memoryPlatform session device ∧
      .response success (.signature twosSignature) ∈ emitted memoryPlatform .confirm device ∧
      ¬SignatureAgreed memoryPlatform (session ++ happenings device .confirm) twosSignature := by
  have signs : returnsIn (fun device => decide (streamParts (apdus (sessionAfter memoryPlatform unhashedEvents []
        (bootDevice fun _ => Vector.replicate _ 0) ++ happenings device .confirm)) = [unhashedChunk.bytes] ∧
      .response success (.signature twosSignature) ∈ emitted memoryPlatform .confirm device))
      (runEvents memoryPlatform unhashedEvents) (bootDevice fun _ => Vector.replicate _ 0) = true := by
    decide +kernel
  obtain ⟨_, device, handled, meets⟩ := returnsIn_iff.mp signs
  obtain ⟨streamed, sent⟩ := of_decide_eq_true meets
  refine ⟨_, device, (Run.boot _).events handled, sent, ?_⟩
  intro agreed
  obtain ⟨path, chunks, signed, parts, ⟨ctx, _, _, run⟩, same⟩ := agreed.handed
  rw [streamed] at parts
  obtain ⟨chunk, rfl, bytes⟩ := List.map_eq_singleton_iff.mp parts.symm
  obtain rfl : chunk = unhashedChunk := by
    cases chunk
    cases bytes
    rfl
  obtain ⟨privateKey, _, _, _, _, signature, _, _, _, parity, rfl⟩ := txGetSignature_signed run
  -- the hash of all 42 bytes would have given the other parity
  have hashed : memoryPlatform.sdk.keccak256 (consumedBytes memoryPlatform [unhashedChunk]) =
      Vector.replicate _ 42 := by decide +kernel
  have signature_eq : signature = twosSignature := same
  rw [signature_eq, hashed] at parity
  have even : (27 : UInt8) = 28 := parity
  cases even

end Sign

end FantomLedger
