import FantomLedger.NbglRejection
import FantomLedger.ReviewTexts

/-! What the user has agreed to on the large screen when a key, an address or a signature leaves the device. -/

namespace FantomLedger.Nbgl

open Library.Exchange Library.Program StreamParser

variable {platform : Platform} {history : List Entry} {s : State} {session : List Happening}

section Export

/-- The host has named a path that is not denied, and the user has agreed to the export of its key. -/
def KeyAgreed (platform : Platform) (session : List Happening) (key : ExtendedPublicKey) : Prop :=
  ∃ path policy, (policyForGetPublicKey path : EStateM Exc Unit _).run () = .ok policy () ∧
    policy ≠ .deny ∧ (deriveExtendedPublicKey platform.sdk path : EStateM Exc Unit _).run () = .ok key () ∧
    session = request .getKey 0 0 (encodePath path.indexes) ::
      ((if policy = .warn then [unusualPage] else []) ++ [keyPage path]).map .accepted

theorem keyAgreed_of_released {key : ExtendedPublicKey} (released : KeyReleased platform session key) :
    KeyAgreed platform session key := by
  obtain ⟨p1, p2, wire, path, policy, pages, rfl, asks, follows⟩ := released
  obtain ⟨rfl, rfl⟩ := asks.zero
  obtain rfl := asks.wire
  refine ⟨path, policy, asks.classified, asks.notDenied, asks.derives, ?_⟩
  rcases publicKeyPolicy_cases asks.classified asks.notDenied with rfl | rfl
  · obtain _ | ⟨rfl, ⟨⟩⟩ := follows
    rfl
  · obtain _ | ⟨rfl, _ | ⟨rfl, ⟨⟩⟩⟩ := follows
    rfl

/-- The address is that of the requested path. Only under the policy for addresses that are not shown is this
request enough; a request to show it has been followed by the acceptance of the page with its text, and under
the policy that warns the user has accepted the warning and the page with the path. -/
def AddressAgreed (platform : Platform) (session : List Happening) (address : ByteField 64) : Prop :=
  ∃ p1 path policy pages,
    AsksAddress platform.sdk p1 0 (encodePath path.indexes) path policy address.bytes ∧
      session = request .getAddr p1 0 (encodePath path.indexes) :: pages.map .accepted ∧
      (pages = [] → p1 = p1ReturnAddress ∧ policy = .allow) ∧
      (policy = .warn → pages = [unusualPathPage, verifyPage,
        lastAddressPage platform.sdk path address.bytes (p1 == p1DisplayAddress) true]) ∧
      (p1 = p1DisplayAddress → ∃ text pairs, addressPage text pairs ∈ pages ∧
        ChecksumText platform.sdk.keccak256 address.bytes text)

theorem shownAddress_checksum {address : List UInt8} (whole : address.length = rawAddressSize) :
    ChecksumText platform.sdk.keccak256 address (shownAddress platform.sdk address) := by
  rw [shownAddress, lowerHex_eq]
  exact addressText_checksum platform.sdk whole

theorem addressAgreed_of_released {address : ByteField 64}
    (released : AddressReleased platform session address) : AddressAgreed platform session address := by
  obtain ⟨p1, p2, wire, path, policy, pages, rfl, asks, follows⟩ := released
  obtain rfl := asks.zero
  obtain rfl := asks.wire
  have whole : address.bytes.length = rawAddressSize := by
    obtain ⟨_, derives⟩ := asks.derives
    exact deriveAddress_eq_ok derives
  have shown {isShowPath : Bool} (displayed : p1 = p1DisplayAddress) :
      ∃ text pairs, lastAddressPage platform.sdk path address.bytes (p1 == p1DisplayAddress) isShowPath =
          addressPage text pairs ∧ ChecksumText platform.sdk.keccak256 address.bytes text := by
    rw [lastAddressPage, if_pos (beq_iff_eq.mpr displayed)]
    exact ⟨_, _, rfl, shownAddress_checksum whole⟩
  refine ⟨p1, path, policy, pages, asks, rfl, ?_⟩
  rcases addressPolicy_cases asks.classified asks.notDenied with rfl | ⟨displays, rfl⟩ | ⟨returns, rfl⟩
  · obtain _ | ⟨rfl, _ | ⟨rfl, _ | ⟨rfl, ⟨⟩⟩⟩⟩ := follows
    refine ⟨nofun, fun _ => rfl, ?_⟩
    intro displayed
    obtain ⟨text, pairs, page, checksum⟩ := @shown true displayed
    rw [page]
    exact ⟨text, pairs, by simp, checksum⟩
  · obtain _ | ⟨rfl, _ | ⟨⟨isShowPath, rfl⟩, ⟨⟩⟩⟩ := follows
    refine ⟨nofun, nofun, ?_⟩
    intro displayed
    obtain ⟨text, pairs, page, checksum⟩ := @shown isShowPath displayed
    rw [page]
    exact ⟨text, pairs, by simp, checksum⟩
  · cases follows
    have other := beq_eq_false_iff_ne.mp returns
    exact ⟨fun _ => ⟨asks.known.resolve_right other, rfl⟩, nofun, fun displayed => absurd displayed other⟩

/-- What a run lets out has been agreed to in the session that the event ends. -/
theorem Run.allows (run : Run platform history s) (event : Event) {code : Nat} {payload : Payload}
    (sent : .response code payload ∈ emitted platform event s) : Allows platform history s event payload := by
  have answered := run.standing.answered event
  generalize emitted platform event s = added at sent answered
  cases answered with
  | silent => exact absurd sent List.not_mem_nil
  | responds awaits allows =>
    cases List.mem_singleton.mp sent
    exact allows

/-- In every run, a public key and an address leave the device only at the end of these sessions. -/
theorem export_follows_pages (run : Run platform history s) (event : Event) :
    (∀ code key, .response code (.pubKey key) ∈ emitted platform event s →
      ∃ before session, history = before ++ session ∧
        KeyAgreed platform (happened session ++ s.happenings event) key) ∧
    ∀ code address, .response code (.address address) ∈ emitted platform event s →
      ∃ before session, history = before ++ session ∧
        AddressAgreed platform (happened session ++ s.happenings event) address := by
  constructor
  · intro code key sent
    obtain ⟨before, session, whole, _, released⟩ := run.allows event sent
    exact ⟨before, session, whole, keyAgreed_of_released (released nofun)⟩
  · intro code address sent
    obtain ⟨before, session, whole, _, released⟩ := run.allows event sent
    exact ⟨before, session, whole, addressAgreed_of_released (released nofun)⟩

/-- Requests for the key of a path and for its address, which the user accepts. -/
theorem first_exports_accepted :
    (∃ history s key before session, Run signingPlatform history s ∧ history = before ++ session ∧
      KeyAgreed signingPlatform (happened session ++ s.happenings .accept) key) ∧
    ∃ history s address before session, Run signingPlatform history s ∧ history = before ++ session ∧
      AddressAgreed signingPlatform (happened session ++ s.happenings .accept) address := by
  have exports : ((course signingPlatform [sends .getKey 0 firstPayload] []
      (bootState fun _ => Vector.replicate _ 0)).any fun (_, s) =>
        decide (.response success (.pubKey ⟨32, Vector.replicate _ 0, Vector.replicate _ 0⟩) ∈
          emitted signingPlatform .accept s)) = true := by decide +kernel
  have shows : ((course signingPlatform [sends .getAddr p1DisplayAddress firstPayload, .accept] []
      (bootState fun _ => Vector.replicate _ 0)).any fun (_, s) =>
        decide (.response success (.address ⟨Vector.replicate _ 0, 20⟩) ∈
          emitted signingPlatform .accept s)) = true := by decide +kernel
  obtain ⟨⟨history, s⟩, ran, sent⟩ := (Option.any_eq_true _ _).mp exports
  obtain ⟨⟨history', s'⟩, ran', sent'⟩ := (Option.any_eq_true _ _).mp shows
  have run : Run signingPlatform history s := (Run.boot _).course ran
  have run' : Run signingPlatform history' s' := (Run.boot _).course ran'
  obtain ⟨before, session, whole, agreed⟩ :=
    (export_follows_pages run .accept).1 _ _ (of_decide_eq_true sent)
  obtain ⟨before', session', whole', agreed'⟩ :=
    (export_follows_pages run' .accept).2 _ _ (of_decide_eq_true sent')
  exact ⟨⟨history, s, _, before, session, run, whole, agreed⟩,
    ⟨history', s', _, before', session', run', whole', agreed'⟩⟩

end Export

section Sign

/-- The page with the four texts of a transaction. -/
def textsPage (recipient sender amount fee : List Char) : Page :=
  reviewPage [⟨some "Send To".toList, recipient⟩, ⟨some "Send From".toList, sender⟩,
    ⟨some "Amount (FTM)".toList, amount⟩, ⟨some "Max Fee (FTM)".toList, fee⟩]

/-- The host has named a path, the user has agreed to a new transaction, the stream has come in and finished
with its last chunk, and the user has accepted a review that tells what the stream was. The signature is that
of the bytes consumed from the stream, under the path that was named. -/
def SignatureAgreed (platform : Platform) (session : List Happening) (signature : TxSignature) : Prop :=
  ∃ path policy before last signed item recipient sender amount fee,
    RequestsStart 0 (encodePath path.indexes) path policy ∧
      (fedChunks platform before).status = .ok .processing ∧
      (fedChunks platform (before ++ [last])).status = .ok .finished ∧
      FantomLedger.Signs platform path (before ++ [last]) (consumedBytes platform (before ++ [last])) signed ∧
      signed.signature = signature ∧ Consists (consumedBytes platform (before ++ [last])) item ∧
      Tells platform.sdk path item recipient sender amount fee ∧
      session = request .signTx p1NewTransaction 0 (encodePath path.indexes) ::
          ((if policy = .warn then [unusualPage] else []) ++
            [startPage .runSignTransactionInitUIStep]).map .accepted ++
        (before ++ [last]).map (fun chunk => request .signTx p1StreamData 0 chunk.bytes) ++
        request .signTx p1GetSignature 0 [] ::
          ((if looksLikeContractCall (item .data).length then [alertPage] else []) ++
            [textsPage recipient sender amount fee]).map .accepted

theorem follows_review {sdk : Sdk} {tx : Transaction} {pages : List Page}
    (follows : Follows (reviewScript sdk tx) pages) :
    ∃ lines, ReviewLines sdk tx lines ∧
      pages = (if tx.isContractCall then [alertPage] else []) ++ [reviewPage lines] := by
  unfold reviewScript at follows
  split_ifs at follows ⊢ with call
  · obtain _ | ⟨rfl, _ | ⟨⟨lines, describes, rfl⟩, ⟨⟩⟩⟩ := follows
    exact ⟨lines, describes, rfl⟩
  · obtain _ | ⟨⟨lines, describes, rfl⟩, ⟨⟩⟩ := follows
    exact ⟨lines, describes, rfl⟩

def Happening.apdu? : Happening → Option (List UInt8)
  | .apdu bytes => some bytes
  | _ => none

/-- The APDUs of what happened. -/
def apdus (happenings : List Happening) : List (List UInt8) := happenings.filterMap Happening.apdu?

theorem apdus_accepted (pages : List Page) : apdus (pages.map .accepted) = [] := by
  induction pages with
  | nil => rfl
  | cons page pages ih => exact ih

theorem apdus_chunks (chunks : List Chunk) :
    apdus (chunks.map fun chunk => request .signTx p1StreamData 0 chunk.bytes) =
      chunks.map fun chunk => apduBytes .signTx p1StreamData 0 chunk.bytes := by
  rw [apdus, List.filterMap_map]
  exact congrFun List.filterMap_eq_map chunks

theorem handed_session (earlier : List Happening) (wire : List UInt8) (agreed pages : List Page)
    (chunks : List Chunk) :
    streamParts (apdus (earlier ++ (request .signTx p1NewTransaction 0 wire :: agreed.map .accepted ++
        chunks.map (fun chunk => request .signTx p1StreamData 0 chunk.bytes) ++
        request .signTx p1GetSignature 0 [] :: pages.map .accepted))) = chunks.map Chunk.bytes := by
  have opens : apdus (request .signTx p1NewTransaction 0 wire :: agreed.map .accepted) =
      [apduBytes .signTx p1NewTransaction 0 wire] := congrArg (_ :: ·) (apdus_accepted agreed)
  have asks : apdus (request .signTx p1GetSignature 0 [] :: pages.map .accepted) =
      [apduBytes .signTx p1GetSignature 0 []] := congrArg (_ :: ·) (apdus_accepted pages)
  rw [apdus, List.filterMap_append, List.filterMap_append, List.filterMap_append, ← apdus, ← apdus, ← apdus,
    ← apdus, opens, apdus_chunks, asks]
  exact streamParts_session (apdus earlier) wire chunks

theorem signatureAgreed_of_released {earlier : List Happening} {signature : TxSignature}
    (short : ¬StreamsLongV (apdus (earlier ++ session)))
    (released : SignatureReleased platform session signature) :
    SignatureAgreed platform session signature := by
  obtain ⟨path, before, last, started, shown, pages, ⟨⟨wire, policy, agreed, requests, begun, rfl⟩, _⟩,
    asks, signs, rfl, follows, rfl⟩ := released
  obtain ⟨finished, signed, signs, same, signature⟩ := signs
  rw [StreamsLongV, handed_session] at short
  rw [absorbed_consumed platform short finished] at signs
  obtain ⟨item, consists, collected⟩ := consumed_consists short finished
  obtain ⟨lines, ⟨recipient, sender, amount, fee, sendsTo, sendsFrom, shows, costs, rfl⟩, rfl⟩ :=
    follows_review follows
  obtain rfl : wire = encodePath path.indexes := wire_of_parse requests.parses
  rw [← same] at sendsTo sendsFrom shows costs ⊢
  have tells := tells_of_texts (by decide) (by decide) (by decide) signs collected sendsTo sendsFrom shows costs
  refine ⟨path, policy, before, last, signed, item, recipient, sender, amount, fee, requests, asks, finished,
    signs, signature, consists, tells, ?_⟩
  rw [follows_start requests.asks begun, (signs.collected collected).flag]
  rfl

/-- In every run in which no signature is asked for while a rejected review is being closed, a signature
leaves the device only at the end of such a session, which the user has agreed to, if the last stream has no
v item that is too long for its array. -/
theorem signature_follows_review (run : Run platform history s) (spared : Spared history) (event : Event)
    (spares : Spares s event) (short : ¬StreamsLongV (apdus (happened history ++ s.happenings event)))
    {code : Nat} {signature : TxSignature}
    (sent : .response code (.signature signature) ∈ emitted platform event s) :
    ∃ before session, history = before ++ session ∧ Agreed session ∧
      SignatureAgreed platform (happened session ++ s.happenings event) signature := by
  obtain ⟨before, session, whole, agreed, released⟩ := run.allows event sent
  rw [whole, happened, List.flatMap_append, List.append_assoc] at short
  exact ⟨before, session, whole, agreed rfl ⟨spared, spares⟩,
    signatureAgreed_of_released short (released fun _ => ⟨spared, spares⟩)⟩

theorem transfer_reviewed :
    ∃ history s before session, Run signingPlatform history s ∧ history = before ++ session ∧
      Agreed session ∧
      SignatureAgreed signingPlatform (happened session ++ s.happenings .accept) twosSignature := by
  have checked : ((course signingPlatform (transferEvents ++ [asksSignature]) []
      (bootState fun _ => Vector.replicate _ 0)).any fun (history, s) =>
        decide (∀ entry ∈ history, Spares entry.state entry.event) &&
          decide (streamParts (apdus (happened history ++ s.happenings .accept)) = [transfer.encode]) &&
          decide (.response success (.signature twosSignature) ∈ emitted signingPlatform .accept s)) =
      true := by decide +kernel
  obtain ⟨⟨history, s⟩, ran, meets⟩ := (Option.any_eq_true _ _).mp checked
  simp only [Bool.and_eq_true, decide_eq_true_eq] at meets
  obtain ⟨⟨spared, streamed⟩, sent⟩ := meets
  have run : Run signingPlatform history s := (Run.boot _).course ran
  have short : ¬StreamsLongV (apdus (happened history ++ s.happenings .accept)) := by
    apply streamsLongV_encode transfer (by decide +kernel) transferPieces (by decide +kernel)
    rw [streamed, List.flatten_singleton]
  obtain ⟨before, session, whole, agreed, signs⟩ := signature_follows_review run spared .accept nofun short sent
  exact ⟨history, s, before, session, run, whole, agreed, signs⟩

end Sign

end FantomLedger.Nbgl
