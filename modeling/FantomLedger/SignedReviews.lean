import FantomLedger.NbglConsent

/-! What the user has read when a signature leaves the device, and what that says of the transaction. -/

namespace FantomLedger

open Library.Program StreamParser

section Small

variable {platform : Platform} {session : List Happening} {device : Device}

/-- A session as on the large screen, for the items of a stream and the path that has been named: the user has
confirmed the texts one after the other, and they tell what the stream was whose bytes have been signed. -/
def SignatureFor (platform : Platform) (session : List Happening) (signature : TxSignature)
    (path : Bip44Path) (item : TxRlpField → List UInt8) : Prop :=
  ∃ policy before last signed recipient sender amount fee,
    RequestsStart 0 (encodePath path.indexes) path policy ∧
      (fedChunks platform before).status = .ok .processing ∧
      (fedChunks platform (before ++ [last])).status = .ok .finished ∧
      Signs platform path (before ++ [last]) (consumedBytes platform (before ++ [last])) signed ∧
      signed.signature = signature ∧ Consists (consumedBytes platform (before ++ [last])) item ∧
      Tells platform.sdk path item recipient sender amount fee ∧
      session = request .signTx p1NewTransaction 0 (encodePath path.indexes) ::
          ((if policy = .warn then [warningScreen] else []) ++ [startQuestion]).map .confirmed ++
        (before ++ [last]).map (fun chunk => request .signTx p1StreamData 0 chunk.bytes) ++
        request .signTx p1GetSignature 0 [] ::
          ([Screen.text "Send To".toList recipient, Screen.text "Send From".toList sender,
              Screen.text "Amount (FTM)".toList amount, Screen.text "Max Fee (FTM)".toList fee] ++
            (if looksLikeContractCall (item .data).length then [alertScreen] else []) ++
            [sendQuestion]).map .confirmed

theorem signatureFor_of_agreed {signature : TxSignature} (short : ¬StreamsLongV (apdus session))
    (agreed : SignatureAgreed platform session signature) :
    ∃ path item, SignatureFor platform session signature path item := by
  obtain ⟨wire, path, policy, before, last, signed, recipient, sender, amount, fee, requests, asks, finished,
    signs, same, sendsTo, sendsFrom, shows, costs, rfl⟩ := agreed
  rw [StreamsLongV, handed_session] at short
  obtain ⟨item, consists, collected⟩ := consumed_consists short finished
  obtain rfl : wire = encodePath path.indexes := wire_of_parse requests.parses
  rw [recipientText_eq] at sendsTo
  rw [senderText_eq] at sendsFrom
  rw [amountText_eq] at shows
  rw [feeText_eq] at costs
  refine ⟨path, item, policy, before, last, signed, recipient, sender, amount, fee, requests, asks, finished,
    signs, same, consists,
    tells_of_texts (by decide) (by decide) (by decide) signs collected sendsTo sendsFrom shows costs, ?_⟩
  rw [(signs.collected collected).flag]

/-- In every run, a signature leaves the device only after a review that tells what has been signed, if the
stream of the session has no v item that is too long for its array. -/
theorem signature_tells_review (run : Run platform session device) (event : Event)
    (short : ¬StreamsLongV (apdus (session ++ happenings device event))) {code : Nat} {signature : TxSignature}
    (sent : .response code (.signature signature) ∈ emitted platform event device) :
    ∃ path item, SignatureFor platform (session ++ happenings device event) signature path item := by
  have released := run.released event sent
  exact signatureFor_of_agreed short (signatureAgreed_of_released short released)

theorem transfer_told :
    ∃ session device path item, Run signingPlatform session device ∧
      SignatureFor signingPlatform (session ++ happenings device .confirm) twosSignature path item := by
  obtain ⟨session, device, run, short, sent⟩ := transfer_runs
  obtain ⟨path, item, told⟩ := signature_tells_review run .confirm short sent
  exact ⟨session, device, path, item, run, told⟩

def Happening.screen? : Happening → Option Screen
  | .confirmed screen => some screen
  | _ => none

/-- The screens that the user has confirmed. -/
def confirmedScreens (session : List Happening) : List Screen := session.filterMap Happening.screen?

theorem confirmedScreens_append (first second : List Happening) :
    confirmedScreens (first ++ second) = confirmedScreens first ++ confirmedScreens second :=
  List.filterMap_append

theorem confirmedScreens_request (ins : Ins) (p1 p2 : UInt8) (data : List UInt8) (session : List Happening) :
    confirmedScreens (request ins p1 p2 data :: session) = confirmedScreens session := rfl

theorem confirmedScreens_confirmed (screens : List Screen) :
    confirmedScreens (screens.map .confirmed) = screens := by
  induction screens with
  | nil => rfl
  | cons screen screens ih => exact congrArg (screen :: ·) ih

theorem confirmedScreens_chunks (chunks : List Chunk) :
    confirmedScreens (chunks.map fun chunk => request .signTx p1StreamData 0 chunk.bytes) = [] := by
  induction chunks with
  | nil => rfl
  | cons chunk chunks ih => exact ih

/-- The screens of a review that was confirmed with these texts. -/
theorem SignatureFor.screens {signature : TxSignature} {path : Bip44Path} {item : TxRlpField → List UInt8}
    (told : SignatureFor platform session signature path item) :
    ∃ policy recipient sender amount fee, Tells platform.sdk path item recipient sender amount fee ∧
      confirmedScreens session =
        (if policy = SecurityPolicy.warn then [warningScreen] else []) ++ startQuestion ::
          .text "Send To".toList recipient :: .text "Send From".toList sender ::
          .text "Amount (FTM)".toList amount :: .text "Max Fee (FTM)".toList fee ::
          ((if looksLikeContractCall (item .data).length then [alertScreen] else []) ++ [sendQuestion]) := by
  obtain ⟨policy, before, last, signed, recipient, sender, amount, fee, _, _, _, _, _, _, tells, rfl⟩ := told
  refine ⟨policy, recipient, sender, amount, fee, tells, ?_⟩
  rw [confirmedScreens_append, confirmedScreens_request, confirmedScreens_append, confirmedScreens_confirmed,
    confirmedScreens_chunks, confirmedScreens_request, confirmedScreens_confirmed]
  simp

theorem behind_start {warned warned' : Prop} [Decidable warned] [Decidable warned'] {rest rest' : List Screen}
    (same : (if warned then [warningScreen] else []) ++ startQuestion :: rest =
      (if warned' then [warningScreen] else []) ++ startQuestion :: rest') : rest = rest' := by
  split_ifs at same
  · exact (List.cons.inj (List.cons.inj same).2).2
  · exact absurd (List.cons.inj same).1 (by decide)
  · exact absurd (List.cons.inj same).1 (by decide)
  · exact (List.cons.inj same).2

theorem alerted_alike {call call' : Bool} (same : (if call then [alertScreen] else []) ++ [sendQuestion] =
    (if call' then [alertScreen] else []) ++ [sendQuestion]) : call = call' := by
  cases call <;> cases call'
  · rfl
  · exact absurd same (by decide)
  · exact absurd same (by decide)
  · rfl

/-- The screens of a review determine what they tell. -/
theorem SignatureFor.alike {other : Platform} {session' : List Happening} {signature signature' : TxSignature}
    {path path' : Bip44Path} {item item' : TxRlpField → List UInt8}
    (told : SignatureFor platform session signature path item)
    (told' : SignatureFor other session' signature' path' item')
    (same : confirmedScreens session = confirmedScreens session') :
    ReviewedAlike platform.sdk other.sdk path path' item item' ∧
      looksLikeContractCall (item .data).length = looksLikeContractCall (item' .data).length := by
  obtain ⟨policy, recipient, sender, amount, fee, tells, screens⟩ := told.screens
  obtain ⟨policy', recipient', sender', amount', fee', tells', screens'⟩ := told'.screens
  rw [screens, screens'] at same
  have texts := behind_start same
  simp only [List.cons.injEq, Screen.text.injEq, true_and] at texts
  obtain ⟨rfl, rfl, rfl, rfl, alerts⟩ := texts
  exact ⟨tells.alike tells', alerted_alike alerts⟩

/-- In any two runs, of whatever devices: if two signatures have left after the user confirmed the same screens,
then they pay the same amount and the same fee, as the device computes it, from the same address to the same
recipient, and both look like a contract call or neither. -/
theorem same_screens_same_payment {other : Platform} {session' : List Happening} {device' : Device}
    (run : Run platform session device) (run' : Run other session' device') (event event' : Event)
    (short : ¬StreamsLongV (apdus (session ++ happenings device event)))
    (short' : ¬StreamsLongV (apdus (session' ++ happenings device' event')))
    {code code' : Nat} {signature signature' : TxSignature}
    (sent : .response code (.signature signature) ∈ emitted platform event device)
    (sent' : .response code' (.signature signature') ∈ emitted other event' device')
    (same : confirmedScreens (session ++ happenings device event) =
      confirmedScreens (session' ++ happenings device' event')) :
    ∃ path item path' item', SignatureFor platform (session ++ happenings device event) signature path item ∧
      SignatureFor other (session' ++ happenings device' event') signature' path' item' ∧
      ReviewedAlike platform.sdk other.sdk path path' item item' ∧
      looksLikeContractCall (item .data).length = looksLikeContractCall (item' .data).length := by
  obtain ⟨path, item, told⟩ :=
    signatureFor_of_agreed short (signatureAgreed_of_released short (run.released event sent))
  obtain ⟨path', item', told'⟩ :=
    signatureFor_of_agreed short' (signatureAgreed_of_released short' (run'.released event' sent'))
  exact ⟨path, item, path', item', told, told', told.alike told' same⟩

theorem transfer_same_screens :
    ∃ session device path item path' item', Run signingPlatform session device ∧
      SignatureFor signingPlatform (session ++ happenings device .confirm) twosSignature path item ∧
      SignatureFor signingPlatform (session ++ happenings device .confirm) twosSignature path' item' ∧
      ReviewedAlike signingPlatform.sdk signingPlatform.sdk path path' item item' := by
  obtain ⟨session, device, run, short, sent⟩ := transfer_runs
  obtain ⟨path, item, path', item', told, told', alike, _⟩ :=
    same_screens_same_payment run run .confirm .confirm short short sent sent rfl
  exact ⟨session, device, path, item, path', item', run, told, told', alike⟩

end Small

end FantomLedger
