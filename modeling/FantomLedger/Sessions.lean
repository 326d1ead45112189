import FantomLedger.SignScreens

/-! Whole runs of the device: what the host and the user did since it was last at rest, and what
that has to be before a secret leaves it. -/

namespace FantomLedger

open Library.Program StreamParser

/-- What happened to a device: an APDU came, or the user answered a screen. -/
inductive Happening where
  | apdu (bytes : List UInt8)
  | confirmed (screen : Screen)
  | rejected (screen : Screen)
  deriving DecidableEq, Repr

def Ins.byte : Ins → UInt8
  | .version => 0x01
  | .getKey => 0x10
  | .getAddr => 0x11
  | .signTx => 0x20

/-- The bytes of an APDU. -/
def apduBytes (ins : Ins) (p1 p2 : UInt8) (data : List UInt8) : List UInt8 :=
  cla :: ins.byte :: p1 :: p2 :: UInt8.ofNat data.length :: data

/-- An APDU of an instruction. -/
def request (ins : Ins) (p1 p2 : UInt8) (data : List UInt8) : Happening := .apdu (apduBytes ins p1 p2 data)

/-- The parts of a stream after one more APDU: a new transaction has a stream of its own. -/
def handOver (parts : List (List UInt8)) : List UInt8 → List (List UInt8)
  | _ :: ins :: p1 :: _ :: _ :: data =>
    if ins ≠ Ins.signTx.byte then parts
    else if p1 = p1NewTransaction then []
    else if p1 = p1StreamData then parts ++ [data]
    else parts
  | _ => parts

/-- The parts of the last stream that the host has handed over. -/
def streamParts (apdus : List (List UInt8)) : List (List UInt8) := apdus.foldl handOver []

/-- The last stream has a v item that is too long for its array. -/
def StreamsLongV (apdus : List (List UInt8)) : Prop := LongV (tag 0 (streamParts apdus).flatten)

theorem foldl_handOver_chunks (parts : List (List UInt8)) (chunks : List Chunk) :
    (chunks.map fun chunk => apduBytes .signTx p1StreamData 0 chunk.bytes).foldl handOver parts =
      parts ++ chunks.map Chunk.bytes := by
  induction chunks generalizing parts with
  | nil => exact (List.append_nil parts).symm
  | cons chunk chunks ih =>
    have handed : handOver parts (apduBytes .signTx p1StreamData 0 chunk.bytes) = parts ++ [chunk.bytes] := rfl
    rw [List.map_cons, List.foldl_cons, handed, ih, List.append_assoc]
    rfl

/-- What has been handed over once the signature is asked for. -/
theorem streamParts_session (earlier : List (List UInt8)) (wire : List UInt8) (chunks : List Chunk) :
    streamParts (earlier ++ apduBytes .signTx p1NewTransaction 0 wire ::
        ((chunks.map fun chunk => apduBytes .signTx p1StreamData 0 chunk.bytes) ++
          [apduBytes .signTx p1GetSignature 0 []])) = chunks.map Chunk.bytes := by
  have opens (parts : List (List UInt8)) :
      handOver parts (apduBytes .signTx p1NewTransaction 0 wire) = [] := rfl
  have asks (parts : List (List UInt8)) : handOver parts (apduBytes .signTx p1GetSignature 0 []) = parts := rfl
  rw [streamParts, List.foldl_append, List.foldl_cons, opens, List.foldl_append, foldl_handOver_chunks]
  exact asks _

def Happening.apdu? : Happening → Option (List UInt8)
  | .apdu bytes => some bytes
  | _ => none

/-- The APDUs of a session. -/
def apdus (session : List Happening) : List (List UInt8) := session.filterMap Happening.apdu?

/-- The screen that waits for the user. -/
def Device.screen? (device : Device) : Option Screen :=
  match device.flow, device.displayState with
  | .paginatedText, .paginatedText header text _ => some (.text header text)
  | .prompt, .prompt header text _ => some (.question header text)
  | _, _ => none

/-- What an event comes to; the buttons do nothing without a screen that they answer. -/
def happenings (device : Device) : Event → List Happening
  | .apdu bytes _ => [.apdu bytes]
  | .confirm => (device.screen?.map Happening.confirmed).toList
  | .reject =>
    match device.screen? with
    | some (.question header text) => [.rejected (.question header text)]
    | _ => []

/-- The history that counts is that since the device last was without an instruction. -/
def sinceRest (after : Device) (session : List Happening) : List Happening :=
  if after.currentIns = none then [] else session

variable (platform : Platform)

/-- A run from the start of the application, with what happened since the device last was without
an instruction. -/
inductive Run : List Happening → Device → Prop
  | boot (stack : Nat → Vector UInt8 40) : Run [] (bootDevice stack)
  | event {session : List Happening} {device after : Device} (run : Run session device)
      (event : Event) (handled : (handleEvent platform event).run device = .ok () after) :
      Run (sinceRest after (session ++ happenings device event)) after

/-- The history that counts once a device has handled these events. -/
def sessionAfter : List Event → List Happening → Device → List Happening
  | [], session, _ => session
  | event :: events, session, device =>
    match (handleEvent platform event).run device with
    | .ok _ after => sessionAfter events (sinceRest after (session ++ happenings device event)) after
    | .error _ _ => session

/-- What an event puts out, also when it ends the run. -/
def emitted (event : Event) (device : Device) : List Output :=
  match (handleEvent platform event).run device with
  | .ok _ after => after.outputs.drop device.outputs.length
  | .error _ after => after.outputs.drop device.outputs.length

/-- The screens, or the pages, are those of a script, in its order. -/
def Follows {α : Type} (script : List (α → Prop)) (screens : List α) : Prop :=
  List.Forall₂ (fun shows screen => shows screen) script screens

theorem follows_start {α : Type} {unusual start : α} {policy : SecurityPolicy} {screens : List α}
    (asks : policy = .prompt ∨ policy = .warn) (follows : Follows (startScript unusual start policy) screens) :
    screens = (if policy = .warn then [unusual] else []) ++ [start] := by
  rcases asks with rfl | rfl
  · obtain _ | ⟨rfl, ⟨⟩⟩ := follows
    rfl
  · obtain _ | ⟨rfl, _ | ⟨rfl, ⟨⟩⟩⟩ := follows
    rfl

/-- A session in which the user has let a key out. -/
def KeyReleased (session : List Happening) (key : ExtendedPublicKey) : Prop :=
  ∃ p1 p2 wire path policy screens,
    session = request .getKey p1 p2 wire :: screens.map .confirmed ∧
      RequestsKey platform p1 p2 wire path policy key ∧ Follows (keyScript path policy) screens

/-- A session in which an address goes out. -/
def AddressReleased (session : List Happening) (address : ByteField 64) : Prop :=
  ∃ p1 p2 wire path policy screens,
    session = request .getAddr p1 p2 wire :: screens.map .confirmed ∧
      RequestsAddress platform p1 p2 wire path policy address.bytes ∧
      Follows (addressScript platform.sdk path address.bytes (p1 == p1DisplayAddress) policy) screens

/-- A session in which the user has agreed to a new transaction and the chunks have come in. -/
def Started (path : Bip44Path) (chunks : List Chunk) (session : List Happening) : Prop :=
  (∃ wire policy screens, RequestsStart 0 wire path policy ∧ Follows (initScript policy) screens ∧
    session = request .signTx p1NewTransaction 0 wire :: screens.map .confirmed ++
      chunks.map fun chunk => request .signTx p1StreamData 0 chunk.bytes) ∧
  ∀ before last, chunks = before ++ [last] → (fedChunks platform before).status = .ok .processing

/-- A session in which the user has let a signature out; it is that of what the digest has absorbed. -/
def SignatureReleased (session : List Happening) (signature : TxSignature) : Prop :=
  ∃ path before last started signed screens, Started platform path (before ++ [last]) started ∧
    (fedChunks platform before).status = .ok .processing ∧
    (fedChunks platform (before ++ [last])).status = .ok .finished ∧
    Signs platform path (before ++ [last]) (absorbedBytes platform (before ++ [last])) signed ∧
    signed.signature = signature ∧ Follows (reviewScript platform.sdk signed.tx) screens ∧
    session = started ++ request .signTx p1GetSignature 0 [] :: screens.map .confirmed

theorem apdus_confirmed (screens : List Screen) : apdus (screens.map .confirmed) = [] := by
  induction screens with
  | nil => rfl
  | cons screen screens ih => exact ih

theorem apdus_chunks (chunks : List Chunk) :
    apdus (chunks.map fun chunk => request .signTx p1StreamData 0 chunk.bytes) =
      chunks.map fun chunk => apduBytes .signTx p1StreamData 0 chunk.bytes := by
  rw [apdus, List.filterMap_map]
  exact congrFun List.filterMap_eq_map chunks

theorem handed_session (wire : List UInt8) (agreed screens : List Screen) (chunks : List Chunk) :
    streamParts (apdus (request .signTx p1NewTransaction 0 wire :: agreed.map .confirmed ++
        chunks.map (fun chunk => request .signTx p1StreamData 0 chunk.bytes) ++
        request .signTx p1GetSignature 0 [] :: screens.map .confirmed)) = chunks.map Chunk.bytes := by
  have opens : apdus (request .signTx p1NewTransaction 0 wire :: agreed.map .confirmed) =
      [apduBytes .signTx p1NewTransaction 0 wire] := congrArg (_ :: ·) (apdus_confirmed agreed)
  have asks : apdus (request .signTx p1GetSignature 0 [] :: screens.map .confirmed) =
      [apduBytes .signTx p1GetSignature 0 []] := congrArg (_ :: ·) (apdus_confirmed screens)
  rw [apdus, List.filterMap_append, List.filterMap_append, ← apdus, ← apdus, ← apdus, opens, apdus_chunks, asks]
  exact streamParts_session [] wire chunks

/-- The session allows the output. -/
def Released (session : List Happening) : Output → Prop
  | .response _ (.pubKey key) => KeyReleased platform session key
  | .response _ (.address address) => AddressReleased platform session address
  | .response _ (.signature signature) => SignatureReleased platform session signature
  | _ => True

/-- The device waits for an APDU. -/
def Waiting (session : List Happening) (device : Device) : Prop :=
  AtRest device ∨
    ∃ path chunks, Started platform path chunks session ∧ Collecting platform path chunks device

/-- How a device stands in a run: it waits for an APDU, or it shows a screen, and whoever goes on
through the screens has done all that the answer behind them takes. -/
inductive Standing : List Happening → Device → Prop
  | waiting {session : List Happening} {device : Device} (waiting : Waiting platform session device) :
      Standing (sinceRest device session) device
  | showing {session : List Happening} {device : Device} {fn : UiCallbackFn} {answer : List Output}
      {done : Device → Prop} {script : List (Screen → Prop)} {before : List Output}
      (more : script ≠ []) (presents : Presents platform fn answer done script before device)
      (released : ∀ screens, Follows script screens → ∀ output ∈ answer,
        Released platform (session ++ screens.map .confirmed) output)
      (ends : ∀ screens after, Follows script screens → done after →
        Waiting platform (session ++ screens.map .confirmed) after) :
      Standing session device

/-- What an event makes of a device and its session. -/
structure Advances (session : List Happening) (device after : Device) : Prop where
  standing : Standing platform (sinceRest after session) after
  outputs : ∃ added, after.outputs = device.outputs ++ added ∧
    ∀ output ∈ added, Released platform session output

section Advances

variable {platform} {session : List Happening} {device after : Device}

theorem advances_of_ended {code : Option Nat} (rest : AtRest after)
    (outputs : after.outputs = device.outputs ++ notice code) :
    Advances platform session device after := by
  refine ⟨.waiting (.inl rest), notice code, outputs, ?_⟩
  intro output member
  cases code with
  | none =>
    rw [notice, List.mem_singleton] at member
    subst member
    trivial
  | some code =>
    rw [notice, List.mem_cons, List.mem_singleton] at member
    rcases member with rfl | rfl
    · trivial
    · trivial

theorem advances_of_presents {fn : UiCallbackFn} {answer : List Output} {done : Device → Prop}
    {script : List (Screen → Prop)}
    (presents : Presents platform fn answer done script device.outputs after)
    (released : ∀ screens, Follows script screens → ∀ output ∈ answer,
      Released platform (session ++ screens.map .confirmed) output)
    (ends : ∀ screens after, Follows script screens → done after →
      Waiting platform (session ++ screens.map .confirmed) after) :
    Advances platform session device after := by
  cases script with
  | nil =>
    obtain ⟨outputs, ended⟩ := presents
    have waiting := ends [] after .nil ended
    rw [List.map_nil, List.append_nil] at waiting
    refine ⟨.waiting waiting, answer, outputs, ?_⟩
    intro output member
    have allowed := released [] .nil output member
    rwa [List.map_nil, List.append_nil] at allowed
  | cons shows rest =>
    have shown := presents
    obtain ⟨screen, _, outputs, asking, _⟩ := presents
    have same : sinceRest after session = session := if_neg asking.ins
    refine ⟨?_, [screen.output], outputs, ?_⟩
    · rw [same]
      exact .showing (List.cons_ne_nil _ _) shown released ends
    · intro output member
      rw [List.mem_singleton] at member
      subst member
      cases screen <;> trivial

end Advances

section Steps

variable {platform} {session : List Happening} {device : Device}

theorem getHandler_eq {byte : UInt8} {ins : Ins} (found : getHandler byte = some ins) :
    byte = ins.byte := by
  unfold getHandler at found
  split_ifs at found with version key addr sign
  · cases found
    exact version
  · cases found
    exact key
  · cases found
    exact addr
  · cases found
    exact sign

/-- An APDU that is not refused by its header goes to the handler of its instruction. -/
theorem fantomMainTry_goes {bytes : List UInt8} {unlocked : Bool} {good : Device → Prop}
    (starts : ∀ ins p1 p2 data, device.currentIns = none → .apdu bytes = request ins p1 p2 data →
      Goes Device.outputs (runHandler platform ins p1 p2 data true)
        { device with
          ioState := .expectNone
          instructionState := .cleared
          currentIns := some ins } fun _ => good)
    (continues : ∀ ins p1 p2 (data : List UInt8), device.currentIns = some ins → data.length < 256 →
      .apdu bytes = request ins p1 p2 data →
      Goes Device.outputs (runHandler platform ins p1 p2 data false)
        { device with ioState := .expectNone } fun _ => good) :
    Goes Device.outputs (fantomMainTry platform bytes unlocked) device fun _ => good := by
  unfold fantomMainTry
  apply goes_bind_ok (EStateM.run_get _) rfl
  apply goes_bind_validate
  intro _
  apply goes_bind_ok (EStateM.run_modify _ _) rfl
  split_ifs with empty
  · exact goes_throw _
  apply goes_bind_validate
  intro _
  split
  · rename_i headerCla headerIns p1 p2 lc data
    apply goes_bind_validate
    intro length
    apply goes_bind_validate
    intro known
    cases found : getHandler headerIns with
    | none => exact goes_throw _
    | some ins =>
      have size := beq_iff_eq.mp length
      have same : Happening.apdu (headerCla :: headerIns :: p1 :: p2 :: lc :: data) =
          request ins p1 p2 data := by
        rw [request, apduBytes, beq_iff_eq.mp known, getHandler_eq found, size, UInt8.ofNat_toNat]
      have small : data.length < 256 := by
        rw [size]
        exact lc.toNat_lt
      dsimp only
      apply goes_bind_ok (EStateM.run_get _) rfl
      dsimp only
      cases running : device.currentIns with
      | none =>
        apply goes_bind_ok (EStateM.run_modify _ _) rfl
        exact starts ins p1 p2 data running same
      | some current =>
        apply goes_bind_validate
        intro continued
        cases beq_iff_eq.mp continued
        have handled := continues ins p1 p2 data running small same
        rw [running] at handled
        exact handled
  · exact goes_throw _

/-- The history of a device at rest is empty. -/
theorem AtRest.sinceRest (rest : AtRest device) (session : List Happening) :
    sinceRest device session = [] := if_pos rest.ins

theorem handleGetVersion_goes (p1 p2 : UInt8) (data : List UInt8) :
    Goes Device.outputs (handleGetVersion platform.appVersion p1 p2 data) device fun _ =>
      Advances platform session device := by
  apply goes_bind_validate
  intro _
  apply goes_bind_validate
  intro _
  apply goes_bind_validate
  intro _
  have fits : (Payload.version platform.appVersion.major platform.appVersion.minor
      platform.appVersion.patch 0).bytes.length + 2 < ioApduBufferSize := by
    show 4 + 2 < ioApduBufferSize
    decide
  apply goes_of_ok (answer_run fits success device)
  refine ⟨.waiting (.inl (atRest_rested _ _)), _, rfl, ?_⟩
  intro output member
  rw [List.mem_cons, List.mem_singleton] at member
  rcases member with rfl | rfl
  · trivial
  · trivial

theorem keyAnswer_released {p1 p2 : UInt8} {wire : List UInt8} {path : Bip44Path}
    {policy : SecurityPolicy} {key : ExtendedPublicKey}
    (requests : RequestsKey platform p1 p2 wire path policy key) {screens : List Screen}
    (follows : Follows (keyScript path policy) screens) :
    ∀ output ∈ keyAnswer key,
      Released platform ([request .getKey p1 p2 wire] ++ screens.map .confirmed) output := by
  intro output member
  rw [keyAnswer, List.mem_cons, List.mem_singleton] at member
  rcases member with rfl | rfl
  · exact ⟨p1, p2, wire, path, policy, screens, rfl, requests, follows⟩
  · trivial

theorem addressAnswer_released {p1 p2 : UInt8} {wire : List UInt8} {path : Bip44Path}
    {policy : SecurityPolicy} {address : ByteField 64}
    (requests : RequestsAddress platform p1 p2 wire path policy address.bytes)
    {screens : List Screen}
    (follows : Follows (addressScript platform.sdk path address.bytes (p1 == p1DisplayAddress) policy)
      screens) :
    ∀ output ∈ addressAnswer address,
      Released platform ([request .getAddr p1 p2 wire] ++ screens.map .confirmed) output := by
  intro output member
  rw [addressAnswer, List.mem_cons, List.mem_singleton] at member
  rcases member with rfl | rfl
  · exact ⟨p1, p2, wire, path, policy, screens, rfl, requests, follows⟩
  · trivial

theorem initAnswer_released (session : List Happening) :
    ∀ output ∈ initAnswer, Released platform session output := by
  intro output member
  rw [initAnswer, List.mem_cons, List.mem_singleton] at member
  rcases member with rfl | rfl
  · trivial
  · trivial

/-- A handler starts on a device that was at rest. -/
theorem runHandler_starts (ins : Ins) (p1 p2 : UInt8) (data : List UInt8)
    (running : device.currentIns = some ins) :
    Goes Device.outputs (runHandler platform ins p1 p2 data true) device fun _ =>
      Advances platform [request ins p1 p2 data] device := by
  have busy := running_of_ins running
  cases ins with
  | version => exact handleGetVersion_goes p1 p2 data
  | getKey =>
    apply Goes.mono (handleGetPublicKey_goes platform busy p1 p2 data)
    rintro _ after ⟨path, policy, key, requests, presents⟩
    exact advances_of_presents presents (fun _ follows => keyAnswer_released requests follows)
      fun _ _ _ rest => .inl rest
  | getAddr =>
    apply Goes.mono (handleGetAddress_goes platform busy p1 p2 data)
    rintro _ after ⟨path, policy, address, requests, presents⟩
    exact advances_of_presents presents (fun _ follows => addressAnswer_released requests follows)
      fun _ _ _ rest => .inl rest
  | signTx =>
    apply Goes.mono (handleSignTransaction_new platform running p1 p2 data)
    rintro _ after ⟨rfl, path, policy, requests, presents⟩
    obtain rfl := requests.zero
    refine advances_of_presents presents (fun _ _ => initAnswer_released _) ?_
    intro screens collecting follows collects
    refine .inr ⟨path, [], ⟨⟨data, policy, screens, requests, follows, ?_⟩, ?_⟩, collects⟩
    · rw [List.map_nil, List.append_nil]
      rfl
    · intro before last split
      exact absurd split (by simp)

theorem signAnswer_released {path : Bip44Path} {chunks : List Chunk} {started : List Happening}
    {signed : SignTxContext} (begun : Started platform path chunks started)
    (finished : (fedChunks platform chunks).status = .ok .finished)
    (signs : Signs platform path chunks (absorbedBytes platform chunks) signed)
    {screens : List Screen} (follows : Follows (reviewScript platform.sdk signed.tx) screens) :
    ∀ output ∈ signAnswer signed.signature, Released platform
      (started ++ [request .signTx p1GetSignature 0 []] ++ screens.map .confirmed) output := by
  intro output member
  rw [signAnswer, List.mem_cons, List.mem_singleton] at member
  rcases member with rfl | rfl
  · obtain ⟨before, last, rfl⟩ : ∃ before last, chunks = before ++ [last] := by
      rcases List.eq_nil_or_concat chunks with rfl | ⟨before, last, split⟩
      · cases finished
      · exact ⟨before, last, by rw [split, List.concat_eq_append]⟩
    refine ⟨path, before, last, started, signed, screens, begun, begun.2 before last rfl, finished,
      signs, rfl, follows, ?_⟩
    rw [List.append_assoc]
    rfl
  · trivial

theorem Started.chunk {path : Bip44Path} {chunks : List Chunk} {session : List Happening}
    (started : Started platform path chunks session) (asks : (fedChunks platform chunks).status = .ok .processing)
    (chunk : Chunk) :
    Started platform path (chunks ++ [chunk])
      (session ++ [request .signTx p1StreamData 0 chunk.bytes]) := by
  obtain ⟨⟨wire, policy, screens, requests, follows, rfl⟩, _⟩ := started
  refine ⟨⟨wire, policy, screens, requests, follows, ?_⟩, ?_⟩
  · rw [List.map_append, List.append_assoc]
    rfl
  · intro before last split
    obtain ⟨same, _⟩ := List.append_inj' split rfl
    rw [← same]
    exact asks

/-- The handler of a signature goes on with a device that takes up a stream. -/
theorem runHandler_continues {path : Bip44Path} {chunks : List Chunk}
    (started : Started platform path chunks session) (streaming : Streaming platform path chunks device) (p1 p2 : UInt8)
    {data : List UInt8} (small : data.length < 256) :
    Goes Device.outputs (runHandler platform .signTx p1 p2 data false) device fun _ =>
      Advances platform (session ++ [request .signTx p1 p2 data]) device := by
  apply Goes.mono (handleSignTransaction_next platform streaming p1 p2
    (Nat.lt_trans small (by decide)))
  rintro _ after ⟨rfl, ⟨rfl, asks, chunk, stage, rfl, collecting, outputs⟩ |
    ⟨rfl, rfl, finished, signed, signs, presents⟩⟩
  · refine ⟨.waiting (.inr ⟨path, _, started.chunk asks chunk, collecting⟩), _, outputs, ?_⟩
    intro output member
    rw [List.mem_cons, List.mem_singleton] at member
    rcases member with rfl | rfl
    · trivial
    · trivial
  · exact advances_of_presents presents
      (fun _ follows => signAnswer_released started finished signs follows)
      fun _ _ _ rest => .inl rest

theorem Standing.sinceRest_eq (standing : Standing platform session device) :
    sinceRest device session = session := by
  cases standing with
  | waiting waiting =>
    unfold sinceRest
    split_ifs <;> rfl
  | @showing _ _ fn answer done script before more presents released ends =>
    cases script with
    | nil => exact absurd rfl more
    | cons shows rest =>
      obtain ⟨_, _, _, asking, _⟩ := presents
      exact if_neg asking.ins

/-- An event that the device does not react to. -/
theorem advances_of_unmoved (standing : Standing platform session device) :
    Advances platform (session ++ []) device device := by
  refine ⟨?_, [], (List.append_nil _).symm, nofun⟩
  rw [List.append_nil, standing.sinceRest_eq]
  exact standing

theorem Advances.of_outputs {before after : Device} (advances : Advances platform session before after)
    (same : before.outputs = device.outputs) : Advances platform session device after := by
  obtain ⟨standing, added, outputs, released⟩ := advances
  rw [same] at outputs
  exact ⟨standing, added, outputs, released⟩

/-- Without a screen the buttons do nothing. -/
theorem buttons_unmoved (idle : device.flow = .idle ∨ device.flow = .busy) :
    device.screen? = none ∧ (userConfirms platform).run device = .ok () device ∧
      (userRejects platform).run device = .ok () device := by
  obtain ⟨ins, io, state, display, flow, stack, outputs⟩ := device
  rcases idle with rfl | rfl
  · exact ⟨rfl, rfl, rfl⟩
  · exact ⟨rfl, rfl, rfl⟩

theorem waiting_event (waiting : Waiting platform session device) (event : Event) :
    Goes Device.outputs (handleEvent platform event) device fun _ =>
      Advances platform (sinceRest device session ++ happenings device event) device := by
  have standing : Standing platform (sinceRest device session) device := .waiting waiting
  have idle : device.flow = .idle ∨ device.flow = .busy := by
    rcases waiting with rest | ⟨path, chunks, _, collecting⟩
    · exact .inl rest.flow
    · exact .inr collecting.flow
  obtain ⟨none, confirms, rejects⟩ := @buttons_unmoved platform device idle
  cases event with
  | confirm =>
    have nothing : happenings device .confirm = [] := by rw [happenings, none]; rfl
    rw [nothing]
    exact goes_of_ok confirms (advances_of_unmoved standing)
  | reject =>
    have nothing : happenings device .reject = [] := by rw [happenings, none]
    rw [nothing]
    exact goes_of_ok rejects (advances_of_unmoved standing)
  | apdu bytes unlocked =>
    apply fantomMain_goes platform _ fun after code rest _ outputs => advances_of_ended rest outputs
    apply fantomMainTry_goes
    · intro ins p1 p2 data free same
      have fresh : sinceRest device session = [] := if_pos free
      rw [fresh, happenings, same]
      apply Goes.mono (runHandler_starts ins p1 p2 data rfl)
      intro _ after advances
      exact advances.of_outputs rfl
    · intro ins p1 p2 data running small same
      rcases waiting with rest | ⟨path, chunks, started, collecting⟩
      · rw [rest.ins] at running
        cases running
      · rw [collecting.ins] at running
        cases running
        have kept : sinceRest device session = session := if_neg (running_of_ins collecting.ins)
        have streaming : Streaming platform path chunks { device with ioState := .expectNone } :=
          ⟨collecting.ins, collecting.context⟩
        rw [kept, happenings, same]
        apply Goes.mono (runHandler_continues started streaming p1 p2 small)
        intro _ after advances
        exact advances.of_outputs rfl

theorem Asking.screen?_eq {screen : Screen} {fn : UiCallbackFn} (asking : Asking screen fn device) :
    device.screen? = some screen := by
  unfold Device.screen?
  rw [asking.flow, asking.display]
  cases screen <;> rfl

/-- An event on a device that shows a screen: the confirmation goes on in the script, and anything
else that the device reacts to ends the session. -/
theorem showing_event {fn : UiCallbackFn} {answer : List Output} {done : Device → Prop}
    {shows : Screen → Prop} {rest : List (Screen → Prop)} {before : List Output}
    (presents : Presents platform fn answer done (shows :: rest) before device)
    (released : ∀ screens, Follows (shows :: rest) screens → ∀ output ∈ answer,
      Released platform (session ++ screens.map .confirmed) output)
    (ends : ∀ screens after, Follows (shows :: rest) screens → done after →
      Waiting platform (session ++ screens.map .confirmed) after) (event : Event) :
    Goes Device.outputs (handleEvent platform event) device fun _ =>
      Advances platform (session ++ happenings device event) device := by
  have standing : Standing platform session device :=
    .showing (List.cons_ne_nil _ _) presents released ends
  obtain ⟨screen, shown, _, asking, confirms⟩ := presents
  have screen_eq := asking.screen?_eq
  cases event with
  | apdu bytes unlocked =>
    exact asking.apdu_goes bytes unlocked fun after code rest _ outputs =>
      advances_of_ended rest outputs
  | confirm =>
    have confirmed : happenings device .confirm = [.confirmed screen] := by
      rw [happenings, screen_eq]
      rfl
    rw [confirmed]
    apply Goes.mono confirms
    intro _ after later
    have grown (screens : List Screen) : session ++ [Happening.confirmed screen] ++
        screens.map .confirmed = session ++ (screen :: screens).map .confirmed := by
      rw [List.append_assoc]
      rfl
    refine advances_of_presents later ?_ ?_
    · intro screens follows output member
      rw [grown]
      exact released _ (.cons shown follows) output member
    · intro screens after follows ended
      rw [grown]
      exact ends _ after (.cons shown follows) ended
  | reject =>
    cases screen with
    | text header body =>
      have nothing : happenings device .reject = [] := by rw [happenings, screen_eq]
      rw [nothing]
      exact goes_of_ok asking.reject_text (advances_of_unmoved standing)
    | question header body =>
      obtain ⟨after, rejects, rest, outputs⟩ := @Asking.reject_question platform _ _ _ _ asking
      exact goes_of_ok rejects (advances_of_ended rest outputs)

/-- Every event keeps the standing, and lets out only what the session allows. -/
theorem Standing.event (standing : Standing platform session device) (event : Event) :
    Goes Device.outputs (handleEvent platform event) device fun _ =>
      Advances platform (session ++ happenings device event) device := by
  cases standing with
  | waiting waiting => exact waiting_event waiting event
  | @showing _ _ fn answer done script before more presents released ends =>
    cases script with
    | nil => exact absurd rfl more
    | cons shows rest => exact showing_event presents released ends event

end Steps

section Runs

variable {platform} {session : List Happening} {device : Device}

theorem Run.standing (run : Run platform session device) : Standing platform session device := by
  induction run with
  | boot stack =>
    have rest : AtRest (bootDevice stack) := ⟨rfl, rfl, rfl⟩
    have standing : Standing platform (sinceRest (bootDevice stack) []) _ := .waiting (.inl rest)
    exact standing
  | event run event handled ih =>
    have advances := ih.event event
    unfold Goes at advances
    rw [handled] at advances
    exact advances.standing

/-- In every run, whatever an event puts out is allowed by the session that led to it. -/
theorem Run.released (run : Run platform session device) (event : Event) {output : Output}
    (sent : output ∈ emitted platform event device) :
    Released platform (session ++ happenings device event) output := by
  have advances := run.standing.event event
  unfold Goes at advances
  unfold emitted at sent
  cases handled : (handleEvent platform event).run device with
  | ok result after =>
    rw [handled] at advances sent
    obtain ⟨added, outputs, released⟩ := advances.outputs
    dsimp only at sent
    rw [outputs, List.drop_left] at sent
    exact released output sent
  | error exc after =>
    rw [handled] at advances sent
    dsimp only at advances sent
    rw [advances, List.drop_length] at sent
    cases sent

/-- Events that the device handles one after the other go on with a run. -/
theorem Run.events (run : Run platform session device) {events : List Event} {after : Device}
    (handled : (runEvents platform events).run device = .ok () after) :
    Run platform (sessionAfter platform events session device) after := by
  induction events generalizing session device with
  | nil =>
    cases handled
    exact run
  | cons event events ih =>
    obtain ⟨_, middle, first, rest⟩ := run_bind_eq_ok.mp handled
    rw [sessionAfter, first]
    exact ih (.event run event first) rest

end Runs

end FantomLedger
