import FantomLedger.NbglHandlers
import FantomLedger.Protocol

/-! Whole runs of a device with a large screen: what the host and the user have done when something
leaves it. -/

namespace FantomLedger.Nbgl

open Library.Exchange Library.Program

/-- An event of a run: the state that it came to, and what it put out. -/
structure Entry where
  state : State
  event : Event
  outputs : List Output

section Entries

def Entry.Running (entry : Entry) : Prop := entry.state.device.currentIns = some .signTx

/-- The host is told, while a transaction is to be signed, that the user has rejected. -/
def Entry.Rejects (entry : Entry) : Prop :=
  entry.Running ∧ .response errRejectedByUser .empty ∈ entry.outputs

instance (entry : Entry) : Decidable entry.Rejects :=
  inferInstanceAs (Decidable (entry.state.device.currentIns = some .signTx ∧ _))

/-- A request for a new transaction comes to a device without an instruction, which clears its
context. No error is reported. -/
def Entry.Opens (entry : Entry) : Prop :=
  entry.state.device.currentIns = none ∧ entry.outputs = [] ∧
    ∃ p2 wire, entry.event = .apdu (apduBytes .signTx p1NewTransaction p2 wire) true

/-- The user agrees to the new transaction, and the host is told so. -/
def Entry.Agrees (entry : Entry) : Prop :=
  entry.event = .accept ∧ entry.state.page = startPage .runSignTransactionInitUIStep ∧
    entry.outputs = [.response success .empty]

/-- The instruction goes on from one event to the next, and nothing is rejected. -/
def Undisturbed (entries : List Entry) : Prop := ∀ entry ∈ entries, entry.Running ∧ ¬ entry.Rejects

/-- A new transaction has been requested. -/
def Opened (session : List Entry) : Prop :=
  ∃ request asked, session = request :: asked ∧ request.Opens ∧ Undisturbed asked

/-- A new transaction has been requested, and then the user has agreed to it. -/
def Agreed (session : List Entry) : Prop :=
  ∃ request asked agreed rest, session = request :: asked ++ agreed :: rest ∧ request.Opens ∧
    agreed.Agrees ∧ Undisturbed (asked ++ agreed :: rest)

variable {entry : Entry} {entries session : List Entry}

theorem Undisturbed.add (undisturbed : Undisturbed entries) (running : entry.Running)
    (goesOn : ¬ entry.Rejects) : Undisturbed (entries ++ [entry]) := by
  intro other member
  rcases List.mem_append.mp member with earlier | last
  · exact undisturbed other earlier
  · rcases List.mem_singleton.mp last
    exact ⟨running, goesOn⟩

theorem Opened.add (opened : Opened session) (running : entry.Running) (goesOn : ¬ entry.Rejects) :
    Opened (session ++ [entry]) := by
  obtain ⟨request, asked, rfl, opens, undisturbed⟩ := opened
  exact ⟨request, asked ++ [entry], rfl, opens, undisturbed.add running goesOn⟩

theorem Opened.agree (opened : Opened session) (running : entry.Running) (goesOn : ¬ entry.Rejects)
    (agrees : entry.Agrees) : Agreed (session ++ [entry]) := by
  obtain ⟨request, asked, rfl, opens, undisturbed⟩ := opened
  exact ⟨request, asked, entry, [], rfl, opens, agrees, undisturbed.add running goesOn⟩

theorem Agreed.add (agreed : Agreed session) (running : entry.Running) (goesOn : ¬ entry.Rejects) :
    Agreed (session ++ [entry]) := by
  obtain ⟨request, asked, accepted, rest, rfl, opens, agrees, undisturbed⟩ := agreed
  refine ⟨request, asked, accepted, rest ++ [entry], ?_, opens, agrees, ?_⟩
  · rw [List.append_assoc]
    rfl
  · have more := undisturbed.add running goesOn
    rwa [List.append_assoc, List.cons_append] at more

end Entries

section Events

variable (platform : Platform)

/-- What an event puts out, also when it ends the run. -/
def emitted (event : Event) (s : State) : List Output :=
  match (handleEvent platform event).run s with
  | .ok _ after => after.outputs.drop s.outputs.length
  | .error _ after => after.outputs.drop s.outputs.length

/-- A run from the start of the application, with all its events. -/
inductive Run : List Entry → State → Prop
  | boot (stack : Nat → Vector UInt8 40) : Run [] (bootState stack)
  | event {history : List Entry} {s after : State} (run : Run history s) (event : Event)
      (handled : (handleEvent platform event).run s = .ok () after) :
      Run (history ++ [⟨s, event, emitted platform event s⟩]) after

/-- The stage of the transaction. -/
def State.stage? (s : State) : Option TxStage :=
  match s.device.instructionState with
  | .signTx ctx => some ctx.stage
  | _ => none

/-- The APDU that asks for the signature. -/
def asksSignature : Event := .apdu (apduBytes .signTx p1GetSignature 0 []) true

/-- The page that tells how the review has ended still waits for its callback, and the stage of the
rejected transaction is still that of the review. -/
def State.Closing (s : State) : Prop :=
  s.page.isStatus = true ∧ s.device.currentIns = some .signTx ∧ s.stage? = some .finalize

instance (s : State) : Decidable s.Closing := inferInstanceAs (Decidable (_ ∧ _))

/-- No signature is asked for while a rejected review is being closed. -/
def Spares (s : State) (event : Event) : Prop := event = asksSignature → ¬ s.Closing

instance (s : State) (event : Event) : Decidable (Spares s event) :=
  inferInstanceAs (Decidable (_ → _))

/-- No event of the run asks for the signature of a rejected review. -/
def Spared (history : List Entry) : Prop := ∀ entry ∈ history, Spares entry.state entry.event

end Events

section Happenings

/-- What happened to a device: an APDU came, or the user accepted a page. -/
inductive Happening where
  | apdu (bytes : List UInt8)
  | accepted (page : Page)
  deriving DecidableEq, Repr

/-- An APDU of an instruction. -/
def request (ins : Ins) (p1 p2 : UInt8) (data : List UInt8) : Happening := .apdu (apduBytes ins p1 p2 data)

/-- What an event comes to; a touch of a quiet page does nothing, and no refusal leads on. -/
def State.happenings (s : State) : Event → List Happening
  | .apdu bytes _ => [.apdu bytes]
  | .accept => if s.page.isQuiet then [] else [.accepted s.page]
  | _ => []

def happened (entries : List Entry) : List Happening :=
  entries.flatMap fun entry => entry.state.happenings entry.event

def Event.requests : Event → List Message
  | .apdu bytes _ => [.request bytes]
  | _ => []

/-- The messages of a run, in their order. -/
def exchanged (entries : List Entry) : List Message :=
  entries.flatMap fun entry => entry.event.requests ++ answers entry.outputs

variable {entries : List Entry} {entry : Entry}

theorem happened_snoc :
    happened (entries ++ [entry]) = happened entries ++ entry.state.happenings entry.event := by
  rw [happened, List.flatMap_append, List.flatMap_singleton]
  rfl

theorem exchanged_snoc : exchanged (entries ++ [entry]) =
    exchanged entries ++ (entry.event.requests ++ answers entry.outputs) := by
  rw [exchanged, List.flatMap_append, List.flatMap_singleton]
  rfl

end Happenings

section Released

variable (platform : Platform)

/-- A session in which the user has let a key out. -/
def KeyReleased (session : List Happening) (key : ExtendedPublicKey) : Prop :=
  ∃ p1 p2 wire path policy pages, session = request .getKey p1 p2 wire :: pages.map .accepted ∧
    AsksKey platform.sdk p1 p2 wire path policy key ∧ Follows (keyScript path policy) pages

/-- A session in which an address goes out. -/
def AddressReleased (session : List Happening) (address : ByteField 64) : Prop :=
  ∃ p1 p2 wire path policy pages, session = request .getAddr p1 p2 wire :: pages.map .accepted ∧
    AsksAddress platform.sdk p1 p2 wire path policy address.bytes ∧
      Follows (addressScript platform.sdk path address.bytes (p1 == p1DisplayAddress) policy) pages

/-- A session in which the user has agreed to a new transaction and the chunks have come in. -/
def Started (path : Bip44Path) (chunks : List Chunk) (session : List Happening) : Prop :=
  (∃ wire policy pages, RequestsStart 0 wire path policy ∧ Follows (initScript policy) pages ∧
    session = request .signTx p1NewTransaction 0 wire :: pages.map .accepted ++
      chunks.map fun chunk => request .signTx p1StreamData 0 chunk.bytes) ∧
  ∀ before last, chunks = before ++ [last] → (fedChunks platform before).status = .ok .processing

/-- A session in which the user has let a signature out. -/
def SignatureReleased (session : List Happening) (signature : TxSignature) : Prop :=
  ∃ path before last started signed pages, Started platform path (before ++ [last]) started ∧
    (fedChunks platform before).status = .ok .processing ∧ TxSigned platform path (before ++ [last]) signed ∧
    signed.signature = signature ∧ Follows (reviewScript platform.sdk signed.tx) pages ∧
    session = started ++ request .signTx p1GetSignature 0 [] :: pages.map .accepted

/-- The session allows the payload. -/
def Released (session : List Happening) : Payload → Prop
  | .pubKey key => KeyReleased platform session key
  | .address address => AddressReleased platform session address
  | .signature signature => SignatureReleased platform session signature
  | _ => True

end Released

section Standing

variable (platform : Platform)

/-- How a device stands in a run, and what the host and the user have done to bring it there. -/
inductive Standing : List Entry → State → Prop
  | rest {history : List Entry} {s : State} (rest : AtRest s) : Standing history s
  | asks {before session : List Entry} {base s : State} {path : Bip44Path}
      {warnings : List (Page → Prop)} (opened : Opened session)
      (started : ∀ pages, Follows (warnings ++ [(· = startPage .runSignTransactionInitUIStep)]) pages →
        Started platform path [] (happened session ++ pages.map .accepted))
      (awaits : Awaits Response.Fits (exchanged (before ++ session)) ⟨success, .empty⟩)
      (presents : Presents platform .signTx .empty (Collecting platform path [])
        (warnings ++ [(· = startPage .runSignTransactionInitUIStep)]) base.outputs base)
      (turned : Turned base s) : Standing (before ++ session) s
  | collects {before session : List Entry} {s : State} {path : Bip44Path} {chunks : List Chunk}
      (agreed : Agreed session) (started : Started platform path chunks (happened session))
      (collecting : Collecting platform path chunks s) : Standing (before ++ session) s
  | answers {before session : List Entry} {base s : State} {ins : Ins} {payload : Payload}
      {script : List (Page → Prop)} (more : script ≠ [])
      (agreed : payload.isSignature = true → ins = .signTx ∧ (Spared (before ++ session) → Agreed session))
      (released : (payload.isSignature = true → Spared (before ++ session)) →
        ∀ pages, Follows script pages →
          Released platform (happened session ++ pages.map .accepted) payload)
      (awaits : Awaits Response.Fits (exchanged (before ++ session)) ⟨success, payload⟩)
      (presents : Presents platform ins payload Ended script base.outputs base)
      (turned : Turned base s) : Standing (before ++ session) s
  | ended {history : List Entry} {s : State} (ended : Ended s) : Standing history s

/-- The session that an event ends allows the payload. -/
def Allows (history : List Entry) (s : State) (event : Event) (payload : Payload) : Prop :=
  ∃ before session, history = before ++ session ∧
    (payload.isSignature = true → Spared history ∧ Spares s event → Agreed session) ∧
    ((payload.isSignature = true → Spared history ∧ Spares s event) →
      Released platform (happened session ++ s.happenings event) payload)

/-- What an event puts out: nothing, or the answer to the last message of the host. -/
inductive Answered (history : List Entry) (s : State) (event : Event) : List Output → Prop
  | silent : Answered history s event []
  | responds {code : Nat} {payload : Payload}
      (awaits : Awaits Response.Fits (exchanged history ++ event.requests) ⟨code, payload⟩)
      (allows : Allows platform history s event payload) :
      Answered history s event [.response code payload]

/-- What an event makes of a device and its run. -/
def Advances (history : List Entry) (s : State) (event : Event) (after : State) : Prop :=
  ∃ added, after.outputs = s.outputs ++ added ∧ Standing platform (history ++ [⟨s, event, added⟩]) after ∧
    Answered platform history s event added

end Standing

section Advances

variable {platform : Platform} {history before session : List Entry} {s after base : State} {event : Event}

theorem happened_silent (nothing : s.happenings event = []) (outputs : List Output) :
    happened (session ++ [⟨s, event, outputs⟩]) = happened session := by
  rw [happened_snoc, nothing, List.append_nil]

theorem exchanged_silent (silent : event.requests = []) :
    exchanged (history ++ [⟨s, event, []⟩]) = exchanged history := by
  rw [exchanged_snoc, silent]
  exact List.append_nil _

theorem spared_snoc {outputs : List Output} (spared : Spared (history ++ [⟨s, event, outputs⟩])) :
    Spared history ∧ Spares s event := by
  constructor
  · intro entry member
    exact spared entry (List.mem_append_left _ member)
  · exact spared _ (List.mem_append_right _ (List.mem_singleton_self _))

theorem goesOn_of_silent : ¬ (Entry.mk s event []).Rejects := fun rejects => List.not_mem_nil rejects.2

theorem goesOn_of_success {payload : Payload} : ¬ (Entry.mk s event [.response success payload]).Rejects := by
  rintro ⟨_, member⟩
  have same := List.mem_singleton.mp member
  cases same

theorem allows_empty : Allows platform history s event .empty :=
  ⟨history, [], (List.append_nil _).symm, nofun, fun _ => trivial⟩

/-- The host waits for an answer once the event has come. -/
def Owes (history : List Entry) (event : Event) : Prop :=
  ∃ response, Awaits Response.Fits (exchanged history ++ event.requests) response

theorem owes_apdu (history : List Entry) (bytes : List UInt8) (unlocked : Bool) :
    Owes history (.apdu bytes unlocked) :=
  ⟨⟨0, .empty⟩, awaits_request (.error bytes (by decide))⟩

theorem owes_of_awaits {response : Response} (awaits : Awaits Response.Fits (exchanged history) response)
    (silent : event.requests = []) : Owes history event := by
  refine ⟨response, ?_⟩
  rw [silent, List.append_nil]
  exact awaits

theorem Owes.error {code : Nat} (owes : Owes history event) (fails : code ≠ success) :
    Answered platform history s event [.response code .empty] := by
  obtain ⟨response, awaits⟩ := owes
  exact .responds (awaits_error awaits fails) allows_empty

theorem advances_of_rest {code : Option Nat} (owes : Owes history event) (rest : AtRest after)
    (fails : ∀ error ∈ code, error ≠ success) (outputs : after.outputs = s.outputs ++ errorNotice code) :
    Advances platform history s event after := by
  refine ⟨_, outputs, .rest rest, ?_⟩
  cases code with
  | none => exact .silent
  | some error => exact owes.error (fails error rfl)

theorem advances_of_rejected (owes : Owes history event) (ended : Ended after)
    (outputs : after.outputs = s.outputs ++ [.response errRejectedByUser .empty]) :
    Advances platform history s event after :=
  ⟨_, outputs, .ended ended, owes.error (by decide)⟩

/-- The question for a new transaction stays. -/
theorem advances_of_asks {path : Bip44Path} {warnings : List (Page → Prop)} (opened : Opened session)
    (started : ∀ pages, Follows (warnings ++ [(· = startPage .runSignTransactionInitUIStep)]) pages →
      Started platform path [] (happened session ++ pages.map .accepted))
    (awaits : Awaits Response.Fits (exchanged (before ++ session)) ⟨success, .empty⟩)
    (presents : Presents platform .signTx .empty (Collecting platform path [])
      (warnings ++ [(· = startPage .runSignTransactionInitUIStep)]) base.outputs base)
    (turned : Turned base after) (running : s.device.currentIns = some .signTx)
    (nothing : s.happenings event = []) (silent : event.requests = [])
    (outputs : after.outputs = s.outputs) : Advances platform (before ++ session) s event after := by
  refine ⟨[], by rw [outputs, List.append_nil], ?_, .silent⟩
  have opened := opened.add (show (Entry.mk s event []).Running from running) goesOn_of_silent
  rw [List.append_assoc]
  apply Standing.asks opened _ _ presents turned
  · rw [happened_silent nothing]
    exact started
  · rw [← List.append_assoc, exchanged_silent silent]
    exact awaits

/-- The question before an answer stays. -/
theorem advances_of_answers {ins : Ins} {payload : Payload} {script : List (Page → Prop)}
    (more : script ≠ [])
    (agreed : payload.isSignature = true → ins = .signTx ∧ (Spared (before ++ session) → Agreed session))
    (released : (payload.isSignature = true → Spared (before ++ session)) → ∀ pages, Follows script pages →
      Released platform (happened session ++ pages.map .accepted) payload)
    (awaits : Awaits Response.Fits (exchanged (before ++ session)) ⟨success, payload⟩)
    (presents : Presents platform ins payload Ended script base.outputs base) (turned : Turned base after)
    (running : s.device.currentIns = some ins) (nothing : s.happenings event = [])
    (silent : event.requests = []) (outputs : after.outputs = s.outputs) :
    Advances platform (before ++ session) s event after := by
  refine ⟨[], by rw [outputs, List.append_nil], ?_, .silent⟩
  rw [List.append_assoc]
  apply Standing.answers more _ _ _ presents turned
  · intro signs
    obtain ⟨rfl, agrees⟩ := agreed signs
    refine ⟨rfl, fun spared => ?_⟩
    rw [← List.append_assoc] at spared
    have agrees := agrees (spared_snoc spared).1
    exact agrees.add running goesOn_of_silent
  · rw [happened_silent nothing]
    intro spared
    apply released
    intro signs
    have later := spared signs
    rw [← List.append_assoc] at later
    exact (spared_snoc later).1
  · rw [← List.append_assoc, exchanged_silent silent]
    exact awaits

/-- Nothing happens. -/
theorem Standing.unmoved (standing : Standing platform history s) (nothing : s.happenings event = [])
    (silent : event.requests = []) : Advances platform history s event s := by
  have same : s.outputs = s.outputs ++ [] := (List.append_nil _).symm
  cases standing with
  | rest rest => exact ⟨[], same, .rest rest, .silent⟩
  | @asks before session base _ path warnings opened started awaits presents turned =>
    have asking := presents.asking (List.append_ne_nil_of_right_ne_nil _ (List.cons_ne_nil _ _))
    apply advances_of_asks opened started awaits presents turned _ nothing silent rfl
    rw [turned.device_eq]
    exact asking.running
  | @collects before session _ path chunks agreed started collecting =>
    have agreed := agreed.add (show (Entry.mk s event []).Running from collecting.streaming.ins) goesOn_of_silent
    refine ⟨[], same, ?_, .silent⟩
    rw [List.append_assoc]
    apply Standing.collects agreed _ collecting
    rw [happened_silent nothing]
    exact started
  | @answers before session base _ ins payload script more agreed released awaits presents turned =>
    have asking := presents.asking more
    apply advances_of_answers more agreed released awaits presents turned _ nothing silent rfl
    rw [turned.device_eq]
    exact asking.running
  | ended ended => exact ⟨[], same, .ended ended, .silent⟩

/-- A row of pages comes up, or its answer goes out at once. -/
theorem advances_of_presents {ins : Ins} {payload : Payload} {script : List (Page → Prop)}
    (presents : Presents platform ins payload Ended script s.outputs after)
    (agreed : payload.isSignature = true → ins = .signTx ∧ s.device.currentIns = some .signTx ∧
      (Spared (before ++ session) ∧ Spares s event → Agreed session))
    (released : (payload.isSignature = true → Spared (before ++ session) ∧ Spares s event) →
      ∀ pages, Follows script pages →
        Released platform (happened session ++ s.happenings event ++ pages.map .accepted) payload)
    (awaits : Awaits Response.Fits (exchanged (before ++ session) ++ event.requests) ⟨success, payload⟩) :
    Advances platform (before ++ session) s event after := by
  cases script with
  | nil =>
    obtain ⟨outputs, ended⟩ := presents
    refine ⟨_, outputs, .ended ended, .responds awaits ⟨before, session, rfl, ?_, ?_⟩⟩
    · intro signs
      exact (agreed signs).2.2
    · intro spared
      have allowed := released spared [] .nil
      rwa [List.map_nil, List.append_nil] at allowed
  | cons shows rest =>
    have outputs := presents.outputs_eq (List.cons_ne_nil _ _)
    refine ⟨[], by rw [outputs, List.append_nil], ?_, .silent⟩
    rw [← outputs] at presents
    rw [List.append_assoc]
    apply Standing.answers (List.cons_ne_nil _ _) _ _ _ presents (.inl rfl)
    · intro signs
      obtain ⟨rfl, running, agrees⟩ := agreed signs
      refine ⟨rfl, fun spared => ?_⟩
      rw [← List.append_assoc] at spared
      have agrees := agrees (spared_snoc spared)
      exact agrees.add running goesOn_of_silent
    · rw [happened_snoc]
      intro spared
      apply released
      intro signs
      have later := spared signs
      rw [← List.append_assoc] at later
      exact spared_snoc later
    · rw [← List.append_assoc, exchanged_snoc]
      have none : answers [] = [] := rfl
      rw [none, List.append_nil]
      exact awaits

end Advances

section Touches

variable {platform : Platform} {history before session : List Entry} {s after base : State}

def touching (accepts : Bool) : Event := if accepts then .accept else .refuse

theorem touching_requests (accepts : Bool) : (touching accepts).requests = [] := by
  cases accepts <;> rfl

theorem happenings_of_quiet (quiet : s.page.isQuiet = true) (accepts : Bool) :
    s.happenings (touching accepts) = [] := by
  cases accepts with
  | false => rfl
  | true => exact if_pos quiet

theorem happenings_of_asks (asks : s.page.Asks) : s.happenings .accept = [.accepted s.page] := by
  rw [State.happenings, asks.isQuiet]
  rfl

/-- What a touch makes of the question for a new transaction. -/
theorem advances_of_asked {accepts : Bool} {path : Bip44Path} {warnings rest : List (Page → Prop)}
    {shows : Page → Prop} (script : warnings ++ [(· = startPage .runSignTransactionInitUIStep)] = shows :: rest)
    (opened : Opened session)
    (started : ∀ pages, Follows (shows :: rest) pages →
      Started platform path [] (happened session ++ pages.map .accepted))
    (awaits : Awaits Response.Fits (exchanged (before ++ session)) ⟨success, .empty⟩)
    (presents : Presents platform .signTx .empty (Collecting platform path []) (shows :: rest) base.outputs base)
    (turned : Turned base s)
    (touched : Touched platform .signTx .empty (Collecting platform path []) rest base accepts s after) :
    Advances platform (before ++ session) s (touching accepts) after := by
  have asking := presents.asking (List.cons_ne_nil _ _)
  have running : s.device.currentIns = some .signTx := by
    rw [turned.device_eq]
    exact asking.running
  cases touched with
  | rejects rejected =>
    subst rejected
    apply advances_of_rejected (owes_of_awaits awaits (touching_requests accepts)) asking.rejected_ended
    show _ = s.device.outputs ++ _
    rw [turned.device_eq]
    rfl
  | turns refused turned' =>
    subst refused
    rw [← script] at started presents
    apply advances_of_asks opened started awaits presents turned' running rfl rfl
    show after.device.outputs = s.device.outputs
    rw [turned'.device_eq, turned.device_eq]
  | moves accepted shown presents' =>
    subst accepted shown
    have agrees := presents.1
    have follows (outputs : List Output) {pages : List Page} (later : Follows rest pages) :
        Started platform path [] (happened (session ++ [⟨s, .accept, outputs⟩]) ++ pages.map .accepted) := by
      rw [happened_snoc, happenings_of_asks asking.page, List.append_assoc]
      exact started (s.page :: pages) (.cons presents.1 later)
    cases warnings with
    | nil =>
      cases script
      obtain ⟨outputs, collecting⟩ := presents'
      have agreed := opened.agree (show (Entry.mk s .accept [.response success .empty]).Running from running)
        goesOn_of_success ⟨rfl, agrees, rfl⟩
      refine ⟨_, outputs, ?_, ?_⟩
      · rw [List.append_assoc]
        have begun := follows [.response success .empty] .nil
        rw [List.map_nil, List.append_nil] at begun
        exact .collects agreed begun collecting
      · apply Answered.responds _ allows_empty
        show Awaits Response.Fits (exchanged (before ++ session) ++ []) _
        rw [List.append_nil]
        exact awaits
    | cons warning warnings =>
      cases script
      have more := List.append_ne_nil_of_right_ne_nil warnings
        (List.cons_ne_nil (· = startPage .runSignTransactionInitUIStep) [])
      have outputs := presents'.outputs_eq more
      refine ⟨[], by rw [outputs, List.append_nil], ?_, .silent⟩
      have opened := opened.add (show (Entry.mk s .accept []).Running from running) goesOn_of_silent
      rw [← outputs] at presents'
      rw [List.append_assoc]
      apply Standing.asks opened _ _ presents' (.inl rfl)
      · intro pages later
        exact follows [] later
      · rw [← List.append_assoc, exchanged_silent rfl]
        exact awaits

/-- What a touch makes of a page before an answer. -/
theorem advances_of_touched {accepts : Bool} {ins : Ins} {payload : Payload} {shows : Page → Prop}
    {rest : List (Page → Prop)}
    (agreed : payload.isSignature = true → ins = .signTx ∧ (Spared (before ++ session) → Agreed session))
    (released : (payload.isSignature = true → Spared (before ++ session)) → ∀ pages,
      Follows (shows :: rest) pages → Released platform (happened session ++ pages.map .accepted) payload)
    (awaits : Awaits Response.Fits (exchanged (before ++ session)) ⟨success, payload⟩)
    (presents : Presents platform ins payload Ended (shows :: rest) base.outputs base)
    (turned : Turned base s) (touched : Touched platform ins payload Ended rest base accepts s after) :
    Advances platform (before ++ session) s (touching accepts) after := by
  have asking := presents.asking (List.cons_ne_nil _ _)
  have running : s.device.currentIns = some ins := by
    rw [turned.device_eq]
    exact asking.running
  cases touched with
  | rejects rejected =>
    subst rejected
    apply advances_of_rejected (owes_of_awaits awaits (touching_requests accepts)) asking.rejected_ended
    show _ = s.device.outputs ++ _
    rw [turned.device_eq]
    rfl
  | turns refused turned' =>
    subst refused
    apply advances_of_answers (List.cons_ne_nil _ _) agreed released awaits presents turned' running rfl rfl
    show after.device.outputs = s.device.outputs
    rw [turned'.device_eq, turned.device_eq]
  | moves accepted shown presents' =>
    subst accepted shown
    apply advances_of_presents presents'
    · intro signs
      obtain ⟨rfl, agrees⟩ := agreed signs
      exact ⟨rfl, running, fun spared => agrees spared.1⟩
    · intro spared pages later
      rw [show s.happenings (touching true) = [.accepted s.page] from happenings_of_asks asking.page,
        List.append_assoc]
      apply released _ (s.page :: pages) (.cons presents.1 later)
      intro signs
      exact (spared signs).1
    · show Awaits Response.Fits (exchanged (before ++ session) ++ []) _
      rw [List.append_nil]
      exact awaits

end Touches

section Requests

variable {platform : Platform} {history before session : List Entry} {s started : State}

/-- The answer to a request that is no signature, with its pages. -/
theorem advances_of_request {after : State} {event : Event} {ins : Ins} {payload : Payload}
    {script : List (Page → Prop)} (presents : Presents platform ins payload Ended script s.outputs after)
    (other : payload.isSignature = false)
    (released : ∀ pages, Follows script pages →
      Released platform (s.happenings event ++ pages.map .accepted) payload)
    (awaits : Awaits Response.Fits (exchanged history ++ event.requests) ⟨success, payload⟩) :
    Advances platform history s event after := by
  have whole : history ++ [] = history := List.append_nil _
  have unsigned : payload.isSignature = true → False := by
    rw [other]
    exact Bool.false_ne_true
  rw [← whole] at awaits ⊢
  apply advances_of_presents presents
  · intro signs
    exact absurd signs unsigned
  · intro _
    exact released
  · exact awaits

variable {p1 p2 : UInt8} {data : List UInt8} {unlocked isNew : Bool}

theorem getPublicKey_advances {ctx : GetPubKeyContext} (running : started.device.currentIns = some .getKey)
    (context : isNew = false → started.device.instructionState = .getPubKey ctx)
    (quiet : started.page.isQuiet = true) (same : started.outputs = s.outputs) :
    Goes State.outputs (runHandler platform .getKey p1 p2 data isNew) started fun _ =>
      Advances platform history s (.apdu (apduBytes .getKey p1 p2 data) unlocked) := by
  apply Goes.mono (handleGetPublicKey_goes platform p1 p2 data running context quiet)
  rintro _ after ⟨path, policy, key, asks, presents⟩
  rw [same] at presents
  apply advances_of_request presents rfl
  · intro pages follows
    exact ⟨p1, p2, data, path, policy, pages, rfl, asks, follows⟩
  · exact awaits_request (.success _ (.pubKey p1 key))

theorem getAddress_advances {ctx : GetAddressContext} (running : started.device.currentIns = some .getAddr)
    (context : isNew = false → started.device.instructionState = .getAddress ctx)
    (quiet : started.page.isQuiet = true) (same : started.outputs = s.outputs) :
    Goes State.outputs (runHandler platform .getAddr p1 p2 data isNew) started fun _ =>
      Advances platform history s (.apdu (apduBytes .getAddr p1 p2 data) unlocked) := by
  apply Goes.mono (handleGetAddress_goes platform p1 p2 data running context quiet)
  rintro _ after ⟨path, policy, address, asks, presents⟩
  rw [same] at presents
  apply advances_of_request presents rfl
  · intro pages follows
    exact ⟨p1, p2, data, path, policy, pages, rfl, asks, follows⟩
  · exact awaits_request (.success _ (.address p1 address))

/-- A device without an instruction takes up any. -/
theorem starts_advances {ins : Ins} (free : s.device.currentIns = none)
    (running : started.device.currentIns = some ins) (quiet : started.page.isQuiet = true)
    (same : started.outputs = s.outputs) :
    Goes State.outputs (runHandler platform ins p1 p2 data true) started fun _ =>
      Advances platform history s (.apdu (apduBytes ins p1 p2 data) true) := by
  cases ins with
  | version =>
    apply Goes.mono (handleGetVersion_goes platform p1 p2 data)
    rintro _ after ⟨ins, page, outputs⟩
    rw [same] at outputs
    refine ⟨_, outputs, .rest ⟨ins, page⟩, .responds (awaits_request (.success _ ?_)) ?_⟩
    · exact .version p1 _ _ _ _
    · exact ⟨history, [], (List.append_nil _).symm, nofun, fun _ => trivial⟩
  | getKey =>
    exact @getPublicKey_advances platform history s started p1 p2 data true true .zero running nofun quiet same
  | getAddr => exact @getAddress_advances platform history s started p1 p2 data true true .zero running nofun quiet same
  | signTx =>
    apply Goes.mono (handleSignTransaction_new platform running p1 p2 data)
    rintro _ after ⟨rfl, path, policy, requests, presents⟩
    obtain rfl := requests.zero
    obtain ⟨warnings, script⟩ := initScript_eq requests
    have more := List.append_ne_nil_of_right_ne_nil warnings
      (List.cons_ne_nil (· = startPage .runSignTransactionInitUIStep) [])
    have follows {pages : List Page}
        (agrees : Follows (warnings ++ [(· = startPage .runSignTransactionInitUIStep)]) pages) :
        Follows (initScript policy) pages := by
      rw [script]
      exact agrees
    rw [script] at presents
    have outputs := presents.outputs_eq more
    rw [← outputs] at presents
    refine ⟨[], by rw [outputs, same, List.append_nil], ?_, .silent⟩
    apply Standing.asks _ _ _ presents (.inl rfl)
    · refine ⟨_, [], rfl, ⟨free, rfl, 0, data, rfl⟩, ?_⟩
      intro _ member
      exact absurd member List.not_mem_nil
    · intro pages agrees
      refine ⟨⟨data, policy, pages, requests, follows agrees, ?_⟩, ?_⟩
      · rw [List.map_nil, List.append_nil]
        rfl
      · intro before last split
        exact absurd split.symm (List.append_ne_nil_of_right_ne_nil _ (List.cons_ne_nil _ _))
    · rw [exchanged_snoc]
      exact awaits_request (.success _ .started)

end Requests

section Signing

variable {platform : Platform} {history before session : List Entry} {s : State}

theorem Started.chunk {path : Bip44Path} {chunks : List Chunk} {happenings : List Happening}
    (started : Started platform path chunks happenings) (asks : (fedChunks platform chunks).status = .ok .processing)
    (chunk : Chunk) :
    Started platform path (chunks ++ [chunk])
      (happenings ++ [request .signTx p1StreamData 0 chunk.bytes]) := by
  obtain ⟨⟨wire, policy, pages, requests, follows, rfl⟩, _⟩ := started
  refine ⟨⟨wire, policy, pages, requests, follows, ?_⟩, ?_⟩
  · rw [List.map_append, List.append_assoc]
    rfl
  · intro before last split
    obtain ⟨same, _⟩ := List.append_inj' split rfl
    rw [← same]
    exact asks

theorem signature_released {path : Bip44Path} {chunks : List Chunk} {happenings : List Happening}
    {signed : SignTxContext} {pages : List Page} (started : Started platform path chunks happenings)
    (signs : TxSigned platform path chunks signed)
    (follows : Follows (reviewScript platform.sdk signed.tx) pages) :
    SignatureReleased platform
      (happenings ++ [request .signTx p1GetSignature 0 []] ++ pages.map .accepted) signed.signature := by
  obtain ⟨before, last, rfl⟩ : ∃ before last, chunks = before ++ [last] := by
    rcases List.eq_nil_or_concat chunks with rfl | ⟨before, last, split⟩
    · cases signs.finished
    · exact ⟨before, last, by rw [split, List.concat_eq_append]⟩
  refine ⟨path, before, last, happenings, signed, pages, started, started.2 before last rfl, signs, rfl,
    follows, ?_⟩
  rw [List.append_assoc]
  rfl

variable {p1 p2 : UInt8} {data : List UInt8}

/-- An APDU of a signature comes while the device takes up a stream. -/
theorem collects_advances {path : Bip44Path} {chunks : List Chunk} (agreed : Agreed session)
    (started : Started platform path chunks (happened session)) (collecting : Collecting platform path chunks s)
    (small : data.length < 256) :
    Goes State.outputs (runHandler platform .signTx p1 p2 data false) s.handling fun _ =>
      Advances platform (before ++ session) s (.apdu (apduBytes .signTx p1 p2 data) true) := by
  obtain ⟨running, ctx, state, path_eq, stream, stands⟩ := collecting.streaming
  have streaming : Streaming platform path chunks s.handling.device := ⟨running, ctx, state, path_eq, stream, stands⟩
  have begun : ctx.stage ≠ .none := by
    rcases stands with ⟨stage, _⟩ | ⟨stage, _⟩
    · rw [stage]
      decide
    · rw [stage]
      decide
  have signs : Signs ctx s.handling := ⟨running, state⟩
  apply Goes.mono (handleSignTransaction_next platform signs begun (fun _ => streaming) p1 p2
    (Nat.lt_trans small (by decide)))
  intro _ after followed
  cases followed with
  | @collects chunk stage part zero _ asks bytes outputs collecting' =>
    subst part zero bytes
    refine ⟨_, outputs, ?_, .responds (awaits_request (.success _ (.stage stage))) ?_⟩
    · have goesOn := agreed.add (show (Entry.mk s (.apdu (apduBytes .signTx p1StreamData 0 chunk.bytes) true)
        [.response success (.stage stage)]).Running from running) goesOn_of_success
      rw [List.append_assoc]
      apply Standing.collects goesOn _ collecting'
      rw [happened_snoc]
      exact started.chunk asks chunk
    · exact ⟨_, [], (List.append_nil _).symm, nofun, fun _ => trivial⟩
  | @reviews signed last zero empty _ signed_tx presents =>
    subst last zero empty
    change Presents platform _ _ _ _ s.outputs after at presents
    apply advances_of_presents presents
    · intro _
      exact ⟨rfl, running, fun _ => agreed⟩
    · intro _ pages follows
      exact signature_released started (signed_tx path chunks streaming) follows
    · exact awaits_request (.success _ (.signature signed.signature))

/-- While an instruction is being closed, a signature can be asked for once more after a rejection. -/
theorem ended_advances {ctx : SignTxContext} (ended : Ended s) (running : s.device.currentIns = some .signTx)
    (state : s.device.instructionState = .signTx ctx)
    (stage : ctx.stage = .init ∨ ctx.stage = .finalize ∨ ctx.stage = .done) (small : data.length < 256) :
    Goes State.outputs (runHandler platform .signTx p1 p2 data false) s.handling fun _ =>
      Advances platform history s (.apdu (apduBytes .signTx p1 p2 data) true) := by
  have begun : ctx.stage ≠ .none := by
    rcases stage with stage | stage | stage <;> rw [stage] <;> decide
  have other : ctx.stage ≠ .collect := by
    rcases stage with stage | stage | stage <;> rw [stage] <;> decide
  have signs : Signs ctx s.handling := ⟨running, state⟩
  apply Goes.mono (@handleSignTransaction_next platform _ ctx ctx.path [] signs begun
    (fun collects => absurd collects other) p1 p2 data (Nat.lt_trans small (by decide)))
  intro _ after followed
  cases followed with
  | collects _ _ began => exact absurd began other
  | @reviews signed last zero empty began _ presents =>
    subst last zero empty
    have closing : s.Closing := by
      refine ⟨ended.status running, running, ?_⟩
      rw [State.stage?, state, ← began]
    have unspared : ¬(Spared (history ++ []) ∧ Spares s asksSignature) := fun spared => spared.2 rfl closing
    have whole : history ++ [] = history := List.append_nil _
    change Presents platform _ _ _ _ s.outputs after at presents
    rw [← whole]
    apply advances_of_presents presents
    · intro _
      exact ⟨rfl, running, fun spared => absurd spared unspared⟩
    · intro spared
      exact absurd (spared rfl) unspared
    · exact awaits_request (.success _ (.signature signed.signature))

end Signing

section Events

variable {platform : Platform} {history : List Entry} {s : State} {event : Event}

/-- What fails at an event ends the instruction, and the host is told if it waits for an answer. -/
theorem handleEvent_goes (owes : Owes history event)
    (handled : Goes State.outputs (event.code platform) s fun _ => Advances platform history s event) :
    Goes State.outputs (handleEvent platform event) s fun _ => Advances platform history s event := by
  apply catching_goes handled
  intro after code rest fails outputs
  exact advances_of_rest owes rest fails outputs

/-- The callback of a status page does the same wherever it comes. -/
theorem Standing.statusDone_goes (standing : Standing platform history s) :
    Goes State.outputs (handleEvent platform .statusDone) s fun _ =>
      Advances platform history s .statusDone := by
  have same : s.outputs = s.outputs ++ [] := (List.append_nil _).symm
  cases due : s.statusDue with
  | false =>
    have run : statusCallback.run s = .ok () s := by
      rw [statusCallback, run_bind_ok (EStateM.run_get s), due]
      rfl
    exact goes_of_ok (catching_run run) (standing.unmoved rfl rfl)
  | true =>
    have run : statusCallback.run s = .ok () { s with
        device := { s.device with currentIns := none }
        page := .home
        statusDue := false } := by
      rw [statusCallback, run_bind_ok (EStateM.run_get s), due]
      rfl
    apply goes_of_ok (catching_run run)
    exact ⟨[], same, .rest ⟨rfl, rfl⟩, .silent⟩

theorem code_touching (accepts : Bool) :
    (touching accepts).code platform = touch platform accepts := by
  cases accepts <;> rfl

/-- On a quiet page only an APDU can do anything. -/
theorem Standing.quiet_goes (standing : Standing platform history s) (quiet : s.page.isQuiet = true)
    (apdu : ∀ bytes unlocked, Goes State.outputs (fantomMainTry platform bytes unlocked) s fun _ =>
      Advances platform history s (.apdu bytes unlocked)) :
    Goes State.outputs (handleEvent platform event) s fun _ => Advances platform history s event := by
  have touched (accepts : Bool) : Goes State.outputs (handleEvent platform (touching accepts)) s fun _ =>
      Advances platform history s (touching accepts) := by
    have run := touch_run_quiet platform quiet accepts
    rw [← code_touching accepts] at run
    apply goes_of_ok (catching_run run)
    exact standing.unmoved (happenings_of_quiet quiet accepts) (touching_requests accepts)
  cases event with
  | apdu bytes unlocked => exact handleEvent_goes (owes_apdu history bytes unlocked) (apdu bytes unlocked)
  | accept => exact touched true
  | refuse => exact touched false
  | statusDone => exact standing.statusDone_goes

/-- While a page waits for the user, an APDU is refused. -/
theorem Standing.asking_goes {response : Response} (standing : Standing platform history s)
    (ioState : s.device.ioState ≠ .expectIo)
    (awaits : Awaits Response.Fits (exchanged history) response)
    (touched : ∀ accepts, Goes State.outputs (touch platform accepts) s fun _ =>
      Advances platform history s (touching accepts)) :
    Goes State.outputs (handleEvent platform event) s fun _ => Advances platform history s event := by
  have handled (accepts : Bool) : Goes State.outputs (handleEvent platform (touching accepts)) s fun _ =>
      Advances platform history s (touching accepts) := by
    apply handleEvent_goes (owes_of_awaits awaits (touching_requests accepts))
    rw [code_touching accepts]
    exact touched accepts
  cases event with
  | apdu bytes unlocked =>
    apply handleEvent_goes (owes_apdu history bytes unlocked)
    apply fantomMainTry_goes
    · intro ins p1 p2 data expects
      exact absurd expects ioState
    · intro ins p1 p2 data expects
      exact absurd expects ioState
  | accept => exact handled true
  | refuse => exact handled false
  | statusDone => exact standing.statusDone_goes

/-- What one event does, wherever a run has come to. -/
theorem Standing.advances (standing : Standing platform history s) (event : Event) :
    Goes State.outputs (handleEvent platform event) s fun _ => Advances platform history s event := by
  have stands := standing
  cases standing with
  | rest rest =>
    have quiet : s.page.isQuiet = true := by
      rw [rest.page]
      rfl
    apply stands.quiet_goes quiet
    intro bytes unlocked
    apply fantomMainTry_goes
    · rintro ins p1 p2 data _ free rfl rfl
      exact starts_advances free rfl quiet rfl
    · intro ins p1 p2 data _ running
      rw [rest.ins] at running
      cases running
  | @asks before session base _ path warnings opened started awaits presents turned =>
    obtain ⟨shows, rest, script⟩ : ∃ shows rest,
        warnings ++ [(· = startPage .runSignTransactionInitUIStep)] = shows :: rest :=
      List.exists_cons_of_ne_nil
        (List.append_ne_nil_of_right_ne_nil _ (List.cons_ne_nil _ _))
    rw [script] at started presents
    have asking := presents.asking (List.cons_ne_nil _ _)
    apply stands.asking_goes _ awaits
    · intro accepts
      apply Goes.mono (presents.touch_goes turned accepts)
      intro _ after touched
      exact advances_of_asked script opened started awaits presents turned touched
    · rw [turned.device_eq]
      exact asking.ioState
  | @collects before session _ path chunks agreed started collecting =>
    have quiet : s.page.isQuiet = true := by
      rw [collecting.page]
      rfl
    apply stands.quiet_goes quiet
    intro bytes unlocked
    apply fantomMainTry_goes
    · intro _ _ _ _ _ free
      rw [collecting.streaming.ins] at free
      cases free
    · rintro ins p1 p2 data _ running rfl small rfl
      rw [collecting.streaming.ins] at running
      cases running
      exact collects_advances agreed started collecting small
  | @answers before session base _ ins payload script more agreed released awaits presents turned =>
    obtain ⟨shows, rest, rfl⟩ := List.exists_cons_of_ne_nil more
    have asking := presents.asking more
    apply stands.asking_goes _ awaits
    · intro accepts
      apply Goes.mono (presents.touch_goes turned accepts)
      intro _ after touched
      exact advances_of_touched agreed released awaits presents turned touched
    · rw [turned.device_eq]
      exact asking.ioState
  | ended ended =>
    apply stands.quiet_goes ended.quiet
    intro bytes unlocked
    have inside := ended.inside
    apply fantomMainTry_goes
    · intro _ _ _ _ _ free
      cases inside with
      | key ins => cases ins.symm.trans free
      | address ins => cases ins.symm.trans free
      | sign ins => cases ins.symm.trans free
    · rintro ins p1 p2 data _ running rfl small rfl
      cases inside with
      | @key ctx current state =>
        cases current.symm.trans running
        exact @getPublicKey_advances platform history s s.handling p1 p2 data true false ctx current
          (fun _ => state) ended.quiet rfl
      | @address ctx current state =>
        cases current.symm.trans running
        exact @getAddress_advances platform history s s.handling p1 p2 data true false ctx current
          (fun _ => state) ended.quiet rfl
      | sign current state stage =>
        cases current.symm.trans running
        exact ended_advances ended current state stage small

end Events

section Runs

variable {platform : Platform} {history : List Entry} {s : State}

theorem bootState_standing (stack : Nat → Vector UInt8 40) : Standing platform [] (bootState stack) :=
  .rest ⟨rfl, rfl⟩

/-- What the outputs of an event are, if it advances the run. -/
theorem emitted_eq {event : Event} {after : State} {added : List Output}
    (handled : (handleEvent platform event).run s = .ok () after)
    (outputs : after.outputs = s.outputs ++ added) : emitted platform event s = added := by
  rw [emitted, handled]
  show after.outputs.drop s.outputs.length = added
  rw [outputs, List.drop_left]

theorem Run.standing (run : Run platform history s) : Standing platform history s := by
  induction run with
  | boot stack => exact bootState_standing stack
  | @event history s after run event handled ih =>
    have goes := ih.advances event
    unfold Goes at goes
    rw [handled] at goes
    obtain ⟨added, outputs, standing, _⟩ := goes
    rw [emitted_eq handled outputs]
    exact standing

/-- What an event puts out is an answer to the host that the session allows, also when the event ends the
run. -/
theorem Standing.answered (standing : Standing platform history s) (event : Event) :
    Answered platform history s event (emitted platform event s) := by
  have goes := standing.advances event
  unfold Goes at goes
  cases handled : (handleEvent platform event).run s with
  | ok result after =>
    rw [handled] at goes
    obtain ⟨added, outputs, _, answered⟩ := goes
    rw [emitted_eq handled outputs]
    exact answered
  | error exc after =>
    rw [handled] at goes
    have silent : emitted platform event s = [] := by
      rw [emitted, handled]
      show after.outputs.drop s.outputs.length = []
      rw [goes, List.drop_length]
    rw [silent]
    exact .silent

end Runs

end FantomLedger.Nbgl
