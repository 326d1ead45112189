import FantomLedger.NbglConsent

/-! The conversation of the host with the device, in both builds: the device answers at most once to each
message, and with what belongs to it. -/

namespace FantomLedger

open Library.Exchange Library.Program

/-- What comes from the device after a message: nothing, or one answer that fits it. -/
def Replies (messages replies : List Message) : Prop :=
  replies = [] ∨ ∃ response, replies = [.answer response] ∧ Awaits Response.Fits messages response

theorem Replies.solicited {messages replies : List Message} (replied : Replies messages replies)
    (solicited : Solicited Response.Fits messages) : Solicited Response.Fits (messages ++ replies) := by
  rcases replied with rfl | ⟨response, rfl, awaits⟩
  · rw [List.append_nil]
    exact solicited
  · exact solicited.answer awaits

namespace Nbgl

variable {platform : Platform} {history : List Entry} {s : State}

theorem Answered.replies {event : Event} {outputs : List Output}
    (answered : Answered platform history s event outputs) :
    Replies (exchanged history ++ event.requests) (answers outputs) := by
  cases answered with
  | silent => exact .inl rfl
  | responds awaits _ => exact .inr ⟨_, rfl, awaits⟩

theorem requests_solicited {messages : List Message} (solicited : Solicited Response.Fits messages)
    (event : Event) : Solicited Response.Fits (messages ++ event.requests) := by
  cases event with
  | apdu bytes unlocked => exact solicited.request bytes
  | _ => simpa only [Event.requests, List.append_nil] using solicited

/-- In every run, each answer of the device directly follows a message of the host that it belongs to. -/
theorem history_solicited (run : Run platform history s) :
    Solicited Response.Fits (exchanged history) := by
  induction run with
  | boot stack => exact solicited_nil
  | @event history s after run event handled ih =>
    rw [exchanged_snoc, ← List.append_assoc]
    exact (run.standing.answered event).replies.solicited (requests_solicited ih event)

/-- The review of a transaction, which the user accepts. -/
theorem transfer_solicited :
    ∃ history s, Run signingPlatform history s ∧ history.length = transferEvents.length + 2 ∧
      Solicited Response.Fits (exchanged history) := by
  have checked : ((course signingPlatform (transferEvents ++ [asksSignature, .accept]) []
      (bootState fun _ => Vector.replicate _ 0)).any fun (history, _) =>
        decide (history.length = transferEvents.length + 2)) = true := by decide +kernel
  obtain ⟨⟨history, s⟩, ran, length⟩ := (Option.any_eq_true _ _).mp checked
  have run : Run signingPlatform history s := (Run.boot _).course ran
  exact ⟨history, s, run, of_decide_eq_true length, history_solicited run⟩

end Nbgl

section Small

variable (platform : Platform)

def Event.requests : Event → List Message
  | .apdu bytes _ => [.request bytes]
  | _ => []

/-- The messages that come from events, in their order. A reset of the device ends the conversation. -/
def conversation : List Event → Device → List Message
  | [], _ => []
  | event :: events, device =>
    event.requests ++ answers (emitted platform event device) ++
      match (handleEvent platform event).run device with
      | .ok _ after => conversation events after
      | .error _ _ => []

/-- The device waits for a message. -/
def Listens (device : Device) : Prop := AtRest device ∨ ∃ path chunks, Collecting platform path chunks device

/-- How a device stands in a conversation: it waits for a message, or it shows a screen, and the answer behind
its screens fits the last message. -/
inductive Converses (messages : List Message) (device : Device) : Prop
  | listens (listens : Listens platform device)
  | shows {fn : UiCallbackFn} {payload : Payload} {last : Output} {done : Device → Prop}
      {script : List (Screen → Prop)} {before : List Output} (more : script ≠ [])
      (presents : Presents platform fn [.response success payload, last] done script before device)
      (silent : answers [last] = [])
      (awaits : Awaits Response.Fits messages ⟨success, payload⟩) (ends : ∀ after, done after → Listens platform after)

/-- What an event makes of a device and its conversation. -/
def Continues (messages : List Message) (device after : Device) : Prop :=
  ∃ added, after.outputs = device.outputs ++ added ∧ Replies messages (answers added) ∧
    Converses platform (messages ++ answers added) after

variable {platform} {messages : List Message} {device after : Device}

theorem continues_of_ended {response : Response} {code : Option Nat}
    (awaits : Awaits Response.Fits messages response) (rest : AtRest after)
    (fails : ∀ error ∈ code, error ≠ success) (outputs : after.outputs = device.outputs ++ notice code) :
    Continues platform messages device after := by
  refine ⟨notice code, outputs, ?_, .listens (.inl rest)⟩
  cases code with
  | none => exact .inl rfl
  | some error => exact .inr ⟨_, rfl, awaits_error awaits (fails error rfl)⟩

theorem continues_of_presents {fn : UiCallbackFn} {payload : Payload} {last : Output}
    {done : Device → Prop} {script : List (Screen → Prop)}
    (presents : Presents platform fn [.response success payload, last] done script device.outputs after)
    (silent : answers [last] = []) (awaits : Awaits Response.Fits messages ⟨success, payload⟩)
    (ends : ∀ after, done after → Listens platform after) : Continues platform messages device after := by
  cases script with
  | nil =>
    obtain ⟨outputs, ended⟩ := presents
    refine ⟨_, outputs, .inr ⟨⟨success, payload⟩, ?_, awaits⟩, .listens (ends after ended)⟩
    show [.answer ⟨success, payload⟩] ++ answers [last] = _
    rw [silent]
    rfl
  | cons shows rest =>
    have shown := presents
    obtain ⟨screen, _, outputs, _, _⟩ := presents
    have none : answers [screen.output] = [] := by cases screen <;> rfl
    refine ⟨_, outputs, .inl none, ?_⟩
    rw [none, List.append_nil]
    exact .shows (List.cons_ne_nil _ _) shown silent awaits ends

theorem continues_of_unmoved (converses : Converses platform messages device) :
    Continues platform messages device device := by
  refine ⟨[], (List.append_nil _).symm, .inl rfl, ?_⟩
  have same : messages ++ answers [] = messages := List.append_nil _
  rw [same]
  exact converses

theorem Continues.of_outputs {before : Device} (continues : Continues platform messages before after)
    (same : before.outputs = device.outputs) : Continues platform messages device after := by
  obtain ⟨added, outputs, rest⟩ := continues
  exact ⟨added, same ▸ outputs, rest⟩

theorem awaits_of_same {bytes : List UInt8} {ins : Ins} {p1 p2 : UInt8} {data : List UInt8}
    {payload : Payload} (same : .apdu bytes = request ins p1 p2 data) (belongs : payload.Belongs ins p1) :
    Awaits Response.Fits (messages ++ [.request bytes]) ⟨success, payload⟩ := by
  cases same
  exact awaits_request (.success _ belongs)

/-- A handler starts on a device that was at rest. -/
theorem runHandler_answers {bytes : List UInt8} {ins : Ins} {p1 p2 : UInt8} {data : List UInt8}
    (running : device.currentIns = some ins) (same : .apdu bytes = request ins p1 p2 data) :
    Goes Device.outputs (runHandler platform ins p1 p2 data true) device fun _ =>
      Continues platform (messages ++ [.request bytes]) device := by
  have busy := running_of_ins running
  cases ins with
  | version =>
    apply goes_bind_validate
    intro _
    apply goes_bind_validate
    intro _
    apply goes_bind_validate
    intro _
    have fits : (Payload.version platform.appVersion.major platform.appVersion.minor
        platform.appVersion.patch 0).bytes.length + 2 < ioApduBufferSize := by
      show 4 + 2 < ioApduBufferSize
      decide
    apply goes_of_ok (answer_run fits success device)
    exact ⟨_, rfl, .inr ⟨_, rfl, awaits_of_same same (.version p1 _ _ _ _)⟩,
      .listens (.inl (atRest_rested _ _))⟩
  | getKey =>
    apply Goes.mono (handleGetPublicKey_goes platform busy p1 p2 data)
    rintro _ after ⟨path, policy, key, requests, presents⟩
    exact continues_of_presents presents rfl (awaits_of_same same (.pubKey p1 key)) fun _ rest => .inl rest
  | getAddr =>
    apply Goes.mono (handleGetAddress_goes platform busy p1 p2 data)
    rintro _ after ⟨path, policy, address, requests, presents⟩
    exact continues_of_presents presents rfl (awaits_of_same same (.address p1 address)) fun _ rest => .inl rest
  | signTx =>
    apply Goes.mono (handleSignTransaction_new platform running p1 p2 data)
    rintro _ after ⟨rfl, path, policy, requests, presents⟩
    exact continues_of_presents presents rfl (awaits_of_same same .started)
      fun _ collects => .inr ⟨path, [], collects⟩

/-- The handler of a signature goes on with a device that takes up a stream. -/
theorem signTransaction_answers {path : Bip44Path} {chunks : List Chunk} {bytes : List UInt8}
    {p1 p2 : UInt8} {data : List UInt8} (streaming : Streaming platform path chunks device)
    (small : data.length < 256)
    (same : .apdu bytes = request .signTx p1 p2 data) :
    Goes Device.outputs (runHandler platform .signTx p1 p2 data false) device fun _ =>
      Continues platform (messages ++ [.request bytes]) device := by
  apply Goes.mono (handleSignTransaction_next platform streaming p1 p2
    (Nat.lt_trans small (by decide)))
  rintro _ after ⟨rfl, ⟨rfl, asks, chunk, stage, rfl, collecting, outputs⟩ |
    ⟨rfl, rfl, finished, signed, signs, presents⟩⟩
  · exact ⟨_, outputs, .inr ⟨_, rfl, awaits_of_same same (.stage stage)⟩, .listens (.inr ⟨path, _, collecting⟩)⟩
  · exact continues_of_presents presents rfl (awaits_of_same same (.signature signed.signature))
      fun _ rest => .inl rest

theorem Listens.event (listens : Listens platform device) (event : Event) :
    Goes Device.outputs (handleEvent platform event) device fun _ =>
      Continues platform (messages ++ event.requests) device := by
  have idle : device.flow = .idle ∨ device.flow = .busy := by
    rcases listens with rest | ⟨path, chunks, collecting⟩
    · exact .inl rest.flow
    · exact .inr collecting.flow
  obtain ⟨_, confirms, rejects⟩ := @buttons_unmoved platform device idle
  cases event with
  | confirm => exact goes_of_ok confirms (continues_of_unmoved (.listens listens))
  | reject => exact goes_of_ok rejects (continues_of_unmoved (.listens listens))
  | apdu bytes unlocked =>
    have awaits : Awaits Response.Fits (messages ++ [.request bytes]) ⟨0, .empty⟩ :=
      awaits_request (.error bytes (by decide))
    apply fantomMain_goes platform _ fun after code rest fails outputs =>
      continues_of_ended awaits rest fails outputs
    apply fantomMainTry_goes
    · intro ins p1 p2 data free same
      apply Goes.mono (runHandler_answers rfl same)
      intro _ after continues
      exact continues.of_outputs rfl
    · intro ins p1 p2 data running small same
      rcases listens with rest | ⟨path, chunks, collecting⟩
      · rw [rest.ins] at running
        cases running
      · rw [collecting.ins] at running
        cases running
        have streaming : Streaming platform path chunks { device with ioState := .expectNone } :=
          ⟨collecting.ins, collecting.context⟩
        apply Goes.mono (signTransaction_answers streaming small same)
        intro _ after continues
        exact continues.of_outputs rfl

/-- Every event keeps the conversation going, with at most one answer. -/
theorem Converses.event (converses : Converses platform messages device) (event : Event) :
    Goes Device.outputs (handleEvent platform event) device fun _ =>
      Continues platform (messages ++ event.requests) device := by
  have unmoved (silent : event.requests = []) (run : (handleEvent platform event).run device = .ok () device) :
      Goes Device.outputs (handleEvent platform event) device fun _ =>
        Continues platform (messages ++ event.requests) device := by
    apply goes_of_ok run
    rw [silent, List.append_nil]
    exact continues_of_unmoved converses
  cases converses with
  | listens listens => exact listens.event event
  | @shows fn payload last done script before more presents silent awaits ends =>
    obtain ⟨shows, rest, rfl⟩ := List.exists_cons_of_ne_nil more
    obtain ⟨screen, _, _, asking, confirms⟩ := presents
    cases event with
    | apdu bytes unlocked =>
      have awaits : Awaits Response.Fits (messages ++ [.request bytes]) ⟨0, .empty⟩ :=
        awaits_request (.error bytes (by decide))
      exact asking.apdu_goes bytes unlocked fun after code rest fails outputs =>
        continues_of_ended awaits rest fails outputs
    | confirm =>
      apply Goes.mono confirms
      intro _ after presents
      have same : messages ++ Event.confirm.requests = messages := List.append_nil _
      rw [same]
      exact continues_of_presents presents silent awaits ends
    | reject =>
      cases screen with
      | text header body => exact unmoved rfl asking.reject_text
      | question header body =>
        obtain ⟨after, rejects, rest, outputs⟩ := @Asking.reject_question platform _ _ _ _ asking
        apply goes_of_ok rejects
        have same : messages ++ Event.reject.requests = messages := List.append_nil _
        rw [same]
        exact continues_of_ended awaits rest (fun _ same => Option.some.inj same ▸ by decide) outputs

theorem requests_solicited (solicited : Solicited Response.Fits messages) (event : Event) :
    Solicited Response.Fits (messages ++ event.requests) := by
  cases event with
  | apdu bytes unlocked => exact solicited.request bytes
  | _ => exact (List.append_nil messages).symm ▸ solicited

theorem Converses.solicited (converses : Converses platform messages device)
    (solicited : Solicited Response.Fits messages) (events : List Event) :
    Solicited Response.Fits (messages ++ conversation platform events device) := by
  induction events generalizing messages device with
  | nil =>
    rw [conversation, List.append_nil]
    exact solicited
  | cons event events ih =>
    have asked := requests_solicited solicited event
    have goes := converses.event event
    unfold Goes at goes
    rw [conversation, emitted]
    cases handled : (handleEvent platform event).run device with
    | ok result after =>
      rw [handled] at goes
      obtain ⟨added, outputs, replies, continues⟩ := goes
      dsimp only
      rw [outputs, List.drop_left, ← List.append_assoc, ← List.append_assoc]
      exact ih continues (replies.solicited asked)
    | error exc after =>
      rw [handled] at goes
      dsimp only at goes ⊢
      rw [goes, List.drop_length, List.append_nil, ← List.append_assoc]
      exact (List.append_nil (messages ++ event.requests)).symm ▸ asked

theorem Converses.runs {events : List Event} (converses : Converses platform messages device)
    (ran : (runEvents platform events).run device = .ok () after) :
    ∃ messages, Converses platform messages after := by
  induction events generalizing messages device with
  | nil =>
    cases ran
    exact ⟨messages, converses⟩
  | cons event events ih =>
    obtain ⟨_, next, handled, rest⟩ := run_bind_eq_ok.mp ran
    have goes := converses.event event
    unfold Goes at goes
    rw [handled] at goes
    obtain ⟨_, _, _, continues⟩ := goes
    exact ih continues rest

variable (platform)

/-- Whatever the events, each answer of the device directly follows a message of the host that it belongs to,
and an event that the device does not come back from is not answered. -/
theorem conversation_solicited (events : List Event) (stack : Nat → Vector UInt8 40) :
    Solicited Response.Fits (conversation platform events (bootDevice stack)) ∧
      ∀ device event exc after, (runEvents platform events).run (bootDevice stack) = .ok () device →
        (handleEvent platform event).run device = .error exc after → after.outputs = device.outputs := by
  have rest : AtRest (bootDevice stack) := ⟨rfl, rfl, rfl⟩
  have converses : Converses platform [] (bootDevice stack) := .listens (.inl rest)
  refine ⟨converses.solicited solicited_nil events, ?_⟩
  intro device event exc after ran failed
  obtain ⟨messages, stands⟩ := converses.runs ran
  have goes := stands.event event
  unfold Goes at goes
  rw [failed] at goes
  exact goes

/-- A request for the key of a path of ten indexes, which is not answered. -/
theorem longKey_unanswered :
    ∃ exc after, (handleEvent signingPlatform (sends .getKey 0 longPayload)).run
        (bootDevice fun _ => Vector.replicate 40 0) = .error exc after ∧ after.outputs = [] := by
  obtain ⟨exc, after, failed⟩ : ∃ exc after, (handleEvent signingPlatform (sends .getKey 0 longPayload)).run
      (bootDevice fun _ => Vector.replicate 40 0) = .error exc after := ⟨_, _, rfl⟩
  exact ⟨exc, after, failed, (conversation_solicited signingPlatform [] _).2 _ _ _ _ rfl failed⟩

end Small

end FantomLedger
