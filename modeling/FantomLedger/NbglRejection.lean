import FantomLedger.Consent
import FantomLedger.NbglSessions

/-! What it takes to use a transaction on the large screen after the user has rejected one. -/

namespace FantomLedger.Nbgl

open Library.Exchange Library.Program

section Entries

/-- Among the events is all that a new transaction takes. -/
def Renewed (entries : List Entry) : Prop := ∃ skipped session, entries = skipped ++ session ∧ Agreed session

variable {entry : Entry} {entries session : List Entry}

theorem Entry.Opens.goesOn (opens : entry.Opens) : ¬ entry.Rejects := by
  intro rejects
  have none := List.not_mem_nil (a := Output.response errRejectedByUser .empty)
  rw [← opens.2.1] at none
  exact none rejects.2

theorem Agreed.goesOn (agreed : Agreed session) : ∀ entry ∈ session, ¬ entry.Rejects := by
  obtain ⟨request, asked, accepted, rest, rfl, opens, _, undisturbed⟩ := agreed
  intro entry member
  rcases List.mem_cons.mp member with rfl | later
  · exact opens.goesOn
  · exact (undisturbed entry later).2

theorem Agreed.two_le (agreed : Agreed session) : 2 ≤ session.length := by
  obtain ⟨request, asked, accepted, rest, rfl, _⟩ := agreed
  simp only [List.cons_append, List.length_cons, List.length_append]
  omega

theorem Renewed.two_le (renewed : Renewed entries) : 2 ≤ entries.length := by
  obtain ⟨skipped, session, rfl, agreed⟩ := renewed
  exact le_trans agreed.two_le (List.length_append ▸ Nat.le_add_left _ _)

/-- What has been agreed to since then lies behind a rejection altogether. -/
theorem Agreed.after {before earlier later : List Entry} (agreed : Agreed session)
    (rejects : entry.Rejects) (same : before ++ session = earlier ++ entry :: later) :
    Renewed later := by
  rcases List.append_eq_append_iff.mp same with ⟨overlap, rfl, within⟩ | ⟨overlap, rfl, within⟩
  · have member : entry ∈ session := by
      rw [within]
      exact List.mem_append_right _ List.mem_cons_self
    exact absurd rejects (agreed.goesOn entry member)
  · cases overlap with
    | nil =>
      have member : entry ∈ session := by
        rw [List.nil_append] at within
        rw [← within]
        exact List.mem_cons_self
      exact absurd rejects (agreed.goesOn entry member)
    | cons first skipped =>
      cases within
      exact ⟨skipped, session, rfl, agreed⟩

end Entries

section Events

variable (platform : Platform)

/-- A part of the stream, or the request for the signature, passes all that is checked of an APDU and
of its parameters before the context of the transaction is used. -/
def Processes (s : State) (event : Event) : Prop :=
  s.device.ioState = .expectIo ∧ s.device.currentIns = some .signTx ∧
    ((∃ wire, wire ≠ [] ∧ event = .apdu (apduBytes .signTx p1StreamData 0 wire) true) ∧
        s.stage? = some .collect ∨
      event = asksSignature ∧ s.stage? = some .finalize)

/-- The event uses the transaction, or lets a signature out. -/
def Uses (s : State) (event : Event) : Prop :=
  Processes s event ∨ ∃ code signature, .response code (.signature signature) ∈ emitted platform event s

/-- A run has come to the state, and it has asked for no signature of a rejected review. -/
structure Stands (history : List Entry) (s : State) : Prop where
  standing : Standing platform history s
  spared : Spared history

end Events

section Runs

variable {platform : Platform} {history : List Entry} {s : State}

theorem Run.stands (run : Run platform history s)
    (spares : ∀ entry ∈ history, Spares entry.state entry.event) : Stands platform history s :=
  ⟨run.standing, spares⟩

/-- A signature leaves the device only in a session that the user has agreed to. -/
theorem Stands.emits {event : Event} {code : Nat} {signature : TxSignature}
    (stands : Stands platform history s) (spared : Spares s event)
    (sent : .response code (.signature signature) ∈ emitted platform event s) :
    ∃ before session, history = before ++ session ∧ Agreed session := by
  have answered := stands.standing.answered event
  generalize emitted platform event s = added at sent answered
  cases answered with
  | silent => exact absurd sent List.not_mem_nil
  | responds awaits allows =>
    cases List.mem_singleton.mp sent
    obtain ⟨before, session, whole, agreed, _⟩ := allows
    exact ⟨before, session, whole, agreed rfl ⟨stands.spared, spared⟩⟩

/-- So is a transaction processed only there. -/
theorem Stands.processes {event : Event} (stands : Stands platform history s) (spared : Spares s event)
    (processes : Processes s event) : ∃ before session, history = before ++ session ∧ Agreed session := by
  obtain ⟨ioState, running, stages⟩ := processes
  cases stands.standing with
  | rest rest =>
    rw [rest.ins] at running
    cases running
  | asks _ _ _ presents turned =>
    have asking := presents.asking (List.append_ne_nil_of_right_ne_nil _ (List.cons_ne_nil _ _))
    rw [turned.device_eq] at ioState
    exact absurd ioState asking.ioState
  | @collects before session _ _ _ agreed => exact ⟨before, session, rfl, agreed⟩
  | answers more _ _ _ presents turned =>
    rw [turned.device_eq] at ioState
    exact absurd ioState (presents.asking more).ioState
  | ended ended =>
    cases ended.inside with
    | key ins => cases ins.symm.trans running
    | address ins => cases ins.symm.trans running
    | @sign ctx _ state stage =>
      have known : s.stage? = some ctx.stage := by rw [State.stage?, state]
      rcases stages with ⟨_, collect⟩ | ⟨asked, finalize⟩
      · have same : ctx.stage = .collect := Option.some.inj (known.symm.trans collect)
        rcases stage with other | other | other <;> cases other.symm.trans same
      · exact absurd ⟨ended.status running, running, finalize⟩ (spared asked)

/-- In every run in which no signature is asked for while a rejected review is being closed: once the
host has been told that the user has rejected a transaction, no transaction is processed and no
signature leaves the device before a new transaction has been requested of a device without an
instruction and the user has agreed to it. -/
theorem rejection_ends_session (run : Run platform history s)
    (spares : ∀ entry ∈ history, Spares entry.state entry.event) {before later : List Entry}
    {rejection : Entry} (split : history = before ++ rejection :: later) (rejects : rejection.Rejects)
    {event : Event} (spared : Spares s event) (uses : Uses platform s event) : Renewed later := by
  have stands := run.stands spares
  have worked : ∃ before session, history = before ++ session ∧ Agreed session := by
    rcases uses with processes | ⟨code, signature, sent⟩
    · exact stands.processes spared processes
    · exact stands.emits spared sent
  obtain ⟨skipped, session, whole, agreed⟩ := worked
  exact agreed.after rejects (whole.symm.trans split)

/-- Events one after the other, with the history that they add to. -/
def course (platform : Platform) : List Event → List Entry → State → Option (List Entry × State)
  | [], history, s => some (history, s)
  | event :: events, history, s =>
    match (handleEvent platform event).run s with
    | .ok _ after => course platform events (history ++ [⟨s, event, emitted platform event s⟩]) after
    | .error _ _ => none

theorem Run.course {events : List Event} {history more : List Entry} {s after : State}
    (run : Run platform history s) (ran : course platform events history s = some (more, after)) :
    Run platform more after := by
  induction events generalizing history s with
  | nil =>
    cases ran
    exact run
  | cons event events ih =>
    rw [Nbgl.course] at ran
    cases handled : (handleEvent platform event).run s with
    | ok result next =>
      rw [handled] at ran
      exact ih (run.event event handled) ran
    | error exc next =>
      rw [handled] at ran
      cases ran

def sends (ins : Ins) (p1 : UInt8) (data : List UInt8) : Event := .apdu (apduBytes ins p1 0 data) true

/-- A transfer comes in after the consent of the user. -/
def transferEvents : List Event :=
  [sends .signTx p1NewTransaction firstPayload, .accept, sends .signTx p1StreamData transfer.encode]

/-- A transfer is reviewed, and the user rejects it. -/
def rejectedEvents : List Event := transferEvents ++ [asksSignature, .refuse, .accept]

/-- What comes after the sixth event of a course, if that rejects a transaction. -/
def afterRejection (history : List Entry) : Option (List Entry) :=
  match history.drop 5 with
  | rejection :: later => if rejection.Rejects then some later else none
  | [] => none

theorem afterRejection_eq {history later : List Entry} (found : afterRejection history = some later) :
    ∃ before rejection, history = before ++ rejection :: later ∧ rejection.Rejects := by
  have whole := List.take_append_drop 5 history
  unfold afterRejection at found
  split at found
  · rename_i rejection rest last
    split_ifs at found with rejects
    cases found
    rw [last] at whole
    exact ⟨history.take 5, rejection, whole.symm, rejects⟩
  · cases found

/-- The page of the rejection is closed before the next transfer. -/
theorem second_transfer_renewed :
    ∃ history s before rejection later, Run signingPlatform history s ∧
      history = before ++ rejection :: later ∧ rejection.Rejects ∧ Processes s asksSignature ∧
      Renewed later := by
  have checked : ((course signingPlatform (rejectedEvents ++ .statusDone :: transferEvents) []
      (bootState fun _ => Vector.replicate _ 0)).any fun (history, s) =>
        (afterRejection history).isSome &&
          decide (∀ entry ∈ history, Spares entry.state entry.event) &&
          decide (s.device.ioState = .expectIo ∧ s.device.currentIns = some .signTx ∧
            s.stage? = some .finalize ∧ s.page.isStatus = false)) = true := by decide +kernel
  obtain ⟨⟨history, s⟩, ran, meets⟩ := (Option.any_eq_true _ _).mp checked
  simp only [Bool.and_eq_true, decide_eq_true_eq] at meets
  obtain ⟨⟨found, spares⟩, ioState, running, stage, page⟩ := meets
  obtain ⟨later, found⟩ := Option.isSome_iff_exists.mp found
  obtain ⟨before, rejection, split, rejects⟩ := afterRejection_eq found
  have run : Run signingPlatform history s := (Run.boot _).course ran
  have processes : Processes s asksSignature := ⟨ioState, running, .inr ⟨rfl, stage⟩⟩
  have spared : Spares s asksSignature := by
    intro _ closing
    rw [State.Closing, page] at closing
    exact Bool.false_ne_true closing.1
  exact ⟨history, s, before, rejection, later, run, split, rejects, processes,
    rejection_ends_session run spares split rejects spared (.inl processes)⟩

/-- While the page of the rejection is still on, the host can ask for the signature of the rejected
transaction once more, and no new one takes its place before the signature leaves the device. -/
theorem rejected_transfer_signed :
    ∃ history s before rejection later, Run signingPlatform history s ∧
      history = before ++ rejection :: later ∧ rejection.Rejects ∧
      .response success (.signature twosSignature) ∈ emitted signingPlatform .accept s ∧
      ¬ Renewed later := by
  have checked : ((course signingPlatform (rejectedEvents ++ [asksSignature]) []
      (bootState fun _ => Vector.replicate _ 0)).any fun (history, s) =>
        (afterRejection history).any (fun later => later.length == 1) &&
          decide (.response success (.signature twosSignature) ∈ emitted signingPlatform .accept s)) =
      true := by decide +kernel
  obtain ⟨⟨history, s⟩, ran, meets⟩ := (Option.any_eq_true _ _).mp checked
  simp only [Bool.and_eq_true, decide_eq_true_eq] at meets
  obtain ⟨found, sent⟩ := meets
  obtain ⟨later, found, single⟩ := (Option.any_eq_true _ _).mp found
  obtain ⟨before, rejection, split, rejects⟩ := afterRejection_eq found
  refine ⟨history, s, before, rejection, later, (Run.boot _).course ran, split, rejects, sent, ?_⟩
  intro renewed
  have more := renewed.two_le
  rw [beq_iff_eq.mp single] at more
  omega

end Runs

end FantomLedger.Nbgl
