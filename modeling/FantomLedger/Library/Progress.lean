import FantomLedger.Library.Program

/-! Machines that handle one input after the other: where a row of inputs leads, and what it puts out. -/

namespace FantomLedger.Library.Progress

open Program

variable {σ ε ι ω : Type} (handle : ι → EStateM ε σ Unit) (outputs : σ → List ω)

/-- The inputs one after the other. -/
def runAll : List ι → EStateM ε σ Unit
  | [] => pure ()
  | input :: inputs => do
    handle input
    runAll inputs

/-- All inputs are handled, they put this out, and they lead to a state that meets the condition. -/
def Leads (s : σ) (inputs : List ι) (added : List ω) (arrives : σ → Prop) : Prop :=
  ∃ after, (runAll handle inputs).run s = .ok () after ∧ outputs after = outputs s ++ added ∧ arrives after

variable {handle outputs} {s t : σ} {input : ι} {inputs later : List ι} {added first second : List ω}
  {arrives goesOn : σ → Prop}

theorem leads_nil (holds : arrives s) : Leads handle outputs s [] [] arrives :=
  ⟨s, rfl, (List.append_nil _).symm, holds⟩

theorem leads_cons (handled : (handle input).run s = .ok () t) (same : outputs t = outputs s ++ first)
    (rest : Leads handle outputs t inputs second arrives) :
    Leads handle outputs s (input :: inputs) (first ++ second) arrives := by
  obtain ⟨after, run, more, holds⟩ := rest
  refine ⟨after, (run_bind_ok handled _).trans run, ?_, holds⟩
  rw [more, same, List.append_assoc]

theorem leads_input (handled : (handle input).run s = .ok () t) (same : outputs t = outputs s ++ added)
    (holds : arrives t) : Leads handle outputs s [input] added arrives := by
  have alone := leads_cons handled same (leads_nil holds)
  rwa [List.append_nil] at alone

theorem runAll_append (inputs later : List ι) :
    runAll handle (inputs ++ later) = runAll handle inputs >>= fun _ => runAll handle later := by
  induction inputs with
  | nil => rfl
  | cons input inputs ih => rw [List.cons_append, runAll, ih, runAll, bind_assoc]

theorem leads_append (run : (runAll handle inputs).run s = .ok () t) (same : outputs t = outputs s ++ first)
    (rest : Leads handle outputs t later second arrives) :
    Leads handle outputs s (inputs ++ later) (first ++ second) arrives := by
  obtain ⟨after, ran, more, arrived⟩ := rest
  refine ⟨after, ?_, ?_, arrived⟩
  · rw [runAll_append, run_bind_ok run]
    exact ran
  · rw [more, same, List.append_assoc]

theorem Leads.trans (leads : Leads handle outputs s inputs first goesOn)
    (rest : ∀ middle, goesOn middle → Leads handle outputs middle later second arrives) :
    Leads handle outputs s (inputs ++ later) (first ++ second) arrives := by
  obtain ⟨middle, run, same, holds⟩ := leads
  exact leads_append run same (rest middle holds)

end FantomLedger.Library.Progress
