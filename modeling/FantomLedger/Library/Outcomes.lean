import FantomLedger.Library.Program

/-! Programs whose caller has an answer to some of their errors, and which inputs lead to the others. -/

namespace FantomLedger.Library.Outcomes

open Program

variable {σ ε α β γ : Type} {answered : ε → Prop} {fatal : Prop} {body : EStateM ε σ α}
  {next : α → EStateM ε σ β} {s : σ}

/-- The run fails without an answer exactly if this holds. Otherwise it is answered, or it returns as the
condition says. -/
def Settles (answered : ε → Prop) (fatal : Prop) (body : EStateM ε σ α) (s : σ) (good : α → σ → Prop) : Prop :=
  Ends body s (fun result t => ¬fatal ∧ good result t) fun error _ => answered error ↔ ¬fatal

theorem settles_of_ok {t : σ} {result : α} {good : α → σ → Prop} (run : body.run s = .ok result t)
    (spared : ¬fatal) (holds : good result t) : Settles answered fatal body s good :=
  ends_of_ok run ⟨spared, holds⟩

theorem settles_of_error {t : σ} {error : ε} {good : α → σ → Prop} (run : body.run s = .error error t)
    (sorts : answered error ↔ ¬fatal) : Settles answered fatal body s good :=
  ends_of_error run sorts

theorem settles_of_returns {good : α → σ → Prop} (returns : Returns body s good) (spared : ¬fatal) :
    Settles answered fatal body s good := by
  obtain ⟨result, t, run, holds⟩ := returns
  exact settles_of_ok run spared holds

/-- The two results on one run: what it returns, and where it fails. -/
theorem Settles.of_goes {measure : σ → γ} {good : α → σ → Prop}
    (settles : Settles answered fatal body s fun _ _ => True) (goes : Goes measure body s good) :
    Settles answered fatal body s good := by
  cases run : body.run s with
  | ok result t =>
    unfold Goes at goes
    rw [run] at goes
    exact settles_of_ok run (Ends.of_ok settles run).1 goes
  | error error t => exact settles_of_error run (Ends.of_error settles run)

theorem Settles.returns {good : α → σ → Prop} (settles : Settles answered fatal body s good)
    {t : σ} {result : α} (run : body.run s = .ok result t) : ¬fatal ∧ good result t :=
  Ends.of_ok settles run

theorem Settles.mono {good better : α → σ → Prop} (settles : Settles answered fatal body s good)
    (stronger : ∀ result t, good result t → better result t) : Settles answered fatal body s better :=
  Ends.mono settles fun result t holds => ⟨holds.1, stronger result t holds.2⟩

/-- What fails is answered, or the condition holds. -/
theorem Settles.ends {good : α → σ → Prop} (settles : Settles answered fatal body s good) {other : Prop}
    (weaker : fatal → other) : Ends body s good fun error _ => answered error ∨ other := by
  cases run : body.run s with
  | ok result t => exact ends_of_ok run (settles.returns run).2
  | error error t =>
    have sorts : answered error ↔ ¬fatal := Ends.of_error settles run
    exact ends_of_error run ((Classical.em fatal).symm.imp sorts.mpr weaker)

/-- The condition is what it takes to fail without an answer. -/
theorem Settles.fatal_iff {good : α → σ → Prop} (settles : Settles answered fatal body s good) :
    (∃ error t, body.run s = .error error t ∧ ¬answered error) ↔ fatal := by
  cases run : body.run s with
  | ok result t =>
    constructor
    · rintro ⟨_, _, ⟨⟩, _⟩
    · intro ends
      exact absurd ends (settles.returns run).1
  | error error t =>
    have sorts : answered error ↔ ¬fatal := Ends.of_error settles run
    constructor
    · rintro ⟨_, _, ⟨⟩, missing⟩
      exact Classical.not_not.mp fun spared => missing (sorts.mpr spared)
    · intro ends
      exact ⟨error, t, rfl, fun answers => sorts.mp answers ends⟩

theorem settles_bind_ok {good : β → σ → Prop} {t : σ} {result : α} (run : body.run s = .ok result t)
    (rest : Settles answered fatal (next result) t good) : Settles answered fatal (body >>= next) s good :=
  ends_bind_ok run rest

theorem settles_bind_error {good : β → σ → Prop} {t : σ} {error : ε} (run : body.run s = .error error t)
    (sorts : answered error ↔ ¬fatal) : Settles answered fatal (body >>= next) s good :=
  ends_of_error (run_bind_error run next) sorts

/-- A part comes first after which nothing fails. -/
theorem Settles.bind_returns {good : β → σ → Prop}
    (first : Settles answered fatal body s fun result t => Returns (next result) t good) :
    Settles answered fatal (body >>= next) s good := by
  cases run : body.run s with
  | ok result t =>
    obtain ⟨spared, value, u, ran, holds⟩ := first.returns run
    exact settles_of_ok ((run_bind_ok run next).trans ran) spared holds
  | error error t => exact settles_bind_error run (Ends.of_error first run)

/-- Code that another state has no part in comes first. -/
theorem settles_bind_alike {τ : Type} {second : EStateM ε τ α} (alike : Alike body second) (t : τ)
    {good : β → σ → Prop}
    (rest : ∀ result, second.run t = .ok result t → Settles answered fatal (next result) s good)
    (failed : ∀ error, second.run t = .error error t → (answered error ↔ ¬fatal)) :
    Settles answered fatal (body >>= next) s good := by
  cases run : body.run s with
  | ok result s' =>
    obtain ⟨rfl, other⟩ := alike.of_ok run t
    exact settles_bind_ok run (rest result other)
  | error error s' =>
    obtain ⟨rfl, other⟩ := alike.of_error run t
    exact settles_bind_error run (failed error other)

end FantomLedger.Library.Outcomes
