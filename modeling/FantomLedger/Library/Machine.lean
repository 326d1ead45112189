import Mathlib.Data.List.Basic

/-! Machines that read one symbol at a time and may stop before their input is used up.
A run over a concatenation splits at every cut, so the way the input is cut into
chunks can be read off the run over the whole input. -/

namespace FantomLedger.Library.Machine

variable {σ β ε : Type}

/-- What one symbol does to a running machine. -/
inductive Verdict (σ ε : Type) where
  | more (state : σ)
  | finished (state : σ)
  | failed (error : ε)
  deriving DecidableEq, Repr

/-- The state after one symbol, unless that one failed. -/
def Verdict.state : Verdict σ ε → Option σ
  | .more state => some state
  | .finished state => some state
  | .failed _ => none

/-- How a run ends. A machine that stops early leaves the symbols it did not read. -/
inductive Outcome (σ β ε : Type) where
  | more (state : σ)
  | finished (state : σ) (rest : List β)
  | failed (error : ε)
  deriving DecidableEq, Repr

def run (step : σ → β → Verdict σ ε) : σ → List β → Outcome σ β ε
  | state, [] => .more state
  | state, symbol :: rest =>
      match step state symbol with
      | .more next => run step next rest
      | .finished next => .finished next rest
      | .failed error => .failed error

/-- Go on with a run after one symbol. -/
def Verdict.andThen (step : σ → β → Verdict σ ε) (verdict : Verdict σ ε)
    (rest : List β) : Outcome σ β ε :=
  match verdict with
  | .more state => run step state rest
  | .finished state => .finished state rest
  | .failed error => .failed error

theorem run_cons (step : σ → β → Verdict σ ε) (state : σ) (symbol : β) (rest : List β) :
    run step state (symbol :: rest) = (step state symbol).andThen step rest := by
  simp only [run]
  cases step state symbol <;> rfl

/-- Further input after a run: a running machine reads it, a stopped one leaves it. -/
def Outcome.andThen (step : σ → β → Verdict σ ε) (outcome : Outcome σ β ε)
    (more : List β) : Outcome σ β ε :=
  match outcome with
  | .more state => run step state more
  | .finished state rest => .finished state (rest ++ more)
  | .failed error => .failed error

theorem run_append (step : σ → β → Verdict σ ε) (state : σ) (first second : List β) :
    run step state (first ++ second) = (run step state first).andThen step second := by
  induction first generalizing state with
  | nil => rfl
  | cons symbol rest ih =>
    simp only [List.cons_append, run]
    cases step state symbol with
    | more next => exact ih next
    | finished next => rfl
    | failed error => rfl

/-- A run that finishes does so at one symbol: it ran on everything before it. -/
theorem run_finished_split {step : σ → β → Verdict σ ε} {state final : σ} {input rest : List β}
    (ends : run step state input = .finished final rest) :
    ∃ before symbol middle, input = before ++ symbol :: rest ∧
      run step state before = .more middle ∧ step middle symbol = .finished final := by
  induction input generalizing state with
  | nil => cases ends
  | cons symbol later ih =>
    cases stepped : step state symbol with
    | more next =>
      simp only [run, stepped] at ends
      obtain ⟨before, last, middle, rfl, ran, closes⟩ := ih ends
      exact ⟨symbol :: before, last, middle, rfl, by simpa [run, stepped] using ran, closes⟩
    | finished next =>
      simp only [run, stepped, Outcome.finished.injEq] at ends
      obtain ⟨rfl, rfl⟩ := ends
      exact ⟨[], symbol, state, rfl, rfl, stepped⟩
    | failed error => simp [run, stepped] at ends

/-- Feed chunks in order and stop feeding once the machine stops. The second component
collects what was handed over. -/
def runChunks (step : σ → β → Verdict σ ε) : σ → List (List β) → Outcome σ β ε × List β
  | state, [] => (.more state, [])
  | state, chunk :: chunks =>
      match run step state chunk with
      | .more next =>
          let later := runChunks step next chunks
          (later.1, chunk ++ later.2)
      | stopped => (stopped, chunk)

theorem runChunks_more {step : σ → β → Verdict σ ε} {state next : σ} {chunk : List β}
    (ran : run step state chunk = .more next) (chunks : List (List β)) :
    runChunks step state (chunk :: chunks) =
      ((runChunks step next chunks).1, chunk ++ (runChunks step next chunks).2) := by
  simp only [runChunks, ran]

theorem runChunks_stopped {step : σ → β → Verdict σ ε} {state : σ} {chunk : List β}
    {outcome : Outcome σ β ε} (ran : run step state chunk = outcome)
    (stopped : ∀ next, outcome ≠ .more next) (chunks : List (List β)) :
    runChunks step state (chunk :: chunks) = (outcome, chunk) := by
  subst ran
  cases known : run step state chunk with
  | more next => exact absurd known (stopped next)
  | finished next rest => simp only [runChunks, known]
  | failed error => simp only [runChunks, known]

/-- What is handed over is a prefix of the whole input. A machine still running
received all of it, and one that stopped left a suffix of the same length. -/
theorem runChunks_eq (step : σ → β → Verdict σ ε) (state : σ) (chunks : List (List β)) :
    ∃ withheld, chunks.flatten = (runChunks step state chunks).2 ++ withheld ∧
      run step state chunks.flatten = (runChunks step state chunks).1.andThen step withheld ∧
      (∀ final, (runChunks step state chunks).1 = .more final → withheld = []) := by
  induction chunks generalizing state with
  | nil => exact ⟨[], rfl, rfl, fun _ _ => rfl⟩
  | cons chunk chunks ih =>
    cases ran : run step state chunk with
    | more next =>
      obtain ⟨withheld, cut, whole, all⟩ := ih next
      refine ⟨withheld, ?_, ?_, ?_⟩
      · simp only [runChunks, ran, List.flatten_cons, cut, List.append_assoc]
      · simp only [runChunks, ran, List.flatten_cons, run_append, Outcome.andThen] at whole ⊢
        exact whole
      · simpa only [runChunks, ran] using all
    | finished final rest =>
      refine ⟨chunks.flatten, ?_, ?_, ?_⟩
      · simp only [runChunks, ran, List.flatten_cons]
      · simp only [runChunks, ran, List.flatten_cons, run_append]
      · simp [runChunks, ran]
    | failed error =>
      refine ⟨chunks.flatten, ?_, ?_, ?_⟩
      · simp only [runChunks, ran, List.flatten_cons]
      · simp only [runChunks, ran, List.flatten_cons, run_append]
      · simp [runChunks, ran]

/-- Chunks that leave the machine running are read in full before the later ones. -/
theorem runChunks_append {step : σ → β → Verdict σ ε} {state next : σ} {before : List (List β)}
    (ran : run step state before.flatten = .more next) (chunks : List (List β)) :
    runChunks step state (before ++ chunks) =
      ((runChunks step next chunks).1, before.flatten ++ (runChunks step next chunks).2) := by
  induction before generalizing state with
  | nil =>
    cases ran
    rfl
  | cons chunk before ih =>
    rw [List.flatten_cons, run_append] at ran
    cases first : run step state chunk with
    | more middle =>
      rw [first] at ran
      rw [List.cons_append, runChunks_more first, ih ran]
      simp
    | finished middle rest => rw [first] at ran; cases ran
    | failed error => rw [first] at ran; cases ran

/-- Feeding that finishes does so within one chunk, after running on those before it. -/
theorem runChunks_finished_split {step : σ → β → Verdict σ ε} {state final : σ}
    {chunks : List (List β)} {rest handed : List β}
    (ends : runChunks step state chunks = (.finished final rest, handed)) :
    ∃ before last after middle, chunks = before ++ last :: after ∧
      run step state before.flatten = .more middle ∧ run step middle last = .finished final rest ∧
      handed = before.flatten ++ last := by
  induction chunks generalizing state handed with
  | nil => cases ends
  | cons chunk chunks ih =>
    cases first : run step state chunk with
    | more next =>
      rw [runChunks_more first] at ends
      have outcome : (runChunks step next chunks).1 = .finished final rest :=
        congrArg Prod.fst ends
      have handedOver : chunk ++ (runChunks step next chunks).2 = handed :=
        congrArg Prod.snd ends
      have pair : runChunks step next chunks =
          (.finished final rest, (runChunks step next chunks).2) := Prod.ext outcome rfl
      obtain ⟨before, last, after, middle, cut, ran, closes, split⟩ := ih pair
      refine ⟨chunk :: before, last, after, middle, by rw [cut]; rfl, ?_, closes, ?_⟩
      · rw [List.flatten_cons, run_append, first]
        exact ran
      · rw [← handedOver, split, List.flatten_cons, List.append_assoc]
    | finished next left =>
      rw [runChunks_stopped first (by simp)] at ends
      cases ends
      exact ⟨[], chunk, chunks, state, rfl, rfl, first, rfl⟩
    | failed error =>
      rw [runChunks_stopped first (by simp)] at ends
      cases ends

/-- Before the input of a finishing run is used up, the machine runs on. -/
theorem run_prefix_more {step : σ → β → Verdict σ ε} {state final : σ} {first second rest : List β}
    (ends : run step state (first ++ second) = .finished final rest)
    (short : rest.length < second.length) : ∃ next, run step state first = .more next := by
  rw [run_append] at ends
  cases ran : run step state first with
  | more next => exact ⟨next, rfl⟩
  | finished next left =>
    rw [ran] at ends
    cases ends
    simp only [List.length_append] at short
    omega
  | failed error => rw [ran] at ends; cases ends

end FantomLedger.Library.Machine
