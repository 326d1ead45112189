import Mathlib.Logic.Basic

/-! Sequential programs that may throw. A throw keeps the memory as it finds it, so a
specification says what holds after a normal return and what holds after a throw. -/

namespace FantomLedger.Library.Program

variable {σ ε α β : Type}

instance decidableEqResult [DecidableEq σ] [DecidableEq ε] [DecidableEq α] :
    DecidableEq (EStateM.Result ε σ α)
  | .ok result s, .ok other t => decidable_of_iff (result = other ∧ s = t) (by simp)
  | .error error s, .error other t => decidable_of_iff (error = other ∧ s = t) (by simp)
  | .ok _ _, .error _ _ => isFalse nofun
  | .error _ _, .ok _ _ => isFalse nofun

@[simp] theorem run_throw (error : ε) (s : σ) :
    (throw error : EStateM ε σ α).run s = .error error s := rfl

@[simp] theorem run_map (f : α → β) (body : EStateM ε σ α) (s : σ) :
    (f <$> body).run s =
      match body.run s with
      | .ok result t => .ok (f result) t
      | .error error t => .error error t := by
  show EStateM.map f body s = _
  unfold EStateM.map EStateM.run
  cases body s <;> rfl

theorem run_bind_ok {body : EStateM ε σ α} {s t : σ} {result : α}
    (first : body.run s = .ok result t) (next : α → EStateM ε σ β) :
    (body >>= next).run s = (next result).run t := by
  rw [EStateM.run_bind, first]

theorem run_bind_error {body : EStateM ε σ α} {s t : σ} {error : ε}
    (first : body.run s = .error error t) (next : α → EStateM ε σ β) :
    (body >>= next).run s = .error error t := by
  rw [EStateM.run_bind, first]

theorem run_bind_eq_ok {body : EStateM ε σ α} {next : α → EStateM ε σ β} {s t : σ} {result : β} :
    (body >>= next).run s = .ok result t ↔
      ∃ first u, body.run s = .ok first u ∧ (next first).run u = .ok result t := by
  cases ran : body.run s with
  | ok first u =>
    rw [run_bind_ok ran]
    constructor
    · intro rest
      exact ⟨first, u, rfl, rest⟩
    · rintro ⟨_, _, ⟨⟩, rest⟩
      exact rest
  | error error u =>
    rw [run_bind_error ran]
    constructor
    · nofun
    · rintro ⟨_, _, ⟨⟩, _⟩

/-- Whether a run returns in a state that meets the condition. -/
def returnsIn (condition : σ → Bool) (body : EStateM ε σ α) (s : σ) : Bool :=
  match body.run s with
  | .ok _ t => condition t
  | .error _ _ => false

theorem returnsIn_iff {condition : σ → Bool} {body : EStateM ε σ α} {s : σ} :
    returnsIn condition body s = true ↔
      ∃ result t, body.run s = .ok result t ∧ condition t = true := by
  unfold returnsIn
  cases body.run s with
  | ok result t =>
    constructor
    · exact fun holds => ⟨result, t, rfl, holds⟩
    · rintro ⟨_, _, ⟨⟩, holds⟩
      exact holds
  | error error t =>
    constructor
    · nofun
    · rintro ⟨_, _, ⟨⟩, _⟩

/-- Run a body until it yields a result; `exhausted` reports that the rounds ran out. -/
def iterate (exhausted : ε) (body : EStateM ε σ (Option α)) : Nat → EStateM ε σ α
  | 0 => throw exhausted
  | rounds + 1 => do
      match ← body with
      | some result => pure result
      | none => iterate exhausted body rounds

theorem iterate_run_some {exhausted : ε} {body : EStateM ε σ (Option α)} {s t : σ} {result : α}
    (round : body.run s = .ok (some result) t) (rounds : Nat) :
    (iterate exhausted body (rounds + 1)).run s = .ok result t := by
  simp [iterate, round]

theorem iterate_run_none {exhausted : ε} {body : EStateM ε σ (Option α)} {s t : σ}
    (round : body.run s = .ok none t) (rounds : Nat) :
    (iterate exhausted body (rounds + 1)).run s = (iterate exhausted body rounds).run t := by
  simp [iterate, round]

theorem iterate_run_error {exhausted error : ε} {body : EStateM ε σ (Option α)} {s t : σ}
    (round : body.run s = .error error t) (rounds : Nat) :
    (iterate exhausted body (rounds + 1)).run s = .error error t := by
  simp [iterate, round]

/-- No run changes what the measure says of the state. -/
def Keeps (measure : σ → β) (body : EStateM ε σ α) : Prop :=
  ∀ s, match body.run s with
    | .ok _ t => measure t = measure s
    | .error _ t => measure t = measure s

section Keeps

variable {γ : Type} {measure : σ → γ}

theorem Keeps.of_ok {body : EStateM ε σ α} (keeps : Keeps measure body) {s t : σ} {result : α}
    (run : body.run s = .ok result t) : measure t = measure s := by
  have kept := keeps s
  rwa [run] at kept

theorem Keeps.of_error {body : EStateM ε σ α} (keeps : Keeps measure body) {s t : σ} {error : ε}
    (run : body.run s = .error error t) : measure t = measure s := by
  have kept := keeps s
  rwa [run] at kept

/-- Code that keeps the whole state returns with the state it started from. -/
theorem state_of_ok {body : EStateM ε σ α} (keeps : Keeps id body) {s t : σ} {result : α}
    (run : body.run s = .ok result t) : t = s :=
  keeps.of_ok run

theorem keeps_pure (result : α) : Keeps measure (pure result : EStateM ε σ α) := fun _ => rfl

theorem keeps_throw (error : ε) : Keeps measure (throw error : EStateM ε σ α) := fun _ => rfl

theorem keeps_get : Keeps measure (get : EStateM ε σ σ) := fun _ => rfl

theorem keeps_modify {change : σ → σ} (kept : ∀ s, measure (change s) = measure s) :
    Keeps measure (modify change : EStateM ε σ PUnit) := kept

theorem Keeps.bind {body : EStateM ε σ α} {next : α → EStateM ε σ β} (first : Keeps measure body)
    (second : ∀ result, Keeps measure (next result)) : Keeps measure (body >>= next) := by
  intro s
  cases run : body.run s with
  | ok result t =>
    rw [run_bind_ok run, ← first.of_ok run]
    exact second result t
  | error error t =>
    rw [run_bind_error run]
    exact first.of_error run

theorem Keeps.map {body : EStateM ε σ α} (keeps : Keeps measure body) (f : α → β) :
    Keeps measure (f <$> body) := by
  rw [map_eq_pure_bind]
  exact keeps.bind fun result => keeps_pure (f result)

theorem keeps_ite {condition : Prop} [Decidable condition] {yes no : EStateM ε σ α}
    (ifYes : Keeps measure yes) (ifNo : Keeps measure no) :
    Keeps measure (if condition then yes else no) := by
  split
  · exact ifYes
  · exact ifNo

end Keeps

section Goes

variable {γ : Type} {measure : σ → γ} {body : EStateM ε σ α} {next : α → EStateM ε σ β} {s : σ}

/-- The run fails with what the measure says of the state unchanged, or it returns as the
condition says. -/
def Goes (measure : σ → γ) (body : EStateM ε σ α) (s : σ) (good : α → σ → Prop) : Prop :=
  match body.run s with
  | .ok result t => good result t
  | .error _ t => measure t = measure s

theorem goes_of_ok {t : σ} {result : α} {good : α → σ → Prop} (run : body.run s = .ok result t)
    (holds : good result t) : Goes measure body s good := by
  unfold Goes
  rw [run]
  exact holds

theorem goes_of_error {t : σ} {error : ε} {good : α → σ → Prop} (run : body.run s = .error error t)
    (kept : measure t = measure s) : Goes measure body s good := by
  unfold Goes
  rw [run]
  exact kept

theorem goes_of_keeps {good : α → σ → Prop} (keeps : Keeps measure body)
    (returns : ∀ result t, body.run s = .ok result t → good result t) : Goes measure body s good := by
  cases run : body.run s with
  | ok result t => exact goes_of_ok run (returns result t run)
  | error error t => exact goes_of_error run (keeps.of_error run)

theorem goes_throw (error : ε) {good : α → σ → Prop} :
    Goes measure (throw error : EStateM ε σ α) s good :=
  goes_of_error (run_throw error s) rfl

theorem Goes.mono {good better : α → σ → Prop} (goes : Goes measure body s good)
    (stronger : ∀ result t, good result t → better result t) : Goes measure body s better := by
  cases run : body.run s with
  | ok result t =>
    unfold Goes at goes
    rw [run] at goes
    exact goes_of_ok run (stronger result t goes)
  | error error t =>
    unfold Goes at goes
    rw [run] at goes
    exact goes_of_error run goes

theorem goes_of_run_eq {other : EStateM ε σ α} {good : α → σ → Prop} (same : body.run s = other.run s)
    (goes : Goes measure other s good) : Goes measure body s good := by
  unfold Goes at goes ⊢
  rwa [same]

/-- A part that leaves the measure alone comes first. -/
theorem Goes.bind {good : β → σ → Prop}
    (first : Goes measure body s fun result t => measure t = measure s ∧ Goes measure (next result) t good) :
    Goes measure (body >>= next) s good := by
  unfold Goes at first
  cases run : body.run s with
  | ok result t =>
    rw [run] at first
    obtain ⟨kept, rest⟩ := first
    unfold Goes
    rw [run_bind_ok run, ← kept]
    exact rest
  | error error t =>
    rw [run] at first
    exact goes_of_error (run_bind_error run next) first

theorem goes_bind_ok {good : β → σ → Prop} {t : σ} {result : α} (run : body.run s = .ok result t)
    (kept : measure t = measure s) (rest : Goes measure (next result) t good) :
    Goes measure (body >>= next) s good :=
  Goes.bind (goes_of_ok run ⟨kept, rest⟩)

/-- The run returns as the condition says. -/
def Returns (body : EStateM ε σ α) (s : σ) (good : α → σ → Prop) : Prop :=
  ∃ result t, body.run s = .ok result t ∧ good result t

theorem returns_of_ok {t : σ} {result : α} {good : α → σ → Prop} (run : body.run s = .ok result t)
    (holds : good result t) : Returns body s good := ⟨result, t, run, holds⟩

theorem returns_bind_ok {good : β → σ → Prop} {t : σ} {result : α} (run : body.run s = .ok result t)
    (rest : Returns (next result) t good) : Returns (body >>= next) s good := by
  obtain ⟨value, u, ran, holds⟩ := rest
  exact ⟨value, u, (run_bind_ok run next).trans ran, holds⟩

/-- A part comes first after which nothing fails. -/
theorem Goes.bind_returns {good : β → σ → Prop}
    (first : Goes measure body s fun result t => Returns (next result) t good) :
    Goes measure (body >>= next) s good := by
  unfold Goes at first
  cases run : body.run s with
  | ok result t =>
    rw [run] at first
    obtain ⟨value, u, ran, holds⟩ := first
    exact goes_of_ok ((run_bind_ok run next).trans ran) holds
  | error error t =>
    rw [run] at first
    exact goes_of_error (run_bind_error run next) first

theorem goes_bind_keeps {good : β → σ → Prop} (keeps : Keeps measure body)
    (rest : ∀ result t, body.run s = .ok result t → Goes measure (next result) t good) :
    Goes measure (body >>= next) s good :=
  Goes.bind (goes_of_keeps keeps fun result t run => ⟨keeps.of_ok run, rest result t run⟩)

end Goes

section Ends

variable {body : EStateM ε σ α} {next : α → EStateM ε σ β} {s : σ} {stops : ε → σ → Prop}

/-- The run returns as one condition says, or it stops as the other one says. -/
def Ends (body : EStateM ε σ α) (s : σ) (good : α → σ → Prop) (stops : ε → σ → Prop) : Prop :=
  match body.run s with
  | .ok result t => good result t
  | .error error t => stops error t

theorem ends_of_ok {t : σ} {result : α} {good : α → σ → Prop} (run : body.run s = .ok result t)
    (holds : good result t) : Ends body s good stops := by
  unfold Ends
  rw [run]
  exact holds

theorem ends_of_error {t : σ} {error : ε} {good : α → σ → Prop} (run : body.run s = .error error t)
    (stopped : stops error t) : Ends body s good stops := by
  unfold Ends
  rw [run]
  exact stopped

theorem Ends.of_ok {good : α → σ → Prop} (ends : Ends body s good stops) {t : σ} {result : α}
    (run : body.run s = .ok result t) : good result t := by
  unfold Ends at ends
  rwa [run] at ends

theorem Ends.of_error {good : α → σ → Prop} (ends : Ends body s good stops) {t : σ} {error : ε}
    (run : body.run s = .error error t) : stops error t := by
  unfold Ends at ends
  rwa [run] at ends

theorem Ends.mono {good better : α → σ → Prop} (ends : Ends body s good stops)
    (stronger : ∀ result t, good result t → better result t) : Ends body s better stops := by
  cases run : body.run s with
  | ok result t => exact ends_of_ok run (stronger result t (ends.of_ok run))
  | error error t => exact ends_of_error run (ends.of_error run)

theorem Ends.weaken {good : α → σ → Prop} {other : ε → σ → Prop} (ends : Ends body s good stops)
    (weaker : ∀ error t, stops error t → other error t) : Ends body s good other := by
  cases run : body.run s with
  | ok result t => exact ends_of_ok run (ends.of_ok run)
  | error error t => exact ends_of_error run (weaker error t (ends.of_error run))

theorem Ends.bind {good : β → σ → Prop}
    (first : Ends body s (fun result t => Ends (next result) t good stops) stops) :
    Ends (body >>= next) s good stops := by
  cases run : body.run s with
  | ok result t =>
    have rest := first.of_ok run
    unfold Ends at rest ⊢
    rwa [run_bind_ok run]
  | error error t => exact ends_of_error (run_bind_error run next) (first.of_error run)

theorem ends_bind_ok {good : β → σ → Prop} {t : σ} {result : α} (run : body.run s = .ok result t)
    (rest : Ends (next result) t good stops) : Ends (body >>= next) s good stops :=
  Ends.bind (ends_of_ok run rest)

/-- A loop ends when every round that does not yield a result keeps the invariant and lowers the
rank of the state. -/
theorem ends_iterate {loop : EStateM ε σ (Option α)} {exhausted : ε} (invariant : σ → Prop)
    (rank : σ → Nat) {good : α → σ → Prop}
    (round : ∀ s, invariant s → Ends loop s (fun result t =>
      (result = none → invariant t ∧ rank t < rank s) ∧
        ∀ value, result = some value → good value t) stops)
    {rounds : Nat} {s : σ} (holds : invariant s) (enough : rank s < rounds) :
    Ends (iterate exhausted loop rounds) s good stops := by
  induction rounds generalizing s with
  | zero => exact absurd enough (Nat.not_lt_zero _)
  | succ rounds ih =>
    have ends := round s holds
    cases run : loop.run s with
    | ok result t =>
      obtain ⟨goesOn, yields⟩ := ends.of_ok run
      cases result with
      | none =>
        obtain ⟨kept, lower⟩ := goesOn rfl
        unfold Ends
        rw [iterate_run_none run]
        exact ih kept (by omega)
      | some value => exact ends_of_ok (iterate_run_some run rounds) (yields value rfl)
    | error error t => exact ends_of_error (iterate_run_error run rounds) (ends.of_error run)

/-- Rounds beyond the rank change nothing. -/
theorem iterate_run_eq {loop : EStateM ε σ (Option α)} {exhausted : ε} (invariant : σ → Prop)
    (rank : σ → Nat)
    (round : ∀ s t, invariant s → loop.run s = .ok none t → invariant t ∧ rank t < rank s)
    {rounds more : Nat} {s : σ} (holds : invariant s) (enough : rank s < rounds) (le : rounds ≤ more) :
    (iterate exhausted loop more).run s = (iterate exhausted loop rounds).run s := by
  induction rounds generalizing s more with
  | zero => exact absurd enough (Nat.not_lt_zero _)
  | succ rounds ih =>
    obtain ⟨more, rfl⟩ := Nat.exists_eq_succ_of_ne_zero (Nat.ne_zero_of_lt le)
    cases run : loop.run s with
    | ok result t =>
      cases result with
      | none =>
        obtain ⟨kept, lower⟩ := round s t holds run
        rw [iterate_run_none run, iterate_run_none run]
        exact ih kept (by omega) (Nat.le_of_succ_le_succ le)
      | some value => rw [iterate_run_some run, iterate_run_some run]
    | error error t => rw [iterate_run_error run, iterate_run_error run]

end Ends

section SameUnless

variable {failure : ε} {body other : EStateM ε σ α} {next later : α → EStateM ε σ β} {s : σ}

/-- The first run stops with the failure, or the two runs are the same. -/
def SameUnless (failure : ε) (body other : EStateM ε σ α) (s : σ) : Prop :=
  (∃ t, body.run s = .error failure t) ∨ body.run s = other.run s

theorem sameUnless_refl (failure : ε) (body : EStateM ε σ α) (s : σ) : SameUnless failure body body s :=
  .inr rfl

theorem SameUnless.bind (first : SameUnless failure body other s)
    (rest : ∀ result t, other.run s = .ok result t → SameUnless failure (next result) (later result) t) :
    SameUnless failure (body >>= next) (other >>= later) s := by
  rcases first with ⟨t, fails⟩ | same
  · exact .inl ⟨t, run_bind_error fails next⟩
  · cases run : other.run s with
    | ok result t =>
      rw [run] at same
      rcases rest result t run with ⟨u, fails⟩ | agrees
      · exact .inl ⟨u, by rw [run_bind_ok same, fails]⟩
      · exact .inr (by rw [run_bind_ok same, run_bind_ok run, agrees])
    | error error t =>
      rw [run] at same
      exact .inr (by rw [run_bind_error same, run_bind_error run])

/-- A part that both programs start with. -/
theorem sameUnless_bind {first : EStateM ε σ α}
    (rest : ∀ result t, first.run s = .ok result t → SameUnless failure (next result) (later result) t) :
    SameUnless failure (first >>= next) (first >>= later) s :=
  (sameUnless_refl failure first s).bind rest

theorem sameUnless_iterate {loop loop' : EStateM ε σ (Option α)} (exhausted : ε)
    (round : ∀ s, SameUnless failure loop loop' s) (rounds : Nat) (s : σ) :
    SameUnless failure (iterate exhausted loop rounds) (iterate exhausted loop' rounds) s := by
  induction rounds generalizing s with
  | zero => exact sameUnless_refl failure _ s
  | succ rounds ih =>
    apply (round s).bind
    intro result t _
    cases result with
    | none => exact ih t
    | some value => exact sameUnless_refl failure _ t

end SameUnless

section Alike

variable {τ : Type}

/-- Programs that end the same way on whatever states, and leave these as they are. -/
def Alike (first : EStateM ε σ α) (second : EStateM ε τ α) : Prop :=
  ∀ s t, match first.run s, second.run t with
    | .ok result s', .ok other t' => result = other ∧ s' = s ∧ t' = t
    | .error error s', .error other t' => error = other ∧ s' = s ∧ t' = t
    | _, _ => False

theorem alike_pure (result : α) : Alike (pure result : EStateM ε σ α) (pure result : EStateM ε τ α) :=
  fun _ _ => ⟨rfl, rfl, rfl⟩

theorem alike_throw (error : ε) : Alike (throw error : EStateM ε σ α) (throw error : EStateM ε τ α) :=
  fun _ _ => ⟨rfl, rfl, rfl⟩

theorem Alike.of_ok {first : EStateM ε σ α} {second : EStateM ε τ α} (alike : Alike first second)
    {s s' : σ} {result : α} (run : first.run s = .ok result s') (t : τ) :
    s' = s ∧ second.run t = .ok result t := by
  have both := alike s t
  rw [run] at both
  cases other : second.run t with
  | ok result' t' =>
    rw [other] at both
    obtain ⟨rfl, rfl, rfl⟩ := both
    exact ⟨rfl, rfl⟩
  | error error t' =>
    rw [other] at both
    exact both.elim

theorem Alike.of_error {first : EStateM ε σ α} {second : EStateM ε τ α} (alike : Alike first second)
    {s s' : σ} {error : ε} (run : first.run s = .error error s') (t : τ) :
    s' = s ∧ second.run t = .error error t := by
  have both := alike s t
  rw [run] at both
  cases other : second.run t with
  | ok result t' =>
    rw [other] at both
    exact both.elim
  | error error' t' =>
    rw [other] at both
    obtain ⟨rfl, rfl, rfl⟩ := both
    exact ⟨rfl, rfl⟩

theorem Alike.symm {first : EStateM ε σ α} {second : EStateM ε τ α} (alike : Alike first second) :
    Alike second first := by
  intro t s
  cases run : first.run s with
  | ok result s' =>
    obtain ⟨rfl, other⟩ := alike.of_ok run t
    rw [other]
    exact ⟨rfl, rfl, rfl⟩
  | error error s' =>
    obtain ⟨rfl, other⟩ := alike.of_error run t
    rw [other]
    exact ⟨rfl, rfl, rfl⟩

/-- Code that another state has no part in can be run on that state instead. -/
theorem Alike.goes_bind {γ : Type} {measure : σ → γ} {first : EStateM ε σ α}
    {second : EStateM ε τ α} (alike : Alike first second) (t : τ) {next : α → EStateM ε σ β} {s : σ}
    {good : β → σ → Prop}
    (rest : ∀ result, second.run t = .ok result t → Goes measure (next result) s good) :
    Goes measure (first >>= next) s good := by
  cases run : first.run s with
  | ok result s' =>
    obtain ⟨rfl, other⟩ := alike.of_ok run t
    exact goes_bind_ok run rfl (rest result other)
  | error error s' =>
    obtain ⟨rfl, _⟩ := alike.of_error run t
    exact goes_of_error (run_bind_error run _) rfl

theorem Alike.bind {first : EStateM ε σ α} {second : EStateM ε τ α} {next : α → EStateM ε σ β}
    {later : α → EStateM ε τ β} (alike : Alike first second)
    (rest : ∀ result, Alike (next result) (later result)) :
    Alike (first >>= next) (second >>= later) := by
  intro s t
  cases run : first.run s with
  | ok result s' =>
    obtain ⟨rfl, other⟩ := alike.of_ok run t
    rw [run_bind_ok run, run_bind_ok other]
    exact rest result s' t
  | error error s' =>
    obtain ⟨rfl, other⟩ := alike.of_error run t
    rw [run_bind_error run, run_bind_error other]
    exact ⟨rfl, rfl, rfl⟩

theorem alike_ite {condition : Prop} [Decidable condition] {yes no : EStateM ε σ α}
    {yes' no' : EStateM ε τ α} (ifYes : Alike yes yes') (ifNo : Alike no no') :
    Alike (if condition then yes else no) (if condition then yes' else no') := by
  split
  · exact ifYes
  · exact ifNo

end Alike

section InStep

variable {level : σ → σ → Prop} {first second : EStateM ε σ α} {next later : α → EStateM ε σ β} {s t : σ}

/-- Two runs that both return the same result as the condition says, or both fail with the same
error and with levelled states. -/
def InStep (level : σ → σ → Prop) (first second : EStateM ε σ α) (s t : σ)
    (good : α → σ → σ → Prop) : Prop :=
  match first.run s, second.run t with
  | .ok result s', .ok other t' => result = other ∧ good result s' t'
  | .error error s', .error other t' => error = other ∧ level s' t'
  | _, _ => False

theorem inStep_of_ok {s' t' : σ} {result : α} {good : α → σ → σ → Prop}
    (run : first.run s = .ok result s') (run' : second.run t = .ok result t')
    (holds : good result s' t') : InStep level first second s t good := by
  unfold InStep
  rw [run, run']
  exact ⟨rfl, holds⟩

theorem inStep_of_error {s' t' : σ} {error : ε} {good : α → σ → σ → Prop}
    (run : first.run s = .error error s') (run' : second.run t = .error error t')
    (levelled : level s' t') : InStep level first second s t good := by
  unfold InStep
  rw [run, run']
  exact ⟨rfl, levelled⟩

theorem inStep_throw (error : ε) {good : α → σ → σ → Prop} (levelled : level s t) :
    InStep level (throw error : EStateM ε σ α) (throw error) s t good :=
  inStep_of_error (run_throw error s) (run_throw error t) levelled

theorem InStep.cases {good : α → σ → σ → Prop} (inStep : InStep level first second s t good) :
    (∃ result s' t', first.run s = .ok result s' ∧ second.run t = .ok result t' ∧ good result s' t') ∨
      ∃ error s' t', first.run s = .error error s' ∧ second.run t = .error error t' ∧ level s' t' := by
  unfold InStep at inStep
  cases run : first.run s with
  | ok result s' =>
    cases run' : second.run t with
    | ok other t' =>
      rw [run, run'] at inStep
      obtain ⟨rfl, holds⟩ := inStep
      exact .inl ⟨result, s', t', rfl, rfl, holds⟩
    | error other t' =>
      rw [run, run'] at inStep
      exact inStep.elim
  | error error s' =>
    cases run' : second.run t with
    | ok other t' =>
      rw [run, run'] at inStep
      exact inStep.elim
    | error other t' =>
      rw [run, run'] at inStep
      obtain ⟨rfl, levelled⟩ := inStep
      exact .inr ⟨error, s', t', rfl, rfl, levelled⟩

theorem InStep.mono {good better : α → σ → σ → Prop} (inStep : InStep level first second s t good)
    (stronger : ∀ result s' t', good result s' t' → better result s' t') :
    InStep level first second s t better := by
  obtain ⟨result, s', t', run, run', holds⟩ | ⟨error, s', t', run, run', levelled⟩ := inStep.cases
  · exact inStep_of_ok run run' (stronger result s' t' holds)
  · exact inStep_of_error run run' levelled

theorem InStep.bind {middle : α → σ → σ → Prop} {good : β → σ → σ → Prop}
    (start : InStep level first second s t middle)
    (rest : ∀ result s' t', first.run s = .ok result s' → middle result s' t' →
      InStep level (next result) (later result) s' t' good) :
    InStep level (first >>= next) (second >>= later) s t good := by
  obtain ⟨result, s', t', run, run', holds⟩ | ⟨error, s', t', run, run', levelled⟩ := start.cases
  · have goesOn := rest result s' t' run holds
    unfold InStep
    rw [run_bind_ok run, run_bind_ok run']
    exact goesOn
  · exact inStep_of_error (run_bind_error run _) (run_bind_error run' _) levelled

theorem inStep_bind_ok {good : β → σ → σ → Prop} {s' t' : σ} {result : α}
    (run : first.run s = .ok result s') (run' : second.run t = .ok result t')
    (rest : InStep level (next result) (later result) s' t' good) :
    InStep level (first >>= next) (second >>= later) s t good := by
  unfold InStep
  rw [run_bind_ok run, run_bind_ok run']
  exact rest

/-- What two runs read of their states may differ, and what comes next with it. -/
theorem inStep_bind_get {next later : σ → EStateM ε σ β} {good : β → σ → σ → Prop}
    (rest : InStep level (next s) (later t) s t good) :
    InStep level (get >>= next) (get >>= later) s t good := by
  unfold InStep
  rw [run_bind_ok (EStateM.run_get s), run_bind_ok (EStateM.run_get t)]
  exact rest

/-- Code that the states have no part in goes in step with itself. -/
theorem Alike.inStep_bind {τ : Type} {body : EStateM ε σ α} {other : EStateM ε τ α}
    (alike : Alike body other) (u : τ) {good : β → σ → σ → Prop} (levelled : level s t)
    (rest : ∀ result, other.run u = .ok result u →
      InStep level (next result) (later result) s t good) :
    InStep level (body >>= next) (body >>= later) s t good := by
  cases run : other.run u with
  | ok result u' =>
    obtain ⟨rfl, ran⟩ := alike.symm.of_ok run s
    obtain ⟨_, ran'⟩ := alike.symm.of_ok run t
    exact inStep_bind_ok ran ran' (rest result run)
  | error error u' =>
    obtain ⟨rfl, ran⟩ := alike.symm.of_error run s
    obtain ⟨_, ran'⟩ := alike.symm.of_error run t
    exact inStep_of_error (run_bind_error ran _) (run_bind_error ran' _) levelled

end InStep

end FantomLedger.Library.Program
