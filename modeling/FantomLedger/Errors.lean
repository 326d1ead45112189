import FantomLedger.Library.Program
import Mathlib.Algebra.Group.Nat.Defs

/-! Error codes of the application and the ways in which its code can stop. -/

namespace FantomLedger

def success : Nat := 0x9000
def errPassFrom : Nat := 0x6E00
def errBadRequestHeader : Nat := 0x6E01
def errUnknownCla : Nat := 0x6E02
def errUnknownIns : Nat := 0x6E03
def errInvalidState : Nat := 0x6E04
def errInvalidParameters : Nat := 0x6E05
def errInvalidData : Nat := 0x6E06
def errRejectedByUser : Nat := 0x6E07
def errRejectedByPolicy : Nat := 0x6E08
def errDeviceLocked : Nat := 0x6E09
def errPassTo : Nat := 0x6E10
def errAssert : Nat := 0x6E32

/-- Any buffer claiming to be longer than this is a bug. -/
def maxBufferSize : Nat := 1024

/-- `thrown` is an exception of the SDK's TRY/CATCH system. A failed ASSERT resets the
device and is not caught. `undefined` is an access outside an array and `diverges` a loop
that used up its rounds: nothing is said about what the device does after either. -/
inductive Exc where
  | thrown (code : Nat)
  | reset
  | undefined
  | diverges
  deriving DecidableEq, Repr

variable {σ : Type}

def validate (cond : Bool) (code : Nat) : EStateM Exc σ Unit :=
  if cond then pure () else throw (.thrown code)

/-- ASSERT in the production build (RESET_ON_CRASH). -/
def assertThat (cond : Bool) : EStateM Exc σ Unit :=
  if cond then pure () else throw .reset

/-- An array access that has to stay inside the array. -/
def inside {α : Type} (access : Option α) : EStateM Exc σ α :=
  match access with
  | some value => pure value
  | none => throw .undefined

@[simp] theorem validate_true (code : Nat) : (validate true code : EStateM Exc σ Unit) = pure () := rfl

@[simp] theorem validate_false (code : Nat) :
    (validate false code : EStateM Exc σ Unit) = throw (.thrown code) := rfl

@[simp] theorem assertThat_true : (assertThat true : EStateM Exc σ Unit) = pure () := rfl

@[simp] theorem assertThat_false : (assertThat false : EStateM Exc σ Unit) = throw .reset := rfl

@[simp] theorem inside_some {α : Type} (value : α) :
    (inside (some value) : EStateM Exc σ α) = pure value := rfl

@[simp] theorem inside_none {α : Type} :
    (inside none : EStateM Exc σ α) = throw .undefined := rfl

theorem validate_eq_ok {cond : Bool} {code : Nat} {s t : σ} {result : Unit} :
    (validate cond code).run s = .ok result t ↔ cond = true ∧ s = t := by
  cases cond <;> simp

theorem assertThat_eq_ok {cond : Bool} {s t : σ} {result : Unit} :
    (assertThat cond).run s = .ok result t ↔ cond = true ∧ s = t := by
  cases cond <;> simp

theorem assertThat_bind_congr {α : Type} {cond : Bool} {code code' : Unit → EStateM Exc σ α} {s : σ}
    (same : cond = true → (code ()).run s = (code' ()).run s) :
    (assertThat cond >>= code).run s = (assertThat cond >>= code').run s := by
  cases cond with
  | false => rfl
  | true => exact same rfl

theorem inside_eq_ok {α : Type} {access : Option α} {s t : σ} {value : α} :
    (inside access).run s = .ok value t ↔ access = some value ∧ s = t := by
  cases access <;> simp

section Keeps

open Library.Program

variable {γ : Type} {measure : σ → γ}

theorem keeps_validate (cond : Bool) (code : Nat) : Keeps measure (validate cond code) := by
  cases cond
  · exact keeps_throw _
  · exact keeps_pure _

theorem keeps_assertThat (cond : Bool) : Keeps measure (assertThat cond) := by
  cases cond
  · exact keeps_throw _
  · exact keeps_pure _

theorem keeps_inside {α : Type} (access : Option α) : Keeps measure (inside access) := by
  cases access
  · exact keeps_throw _
  · exact keeps_pure _

end Keeps

section Goes

open Library.Program

variable {α γ : Type} {measure : σ → γ} {s : σ} {good : α → σ → Prop}

theorem goes_bind_validate {cond : Bool} {code : Nat} {next : Unit → EStateM Exc σ α}
    (rest : cond = true → Goes measure (next ()) s good) :
    Goes measure (validate cond code >>= next) s good := by
  cases cond
  · exact goes_of_error rfl rfl
  · exact rest rfl

theorem goes_bind_assert {cond : Bool} {next : Unit → EStateM Exc σ α}
    (rest : cond = true → Goes measure (next ()) s good) :
    Goes measure (assertThat cond >>= next) s good := by
  cases cond
  · exact goes_of_error rfl rfl
  · exact rest rfl

theorem goes_bind_inside {β : Type} {access : Option β} {next : β → EStateM Exc σ α}
    (rest : ∀ value, access = some value → Goes measure (next value) s good) :
    Goes measure (inside access >>= next) s good := by
  cases access with
  | none => exact goes_of_error rfl rfl
  | some value => exact rest value rfl

end Goes

section Ends

open Library.Program

variable {α : Type} {s : σ} {good : α → σ → Prop} {stops : Exc → σ → Prop}

theorem ends_bind_validate {cond : Bool} {code : Nat} {next : Unit → EStateM Exc σ α}
    (refused : stops (.thrown code) s) (rest : cond = true → Ends (next ()) s good stops) :
    Ends (validate cond code >>= next) s good stops := by
  cases cond
  · exact ends_of_error rfl refused
  · exact rest rfl

theorem ends_bind_assert {cond : Bool} {next : Unit → EStateM Exc σ α} (holds : cond = true)
    (rest : Ends (next ()) s good stops) : Ends (assertThat cond >>= next) s good stops := by
  rw [holds]
  exact rest

theorem ends_bind_inside {β : Type} {access : Option β} {next : β → EStateM Exc σ α} {value : β}
    (holds : access = some value) (rest : Ends (next value) s good stops) :
    Ends (inside access >>= next) s good stops := by
  rw [holds]
  exact rest

end Ends

section Alike

open Library.Program

variable {τ : Type}

theorem alike_validate (cond : Bool) (code : Nat) :
    Alike (validate cond code : EStateM Exc σ Unit) (validate cond code : EStateM Exc τ Unit) := by
  cases cond
  · exact alike_throw _
  · exact alike_pure _

theorem alike_assertThat (cond : Bool) :
    Alike (assertThat cond : EStateM Exc σ Unit) (assertThat cond : EStateM Exc τ Unit) := by
  cases cond
  · exact alike_throw _
  · exact alike_pure _

theorem alike_inside {α : Type} (access : Option α) :
    Alike (inside access : EStateM Exc σ α) (inside access : EStateM Exc τ α) := by
  cases access
  · exact alike_throw _
  · exact alike_pure _

end Alike

section InStep

open Library.Program

variable {α : Type} {level : σ → σ → Prop} {s t : σ} {good : α → σ → σ → Prop}
  {next later : Unit → EStateM Exc σ α}

theorem inStep_bind_validate {cond : Bool} {code : Nat} (levelled : level s t)
    (rest : cond = true → InStep level (next ()) (later ()) s t good) :
    InStep level (validate cond code >>= next) (validate cond code >>= later) s t good := by
  apply (alike_validate cond code).inStep_bind () levelled
  intro _ run
  exact rest (validate_eq_ok.mp run).1

theorem inStep_bind_assert {cond : Bool} (levelled : level s t)
    (rest : cond = true → InStep level (next ()) (later ()) s t good) :
    InStep level (assertThat cond >>= next) (assertThat cond >>= later) s t good := by
  apply (alike_assertThat cond).inStep_bind () levelled
  intro _ run
  exact rest (assertThat_eq_ok.mp run).1

end InStep

/-- Wrapping arithmetic on `uint32_t`. -/
def u32 (n : Nat) : Nat := n % 2 ^ 32

def u32Sub (a b : Nat) : Nat := (a + 2 ^ 32 - b) % 2 ^ 32

theorem u32_of_lt {n : Nat} (small : n < 2 ^ 32) : u32 n = n := Nat.mod_eq_of_lt small

theorem u32Sub_of_le {a b : Nat} (le : b ≤ a) (small : a < 2 ^ 32) : u32Sub a b = a - b := by
  unfold u32Sub
  have split : a + 2 ^ 32 - b = (a - b) + 2 ^ 32 := by omega
  rw [split, Nat.add_mod_right]
  exact Nat.mod_eq_of_lt (by omega)

end FantomLedger
