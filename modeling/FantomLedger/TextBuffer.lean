import FantomLedger.Errors
import Mathlib.Data.List.Basic

/-! Character arrays: loads and stores at an index, and the string that an array holds. -/

namespace FantomLedger

open Library.Program

/-- Code that works on one character array. -/
abbrev TextCode := EStateM Exc (List Char)

namespace TextBuffer

def load (index : Nat) : TextCode Char := do
  inside ((← get)[index]?)

def store (index : Nat) (c : Char) : TextCode Unit := do
  if index < (← get).length then
    modify fun memory => memory.set index c
  else
    throw .undefined

/-- `target[offset++] = c` for one character after the other. -/
def storeAll : Nat → List Char → TextCode Nat
  | offset, [] => pure offset
  | offset, c :: text => do
    store offset c
    storeAll (offset + 1) text

/-- The string at the start of an array; none when no terminator ends it. -/
def cString (memory : List Char) : Option (List Char) :=
  if '\x00' ∈ memory then some (memory.takeWhile (· ≠ '\x00')) else none

/-- Run code on an array of its own. -/
def onBuffer {σ α : Type} (memory : List Char) (body : TextCode α) : EStateM Exc σ (α × List Char) :=
  fun state =>
    match body.run memory with
    | .ok result after => .ok (result, after) state
    | .error exc _ => .error exc state

theorem onBuffer_ok {σ α : Type} {memory changed : List Char} {body : TextCode α} {result : α}
    (run : body.run memory = .ok result changed) (state : σ) :
    (onBuffer memory body).run state = .ok (result, changed) state := by
  simp only [EStateM.run, onBuffer] at run ⊢
  rw [run]

theorem onBuffer_error {σ α : Type} {memory changed : List Char} {body : TextCode α} {exc : Exc}
    (run : body.run memory = .error exc changed) (state : σ) :
    (onBuffer memory body).run state = .error exc state := by
  simp only [EStateM.run, onBuffer] at run ⊢
  rw [run]

theorem load_run (before : List Char) (c : Char) (after : List Char) :
    (load before.length).run (before ++ c :: after) = .ok c (before ++ c :: after) := by
  simp [load]

theorem store_run (before : List Char) (old c : Char) (after : List Char) :
    (store before.length c).run (before ++ old :: after) = .ok () (before ++ c :: after) := by
  simp [store]

theorem store_run_end (memory : List Char) (c : Char) :
    (store memory.length c).run memory = .error .undefined memory := by
  simp [store]

theorem storeAll_run (before text room after : List Char) (fits : room.length = text.length) :
    (storeAll before.length text).run (before ++ room ++ after) =
      .ok (before.length + text.length) (before ++ text ++ after) := by
  induction text generalizing before room with
  | nil =>
    obtain rfl := List.eq_nil_of_length_eq_zero fits
    rfl
  | cons c text ih =>
    obtain ⟨old, room, rfl⟩ := List.exists_cons_of_length_eq_add_one fits
    have stored := store_run before old c (room ++ after)
    have later := ih (before ++ [c]) room (by simpa using fits)
    simp only [List.length_append, List.length_cons, List.length_nil, List.append_assoc,
      List.cons_append, List.nil_append] at later ⊢
    rw [storeAll, EStateM.run_bind, stored]
    simp only [later]
    congr 1
    omega

theorem keeps_load (index : Nat) : Keeps List.length (load index) :=
  keeps_get.bind fun _ => keeps_inside _

theorem keeps_store (index : Nat) (c : Char) : Keeps List.length (store index c) := by
  apply keeps_get.bind
  intro memory
  apply keeps_ite
  · exact keeps_modify fun _ => List.length_set
  · exact keeps_throw _

theorem keeps_storeAll (offset : Nat) (text : List Char) : Keeps List.length (storeAll offset text) := by
  induction text generalizing offset with
  | nil => exact keeps_pure _
  | cons c text ih => exact (keeps_store offset c).bind fun _ => ih (offset + 1)

theorem keeps_onBuffer {σ α γ : Type} {measure : σ → γ} (memory : List Char) (body : TextCode α) :
    Keeps measure (onBuffer memory body) := by
  intro state
  cases run : body.run memory with
  | ok result after => rw [onBuffer_ok run]
  | error exc after => rw [onBuffer_error run]

theorem cString_terminated {text : List Char} (clean : '\x00' ∉ text) (rest : List Char) :
    cString (text ++ '\x00' :: rest) = some text := by
  have stop : (text ++ '\x00' :: rest).takeWhile (· ≠ '\x00') = text := by
    rw [List.takeWhile_append_of_pos]
    · simp
    · intro c inText
      simp only [ne_eq, decide_not, Bool.not_eq_eq_eq_not, Bool.not_true, decide_eq_false_iff_not]
      rintro rfl
      exact clean inText
  rw [cString, if_pos (by simp), stop]

end TextBuffer

end FantomLedger
