import Mathlib.Data.List.Basic

/-! Conversations of a party that asks with one that answers: no answer comes unasked, and none comes
twice. -/

namespace FantomLedger.Library.Exchange

variable {ρ α : Type}

inductive Message (ρ α : Type) where
  | request (asked : ρ)
  | answer (answered : α)
  deriving DecidableEq, Repr

variable {fits : ρ → α → Prop} {messages : List (Message ρ α)} {asked : ρ} {answered : α}

/-- The last message is a request, and the answer fits it. -/
def Awaits (fits : ρ → α → Prop) (messages : List (Message ρ α)) (answered : α) : Prop :=
  ∃ earlier asked, messages = earlier ++ [.request asked] ∧ fits asked answered

/-- Every answer directly follows a request that it fits. -/
def Solicited (fits : ρ → α → Prop) (messages : List (Message ρ α)) : Prop :=
  ∀ before answered later, messages = before ++ .answer answered :: later → Awaits fits before answered

theorem awaits_request (holds : fits asked answered) :
    Awaits fits (messages ++ [.request asked]) answered := ⟨messages, asked, rfl, holds⟩

theorem solicited_nil : Solicited fits [] := by
  intro before answered later split
  cases before <;> cases split

/-- A message at the end is the one looked at, or it comes after it. -/
theorem split_snoc {before later : List (Message ρ α)} {message last : Message ρ α}
    (split : messages ++ [last] = before ++ message :: later) :
    (messages = before ∧ last = message) ∨ ∃ rest, messages = before ++ message :: rest := by
  rcases List.eq_nil_or_concat later with rfl | ⟨rest, final, rfl⟩
  · obtain ⟨same, ends⟩ := List.append_inj' split rfl
    exact .inl ⟨same, (List.cons.inj ends).1⟩
  · rw [List.concat_eq_append, ← List.cons_append, ← List.append_assoc] at split
    exact .inr ⟨rest, (List.append_inj' split rfl).1⟩

theorem Solicited.request (solicited : Solicited fits messages) (asked : ρ) :
    Solicited fits (messages ++ [.request asked]) := by
  intro before answered later split
  rcases split_snoc split with ⟨_, same⟩ | ⟨rest, earlier⟩
  · cases same
  · exact solicited before answered rest earlier

theorem Solicited.answer (solicited : Solicited fits messages) (awaits : Awaits fits messages answered) :
    Solicited fits (messages ++ [.answer answered]) := by
  intro before other later split
  rcases split_snoc split with ⟨rfl, same⟩ | ⟨rest, earlier⟩
  · cases same
    exact awaits
  · exact solicited before other rest earlier

end FantomLedger.Library.Exchange
