import Mathlib.Data.Nat.Digits.Lemmas

/-! Numerals: the digits of a number in a base. -/

namespace FantomLedger.Library.Numerals

/-- The digits of a number, the least significant one first; zero has one digit. -/
def numeral (base number : Nat) : List Nat := number % base :: base.digits (number / base)

variable {base number : Nat}

theorem numeral_last (small : number / base = 0) : numeral base number = [number % base] := by
  rw [numeral, small, Nat.digits_zero]

theorem numeral_step (two : 2 ≤ base) (more : number / base ≠ 0) :
    numeral base number = number % base :: numeral base (number / base) := by
  rw [numeral, numeral, Nat.digits_def' two (Nat.pos_of_ne_zero more)]

theorem numeral_of_pos (two : 2 ≤ base) (positive : 0 < number) :
    numeral base number = base.digits number := by
  rw [numeral, Nat.digits_def' two positive]

theorem ofDigits_numeral (base number : Nat) : Nat.ofDigits base (numeral base number) = number := by
  rw [numeral, Nat.ofDigits_cons, Nat.ofDigits_digits]
  exact Nat.mod_add_div number base

theorem numeral_digit_lt (two : 2 ≤ base) {digit : Nat} (member : digit ∈ numeral base number) :
    digit < base := by
  rcases List.mem_cons.mp member with rfl | later
  · exact Nat.mod_lt _ (by omega)
  · exact Nat.digits_lt_base two later

theorem numeral_length_le (two : 2 ≤ base) {bound : Nat} (positive : 0 < bound) :
    (numeral base number).length ≤ bound ↔ number < base ^ bound := by
  obtain ⟨rest, rfl⟩ := Nat.exists_eq_add_of_le' (Nat.succ_le_of_lt positive)
  rw [numeral, List.length_cons, Nat.succ_le_succ_iff, Nat.digits_length_le_iff two,
    Nat.div_lt_iff_lt_mul (by omega), pow_succ]

theorem numeral_length_pos (base number : Nat) : 0 < (numeral base number).length :=
  Nat.succ_pos _

end FantomLedger.Library.Numerals
