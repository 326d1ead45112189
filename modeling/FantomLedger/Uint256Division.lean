import FantomLedger.Library.LongDivision
import FantomLedger.Uint256Arith

/-! The division of 256-bit numbers ends and is exact, for every divisor but zero. -/

namespace FantomLedger

open Library

theorem size_half {number : Nat} (nonzero : number ≠ 0) :
    number.size = (number / 2).size + 1 := by
  have bits := Nat.bit_testBit_zero_shiftRight_one number
  rw [Nat.shiftRight_one] at bits
  conv_lhs => rw [← bits]
  exact Nat.size_bit (by rw [bits]; exact nonzero)

theorem countShifts_eq (rounds : Nat) (rest : Uint128) (result : Nat)
    (enough : rest.toNat < 2 ^ rounds) :
    countShifts rounds rest result = result + rest.toNat.size := by
  induction rounds generalizing rest result with
  | zero =>
    have zero : rest.toNat = 0 := by omega
    rw [zero, Nat.size_zero]
    rfl
  | succ rounds ih =>
    unfold countShifts
    by_cases zero : rest.toNat = 0
    · rw [if_pos ((isZero128_iff rest).mpr zero), zero, Nat.size_zero, Nat.add_zero]
    · have half : (shiftRight128 rest 1).toNat = rest.toNat / 2 := shiftRight128_toNat rest 1
      rw [if_neg (by rw [isZero128_iff]; exact zero), ih _ _ (by rw [half]; omega), half,
        size_half zero]
      omega

theorem bits256_eq (number : Uint256) : bits256 number = number.toNat.size := by
  unfold bits256 Uint256.toNat
  by_cases zero : number.upper.toNat = 0
  · rw [(isZero128_iff _).mpr zero, countShifts_eq _ _ _ number.lower.toNat_lt, zero]
    simp [DoubleWord.value]
  · have nonzero : isZero128 number.upper = false := by
      rw [← Bool.not_eq_true, isZero128_iff]
      exact zero
    rw [nonzero, countShifts_eq _ _ _ number.upper.toNat_lt,
      DoubleWord.size_value number.lower.toNat_lt zero]
    rfl

/-- The values of the division loop as natural numbers. -/
def Division.values (state : Division) : LongDivision.State :=
  ⟨state.copyD.toNat, state.adder.toNat, state.resDiv.toNat, state.resMod.toNat⟩

theorem divRound_values (state : Division) :
    (divRound state).values = LongDivision.round state.values := by
  unfold divRound LongDivision.round
  by_cases taken : state.copyD.toNat ≤ state.resMod.toNat
  · rw [if_pos ((gte256_iff _ _).mpr taken), if_pos (by exact taken)]
    simp [Division.values, minus256_toNat taken, or256_toNat, shiftRight256_toNat]
  · rw [if_neg (by rw [gte256_iff]; exact taken), if_neg (by exact taken)]
    simp [Division.values, shiftRight256_toNat]

theorem divLoop_values (r : Uint256) (rounds : Nat) (state : Division) :
    (divLoop r rounds state).map Division.values =
      LongDivision.loop r.toNat rounds state.values := by
  induction rounds generalizing state with
  | zero => rfl
  | succ rounds ih =>
    unfold divLoop LongDivision.loop
    by_cases goesOn : r.toNat ≤ state.resMod.toNat
    · rw [if_pos ((gte256_iff _ _).mpr goesOn), if_pos (by exact goesOn), ih, divRound_values]
    · rw [if_neg (by rw [gte256_iff]; exact goesOn), if_neg (by exact goesOn)]
      rfl

theorem divStart_values {l r : Uint256} (positive : 0 < r.toNat) (le : r.toNat ≤ l.toNat) :
    (divStart l r).values =
      LongDivision.start l.toNat r.toNat (l.toNat.size - r.toNat.size) := by
  have sizes : l.toNat.size ≤ 256 := Nat.size_le.mpr l.toNat_lt
  have rSize : 0 < r.toNat.size := Nat.size_pos.mpr positive
  have fits := (LongDivision.shift_size positive le).1
  unfold divStart LongDivision.start
  simp only [bits256_eq]
  generalize shift_eq : l.toNat.size - r.toNat.size = shift at fits
  have copyD : (shiftLeft256 r shift).toNat = r.toNat * 2 ^ shift := by
    rw [shiftLeft256_toNat]
    exact Nat.mod_eq_of_lt (fits.trans_le (Nat.pow_le_pow_right (by decide) sizes))
  have adder : (shiftLeft256 ⟨clear128, ⟨0, 1⟩⟩ shift).toNat = 2 ^ shift := by
    have one : (Uint256.mk clear128 ⟨0, 1⟩).toNat = 1 := by simp
    rw [shiftLeft256_toNat, one, Nat.one_mul]
    exact Nat.mod_eq_of_lt (Nat.pow_lt_pow_right (by decide) (by omega))
  by_cases far : l.toNat < r.toNat * 2 ^ shift
  · rw [if_pos ((gt256_iff _ _).mpr (by rw [copyD]; exact far)), if_pos far]
    simp only [Division.values, copyD, adder, shiftRight256_toNat, clear256_toNat, pow_one]
  · rw [if_neg (by rw [gt256_iff, copyD]; exact far), if_neg far]
    simp only [Division.values, copyD, adder, clear256_toNat]

/-- The division ends with quotient and remainder. -/
theorem divMod256_eq (l r : Uint256) (positive : 0 < r.toNat) :
    ∃ quotient remainder, divMod256 l r = some (quotient, remainder) ∧
      quotient.toNat = l.toNat / r.toNat ∧ remainder.toNat = l.toNat % r.toNat := by
  unfold divMod256
  by_cases larger : l.toNat < r.toNat
  · rw [if_pos ((gt256_iff _ _).mpr larger)]
    exact ⟨_, _, rfl, by rw [clear256_toNat, Nat.div_eq_of_lt larger],
      by rw [Nat.mod_eq_of_lt larger]⟩
  · rw [if_neg (by rw [gt256_iff]; exact larger)]
    have le : r.toNat ≤ l.toNat := by omega
    have sizes : l.toNat.size ≤ 256 := Nat.size_le.mpr l.toNat_lt
    obtain ⟨k, small, aligned⟩ :=
      LongDivision.start_aligned le (LongDivision.shift_size positive le).2
    obtain ⟨last, ends, quotient, remainder⟩ :=
      aligned.loop_ends positive (show k + 2 ≤ 258 by omega)
    rw [← divStart_values positive le, ← divLoop_values, Option.map_eq_some_iff] at ends
    obtain ⟨state, ends, rfl⟩ := ends
    rw [ends]
    exact ⟨_, _, rfl, quotient, remainder⟩

section Cells

variable {Cell : Type} [DecidableEq Cell]

/-- The division on pointers, which may be the same. Its results are stored at the end. -/
def divMod256Cells (l r retDiv retMod : Cell) (cells : Cell → Uint256) : Option (Cell → Uint256) :=
  if gt256 (cells r) (cells l) then
    let cells := Function.update cells retMod (cells l)
    some (Function.update cells retDiv clear256)
  else
    (divLoop (cells r) 258 (divStart (cells l) (cells r))).map fun state =>
      let cells := Function.update cells retDiv state.resDiv
      Function.update cells retMod state.resMod

/-- Apart from the two results no cell changes, and these are those of the division. -/
theorem divMod256Cells_eq (l r : Cell) {retDiv retMod : Cell} (apart : retDiv ≠ retMod)
    (cells : Cell → Uint256) :
    divMod256Cells l r retDiv retMod cells =
      (divMod256 (cells l) (cells r)).map fun results =>
        Function.update (Function.update cells retDiv results.1) retMod results.2 := by
  unfold divMod256Cells divMod256
  split
  · rw [Option.map_some]
    exact congrArg some (Function.update_comm apart.symm _ _ _)
  · rw [Option.map_map]
    rfl

/-- The division of two cells ends with quotient and remainder of their values before it,
whichever cells the results go to. -/
theorem divMod256Cells_divides (l r retDiv retMod : Cell) (cells : Cell → Uint256)
    (apart : retDiv ≠ retMod) (positive : 0 < (cells r).toNat) :
    ∃ after, divMod256Cells l r retDiv retMod cells = some after ∧
      (cells l).toNat = (after retDiv).toNat * (cells r).toNat + (after retMod).toNat ∧
      (after retMod).toNat < (cells r).toNat ∧
      ∀ other, other ≠ retDiv → other ≠ retMod → after other = cells other := by
  obtain ⟨quotient, remainder, divides, quotient_eq, remainder_eq⟩ :=
    divMod256_eq (cells l) (cells r) positive
  refine ⟨Function.update (Function.update cells retDiv quotient) retMod remainder, ?_, ?_, ?_, ?_⟩
  · rw [divMod256Cells_eq l r apart, divides]
    rfl
  · rw [Function.update_of_ne apart, Function.update_self, Function.update_self, quotient_eq,
      remainder_eq, Nat.mul_comm]
    exact (Nat.div_add_mod _ _).symm
  · rw [Function.update_self, remainder_eq]
    exact Nat.mod_lt _ positive
  · intro other notDiv notMod
    rw [Function.update_of_ne notMod, Function.update_of_ne notDiv]

/-- A dividend of 2 ^ 64 in a cell that also takes the quotient, and a divisor of 10. -/
def dividendAndBase : Fin 3 → Uint256 :=
  ![⟨⟨0, 0⟩, ⟨1, 0⟩⟩, ⟨⟨0, 0⟩, ⟨0, 10⟩⟩, clear256]

theorem dividend_overwritten :
    ∃ after, divMod256Cells 0 1 0 2 dividendAndBase = some after ∧
      (dividendAndBase 0).toNat = (after 0).toNat * (dividendAndBase 1).toNat + (after 2).toNat ∧
      (after 2).toNat < (dividendAndBase 1).toNat ∧
      ∀ other, other ≠ 0 → other ≠ 2 → after other = dividendAndBase other :=
  divMod256Cells_divides (0 : Fin 3) 1 0 2 dividendAndBase (by decide) (by decide)

end Cells

end FantomLedger
