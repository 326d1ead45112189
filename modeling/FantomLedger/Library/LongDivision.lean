import Mathlib.Data.Nat.Bitwise
import Mathlib.Data.Nat.Size
import Mathlib.Tactic.Ring

/-! Binary long division: a copy of the divisor is shifted to the top bit of the dividend
and moves down by one bit in each round. -/

namespace FantomLedger.Library.LongDivision

/-- The shifted divisor, the quotient bit that belongs to it, and the results so far. -/
structure State where
  copy : Nat
  adder : Nat
  quotient : Nat
  remainder : Nat

def round (state : State) : State :=
  let taken := if state.copy ≤ state.remainder then
      { state with
        remainder := state.remainder - state.copy
        quotient := state.quotient ||| state.adder }
    else state
  { taken with copy := taken.copy / 2, adder := taken.adder / 2 }

/-- None when the rounds do not bring the remainder below the divisor. -/
def loop (r : Nat) : Nat → State → Option State
  | 0, _ => none
  | rounds + 1, state => if r ≤ state.remainder then loop r rounds (round state) else some state

variable {l r k : Nat} {state : State}

/-- Quotient and remainder always make up the dividend. The quotient has no bit set from
the current one down, and the remainder no multiple of the divisor above it. -/
structure Aligned (l r k : Nat) (state : State) : Prop where
  copy : state.copy = r * 2 ^ k
  adder : state.adder = 2 ^ k
  sum : l = state.quotient * r + state.remainder
  clear : 2 ^ (k + 1) ∣ state.quotient
  bound : state.remainder < r * 2 ^ (k + 1)

/-- One more quotient bit is decided. -/
structure Decided (l r k : Nat) (state : State) : Prop where
  sum : l = state.quotient * r + state.remainder
  clear : 2 ^ k ∣ state.quotient
  bound : state.remainder < r * 2 ^ k

theorem or_eq_add {quotient : Nat} (clear : 2 ^ (k + 1) ∣ quotient) :
    quotient ||| 2 ^ k = quotient + 2 ^ k := by
  obtain ⟨high, rfl⟩ := clear
  exact (Nat.two_pow_add_eq_or_of_lt (Nat.pow_lt_pow_right (by decide) (Nat.lt_succ_self k))
    high).symm

theorem Aligned.decided (aligned : Aligned l r k state) : Decided l r k (round state) := by
  have halves : 2 ^ k ∣ state.quotient := (pow_dvd_pow 2 (Nat.le_succ k)).trans aligned.clear
  have doubled : r * 2 ^ (k + 1) = r * 2 ^ k + r * 2 ^ k := by ring
  have bound := aligned.bound
  have sum := aligned.sum
  unfold round
  rw [aligned.copy, aligned.adder]
  split_ifs with taken
  · refine ⟨?_, ?_, ?_⟩
    · show l = (state.quotient ||| 2 ^ k) * r + (state.remainder - r * 2 ^ k)
      rw [or_eq_add aligned.clear, Nat.add_mul, Nat.mul_comm (2 ^ k)]
      omega
    · show 2 ^ k ∣ state.quotient ||| 2 ^ k
      rw [or_eq_add aligned.clear]
      exact Nat.dvd_add halves (dvd_refl _)
    · show state.remainder - r * 2 ^ k < r * 2 ^ k
      omega
  · refine ⟨sum, halves, ?_⟩
    show state.remainder < r * 2 ^ k
    omega

theorem Aligned.next (aligned : Aligned l r (k + 1) state) : Aligned l r k (round state) := by
  have decided := aligned.decided
  have copy : (round state).copy = state.copy / 2 := by
    unfold round
    split_ifs <;> rfl
  have adder : (round state).adder = state.adder / 2 := by
    unfold round
    split_ifs <;> rfl
  refine ⟨?_, ?_, decided.sum, decided.clear, decided.bound⟩
  · rw [copy, aligned.copy, pow_succ, ← Nat.mul_assoc, Nat.mul_div_cancel _ (by decide)]
  · rw [adder, aligned.adder, pow_succ, Nat.mul_div_cancel _ (by decide)]

/-- Below the divisor the remainder is the remainder. -/
theorem results (positive : 0 < r) (sum : l = state.quotient * r + state.remainder)
    (below : state.remainder < r) : state.quotient = l / r ∧ state.remainder = l % r := by
  constructor
  · rw [sum, Nat.mul_comm, Nat.mul_add_div positive, Nat.div_eq_of_lt below, Nat.add_zero]
  · rw [sum, Nat.mul_add_mod', Nat.mod_eq_of_lt below]

/-- The loop ends with quotient and remainder, after at most one round for each bit. -/
theorem Aligned.loop_ends (positive : 0 < r) (aligned : Aligned l r k state) {rounds : Nat}
    (enough : k + 2 ≤ rounds) :
    ∃ last, loop r rounds state = some last ∧
      last.quotient = l / r ∧ last.remainder = l % r := by
  induction k generalizing state rounds with
  | zero =>
    obtain ⟨rest, rfl⟩ := Nat.exists_eq_add_of_le' enough
    have below : (round state).remainder < r := by
      have := aligned.decided.bound
      rwa [pow_zero, Nat.mul_one] at this
    by_cases goesOn : r ≤ state.remainder
    · refine ⟨round state, ?_, results positive aligned.decided.sum below⟩
      rw [loop, if_pos goesOn, loop, if_neg (by omega)]
    · refine ⟨state, ?_, results positive aligned.sum (by omega)⟩
      rw [loop, if_neg goesOn]
  | succ k ih =>
    obtain ⟨rest, rfl⟩ := Nat.exists_eq_add_of_le' (show 1 ≤ rounds by omega)
    by_cases goesOn : r ≤ state.remainder
    · rw [loop, if_pos goesOn]
      exact ih aligned.next (by omega)
    · refine ⟨state, ?_, results positive aligned.sum (by omega)⟩
      rw [loop, if_neg goesOn]

/-- The first copy, moved down by one bit when the shift by the difference of the lengths
went too far. -/
def start (l r shift : Nat) : State :=
  if l < r * 2 ^ shift then ⟨r * 2 ^ shift / 2, 2 ^ shift / 2, 0, l⟩
  else ⟨r * 2 ^ shift, 2 ^ shift, 0, l⟩

theorem start_aligned (le : r ≤ l) {shift : Nat} (bound : l < r * 2 ^ (shift + 1)) :
    ∃ k ≤ shift, Aligned l r k (start l r shift) := by
  unfold start
  split_ifs with far
  · cases shift with
    | zero =>
      rw [pow_zero, Nat.mul_one] at far
      omega
    | succ shift =>
      refine ⟨shift, Nat.le_succ _, ?_, ?_, by simp, by simp, far⟩
      · show r * 2 ^ (shift + 1) / 2 = _
        rw [pow_succ, ← Nat.mul_assoc, Nat.mul_div_cancel _ (by decide)]
      · show 2 ^ (shift + 1) / 2 = _
        rw [pow_succ, Nat.mul_div_cancel _ (by decide)]
  · exact ⟨shift, le_refl _, rfl, rfl, by simp, by simp, bound⟩

/-- The difference of the bit lengths is a shift that does not leave the dividend's
length and reaches its top bit. -/
theorem shift_size (positive : 0 < r) (le : r ≤ l) :
    r * 2 ^ (l.size - r.size) < 2 ^ l.size ∧ l < r * 2 ^ (l.size - r.size + 1) := by
  have sizes : r.size ≤ l.size := Nat.size_le_size le
  have nonzero : 0 < r.size := Nat.size_pos.mpr positive
  have top : 2 ^ (r.size - 1) ≤ r := Nat.lt_size.mp (by omega)
  constructor
  · calc
      r * 2 ^ (l.size - r.size) < 2 ^ r.size * 2 ^ (l.size - r.size) :=
        Nat.mul_lt_mul_of_pos_right (Nat.lt_size_self r) (Nat.two_pow_pos _)
      _ = 2 ^ l.size := by rw [← pow_add, Nat.add_sub_cancel' sizes]
  · calc
      l < 2 ^ l.size := Nat.lt_size_self l
      _ = 2 ^ (r.size - 1) * 2 ^ (l.size - r.size + 1) := by
        rw [← pow_add]
        congr 1
        omega
      _ ≤ r * 2 ^ (l.size - r.size + 1) := Nat.mul_le_mul_right _ top

end FantomLedger.Library.LongDivision
