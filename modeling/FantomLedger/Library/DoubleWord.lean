import Mathlib.Data.Nat.Bitwise
import Mathlib.Data.Nat.Size
import Mathlib.Tactic.Ring

/-! Numbers made of two words of the same width: how sums, comparisons, bitwise operations
and shifts of the number come out of the words. -/

namespace FantomLedger.Library.DoubleWord

variable {width : Nat}

/-- The number with the given upper and lower word. -/
def value (width upper lower : Nat) : Nat := upper * 2 ^ width + lower

theorem value_lt {upper lower : Nat} (h : upper < 2 ^ width) (l : lower < 2 ^ width) :
    value width upper lower < 2 ^ (2 * width) := by
  unfold value
  calc
    upper * 2 ^ width + lower < upper * 2 ^ width + 2 ^ width := by omega
    _ = (upper + 1) * 2 ^ width := by ring
    _ ≤ 2 ^ width * 2 ^ width := Nat.mul_le_mul_right _ h
    _ = 2 ^ (2 * width) := by rw [two_mul, pow_add]

theorem value_inj {upper lower upper' lower' : Nat} (l : lower < 2 ^ width)
    (l' : lower' < 2 ^ width) (same : value width upper lower = value width upper' lower') :
    upper = upper' ∧ lower = lower' := by
  unfold value at same
  have lowers : lower = lower' := by
    have := congrArg (· % 2 ^ width) same
    simpa [Nat.mul_add_mod', Nat.mod_eq_of_lt l, Nat.mod_eq_of_lt l'] using this
  subst lowers
  refine ⟨?_, rfl⟩
  exact Nat.eq_of_mul_eq_mul_right (Nat.two_pow_pos width) (by omega)

/-- A number below the square of the base splits into its words. -/
theorem mod_square (number : Nat) :
    number % 2 ^ (2 * width) =
      value width (number / 2 ^ width % 2 ^ width) (number % 2 ^ width) := by
  rw [two_mul, pow_add, Nat.mod_mul, value]
  ring

theorem value_div {upper lower : Nat} (l : lower < 2 ^ width) :
    value width upper lower / 2 ^ width = upper := by
  unfold value
  rw [Nat.mul_comm, Nat.mul_add_div (Nat.two_pow_pos width), Nat.div_eq_of_lt l, Nat.add_zero]

theorem value_mod {upper lower : Nat} (l : lower < 2 ^ width) :
    value width upper lower % 2 ^ width = lower := by
  unfold value
  rw [Nat.mul_add_mod', Nat.mod_eq_of_lt l]

theorem value_add (upper lower upper' lower' : Nat) :
    value width upper lower + value width upper' lower' =
      value width (upper + upper') (lower + lower') := by
  unfold value
  ring

/-- The carry out of a wrapped sum shows in the sum being smaller than a summand. -/
theorem carry_eq {a b : Nat} (ha : a < 2 ^ width) (hb : b < 2 ^ width) :
    (a + b) / 2 ^ width = if (a + b) % 2 ^ width < a then 1 else 0 := by
  by_cases carries : 2 ^ width ≤ a + b
  · have once : (a + b) / 2 ^ width = 1 :=
      Nat.div_eq_of_lt_le (by omega) (by omega)
    have rest : (a + b) % 2 ^ width = a + b - 2 ^ width := by
      rw [Nat.mod_eq_sub_mod carries, Nat.mod_eq_of_lt (by omega)]
    rw [once, rest, if_pos (by omega)]
  · rw [Nat.div_eq_of_lt (by omega), Nat.mod_eq_of_lt (by omega), if_neg (by omega)]

theorem add_mod {upper lower upper' lower' : Nat} (l : lower < 2 ^ width)
    (l' : lower' < 2 ^ width) :
    (value width upper lower + value width upper' lower') % 2 ^ (2 * width) =
      value width
        ((upper + upper' + if (lower + lower') % 2 ^ width < lower then 1 else 0) % 2 ^ width)
        ((lower + lower') % 2 ^ width) := by
  rw [value_add, mod_square]
  congr 1
  · rw [← carry_eq l l', value, Nat.mul_comm, Nat.mul_add_div (Nat.two_pow_pos width)]
  · rw [value, Nat.mul_add_mod']

theorem lt_iff {upper lower upper' lower' : Nat} (l : lower < 2 ^ width)
    (l' : lower' < 2 ^ width) :
    value width upper lower < value width upper' lower' ↔
      if upper = upper' then lower < lower' else upper < upper' := by
  unfold value
  split_ifs with same
  · subst same
    omega
  · constructor
    · intro below
      by_contra above
      have higher : upper' + 1 ≤ upper := by omega
      have scaled := Nat.mul_le_mul_right (2 ^ width) higher
      rw [Nat.add_mul, Nat.one_mul] at scaled
      omega
    · intro below
      have scaled := Nat.mul_le_mul_right (2 ^ width) (Nat.succ_le_of_lt below)
      rw [Nat.succ_mul] at scaled
      omega

theorem size_value {upper lower : Nat} (l : lower < 2 ^ width) (nonzero : upper ≠ 0) :
    (value width upper lower).size = width + upper.size := by
  have positive : 0 < upper.size := Nat.size_pos.mpr (Nat.pos_of_ne_zero nonzero)
  have top : 2 ^ (upper.size - 1) ≤ upper := Nat.lt_size.mp (by omega)
  apply Nat.le_antisymm
  · apply Nat.size_le.mpr
    calc
      value width upper lower < (upper + 1) * 2 ^ width := by
        unfold value
        rw [Nat.succ_mul]
        omega
      _ ≤ 2 ^ upper.size * 2 ^ width := Nat.mul_le_mul_right _ (Nat.lt_size_self upper)
      _ = 2 ^ (width + upper.size) := by rw [Nat.add_comm, pow_add]
  · have reached : 2 ^ (width + (upper.size - 1)) ≤ value width upper lower := by
      calc
        2 ^ (width + (upper.size - 1)) = 2 ^ (upper.size - 1) * 2 ^ width := by
          rw [Nat.add_comm, pow_add]
        _ ≤ upper * 2 ^ width := Nat.mul_le_mul_right _ top
        _ ≤ value width upper lower := Nat.le_add_right _ _
    have := Nat.lt_size.mpr reached
    omega

theorem lor_eq {upper lower upper' lower' : Nat} (l : lower < 2 ^ width)
    (l' : lower' < 2 ^ width) :
    value width upper lower ||| value width upper' lower' =
      value width (upper ||| upper') (lower ||| lower') := by
  have both : lower ||| lower' < 2 ^ width := Nat.or_lt_two_pow l l'
  unfold value
  rw [Nat.mul_comm upper, Nat.mul_comm upper', Nat.mul_comm (upper ||| upper')]
  apply Nat.eq_of_testBit_eq
  intro bit
  rw [Nat.testBit_or, Nat.testBit_two_pow_mul_add _ l, Nat.testBit_two_pow_mul_add _ l',
    Nat.testBit_two_pow_mul_add _ both]
  split_ifs <;> rw [Nat.testBit_or]

/-- What a shift to the left by less than a word moves out of the lower word. -/
theorem shiftLeft_mod {upper lower shift : Nat} (small : shift ≤ width) :
    value width upper lower * 2 ^ shift % 2 ^ (2 * width) =
      value width ((upper * 2 ^ shift % 2 ^ width + lower / 2 ^ (width - shift)) % 2 ^ width)
        (lower * 2 ^ shift % 2 ^ width) := by
  have split : 2 ^ width = 2 ^ (width - shift) * 2 ^ shift := by
    rw [← pow_add, Nat.sub_add_cancel small]
  have scaled : value width upper lower * 2 ^ shift =
      2 ^ width * (upper * 2 ^ shift) + lower * 2 ^ shift := by
    unfold value
    ring
  rw [mod_square, scaled]
  congr 1
  · rw [Nat.mul_add_div (Nat.two_pow_pos width), Nat.mod_add_mod]
    congr 2
    conv_lhs => rw [split]
    exact Nat.mul_div_mul_right _ _ (Nat.two_pow_pos shift)
  · rw [Nat.mul_add_mod]

/-- A shift to the left by a word or more keeps bits of the lower word only. -/
theorem shiftLeft_word_mod {upper lower : Nat} (shift : Nat) :
    value width upper lower * 2 ^ (width + shift) % 2 ^ (2 * width) =
      value width (lower * 2 ^ shift % 2 ^ width) 0 := by
  have scaled : value width upper lower * 2 ^ (width + shift) =
      2 ^ width * (2 ^ width * (upper * 2 ^ shift) + lower * 2 ^ shift) := by
    unfold value
    ring
  rw [scaled, two_mul, pow_add, Nat.mul_mod_mul_left, Nat.mul_add_mod, value, Nat.mul_comm,
    Nat.add_zero]

theorem shiftLeft_word {upper lower : Nat} (l : lower < 2 ^ width) :
    value width upper lower * 2 ^ width % 2 ^ (2 * width) = value width lower 0 := by
  calc
    value width upper lower * 2 ^ width % 2 ^ (2 * width)
        = value width (lower * 2 ^ 0 % 2 ^ width) 0 := shiftLeft_word_mod 0
    _ = value width lower 0 := by rw [pow_zero, Nat.mul_one, Nat.mod_eq_of_lt l]

theorem shiftRight_word {upper lower : Nat} (l : lower < 2 ^ width) (shift : Nat) :
    value width upper lower / 2 ^ (width + shift) = upper / 2 ^ shift := by
  rw [pow_add, ← Nat.div_div_eq_div_mul, value_div l]

/-- What a shift to the right by less than a word moves into the lower word. -/
theorem shiftRight_eq {upper lower shift : Nat} (small : shift ≤ width) :
    value width upper lower / 2 ^ shift =
      value width (upper / 2 ^ shift)
        (upper * 2 ^ (width - shift) % 2 ^ width + lower / 2 ^ shift) := by
  have split : 2 ^ width = 2 ^ shift * 2 ^ (width - shift) := by
    rw [← pow_add, Nat.add_sub_cancel' small]
  have words : upper * 2 ^ (width - shift) =
      upper / 2 ^ shift * 2 ^ width + upper * 2 ^ (width - shift) % 2 ^ width := by
    have quotient : upper * 2 ^ (width - shift) / 2 ^ width = upper / 2 ^ shift := by
      conv_lhs => rw [split]
      exact Nat.mul_div_mul_right _ _ (Nat.two_pow_pos _)
    rw [← quotient, Nat.mul_comm (_ / _)]
    exact (Nat.div_add_mod _ _).symm
  calc
    value width upper lower / 2 ^ shift
        = (2 ^ shift * (upper * 2 ^ (width - shift)) + lower) / 2 ^ shift := by
      unfold value
      congr 2
      rw [split]
      ring
    _ = upper * 2 ^ (width - shift) + lower / 2 ^ shift := by
      rw [Nat.mul_add_div (Nat.two_pow_pos shift)]
    _ = _ := by
      unfold value
      omega

/-- The two parts of the lower word of a shift to the right do not overlap. -/
theorem shiftRight_lower_lt (upper : Nat) {lower shift : Nat} (l : lower < 2 ^ width)
    (small : shift ≤ width) :
    upper * 2 ^ (width - shift) % 2 ^ width + lower / 2 ^ shift < 2 ^ width := by
  have split : 2 ^ width = 2 ^ shift * 2 ^ (width - shift) := by
    rw [← pow_add, Nat.add_sub_cancel' small]
  have above : upper * 2 ^ (width - shift) % 2 ^ width =
      upper % 2 ^ shift * 2 ^ (width - shift) := by
    rw [split, Nat.mul_mod_mul_right]
  have below : lower / 2 ^ shift < 2 ^ (width - shift) :=
    Nat.div_lt_of_lt_mul (by rw [← split]; exact l)
  have scaled : (upper % 2 ^ shift + 1) * 2 ^ (width - shift) ≤ 2 ^ width := by
    rw [split]
    exact Nat.mul_le_mul_right _ (Nat.mod_lt _ (Nat.two_pow_pos shift))
  rw [above]
  rw [Nat.succ_mul] at scaled
  omega

end FantomLedger.Library.DoubleWord
