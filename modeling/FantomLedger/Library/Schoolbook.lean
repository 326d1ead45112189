import Mathlib.Data.Fin.VecNotation
import Mathlib.Tactic.Ring

/-! Schoolbook multiplication of numbers of four limbs: the halves of the limb products,
summed by column, make up the product up to the fourth power of the base. -/

namespace FantomLedger.Library.Schoolbook

/-- Four limbs, the least significant one first. -/
abbrev Limbs := Fin 4 → Nat

instance neZeroFour : NeZero 4 := ⟨by decide⟩

variable (base : Nat) (x y : Limbs)

def value : Nat :=
  x 0 + base * x 1 + base ^ 2 * x 2 + base ^ 3 * x 3

def column0 : Nat := x 0 * y 0 % base

def column1 : Nat :=
  x 0 * y 1 % base + x 0 * y 0 / base + x 1 * y 0 % base

def column2 : Nat :=
  x 0 * y 2 % base + x 0 * y 1 / base + x 1 * y 1 % base +
    x 1 * y 0 / base + x 2 * y 0 % base

def column3 : Nat :=
  x 0 * y 3 % base + x 0 * y 2 / base + x 1 * y 2 % base +
    x 1 * y 1 / base + x 2 * y 1 % base + x 2 * y 0 / base +
    x 3 * y 0 % base

def columns : Limbs :=
  ![column0 base x y, column1 base x y, column2 base x y, column3 base x y]

/-- The products that lie above the fourth limb as a whole. -/
def overflow : Nat :=
  x 1 * y 3 + x 2 * y 2 + x 3 * y 1 +
    base * (x 2 * y 3 + x 3 * y 2) + base ^ 2 * (x 3 * y 3) +
    (x 0 * y 3 / base + x 1 * y 2 / base + x 2 * y 1 / base +
      x 3 * y 0 / base)

theorem product_eq :
    value base x * value base y = value base (columns base x y) + base ^ 4 * overflow base x y := by
  have halves (product : Nat) : product = product % base + base * (product / base) :=
    (Nat.mod_add_div product base).symm
  have p00 := halves (x 0 * y 0)
  have p01 := halves (x 0 * y 1)
  have p02 := halves (x 0 * y 2)
  have p03 := halves (x 0 * y 3)
  have p10 := halves (x 1 * y 0)
  have p11 := halves (x 1 * y 1)
  have p12 := halves (x 1 * y 2)
  have p20 := halves (x 2 * y 0)
  have p21 := halves (x 2 * y 1)
  have p30 := halves (x 3 * y 0)
  calc
    value base x * value base y
        = x 0 * y 0 + base * (x 0 * y 1 + x 1 * y 0) +
          base ^ 2 * (x 0 * y 2 + x 1 * y 1 + x 2 * y 0) +
          base ^ 3 * (x 0 * y 3 + x 1 * y 2 + x 2 * y 1 +
            x 3 * y 0) +
          base ^ 4 * (x 1 * y 3 + x 2 * y 2 + x 3 * y 1 +
            base * (x 2 * y 3 + x 3 * y 2) +
            base ^ 2 * (x 3 * y 3)) := by
      unfold value
      ring
    _ = value base (columns base x y) + base ^ 4 * overflow base x y := by
      simp only [value, columns, Matrix.cons_val, column0, column1, column2, column3, overflow]
      conv_lhs => rw [p00, p01, p02, p03, p10, p11, p12, p20, p21, p30]
      ring

theorem product_mod :
    value base x * value base y % base ^ 4 = value base (columns base x y) % base ^ 4 := by
  rw [product_eq, Nat.add_mul_mod_self_left]

/-- The limbs are the digits of their value. -/
theorem value_digit (below : ∀ index, x index < base) (index : Fin 4) :
    value base x / base ^ index.val % base = x index := by
  have positive : 0 < base := (Nat.zero_le _).trans_lt (below 0)
  have nested : value base x = x 0 + base * (x 1 + base * (x 2 + base * x 3)) := by
    unfold value
    ring
  have shifted (low high : Nat) (small : low < base) : (low + base * high) / base = high := by
    rw [Nat.add_mul_div_left _ _ positive, Nat.div_eq_of_lt small, Nat.zero_add]
  have lowest (low high : Nat) (small : low < base) : (low + base * high) % base = low := by
    rw [Nat.add_mul_mod_self_left, Nat.mod_eq_of_lt small]
  rw [nested]
  match index with
  | 0 => rw [Fin.val_zero, pow_zero, Nat.div_one, lowest _ _ (below 0)]
  | 1 => rw [Fin.val_one, pow_one, shifted _ _ (below 0), lowest _ _ (below 1)]
  | 2 =>
    rw [Fin.val_two, pow_two, ← Nat.div_div_eq_div_mul, shifted _ _ (below 0),
      shifted _ _ (below 1), lowest _ _ (below 2)]
  | 3 =>
    show _ / base ^ 3 % base = x 3
    rw [pow_succ, pow_two, ← Nat.div_div_eq_div_mul, ← Nat.div_div_eq_div_mul,
      shifted _ _ (below 0), shifted _ _ (below 1), shifted _ _ (below 2),
      Nat.mod_eq_of_lt (below 3)]

end FantomLedger.Library.Schoolbook
