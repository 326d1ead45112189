import FantomLedger.Library.Schoolbook
import FantomLedger.Uint256Arith
import Mathlib.Data.Fintype.Basic
import Mathlib.Data.Nat.ModEq
import Mathlib.Tactic.NormNum
import Mathlib.Tactic.FinCases

/-! What the multiplication computes: the product modulo 2 ^ 256, but for the carry of one
column, which is added to the wrong limb. -/

namespace FantomLedger

open Library

theorem and_low32 (limb : Nat) : limb &&& 0xffffffff = limb % 2 ^ 32 :=
  Nat.and_two_pow_sub_one_eq_mod limb 32

/-- The 32-bit words of a number. -/
def Uint128.words (number : Uint128) : Schoolbook.Limbs :=
  ![number.lower.toNat % 2 ^ 32, number.lower.toNat / 2 ^ 32,
    number.upper.toNat % 2 ^ 32, number.upper.toNat / 2 ^ 32]

theorem Uint128.value_words (number : Uint128) :
    Schoolbook.value (2 ^ 32) number.words = number.toNat := by
  have := number.lower.toNat_lt
  simp only [Schoolbook.value, words, Matrix.cons_val, toNat, DoubleWord.value]
  omega

theorem Uint128.words_lt (number : Uint128) (index : Fin 4) : number.words index < 2 ^ 32 := by
  have := number.lower.toNat_lt
  have := number.upper.toNat_lt
  fin_cases index <;> simp [words] <;> omega

theorem products128_toNat (a b : Uint128) (x y : Fin 4) :
    (products128 a b x y).toNat = a.words x * b.words (3 - y) := by
  have small (i j : Fin 4) : a.words i * b.words j < 2 ^ 64 := by
    calc
      a.words i * b.words j < 2 ^ 32 * 2 ^ 32 :=
        Nat.mul_lt_mul'' (a.words_lt i) (b.words_lt j)
      _ = 2 ^ 64 := by norm_num
  have factors : (products128 a b x y).toNat = a.words x * b.words (3 - y) % 2 ^ 64 := by
    unfold products128
    rw [UInt64.toNat_mul]
    fin_cases x <;> fin_cases y <;>
      simp [Uint128.words, and_low32, shr64_toNat]
  rw [factors, Nat.mod_eq_of_lt (small _ _)]

theorem columns128_toNat (products : Fin 4 → Fin 4 → UInt64) :
    (columns128 products).fourth.toNat = (products 0 3).toNat % 2 ^ 32 ∧
    (columns128 products).third.toNat = (products 0 2).toNat % 2 ^ 32 +
      (products 0 3).toNat / 2 ^ 32 + (products 1 3).toNat % 2 ^ 32 ∧
    (columns128 products).second.toNat = (products 0 1).toNat % 2 ^ 32 +
      (products 0 2).toNat / 2 ^ 32 + (products 1 2).toNat % 2 ^ 32 +
      (products 1 3).toNat / 2 ^ 32 + (products 2 3).toNat % 2 ^ 32 ∧
    (columns128 products).first.toNat = (products 0 0).toNat % 2 ^ 32 +
      (products 0 1).toNat / 2 ^ 32 + (products 1 1).toNat % 2 ^ 32 +
      (products 1 2).toNat / 2 ^ 32 + (products 2 2).toNat % 2 ^ 32 +
      (products 2 3).toNat / 2 ^ 32 + (products 3 3).toNat % 2 ^ 32 := by
  have bound (x y : Fin 4) := (products x y).toNat_lt
  have := bound 0 0
  have := bound 0 1
  have := bound 0 2
  have := bound 0 3
  have := bound 1 2
  have := bound 1 3
  have := bound 2 3
  have low (limb : UInt64) : (limb &&& 0xffffffff).toNat = limb.toNat % 2 ^ 32 := and_low32 _
  simp only [columns128, UInt64.toNat_add, low, shr64_toNat (show 32 < 64 by decide)]
  refine ⟨trivial, ?_, ?_, ?_⟩ <;> omega

theorem assemble128_toNat (columns : Columns UInt64) :
    (assemble128 columns).toNat = (columns.fourth.toNat + 2 ^ 32 * columns.third.toNat +
      2 ^ 64 * columns.second.toNat + 2 ^ 96 * columns.first.toNat) % 2 ^ 128 := by
  have := columns.third.toNat_lt
  have := columns.fourth.toNat_lt
  simp only [assemble128, add128_toNat]
  simp only [Uint128.toNat, DoubleWord.value, UInt64.toNat_zero,
    shl64_toNat (show 32 < 64 by decide), shr64_toNat (show 32 < 64 by decide)]
  omega

theorem mul128_toNat (a b : Uint128) :
    (mul128 a b).toNat = a.toNat * b.toNat % 2 ^ 128 := by
  obtain ⟨fourth, third, second, first⟩ := columns128_toNat (products128 a b)
  simp only [products128_toNat] at fourth third second first
  have powers : (2 ^ 32) ^ 4 = 2 ^ 128 := by norm_num
  have product := Schoolbook.product_mod (2 ^ 32) a.words b.words
  rw [Uint128.value_words, Uint128.value_words, powers] at product
  rw [mul128, assemble128_toNat, product, fourth, third, second, first]
  simp only [Schoolbook.value, Schoolbook.columns, Matrix.cons_val, ← pow_mul]
  rfl

/-- The column sums as numbers without a limit. -/
def columnSums (products : Fin 4 → Fin 4 → Nat) : Columns Nat where
  fourth := products 0 3 % 2 ^ 32
  third := products 0 2 % 2 ^ 32 + products 0 3 / 2 ^ 32 + products 1 3 % 2 ^ 32
  second := products 0 1 % 2 ^ 32 + products 0 2 / 2 ^ 32 + products 1 2 % 2 ^ 32 +
    products 1 3 / 2 ^ 32 + products 2 3 % 2 ^ 32
  first := products 0 0 % 2 ^ 32 + products 0 1 / 2 ^ 32 + products 1 1 % 2 ^ 32 +
    products 1 2 / 2 ^ 32 + products 2 2 % 2 ^ 32 + products 2 3 / 2 ^ 32 + products 3 3 % 2 ^ 32

def Columns.toNats (columns : Columns UInt64) : Columns Nat :=
  ⟨columns.fourth.toNat, columns.third.toNat, columns.second.toNat, columns.first.toNat⟩

/-- The 128-bit product of two limbs is not wrapped. -/
theorem mul128_limbs (x y : UInt64) : (mul128 ⟨0, x⟩ ⟨0, y⟩).toNat = x.toNat * y.toNat := by
  rw [mul128_toNat, Uint128.toNat_lowerOnly, Uint128.toNat_lowerOnly]
  apply Nat.mod_eq_of_lt
  calc
    x.toNat * y.toNat < 2 ^ 64 * 2 ^ 64 := Nat.mul_lt_mul'' x.toNat_lt y.toNat_lt
    _ = 2 ^ 128 := by norm_num

/-- The multiplication is that modulo 2 ^ 128: no product of two words is wrapped and no column
loses a carry, and for two limbs nothing is lost at all. -/
theorem mul128_exact (a b : Uint128) :
    (mul128 a b).toNat = a.toNat * b.toNat % 2 ^ 128 ∧
      (∀ x y, (products128 a b x y).toNat = a.words x * b.words (3 - y)) ∧
      (columns128 (products128 a b)).toNats =
        columnSums (fun x y => a.words x * b.words (3 - y)) ∧
      ∀ x y : UInt64, (mul128 ⟨0, x⟩ ⟨0, y⟩).toNat = x.toNat * y.toNat := by
  refine ⟨mul128_toNat a b, products128_toNat a b, ?_, mul128_limbs⟩
  obtain ⟨fourth, third, second, first⟩ := columns128_toNat (products128 a b)
  simp only [products128_toNat] at fourth third second first
  rw [Columns.toNats, fourth, third, second, first]
  rfl

/-- The 64-bit limbs of a number. -/
def Uint256.limbs (number : Uint256) : Schoolbook.Limbs :=
  ![number.lower.lower.toNat, number.lower.upper.toNat,
    number.upper.lower.toNat, number.upper.upper.toNat]

theorem Uint256.value_limbs (number : Uint256) :
    Schoolbook.value (2 ^ 64) number.limbs = number.toNat := by
  simp only [Schoolbook.value, limbs, Matrix.cons_val, toNat, Uint128.toNat, DoubleWord.value]
  ring

theorem Uint256.limbs_lt (number : Uint256) (index : Fin 4) : number.limbs index < 2 ^ 64 := by
  have bound (limb : UInt64) := limb.toNat_lt
  fin_cases index <;> exact bound _

theorem products256_toNat (a b : Uint256) (x y : Fin 4) :
    (products256 a b x y).toNat = a.limbs x * b.limbs (3 - y) := by
  unfold products256
  fin_cases x <;> fin_cases y <;> exact mul128_limbs _ _

theorem columns256_toNat (products : Fin 4 → Fin 4 → Uint128) :
    (columns256 products).fourth.toNat = (products 0 3).toNat % 2 ^ 64 ∧
    (columns256 products).third.toNat = (products 0 2).toNat % 2 ^ 64 +
      (products 0 3).toNat / 2 ^ 64 + (products 1 3).toNat % 2 ^ 64 ∧
    (columns256 products).second.toNat = (products 0 1).toNat % 2 ^ 64 +
      (products 0 2).toNat / 2 ^ 64 + (products 1 2).toNat % 2 ^ 64 +
      (products 1 3).toNat / 2 ^ 64 + (products 2 3).toNat % 2 ^ 64 ∧
    (columns256 products).first.toNat = (products 0 0).toNat % 2 ^ 64 +
      (products 0 1).toNat / 2 ^ 64 + (products 1 1).toNat % 2 ^ 64 +
      (products 1 2).toNat / 2 ^ 64 + (products 2 2).toNat % 2 ^ 64 +
      (products 2 3).toNat / 2 ^ 64 + (products 3 3).toNat % 2 ^ 64 := by
  have low (number : Uint128) : number.lower.toNat = number.toNat % 2 ^ 64 :=
    (DoubleWord.value_mod number.lower.toNat_lt).symm
  have high (number : Uint128) : number.upper.toNat = number.toNat / 2 ^ 64 :=
    (DoubleWord.value_div number.lower.toNat_lt).symm
  have bound (x y : Fin 4) := (products x y).toNat_lt
  have := bound 0 0
  have := bound 0 1
  have := bound 0 2
  have := bound 0 3
  have := bound 1 2
  have := bound 1 3
  have := bound 2 3
  simp only [columns256, add128_toNat, Uint128.toNat_lowerOnly, low, high]
  refine ⟨trivial, ?_, ?_, ?_⟩ <;> omega

/-- The carry of the third column has the weight of the fourth limb. -/
theorem assemble256_toNat (columns : Columns Uint128) :
    (assemble256 columns).toNat = (columns.fourth.toNat +
      2 ^ 64 * (columns.third.toNat % 2 ^ 64) + 2 ^ 192 * (columns.third.toNat / 2 ^ 64) +
      2 ^ 128 * columns.second.toNat + 2 ^ 192 * columns.first.toNat) % 2 ^ 256 := by
  have top : (Uint256.mk (shiftLeft128 columns.first 64) clear128).toNat =
      2 ^ 192 * columns.first.toNat % 2 ^ 256 := by
    rw [Uint256.toNat, DoubleWord.value, shiftLeft128_toNat, clear128_toNat, Nat.add_zero,
      ← Nat.mul_mod_mul_right]
    congr 1
    ring
  have lower : columns.third.lower.toNat = columns.third.toNat % 2 ^ 64 :=
    (DoubleWord.value_mod columns.third.lower.toNat_lt).symm
  have upper : columns.third.upper.toNat = columns.third.toNat / 2 ^ 64 :=
    (DoubleWord.value_div columns.third.lower.toNat_lt).symm
  have carried : (Uint256.mk ⟨columns.third.upper, 0⟩ (shiftLeft128 columns.third 64)).toNat =
      2 ^ 64 * (columns.third.toNat % 2 ^ 64) + 2 ^ 192 * (columns.third.toNat / 2 ^ 64) := by
    rw [← lower, ← upper, Uint256.toNat]
    simp only [shiftLeft128, Uint128.toNat, DoubleWord.value]
    simp
    ring
  have middle : (Uint256.mk columns.second clear128).toNat = 2 ^ 128 * columns.second.toNat := by
    rw [Uint256.toNat, DoubleWord.value, clear128_toNat, Nat.add_zero, Nat.mul_comm]
  unfold assemble256
  rw [add256_toNat, add256_toNat, add256_toNat, top, carried, middle, Uint256.toNat_lowerOnly,
    Nat.mod_add_mod, Nat.add_mod_mod, ← Nat.add_assoc, Nat.add_mod_mod]
  exact congrArg (fun total => total % 2 ^ 256) (by ring)

theorem carry_moved (column0 column1 column2 column3 : Nat) :
    column0 + 2 ^ 64 * (column1 % 2 ^ 64) + 2 ^ 192 * (column1 / 2 ^ 64) + 2 ^ 128 * column2 +
        2 ^ 192 * column3 =
      Schoolbook.value (2 ^ 64) ![column0, column1, column2, column3] +
        column1 / 2 ^ 64 * (2 ^ 192 - 2 ^ 128) := by
  have parts := Nat.mod_add_div column1 (2 ^ 64)
  have weight : 2 ^ 192 = 2 ^ 128 + (2 ^ 192 - 2 ^ 128) := by norm_num
  generalize 2 ^ 192 - 2 ^ 128 = difference at weight
  calc
    _ = column0 + 2 ^ 64 * (column1 % 2 ^ 64 + 2 ^ 64 * (column1 / 2 ^ 64)) + 2 ^ 128 * column2 +
        2 ^ 192 * column3 + column1 / 2 ^ 64 * difference := by
      have moved : 2 ^ 192 * (column1 / 2 ^ 64) = (2 ^ 128 + difference) * (column1 / 2 ^ 64) := by
        rw [← weight]
      rw [moved]
      ring
    _ = _ := by
      rw [parts]
      simp only [Schoolbook.value, Matrix.cons_val]
      ring

/-- The 64-bit limbs of a natural number below 2 ^ 256. -/
def limbsOf (number : Nat) : Schoolbook.Limbs :=
  fun index => number / 2 ^ (64 * index.val) % 2 ^ 64

/-- The carry out of the column of weight 2 ^ 64 when two numbers are multiplied. -/
def misplacedCarry (a b : Nat) : Nat :=
  Schoolbook.column1 (2 ^ 64) (limbsOf a) (limbsOf b) / 2 ^ 64

theorem Uint256.limbs_eq (number : Uint256) : number.limbs = limbsOf number.toNat := by
  funext index
  rw [limbsOf, pow_mul, ← number.value_limbs,
    Schoolbook.value_digit (2 ^ 64) number.limbs number.limbs_lt]

theorem misplacedCarry_le (a b : Nat) : misplacedCarry a b ≤ 2 := by
  have limb (number : Nat) (index : Fin 4) : limbsOf number index < 2 ^ 64 :=
    Nat.mod_lt _ (by decide)
  have upper : limbsOf a 0 * limbsOf b 0 / 2 ^ 64 < 2 ^ 64 :=
    Nat.div_lt_of_lt_mul (Nat.mul_lt_mul'' (limb a 0) (limb b 0))
  have first := Nat.mod_lt (limbsOf a 0 * limbsOf b 1) (show 2 ^ 64 > 0 by decide)
  have second := Nat.mod_lt (limbsOf a 1 * limbsOf b 0) (show 2 ^ 64 > 0 by decide)
  unfold misplacedCarry Schoolbook.column1
  omega

theorem mul256_toNat (a b : Uint256) :
    (mul256 a b).toNat = (a.toNat * b.toNat +
      misplacedCarry a.toNat b.toNat * (2 ^ 192 - 2 ^ 128)) % 2 ^ 256 := by
  obtain ⟨fourth, third, second, first⟩ := columns256_toNat (products256 a b)
  simp only [products256_toNat] at fourth third second first
  have powers : (2 ^ 64) ^ 4 = 2 ^ 256 := by norm_num
  have product := Schoolbook.product_eq (2 ^ 64) a.limbs b.limbs
  rw [Uint256.value_limbs, Uint256.value_limbs, powers] at product
  calc
    (mul256 a b).toNat
        = (Schoolbook.value (2 ^ 64) (Schoolbook.columns (2 ^ 64) a.limbs b.limbs) +
            misplacedCarry a.toNat b.toNat * (2 ^ 192 - 2 ^ 128)) % 2 ^ 256 := by
      rw [mul256, assemble256_toNat, carry_moved, fourth, third, second, first, misplacedCarry,
        ← Uint256.limbs_eq, ← Uint256.limbs_eq]
      rfl
    _ = _ := by
      rw [product, Nat.add_right_comm, Nat.add_mul_mod_self_left]

/-- Up to two misplaced carries never add up to a multiple of 2 ^ 256. -/
theorem wrapped_mod_iff (a b : Nat) :
    (a * b + misplacedCarry a b * (2 ^ 192 - 2 ^ 128)) % 2 ^ 256 = a * b % 2 ^ 256 ↔
      misplacedCarry a b = 0 := by
  have small := misplacedCarry_le a b
  constructor
  · intro same
    have shift : misplacedCarry a b * (2 ^ 192 - 2 ^ 128) % 2 ^ 256 = 0 := by
      have cancelled : a * b + misplacedCarry a b * (2 ^ 192 - 2 ^ 128) ≡ a * b + 0 [MOD 2 ^ 256] :=
        same
      exact Nat.ModEq.add_left_cancel' _ cancelled
    generalize misplacedCarry a b = carry at small shift
    have cases : carry = 0 ∨ carry = 1 ∨ carry = 2 := by
      clear shift same
      omega
    rcases cases with rfl | rfl | rfl
    · rfl
    · norm_num at shift
    · norm_num at shift
  · intro none
    rw [none, Nat.zero_mul, Nat.add_zero]

/-- The product comes out exactly when it fits and no carry is misplaced. -/
theorem wrapped_eq_iff (a b : Nat) :
    (a * b + misplacedCarry a b * (2 ^ 192 - 2 ^ 128)) % 2 ^ 256 = a * b ↔
      misplacedCarry a b = 0 ∧ a * b < 2 ^ 256 := by
  have wrapped := wrapped_mod_iff a b
  constructor
  · intro same
    have fits : a * b < 2 ^ 256 := by
      rw [← same]
      exact Nat.mod_lt _ (Nat.two_pow_pos 256)
    exact ⟨wrapped.mp (by rw [same, Nat.mod_eq_of_lt fits]), fits⟩
  · rintro ⟨none, fits⟩
    rw [wrapped.mpr none, Nat.mod_eq_of_lt fits]

/-- The column of weight 2 ^ 64 of a product of limbs. -/
def secondColumn (a b : Nat) : Nat :=
  Schoolbook.column1 (2 ^ 64) (limbsOf a) (limbsOf b)

theorem misplacedCarry_eq_zero_iff (a b : Nat) : misplacedCarry a b = 0 ↔ secondColumn a b < 2 ^ 64 :=
  Nat.div_eq_zero_iff.trans (or_iff_right (by decide))

/-- The multiplication is right modulo 2 ^ 256 for exactly the numbers whose second column has
no carry: the source puts that carry one limb too high. -/
theorem mul256_mod_iff (a b : Uint256) :
    (mul256 a b).toNat = a.toNat * b.toNat % 2 ^ 256 ↔ secondColumn a.toNat b.toNat < 2 ^ 64 := by
  rw [mul256_toNat, wrapped_mod_iff, misplacedCarry_eq_zero_iff]

/-- Two factors of 2 ^ 128 - 1 carry out of the second column. -/
theorem mul256_misplaces_carry :
    (mul256 ⟨⟨0, 0⟩, ⟨18446744073709551615, 18446744073709551615⟩⟩
        ⟨⟨0, 0⟩, ⟨18446744073709551615, 18446744073709551615⟩⟩).toNat ≠
      (Uint256.mk ⟨0, 0⟩ ⟨18446744073709551615, 18446744073709551615⟩).toNat *
        (Uint256.mk ⟨0, 0⟩ ⟨18446744073709551615, 18446744073709551615⟩).toNat % 2 ^ 256 := by
  decide +kernel

end FantomLedger
