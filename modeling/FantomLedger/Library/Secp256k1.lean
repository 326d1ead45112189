import Mathlib.Data.List.Prime
import Mathlib.Data.ZMod.Basic
import Mathlib.NumberTheory.LucasPrimality
import Mathlib.Tactic.NormNum.LegendreSymbol
import Mathlib.Tactic.NormNum.Prime
import Mathlib.Tactic.ReduceModChar

/-! Points of the curve y² = x³ + 7 over the integers modulo 2^256 - 2^32 - 977, and the map that
takes a point to another one with the same second coordinate. -/

namespace FantomLedger.Library.Secp256k1

def fieldSize : Nat :=
  0xFFFFFFFFFFFFFFFFFFFFFFFFFFFFFFFFFFFFFFFFFFFFFFFFFFFFFFFEFFFFFC2F

/-- A point other than the neutral one. -/
@[ext]
structure Point where
  x : Nat
  y : Nat
  x_lt : x < fieldSize
  y_lt : y < fieldSize
  curve : y ^ 2 ≡ x ^ 3 + 7 [MOD fieldSize]
  deriving DecidableEq

/-- A cube root of one. -/
def beta : Nat :=
  0x7AE96A2B657C07106E64479EAC3434E99CF0497512F58995C1396C28719501EE

theorem beta_cube : beta ^ 3 ≡ 1 [MOD fieldSize] := by decide +kernel

theorem beta_sum : beta ^ 2 + beta + 1 ≡ 0 [MOD fieldSize] := by decide +kernel

theorem coprime_beta : Nat.Coprime fieldSize (beta - 1) := by decide +kernel

theorem fieldSize_lt : fieldSize < 2 ^ 256 := by decide

/-- Lucas' test, with the prime factors of one less in a list. -/
theorem prime_of_lucas {p : Nat} (a : ZMod p) (factors : List Nat) (product : factors.prod = p - 1)
    (primes : ∀ q ∈ factors, q.Prime) (whole : a ^ (p - 1) = 1)
    (parts : ∀ q ∈ factors, a ^ ((p - 1) / q) ≠ 1) : p.Prime := by
  apply lucas_primality p a whole
  intro q prime divides
  rw [← product, Prime.dvd_prod_iff prime.prime] at divides
  obtain ⟨factor, member, divides⟩ := divides
  rw [(Nat.prime_dvd_prime_iff_eq prime (primes factor member)).mp divides]
  exact parts factor member

-- The large factors on the way to the field size, by their number of digits.
theorem prime_18 : Nat.Prime 173378833005251801 := by
  apply prime_of_lucas 6 [2, 2, 2, 5, 5, 2621, 24809, 13331831]
  · norm_num
  · norm_num
  · reduce_mod_char
  · simp only [List.forall_mem_cons, Nat.reduceSub, Nat.reduceDiv]
    reduce_mod_char
    decide

theorem prime_23 : Nat.Prime 22149492674086928081353 := by
  apply prime_of_lucas 5 [2, 2, 2, 3, 5323, 173378833005251801]
  · norm_num
  · simp only [List.forall_mem_cons, prime_18]
    norm_num
  · reduce_mod_char
  · simp only [List.forall_mem_cons, Nat.reduceSub, Nat.reduceDiv]
    reduce_mod_char
    decide

theorem prime_24 : Nat.Prime 132896956044521568488119 := by
  apply prime_of_lucas 6 [2, 3, 22149492674086928081353]
  · norm_num
  · simp only [List.forall_mem_cons, prime_23]
    norm_num
  · reduce_mod_char
  · simp only [List.forall_mem_cons, Nat.reduceSub, Nat.reduceDiv]
    reduce_mod_char
    decide

theorem prime_39 : Nat.Prime 255515944373312847190720520512484175977 := by
  apply prime_of_lucas 3 [2, 2, 2, 7, 7, 11, 1627, 2657, 4423, 41201, 96557, 7240687, 107590001]
  · norm_num
  · norm_num
  · reduce_mod_char
  · simp only [List.forall_mem_cons, Nat.reduceSub, Nat.reduceDiv]
    reduce_mod_char
    decide

theorem prime_72 : Nat.Prime 205115282021455665897114700593932402728804164701536103180137503955397371 := by
  apply prime_of_lucas 10 [2, 3, 5, 29, 29, 31, 7723, 132896956044521568488119,
    255515944373312847190720520512484175977]
  · norm_num
  · simp only [List.forall_mem_cons, prime_24, prime_39]
    norm_num
  · reduce_mod_char
  · simp only [List.forall_mem_cons, Nat.reduceSub, Nat.reduceDiv]
    reduce_mod_char
    decide

theorem fieldSize_prime : Nat.Prime fieldSize := by
  unfold fieldSize
  apply prime_of_lucas 3 [2, 3, 7, 13441,
    205115282021455665897114700593932402728804164701536103180137503955397371]
  · norm_num
  · simp only [List.forall_mem_cons, prime_72]
    norm_num
  · reduce_mod_char
  · simp only [List.forall_mem_cons, Nat.reduceSub, Nat.reduceDiv]
    reduce_mod_char
    decide

namespace Point

variable (point : Point)

/-- Seven is no square, so no point has the first coordinate zero. -/
theorem x_pos : 0 < point.x := by
  apply Nat.pos_of_ne_zero
  intro zero
  have symbol : jacobiSym 7 fieldSize = -1 := by
    unfold fieldSize
    norm_num
  apply ZMod.nonsquare_of_jacobiSym_eq_neg_one symbol
  have curve := (ZMod.natCast_eq_natCast_iff _ _ _).mpr point.curve
  rw [zero] at curve
  push_cast at curve
  refine ⟨(point.y : ZMod fieldSize), ?_⟩
  push_cast
  linear_combination -curve

/-- The first coordinate times a cube root of one. -/
def rotate : Point where
  x := beta * point.x % fieldSize
  y := point.y
  x_lt := Nat.mod_lt _ (by decide)
  y_lt := point.y_lt
  curve := by
    have cube : (beta * point.x % fieldSize) ^ 3 ≡ point.x ^ 3 [MOD fieldSize] :=
      calc (beta * point.x % fieldSize) ^ 3
          ≡ (beta * point.x) ^ 3 [MOD fieldSize] := (Nat.mod_modEq _ _).pow 3
        _ = beta ^ 3 * point.x ^ 3 := Nat.mul_pow _ _ _
        _ ≡ 1 * point.x ^ 3 [MOD fieldSize] := beta_cube.mul_right _
        _ = point.x ^ 3 := Nat.one_mul _
    exact point.curve.trans (cube.symm.add_right 7)

theorem rotate_ne : point.rotate ≠ point := by
  intro same
  have fixed : beta * point.x % fieldSize = point.x := congrArg Point.x same
  have congruent := Nat.mod_modEq (beta * point.x) fieldSize
  rw [fixed] at congruent
  have whole : fieldSize ∣ (beta - 1) * point.x := by
    rw [Nat.sub_mul, Nat.one_mul]
    exact (Nat.modEq_iff_dvd' (Nat.le_mul_of_pos_left _ (by decide))).mp congruent
  have divides := coprime_beta.dvd_of_dvd_mul_left whole
  exact absurd (Nat.le_of_dvd point.x_pos divides) (Nat.not_le.mpr point.x_lt)

theorem rotate_rotate_rotate : point.rotate.rotate.rotate = point := by
  have cube : beta * (beta * (beta * point.x % fieldSize) % fieldSize) ≡ point.x [MOD fieldSize] :=
    calc beta * (beta * (beta * point.x % fieldSize) % fieldSize)
        ≡ beta * (beta * (beta * point.x % fieldSize)) [MOD fieldSize] := (Nat.mod_modEq _ _).mul_left _
      _ ≡ beta * (beta * (beta * point.x)) [MOD fieldSize] :=
        ((Nat.mod_modEq _ _).mul_left _).mul_left _
      _ = beta ^ 3 * point.x := by ring
      _ ≡ 1 * point.x [MOD fieldSize] := beta_cube.mul_right _
      _ = point.x := Nat.one_mul _
  ext
  · exact Nat.ModEq.eq_of_lt_of_lt ((Nat.mod_modEq _ _).trans cube) (Nat.mod_lt _ (by decide)) point.x_lt
  · rfl

theorem rotate_rotate_ne : point.rotate.rotate ≠ point := by
  intro same
  apply point.rotate_ne
  calc point.rotate
      = point.rotate.rotate.rotate := congrArg rotate same.symm
    _ = point := point.rotate_rotate_rotate

/-- No other points have the same second coordinate. -/
theorem eq_rotate_of_y {other : Point} (sameY : other.y = point.y) :
    other = point ∨ other = point.rotate ∨ other = point.rotate.rotate := by
  have : Fact fieldSize.Prime := ⟨fieldSize_prime⟩
  have curve := (ZMod.natCast_eq_natCast_iff _ _ _).mpr point.curve
  have otherCurve := (ZMod.natCast_eq_natCast_iff _ _ _).mpr other.curve
  have unity := (ZMod.natCast_eq_natCast_iff _ _ _).mpr beta_sum
  rw [sameY] at otherCurve
  push_cast at curve otherCurve unity
  -- the difference of the cubes, as a product
  have roots : ((other.x : ZMod fieldSize) - point.x) * ((other.x - beta * point.x) *
      (other.x - beta * (beta * point.x))) = 0 := by
    linear_combination curve - otherCurve + (-(other.x : ZMod fieldSize) ^ 2 * point.x +
      other.x * point.x ^ 2 * beta - (beta - 1) * point.x ^ 3) * unity
  have same {point : Point} (sameY : other.y = point.y) (sameX : (other.x : ZMod fieldSize) = point.x) :
      other = point := by
    ext
    · exact Nat.ModEq.eq_of_lt_of_lt ((ZMod.natCast_eq_natCast_iff _ _ _).mp sameX) other.x_lt point.x_lt
    · exact sameY
  have turned (point : Point) : (point.rotate.x : ZMod fieldSize) = beta * point.x := by
    rw [rotate, ZMod.natCast_mod, Nat.cast_mul]
  rw [mul_eq_zero, mul_eq_zero, sub_eq_zero, sub_eq_zero, sub_eq_zero, ← turned, ← turned] at roots
  rcases roots with first | second | third
  · exact .inl (same sameY first)
  · exact .inr (.inl (same sameY second))
  · exact .inr (.inr (same sameY third))

end Point

end FantomLedger.Library.Secp256k1
