import FantomLedger.Library.DoubleWord
import FantomLedger.Uint256
import Mathlib.Tactic.Ring

/-! What the limb arithmetic computes, as natural numbers. -/

namespace FantomLedger

open Library

namespace Uint128

def toNat (number : Uint128) : Nat :=
  DoubleWord.value 64 number.upper.toNat number.lower.toNat

theorem toNat_lt (number : Uint128) : number.toNat < 2 ^ 128 :=
  DoubleWord.value_lt number.upper.toNat_lt number.lower.toNat_lt

theorem toNat_inj {a b : Uint128} (same : a.toNat = b.toNat) : a = b := by
  obtain ⟨uppers, lowers⟩ :=
    DoubleWord.value_inj a.lower.toNat_lt b.lower.toNat_lt same
  cases a
  cases b
  congr
  · exact UInt64.toNat_inj.mp uppers
  · exact UInt64.toNat_inj.mp lowers

@[simp] theorem toNat_lowerOnly (limb : UInt64) : (Uint128.mk 0 limb).toNat = limb.toNat := by
  simp [toNat, DoubleWord.value]

end Uint128

namespace Uint256

def toNat (number : Uint256) : Nat :=
  DoubleWord.value 128 number.upper.toNat number.lower.toNat

theorem toNat_lt (number : Uint256) : number.toNat < 2 ^ 256 :=
  DoubleWord.value_lt number.upper.toNat_lt number.lower.toNat_lt

@[simp] theorem toNat_lowerOnly (half : Uint128) :
    (Uint256.mk clear128 half).toNat = half.toNat := by
  simp [toNat, DoubleWord.value, clear128, Uint128.toNat]

theorem toNat_inj {a b : Uint256} (same : a.toNat = b.toNat) : a = b := by
  obtain ⟨uppers, lowers⟩ :=
    DoubleWord.value_inj a.lower.toNat_lt b.lower.toNat_lt same
  cases a
  cases b
  congr
  · exact Uint128.toNat_inj uppers
  · exact Uint128.toNat_inj lowers

end Uint256

@[simp] theorem clear128_toNat : clear128.toNat = 0 := by
  simp [clear128, Uint128.toNat, DoubleWord.value]

@[simp] theorem clear256_toNat : clear256.toNat = 0 := by
  simp [clear256, Uint256.toNat, DoubleWord.value]

theorem isZero128_iff (number : Uint128) : isZero128 number = true ↔ number.toNat = 0 := by
  have zero : isZero128 number = true ↔ number = clear128 := by
    cases number
    simp [isZero128, clear128, and_comm]
  rw [zero]
  exact ⟨fun same => by rw [same, clear128_toNat], fun same => Uint128.toNat_inj same⟩

theorem isZero256_iff (number : Uint256) : isZero256 number = true ↔ number.toNat = 0 := by
  rw [isZero256, Bool.and_eq_true, isZero128_iff, isZero128_iff]
  simp [Uint256.toNat, DoubleWord.value, and_comm]

theorem equal128_iff (a b : Uint128) : equal128 a b = true ↔ a = b := by
  cases a
  cases b
  simp [equal128]

theorem equal256_iff (a b : Uint256) : equal256 a b = true ↔ a = b := by
  cases a
  cases b
  simp [equal256, equal128_iff]

theorem gt128_iff (a b : Uint128) : gt128 a b = true ↔ b.toNat < a.toNat := by
  unfold Uint128.toNat
  rw [DoubleWord.lt_iff b.lower.toNat_lt a.lower.toNat_lt, gt128]
  simp only [UInt64.toNat_inj, beq_iff_eq, eq_comm (a := b.upper)]
  split_ifs <;> simp [UInt64.lt_iff_toNat_lt]

theorem gt256_iff (a b : Uint256) : gt256 a b = true ↔ b.toNat < a.toNat := by
  unfold Uint256.toNat
  rw [DoubleWord.lt_iff b.lower.toNat_lt a.lower.toNat_lt, gt256]
  have uppers : b.upper.toNat = a.upper.toNat ↔ equal128 a.upper b.upper = true := by
    rw [equal128_iff]
    exact ⟨fun same => (Uint128.toNat_inj same).symm, fun same => by rw [same]⟩
  simp only [uppers]
  split_ifs <;> simp [gt128_iff]

theorem gte256_iff (a b : Uint256) : gte256 a b = true ↔ b.toNat ≤ a.toNat := by
  rw [gte256, Bool.or_eq_true, gt256_iff, equal256_iff, Nat.le_iff_lt_or_eq]
  constructor
  · rintro (below | rfl)
    · exact .inl below
    · exact .inr rfl
  · rintro (below | same)
    · exact .inl below
    · exact .inr (Uint256.toNat_inj same).symm

theorem add128_toNat (a b : Uint128) :
    (add128 a b).toNat = (a.toNat + b.toNat) % 2 ^ 128 := by
  unfold Uint128.toNat
  rw [show 128 = 2 * 64 from rfl, DoubleWord.add_mod a.lower.toNat_lt b.lower.toNat_lt]
  have carried : (flag (a.lower + b.lower < a.lower)).toNat =
      if (a.lower.toNat + b.lower.toNat) % 2 ^ 64 < a.lower.toNat then 1 else 0 := by
    simp only [flag, UInt64.lt_iff_toNat_lt, UInt64.toNat_add, decide_eq_true_eq]
    split_ifs <;> rfl
  simp only [add128, UInt64.toNat_add, carried]
  rw [Nat.mod_add_mod]

theorem add256_toNat (a b : Uint256) :
    (add256 a b).toNat = (a.toNat + b.toNat) % 2 ^ 256 := by
  unfold Uint256.toNat
  rw [show 256 = 2 * 128 from rfl, DoubleWord.add_mod a.lower.toNat_lt b.lower.toNat_lt]
  have lower : (add256 a b).lower.toNat = (a.lower.toNat + b.lower.toNat) % 2 ^ 128 :=
    add128_toNat _ _
  have upper : (add256 a b).upper.toNat = (a.upper.toNat + b.upper.toNat +
      if (a.lower.toNat + b.lower.toNat) % 2 ^ 128 < a.lower.toNat then 1 else 0) % 2 ^ 128 := by
    unfold add256
    simp only [gt128_iff, add128_toNat]
    split_ifs
    · rw [add128_toNat, add128_toNat, Nat.mod_add_mod]
      rfl
    · rw [add128_toNat, Nat.add_zero]
  rw [lower, upper]

/-- Adding the subtrahend back undoes a subtraction, borrow by carry. -/
theorem add128_minus128 (a b : Uint128) : add128 (minus128 a b) b = a := by
  have lower : a.lower - b.lower + b.lower = a.lower := UInt64.sub_add_cancel _ _
  unfold add128 minus128
  simp only [lower]
  cases a
  congr 1
  grind

theorem minus128_toNat (a b : Uint128) :
    (minus128 a b).toNat = (a.toNat + 2 ^ 128 - b.toNat) % 2 ^ 128 := by
  have sum := congrArg Uint128.toNat (add128_minus128 a b)
  rw [add128_toNat] at sum
  have := (minus128 a b).toNat_lt
  have := a.toNat_lt
  have := b.toNat_lt
  omega

theorem minus256_mod (a b : Uint256) :
    (minus256 a b).toNat = (a.toNat + 2 ^ 256 - b.toNat) % 2 ^ 256 := by
  have one : (Uint128.mk 0 1).toNat = 1 := rfl
  have := a.upper.toNat_lt
  have := a.lower.toNat_lt
  have := b.upper.toNat_lt
  have := b.lower.toNat_lt
  unfold Uint256.toNat DoubleWord.value at *
  unfold minus256
  simp only [gt128_iff, minus128_toNat]
  split_ifs with borrow
  · simp only [minus128_toNat, one]
    omega
  · simp only [minus128_toNat]
    omega

theorem minus256_toNat {a b : Uint256} (le : b.toNat ≤ a.toNat) :
    (minus256 a b).toNat = a.toNat - b.toNat := by
  have bound := a.toNat_lt
  rw [minus256_mod]
  omega

theorem or128_toNat (a b : Uint128) : (or128 a b).toNat = a.toNat ||| b.toNat := by
  unfold Uint128.toNat
  rw [DoubleWord.lor_eq a.lower.toNat_lt b.lower.toNat_lt]
  simp [or128]

theorem or256_toNat (a b : Uint256) : (or256 a b).toNat = a.toNat ||| b.toNat := by
  unfold Uint256.toNat
  rw [DoubleWord.lor_eq a.lower.toNat_lt b.lower.toNat_lt]
  simp [or256, or128_toNat]

theorem shl64_toNat {limb : UInt64} {value : Nat} (small : value < 64) :
    (shl64 limb value).toNat = limb.toNat * 2 ^ value % 2 ^ 64 := by
  simp [shl64, UInt64.toNat_shiftLeft, Nat.mod_eq_of_lt small, Nat.shiftLeft_eq]

theorem shr64_toNat {limb : UInt64} {value : Nat} (small : value < 64) :
    (shr64 limb value).toNat = limb.toNat / 2 ^ value := by
  simp [shr64, UInt64.toNat_shiftRight, Nat.mod_eq_of_lt small, Nat.shiftRight_eq_div_pow]

theorem shiftLeft128_toNat (number : Uint128) (value : Nat) :
    (shiftLeft128 number value).toNat = number.toNat * 2 ^ value % 2 ^ 128 := by
  unfold shiftLeft128
  split_ifs with all word none below
  · have multiple : 2 ^ 128 ∣ number.toNat * 2 ^ value :=
      (pow_dvd_pow 2 all).mul_left _
    rw [clear128_toNat, Nat.mod_eq_zero_of_dvd multiple]
  · subst word
    exact (DoubleWord.shiftLeft_word number.lower.toNat_lt).symm
  · rw [none, pow_zero, Nat.mul_one, Nat.mod_eq_of_lt number.toNat_lt]
  · rw [Uint128.toNat, show 128 = 2 * 64 from rfl, Uint128.toNat,
      DoubleWord.shiftLeft_mod (Nat.le_of_lt below), UInt64.toNat_add, shl64_toNat below,
      shl64_toNat below, shr64_toNat (by omega)]
  · obtain ⟨rest, rfl⟩ := Nat.exists_eq_add_of_le (show 64 ≤ value by omega)
    rw [Nat.add_sub_cancel_left, Uint128.toNat, shl64_toNat (show rest < 64 by omega)]
    exact (DoubleWord.shiftLeft_word_mod rest).symm

theorem shiftRight128_toNat (number : Uint128) (value : Nat) :
    (shiftRight128 number value).toNat = number.toNat / 2 ^ value := by
  unfold shiftRight128
  split_ifs with all word none below
  · have : 2 ^ 128 ≤ 2 ^ value := Nat.pow_le_pow_right (by decide) all
    have := number.toNat_lt
    rw [clear128_toNat, Nat.div_eq_of_lt (by omega)]
  · subst word
    rw [Uint128.toNat_lowerOnly]
    exact (DoubleWord.value_div number.lower.toNat_lt).symm
  · rw [none, pow_zero, Nat.div_one]
  · rw [Uint128.toNat, Uint128.toNat, DoubleWord.shiftRight_eq (Nat.le_of_lt below),
      UInt64.toNat_add, shr64_toNat below, shl64_toNat (show 64 - value < 64 by omega),
      shr64_toNat below]
    congr 1
    exact Nat.mod_eq_of_lt
      (DoubleWord.shiftRight_lower_lt _ number.lower.toNat_lt (Nat.le_of_lt below))
  · obtain ⟨rest, rfl⟩ := Nat.exists_eq_add_of_le (show 64 ≤ value by omega)
    rw [Nat.add_sub_cancel_left, Uint128.toNat_lowerOnly, shr64_toNat (show rest < 64 by omega)]
    exact (DoubleWord.shiftRight_word number.lower.toNat_lt rest).symm

theorem shiftLeft256_toNat (number : Uint256) (value : Nat) :
    (shiftLeft256 number value).toNat = number.toNat * 2 ^ value % 2 ^ 256 := by
  unfold shiftLeft256
  split_ifs with all word none below
  · have multiple : 2 ^ 256 ∣ number.toNat * 2 ^ value :=
      (pow_dvd_pow 2 all).mul_left _
    rw [clear256_toNat, Nat.mod_eq_zero_of_dvd multiple]
  · subst word
    rw [Uint256.toNat, Uint256.toNat, clear128_toNat, show 256 = 2 * 128 from rfl,
      DoubleWord.shiftLeft_word number.lower.toNat_lt]
  · rw [none, pow_zero, Nat.mul_one, Nat.mod_eq_of_lt number.toNat_lt]
  · rw [Uint256.toNat, show 256 = 2 * 128 from rfl, Uint256.toNat,
      DoubleWord.shiftLeft_mod (Nat.le_of_lt below), add128_toNat, shiftLeft128_toNat,
      shiftLeft128_toNat, shiftRight128_toNat]
  · obtain ⟨rest, rfl⟩ := Nat.exists_eq_add_of_le (show 128 ≤ value by omega)
    rw [Nat.add_sub_cancel_left, Uint256.toNat, Uint256.toNat, shiftLeft128_toNat,
      clear128_toNat, show 256 = 2 * 128 from rfl, DoubleWord.shiftLeft_word_mod]

theorem shiftRight256_toNat (number : Uint256) (value : Nat) :
    (shiftRight256 number value).toNat = number.toNat / 2 ^ value := by
  unfold shiftRight256
  split_ifs with all word none below
  · have : 2 ^ 256 ≤ 2 ^ value := Nat.pow_le_pow_right (by decide) all
    have := number.toNat_lt
    rw [clear256_toNat, Nat.div_eq_of_lt (by omega)]
  · subst word
    rw [Uint256.toNat_lowerOnly]
    exact (DoubleWord.value_div number.lower.toNat_lt).symm
  · rw [none, pow_zero, Nat.div_one]
  · rw [Uint256.toNat, Uint256.toNat, DoubleWord.shiftRight_eq (Nat.le_of_lt below),
      add128_toNat, shiftRight128_toNat, shiftLeft128_toNat, shiftRight128_toNat, Nat.add_comm]
    congr 1
    exact Nat.mod_eq_of_lt
      (DoubleWord.shiftRight_lower_lt _ number.lower.toNat_lt (Nat.le_of_lt below))
  · obtain ⟨rest, rfl⟩ := Nat.exists_eq_add_of_le (show 128 ≤ value by omega)
    rw [Nat.add_sub_cancel_left, Uint256.toNat_lowerOnly, shiftRight128_toNat]
    exact (DoubleWord.shiftRight_word number.lower.toNat_lt rest).symm

end FantomLedger
