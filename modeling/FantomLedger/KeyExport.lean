import FantomLedger.DeriveKey
import FantomLedger.Library.Der
import FantomLedger.Library.Secp256k1

/-! What the 32 bytes of an exported public key say about the point. -/

namespace FantomLedger

open Library
open Library.Secp256k1 (Point)

/-- The uncompressed encoding 04 X Y. -/
def uncompressed (point : Point) : PublicKey :=
  (#v[(0x04 : UInt8)] ++ Der.fixed 32 point.x ++ Der.fixed 32 point.y : Vector UInt8 (1 + 32 + 32))

theorem uncompressed_y (point : Point) {i : Nat} (inside : i < 32) :
    (uncompressed point)[64 - i] = (Der.fixed 32 point.y)[31 - i] := by
  have behind : 1 + 32 ≤ 64 - i := by omega
  have place : 64 - i - (1 + 32) = 31 - i := by omega
  unfold uncompressed
  rw [Vector.getElem_append_right (by omega) behind]
  simp only [place]

theorem uncompressed_x (point : Point) :
    (uncompressed point).get ⟨32, by decide⟩ = UInt8.ofNat point.x := by
  show (uncompressed point)[32] = _
  unfold uncompressed
  rw [Vector.getElem_append_left (by decide), Vector.getElem_append_right (by decide) (by decide)]
  simp [Der.fixed]

theorem odd_iff (point : Point) :
    (uncompressed point).get ⟨32, by decide⟩ &&& 1 ≠ 0 ↔ point.x % 2 = 1 := by
  rw [uncompressed_x, ne_eq, ← UInt8.toNat_inj, UInt8.toNat_and, UInt8.toNat_ofNat']
  show ¬point.x % 256 &&& 1 = 0 ↔ _
  rw [Nat.and_one_is_mod]
  omega

theorem extractRawPublicKey_getElem (point : Point) {i : Nat} (inside : i < 32) :
    (extractRawPublicKey (uncompressed point))[i] =
      if i = 31 ∧ point.x % 2 = 1 then (Der.fixed 32 point.y)[0] ||| 0x80
      else (Der.fixed 32 point.y)[31 - i] := by
  unfold extractRawPublicKey
  have parity : (uncompressed point)[32] &&& 1 ≠ 0 ↔ point.x % 2 = 1 := odd_iff point
  by_cases odd : point.x % 2 = 1
  · simp only [if_pos (parity.mpr odd), Vector.getElem_set, Vector.getElem_ofFn,
      uncompressed_y point inside, uncompressed_y point (show 31 < 32 by decide), odd, and_true,
      eq_comm (a := 31)]
  · simp only [if_neg (mt parity.mp odd), Vector.getElem_ofFn, uncompressed_y point inside,
      odd, and_false, if_false]

/-- From the last byte to the first they are those of Y, but for the top bit. -/
theorem extractRawPublicKey_reverse (point : Point) :
    (extractRawPublicKey (uncompressed point)).toList.reverse =
      ((Der.fixed 32 point.y)[0] ||| if point.x % 2 = 1 then 0x80 else 0) ::
        (Der.fixed 32 point.y).toList.tail := by
  apply List.ext_getElem
  · simp only [List.length_reverse, Vector.length_toList, List.length_cons, List.length_tail]
  · intro i inside _
    rw [List.length_reverse, Vector.length_toList] at inside
    have place : 32 - 1 - i < 32 := by omega
    simp only [List.getElem_reverse, Vector.length_toList, Vector.getElem_toList,
      extractRawPublicKey_getElem point place]
    cases i with
    | zero =>
      have last : 32 - 1 - 0 = 31 := rfl
      by_cases odd : point.x % 2 = 1
      · simp only [last, odd, and_self, if_true, List.getElem_cons_zero]
      · simp only [last, odd, and_false, if_false, Nat.sub_self, List.getElem_cons_zero, UInt8.or_zero]
    | succ i =>
      have later : ¬(32 - 1 - (i + 1) = 31 ∧ point.x % 2 = 1) := by omega
      have index : 31 - (32 - 1 - (i + 1)) = i + 1 := by omega
      simp only [if_neg later, index, List.getElem_cons_succ, List.getElem_tail, Vector.getElem_toList]

/-- The top bit of the exported bytes: that of Y, or the parity of X. -/
def TopBit (point : Point) : Prop := 2 ^ 255 ≤ point.y ∨ point.x % 2 = 1

instance (point : Point) : Decidable (TopBit point) := inferInstanceAs (Decidable (_ ∨ _))

theorem toNat_or_top (byte : UInt8) : (byte ||| 0x80).toNat = byte.toNat % 128 + 128 := by
  have all : ∀ value < 256, value ||| 128 = value % 128 + 128 := by decide +kernel
  rw [UInt8.toNat_or]
  exact all byte.toNat byte.toNat_lt

theorem toList_cons (bytes : Vector UInt8 32) : bytes.toList = bytes[0] :: bytes.toList.tail := by
  obtain ⟨⟨_ | ⟨first, rest⟩⟩, size⟩ := bytes
  · cases size
  · rfl

/-- The bits of a byte on top of a word: those below its own top bit stay, whatever that is. -/
theorem low_bits {top word lower : Nat} (small : lower < word) :
    (top * word + lower) % (128 * word) = top % 128 * word + lower := by
  have bits := Nat.div_add_mod top 128
  have inside : top % 128 * word + lower < 128 * word := by
    have most : (top % 128 + 1) * word ≤ 128 * word :=
      Nat.mul_le_mul_right word (Nat.mod_lt _ (by decide))
    rw [Nat.succ_mul] at most
    omega
  calc (top * word + lower) % (128 * word)
      = (top % 128 * word + lower + 128 * word * (top / 128)) % (128 * word) := by
        congr 1
        conv_lhs => rw [← bits]
        ring
    _ = top % 128 * word + lower := by
      rw [Nat.add_mul_mod_self_left, Nat.mod_eq_of_lt inside]

theorem top_bit {top word lower : Nat} (small : lower < word) :
    128 * word ≤ top * word + lower ↔ 128 ≤ top := by
  constructor
  · intro large
    by_contra less
    have most : (top + 1) * word ≤ 128 * word := Nat.mul_le_mul_right word (by omega)
    rw [Nat.succ_mul] at most
    omega
  · intro large
    exact (Nat.mul_le_mul_right word large).trans (Nat.le_add_right _ _)

theorem beNat_or_top {bytes : Vector UInt8 32} {n : Nat} (value : Rlp.beNat bytes.toList = n)
    (odd : Prop) [Decidable odd] :
    Rlp.beNat ((bytes[0] ||| if odd then 0x80 else 0) :: bytes.toList.tail) =
      n % 2 ^ 255 + if 2 ^ 255 ≤ n ∨ odd then 2 ^ 255 else 0 := by
  have size : bytes.toList.tail.length = 31 := by
    rw [List.length_tail, Vector.length_toList]
  have rest := Rlp.beNat_lt bytes.toList.tail
  have half : 2 ^ 255 = 128 * 256 ^ 31 := by norm_num
  rw [toList_cons, Rlp.beNat_cons, size] at value
  rw [size] at rest
  rw [Rlp.beNat_cons, size, half, ← value, low_bits rest]
  simp only [top_bit rest]
  by_cases set : odd
  · rw [if_pos set, if_pos (.inr set), toNat_or_top, Nat.add_mul]
    exact Nat.add_right_comm _ _ _
  · have byte := bytes[0].toNat_lt
    rw [if_neg set, UInt8.or_zero]
    simp only [set, or_false]
    split_ifs with large
    · have bits : bytes[0].toNat = bytes[0].toNat % 128 + 128 := by omega
      conv_lhs => rw [bits, Nat.add_mul]
      exact Nat.add_right_comm _ _ _
    · rw [Nat.mod_eq_of_lt (by omega), Nat.add_zero]

theorem extractRawPublicKey_value (point : Point) :
    Rlp.beNat (extractRawPublicKey (uncompressed point)).toList.reverse =
      point.y % 2 ^ 255 + if TopBit point then 2 ^ 255 else 0 := by
  have small : point.y < 256 ^ 32 := point.y_lt.trans Secp256k1.fieldSize_lt
  rw [extractRawPublicKey_reverse]
  exact beNat_or_top (Der.beNat_fixed small) (point.x % 2 = 1)

/-- Two points have the same bytes when the lower 255 bits of Y and the top bit agree. -/
theorem extractRawPublicKey_eq_iff (point other : Point) :
    extractRawPublicKey (uncompressed other) = extractRawPublicKey (uncompressed point) ↔
      other.y % 2 ^ 255 = point.y % 2 ^ 255 ∧ (TopBit other ↔ TopBit point) := by
  have value := extractRawPublicKey_value point
  have otherValue := extractRawPublicKey_value other
  have lower := Nat.mod_lt point.y (show 0 < 2 ^ 255 by decide)
  have otherLower := Nat.mod_lt other.y (show 0 < 2 ^ 255 by decide)
  constructor
  · intro same
    rw [same, value] at otherValue
    split_ifs at otherValue with flag otherFlag otherFlag
    · exact ⟨by omega, iff_of_true otherFlag flag⟩
    · omega
    · omega
    · exact ⟨by omega, iff_of_false otherFlag flag⟩
  · rintro ⟨bits, flags⟩
    rw [bits, if_congr flags rfl rfl, ← value] at otherValue
    have reversed := Der.beNat_inj otherValue (by simp)
    exact Vector.toList_inj.mp (List.reverse_injective reversed)

/-- Of the three points that a Y belongs to, two have the same bytes. -/
theorem bytes_shared (point : Point) :
    ∃ first second : Point, first ≠ second ∧ first.y = point.y ∧ second.y = point.y ∧
      extractRawPublicKey (uncompressed first) = extractRawPublicKey (uncompressed second) := by
  have shares {first second : Point} (sameY : first.y = second.y)
      (parity : first.x % 2 = second.x % 2) :
      extractRawPublicKey (uncompressed first) = extractRawPublicKey (uncompressed second) := by
    rw [extractRawPublicKey_eq_iff, TopBit, TopBit, sameY, parity]
    exact ⟨rfl, Iff.rfl⟩
  by_cases firstParity : point.rotate.x % 2 = point.x % 2
  · exact ⟨point.rotate, point, point.rotate_ne, rfl, rfl, shares rfl firstParity⟩
  · by_cases secondParity : point.rotate.rotate.x % 2 = point.rotate.x % 2
    · exact ⟨point.rotate.rotate, point.rotate, point.rotate.rotate_ne, rfl, rfl,
        shares rfl secondParity⟩
    · exact ⟨point.rotate.rotate, point, point.rotate_rotate_ne, rfl, rfl, shares rfl (by omega)⟩

/-- The X of a point is the only one of its parity among those that belong to its Y. -/
def LoneParity (point : Point) : Prop :=
  point.rotate.x % 2 ≠ point.x % 2 ∧ point.rotate.rotate.x % 2 ≠ point.x % 2

theorem LoneParity.eq {point other : Point} (lone : LoneParity point) (sameY : other.y = point.y)
    (parity : other.x % 2 = point.x % 2) : other = point := by
  rcases point.eq_rotate_of_y sameY with same | rfl | rfl
  · exact same
  · exact absurd parity lone.1
  · exact absurd parity lone.2

/-- The bytes of a point are those of no other exactly when Y is below 2^255, the two other points of
this Y have an X of the other parity, and at an odd X no point has Y + 2^255. In no case do the bytes
tell all points of a Y apart. -/
theorem exported_key_identifies_iff (point : Point) :
    ((∀ other : Point, extractRawPublicKey (uncompressed other) =
        extractRawPublicKey (uncompressed point) → other = point) ↔
      point.y < 2 ^ 255 ∧ LoneParity point ∧
        (point.x % 2 = 1 → ∀ other : Point, other.y ≠ point.y + 2 ^ 255)) ∧
      ∃ first second : Point, first ≠ second ∧ first.y = point.y ∧ second.y = point.y ∧
        extractRawPublicKey (uncompressed first) = extractRawPublicKey (uncompressed second) := by
  refine ⟨?_, bytes_shared point⟩
  simp only [extractRawPublicKey_eq_iff, TopBit]
  constructor
  · intro identifies
    have alone {other : Point} (sameY : other.y = point.y) (parity : other.x % 2 = point.x % 2) :
        other = point := by
      apply identifies
      rw [sameY, parity]
      exact ⟨rfl, Iff.rfl⟩
    refine ⟨?_, ⟨?_, ?_⟩, ?_⟩
    · by_contra large
      have top : 2 ^ 255 ≤ point.y := Nat.le_of_not_lt large
      exact point.rotate_ne (identifies point.rotate ⟨rfl, iff_of_true (.inl top) (.inl top)⟩)
    · exact fun parity => point.rotate_ne (alone rfl parity)
    · exact fun parity => point.rotate_rotate_ne (alone rfl parity)
    · intro odd other above
      have same := identifies other ⟨by rw [above, Nat.add_mod_right],
        iff_of_true (.inl (by omega)) (.inr odd)⟩
      rw [same] at above
      omega
  · rintro ⟨small, lone, none⟩ other ⟨bits, flags⟩
    have otherSmall : other.y < 2 ^ 256 := other.y_lt.trans Secp256k1.fieldSize_lt
    have lower : other.y = point.y ∨ other.y = point.y + 2 ^ 255 := by omega
    rcases lower with sameY | above
    · apply lone.eq sameY
      omega
    · have set : point.x % 2 = 1 := by omega
      exact absurd above (none set other)

/-- Two points whose Y is that of the curve's generator, and whose X are odd. -/
theorem two_points_one_key :
    ∃ point other : Point, other ≠ point ∧
      point.y = 0x483ADA7726A3C4655DA4FBFC0E1108A8FD17B448A68554199C47D08FFB10D4B8 ∧
      point.x = 0xBCACE2E99DA01887AB0102B696902325872844067F15E98DA7BBA04400B88FCB ∧
      other.y = 0x483ADA7726A3C4655DA4FBFC0E1108A8FD17B448A68554199C47D08FFB10D4B8 ∧
      other.x = 0xC994B69768832BCBFF5E9AB39AE8D1D3763BBF1E531BED98FE51DE5EE84F50FB ∧
      extractRawPublicKey (uncompressed other) = extractRawPublicKey (uncompressed point) := by
  refine ⟨⟨0xBCACE2E99DA01887AB0102B696902325872844067F15E98DA7BBA04400B88FCB,
      0x483ADA7726A3C4655DA4FBFC0E1108A8FD17B448A68554199C47D08FFB10D4B8, by decide, by decide,
      by decide +kernel⟩,
    ⟨0xC994B69768832BCBFF5E9AB39AE8D1D3763BBF1E531BED98FE51DE5EE84F50FB,
      0x483ADA7726A3C4655DA4FBFC0E1108A8FD17B448A68554199C47D08FFB10D4B8, by decide, by decide,
      by decide +kernel⟩, by decide, rfl, rfl, rfl, rfl, ?_⟩
  rw [extractRawPublicKey_eq_iff]
  exact ⟨rfl, by decide⟩

end FantomLedger
