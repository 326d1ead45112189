import FantomLedger.Library.Rlp
import Mathlib.Data.Vector.Defs

/-! Distinguished encoding of a pair of positive numbers, and numbers of a fixed width. -/

namespace FantomLedger.Library.Der

open Rlp

/-- The shortest bytes of a number in two's complement. -/
def content (n : Nat) : List UInt8 :=
  match beBytes n with
  | [] => [0]
  | first :: rest => if 0x80 ≤ first then 0 :: first :: rest else first :: rest

/-- Tag and length before some bytes, of which there are fewer than 128. -/
def tagged (tag : UInt8) (bytes : List UInt8) : List UInt8 :=
  tag :: UInt8.ofNat bytes.length :: bytes

def integer (n : Nat) : List UInt8 := tagged 0x02 (content n)

def signature (r s : Nat) : List UInt8 := tagged 0x30 (integer r ++ integer s)

/-- The bytes of a number, most significant first, in a given width. -/
def fixed (width n : Nat) : Vector UInt8 width :=
  Vector.ofFn fun i => UInt8.ofNat (n / 256 ^ (width - 1 - i.val))

theorem tagged_length (tag : UInt8) (bytes : List UInt8) :
    (tagged tag bytes).length = bytes.length + 2 := rfl

theorem beNat_zero_cons (bytes : List UInt8) : beNat (0 :: bytes) = beNat bytes := by
  rw [beNat_cons]
  exact (congrArg (· + _) (Nat.zero_mul _)).trans (Nat.zero_add _)

theorem beNat_content (n : Nat) : beNat (content n) = n := by
  have value := beNat_beBytes n
  unfold content
  split
  · rename_i none
    rw [none] at value
    rw [← value]
    rfl
  · rename_i first rest some
    rw [some] at value
    split_ifs
    · rw [beNat_zero_cons, value]
    · exact value

theorem content_length_le {n width : Nat} (small : n < 256 ^ width) :
    (content n).length ≤ width + 1 := by
  have short := beBytes_length_le n width small
  unfold content
  split
  · exact Nat.succ_le_succ (Nat.zero_le _)
  · rename_i first rest some
    rw [some, List.length_cons] at short
    split_ifs
    · simp only [List.length_cons]
      omega
    · rw [List.length_cons]
      omega

/-- At one byte more than the width of a number its contents start with a byte of zero. -/
theorem beNat_content_tail {n width : Nat} (small : n < 256 ^ width)
    (full : (content n).length = width + 1) : beNat (content n).tail = n := by
  have value := beNat_content n
  obtain ⟨first, rest, split⟩ := List.exists_cons_of_length_eq_add_one full
  rw [split] at full value
  have size : rest.length = width := by simpa using full
  rw [beNat_cons, size] at value
  rw [split, List.tail_cons]
  rcases Nat.eq_zero_or_pos first.toNat with zero | positive
  · rw [zero, Nat.zero_mul, Nat.zero_add] at value
    exact value
  · have large := Nat.le_mul_of_pos_left (256 ^ width) positive
    omega

theorem getElem_beNat (bytes : List UInt8) {i : Nat} (inside : i < bytes.length) :
    bytes[i].toNat = beNat bytes / 256 ^ (bytes.length - 1 - i) % 256 := by
  have split : bytes = bytes.take i ++ bytes[i] :: bytes.drop (i + 1) := by simp
  have behind : (bytes.drop (i + 1)).length = bytes.length - 1 - i := by
    rw [List.length_drop]
    omega
  have rest := beNat_lt (bytes.drop (i + 1))
  have digit := bytes[i].toNat_lt
  have value : beNat bytes = (beNat (bytes.take i) * 256 + bytes[i].toNat) *
      256 ^ (bytes.length - 1 - i) + beNat (bytes.drop (i + 1)) := by
    conv_lhs => rw [split]
    rw [beNat_append, beNat_cons, List.length_cons, behind, Nat.pow_succ]
    ring
  rw [behind] at rest
  rw [value, Nat.add_comm (_ * _), Nat.add_mul_div_right _ _ (by positivity),
    Nat.div_eq_of_lt rest]
  omega

/-- Bytes of the width that have the value are its encoding. -/
theorem eq_fixed {width n : Nat} {bytes : Vector UInt8 width} (value : beNat bytes.toList = n) :
    bytes = fixed width n := by
  ext i inside
  have digit := getElem_beNat bytes.toList (i := i) (by rw [Vector.length_toList]; exact inside)
  simp only [Vector.length_toList, value, Vector.getElem_toList] at digit
  rw [fixed, Vector.getElem_ofFn, digit, UInt8.toNat_ofNat']

theorem beNat_inj {first second : List UInt8} (value : beNat first = beNat second)
    (size : first.length = second.length) : first = second := by
  apply List.ext_getElem size
  intro i inside inSecond
  apply UInt8.toNat_inj.mp
  rw [getElem_beNat first inside, getElem_beNat second inSecond, value, size]

theorem beNat_zeros (count : Nat) (bytes : List UInt8) :
    beNat (List.replicate count 0 ++ bytes) = beNat bytes := by
  induction count with
  | zero => rfl
  | succ count ih => rw [List.replicate_succ, List.cons_append, beNat_zero_cons, ih]

theorem beNat_fixed {width n : Nat} (small : n < 256 ^ width) : beNat (fixed width n).toList = n := by
  have short := beBytes_length_le n width small
  have size : (List.replicate (width - (beBytes n).length) 0 ++ beBytes n).length = width := by
    rw [List.length_append, List.length_replicate]
    omega
  have value : beNat (List.replicate (width - (beBytes n).length) 0 ++ beBytes n) = n := by
    rw [beNat_zeros, beNat_beBytes]
  obtain ⟨bytes, same⟩ : ∃ bytes : Vector UInt8 width,
      bytes.toList = List.replicate (width - (beBytes n).length) 0 ++ beBytes n :=
    ⟨⟨(List.replicate (width - (beBytes n).length) 0 ++ beBytes n).toArray, size⟩, rfl⟩
  rw [← same] at value
  rw [← eq_fixed value, value]

end FantomLedger.Library.Der
