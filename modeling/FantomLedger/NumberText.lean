import FantomLedger.Uint256Text

/-! The string of a number, read back in its base. -/

namespace FantomLedger

open Library Library.Program Library.Numerals TextBuffer

def hexValue (c : Char) : Nat := hexDigits.idxOf c

/-- The number that a text stands for in a base, read from the front. -/
def readBack (base : Nat) (text : List Char) : Nat :=
  text.foldl (fun number c => base * number + hexValue c) 0

/-- Zero is written with one digit. -/
def digitCount (base number : Nat) : Nat := max 1 (base.digits number).length

structure IsNumeral (base number : Nat) (text : List Char) : Prop where
  digits : ∀ c ∈ text, c ∈ hexDigits.take base
  count : text.length = digitCount base number
  zero : number = 0 → text = ['0']
  leading : number ≠ 0 → text.head? ≠ some '0'
  value : readBack base text = number

theorem hexValue_hexDigit {digit : Nat} (small : digit < 16) : hexValue (hexDigit digit) = digit := by
  interval_cases digit <;> decide

theorem hexDigit_inj {first second : Nat} (one : first < 16) (two : second < 16)
    (same : hexDigit first = hexDigit second) : first = second := by
  rw [← hexValue_hexDigit one, ← hexValue_hexDigit two, same]

theorem hexDigit_mem_take {digit base : Nat} (small : digit < base) (sixteen : base ≤ 16) :
    hexDigit digit ∈ hexDigits.take base := by
  apply List.mem_of_getElem? (i := digit)
  rw [List.getElem?_take_of_lt small]
  exact hexDigits_load (by omega)

theorem digitCount_eq {base : Nat} (two : 2 ≤ base) (number : Nat) :
    (numeral base number).length = digitCount base number := by
  by_cases zero : number = 0
  · subst zero
    simp [numeral, digitCount]
  · have positive := Nat.pos_of_ne_zero zero
    have nonempty : 0 < (base.digits number).length :=
      List.length_pos_of_ne_nil (Nat.digits_ne_nil_iff_ne_zero.mpr zero)
    rw [numeral_of_pos two positive, digitCount, max_eq_right nonempty]

theorem digitText_length_le (number : Nat) {bound : Nat} (positive : 0 < bound) :
    (digitText 10 number).length ≤ bound ↔ number < 10 ^ bound := by
  rw [digitText_length]
  exact numeral_length_le (by decide) positive

theorem digitText_zero (base : Nat) : digitText base 0 = ['0'] := by
  rw [digitText, storedDigits_last (Nat.zero_div base), Nat.zero_mod]
  rfl

/-- The text of a number above zero starts with its top digit, which is not zero. -/
theorem digitText_leading {base number : Nat} (two : 2 ≤ base) (nonzero : number ≠ 0) :
    ∃ top rest, digitText base number = hexDigit top :: rest ∧ top ≠ 0 ∧ top < base := by
  have positive : 0 < number := Nat.pos_of_ne_zero nonzero
  have nonempty : base.digits number ≠ [] := Nat.digits_ne_nil_iff_ne_zero.mpr nonzero
  have last := Nat.getLast_digit_ne_zero base nonzero
  rcases List.eq_nil_or_concat' (base.digits number) with nothing | ⟨init, top, shape⟩
  · exact absurd nothing nonempty
  have topSmall : top < base := Nat.digits_lt_base two (by rw [shape]; simp)
  have topNonzero : top ≠ 0 := by simpa only [shape, List.getLast_append_singleton] using last
  refine ⟨top, (init.map hexDigit).reverse, ?_, topNonzero, topSmall⟩
  rw [digitText, storedDigits, numeral_of_pos two positive, shape]
  simp

theorem readBack_digitText {base : Nat} (two : 2 ≤ base) (sixteen : base ≤ 16) (number : Nat) :
    readBack base (digitText base number) = number := by
  have values : (numeral base number).foldr (fun digit rest => base * rest + hexValue (hexDigit digit)) 0 =
      (numeral base number).foldr (fun digit rest => base * rest + digit) 0 := by
    apply List.foldr_ext
    intro digit member rest
    rw [hexValue_hexDigit ((numeral_digit_lt two member).trans_le sixteen)]
  calc
    readBack base (digitText base number)
        = (numeral base number).foldr (fun digit rest => base * rest + hexValue (hexDigit digit)) 0 := by
      rw [readBack, digitText, List.foldl_reverse, storedDigits, List.foldr_map]
    _ = Nat.ofDigits base (numeral base number) := by
      rw [values, Nat.ofDigits_eq_foldr]
      simp only [Nat.cast_id, Nat.add_comm]
    _ = number := ofDigits_numeral base number

theorem isNumeral_digitText {base : Nat} (two : 2 ≤ base) (sixteen : base ≤ 16) (number : Nat) :
    IsNumeral base number (digitText base number) where
  digits := by
    intro c member
    rw [digitText, List.mem_reverse, storedDigits, List.mem_map] at member
    obtain ⟨digit, member, rfl⟩ := member
    exact hexDigit_mem_take (numeral_digit_lt two member) sixteen
  count := by rw [digitText_length, digitCount_eq two]
  zero := by
    rintro rfl
    exact digitText_zero base
  leading := by
    intro nonzero
    obtain ⟨top, rest, shape, topNonzero, topSmall⟩ := digitText_leading two nonzero
    rw [shape, List.head?_cons, Ne, Option.some_inj]
    exact fun same => topNonzero (hexDigit_inj (by omega) (by decide) same)
  value := readBack_digitText two sixteen number

/-- With room behind the digits the string is written, and with too little for the digits the
conversion returns 0. -/
theorem toString_reads_back (number : Uint256) {base : Nat} (two : 2 ≤ base) (sixteen : base ≤ 16)
    (memory : List Char) (positive : 0 < memory.length) (small : memory.length < 2 ^ 32) :
    (digitCount base number.toNat < memory.length →
      ∃ text rest, IsNumeral base number.toNat text ∧
        (text ++ '\x00' :: rest).length = memory.length ∧
        (uint256ToString number base memory.length).run memory =
          .ok (digitCount base number.toNat) (text ++ '\x00' :: rest)) ∧
    (memory.length < digitCount base number.toNat →
      ∃ after, (uint256ToString number base memory.length).run memory = .ok 0 after) := by
  have run := uint256ToString_run number two sixteen memory positive small
  have numeral := isNumeral_digitText two sixteen number.toNat
  rw [numeral.count] at run
  constructor
  · intro fits
    rw [if_pos fits] at run
    refine ⟨_, _, numeral, ?_, run⟩
    rw [List.length_append, List.length_cons, List.length_drop, numeral.count]
    omega
  · intro long
    rw [if_neg (by omega), if_neg (by omega)] at run
    exact ⟨_, run⟩

theorem fifteen_reads_back :
    ∃ text rest, IsNumeral 10 (Uint256.mk ⟨0, 0⟩ ⟨0, 15⟩).toNat text ∧
      (text ++ '\x00' :: rest).length = 4 ∧
      (uint256ToString ⟨⟨0, 0⟩, ⟨0, 15⟩⟩ 10 4).run (List.replicate 4 '\x00') =
        .ok (digitCount 10 (Uint256.mk ⟨0, 0⟩ ⟨0, 15⟩).toNat) (text ++ '\x00' :: rest) :=
  (toString_reads_back ⟨⟨0, 0⟩, ⟨0, 15⟩⟩ (by decide) (by decide) (List.replicate 4 '\x00') (by decide)
    (by decide)).1 (by decide +kernel)

/-- Without any room, outLength - 1 is the largest number of its type: the digit and the terminator of 5 go to
what lies behind the array, and their count is returned. -/
theorem no_room_overruns :
    0 < digitCount 10 (Uint256.mk ⟨0, 0⟩ ⟨0, 5⟩).toNat ∧
      (uint256ToString ⟨⟨0, 0⟩, ⟨0, 5⟩⟩ 10 0).run ['x', 'x', 'x'] = .ok 1 ['5', '\x00', 'x'] ∧
      (uint256ToString ⟨⟨0, 0⟩, ⟨0, 5⟩⟩ 10 0).run [] = .error .undefined [] :=
  ⟨by decide +kernel, rfl, rfl⟩

end FantomLedger
