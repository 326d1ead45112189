import FantomLedger.NumberText
import FantomLedger.TransactionFormat

/-! What a formatted number reads as, by its digits. -/

namespace FantomLedger

open Library Library.Program Library.Numerals TextBuffer

theorem hexDigit_decimal {digit : Nat} (small : digit < 10) :
    (hexDigit digit).isDigit ∧ Decimal.digitValue (hexDigit digit) = digit := by
  interval_cases digit <;> decide

theorem digitText_isDigit (number : Nat) : ∀ c ∈ digitText 10 number, c.isDigit := by
  intro c member
  rw [digitText, List.mem_reverse, storedDigits, List.mem_map] at member
  obtain ⟨digit, member, rfl⟩ := member
  exact (hexDigit_decimal (numeral_digit_lt (by decide) member)).1

theorem wholeValue_digitText (number : Nat) :
    Decimal.wholeValue (digitText 10 number) = number := by
  have same : (numeral 10 number).map (Decimal.digitValue ∘ hexDigit) = numeral 10 number := by
    conv_rhs => rw [← List.map_id (numeral 10 number)]
    apply List.map_congr_left
    intro digit member
    exact (hexDigit_decimal (numeral_digit_lt (by decide) member)).2
  rw [Decimal.wholeValue, digitText, List.reverse_reverse, storedDigits, List.map_map, same,
    ofDigits_numeral]

theorem digitText_digits (number : Nat) : Digits (digitText 10 number) := by
  refine ⟨digitText_isDigit number, ?_⟩
  by_cases zero : number = 0
  · exact .inl (by rw [zero, digitText_zero])
  · obtain ⟨top, rest, shape, nonzero, small⟩ := digitText_leading (show 2 ≤ 10 by decide) zero
    refine .inr ⟨hexDigit top, rest, shape, ?_⟩
    exact fun same => nonzero (hexDigit_inj (by omega) (by decide) same)

theorem digitText_eq_zero_iff (number : Nat) : digitText 10 number = ['0'] ↔ number = 0 := by
  constructor
  · intro zero
    have value := wholeValue_digitText number
    rw [zero] at value
    exact value.symm
  · rintro rfl
    exact digitText_zero 10

section Format

variable (number : Uint256) (decimals : UInt8) (out : List Char)

/-- The conversion to 40 characters, by the number of digits. -/
theorem toString40_run :
    (uint256ToString number 10 40).run (List.replicate 40 '\x00') =
      if (digitText 10 number.toNat).length < 40 then
        .ok (digitText 10 number.toNat).length (digitText 10 number.toNat ++ '\x00' ::
          (List.replicate 40 '\x00').drop ((digitText 10 number.toNat).length + 1))
      else if (digitText 10 number.toNat).length = 40 then
        .error .undefined (storedDigits 10 number.toNat)
      else .ok 0 ((storedDigits 10 number.toNat).take 40) := by
  have run := uint256ToString_run number (show 2 ≤ 10 by decide) (show 10 ≤ 16 by decide)
    (List.replicate 40 '\x00') (by decide) (by decide)
  rwa [List.length_replicate] at run

theorem formatNumber_refuses (large : 10 ^ 40 ≤ number.toNat) :
    (formatNumber number decimals out.length).run out = .error (.thrown errInvalidData) out := by
  have digits := digitText_length_le number.toNat (show 0 < 40 by decide)
  have run := toString40_run number
  rw [if_neg (by omega), if_neg (by omega)] at run
  rw [formatNumber, run_bind_ok (onBuffer_ok run out)]
  rfl

/-- With 40 digits the terminator is stored behind the local array. -/
theorem formatNumber_overruns (large : 10 ^ 39 ≤ number.toNat) (small : number.toNat < 10 ^ 40) :
    (formatNumber number decimals out.length).run out = .error .undefined out := by
  have more := digitText_length_le number.toNat (show 0 < 39 by decide)
  have fewer := (digitText_length_le number.toNat (show 0 < 40 by decide)).mpr small
  have run := toString40_run number
  rw [if_neg (by omega), if_pos (by omega)] at run
  rw [formatNumber, run_bind_error (onBuffer_error run out)]

theorem formatNumber_adjusts (small : number.toNat < 10 ^ 39) :
    ∃ rest, (formatNumber number decimals out.length).run out =
      (adjustDecimals (digitText 10 number.toNat ++ rest) (digitText 10 number.toNat).length decimals
        out.length >>= fun _ => pure ()).run out := by
  have fewer := (digitText_length_le number.toNat (show 0 < 39 by decide)).mpr small
  have positive : 0 < (digitText 10 number.toNat).length := by
    rw [digitText_length]
    exact numeral_length_pos _ _
  have run := toString40_run number
  rw [if_pos (by omega)] at run
  refine ⟨'\x00' :: (List.replicate 40 '\x00').drop ((digitText 10 number.toNat).length + 1), ?_⟩
  rw [formatNumber, run_bind_ok (onBuffer_ok run out)]
  show (validate (0 < (digitText 10 number.toNat).length) errInvalidData >>= _).run out = _
  rw [decide_eq_true positive, validate_true, pure_bind]

/-- What the output has to hold for a number. -/
def Room (number decimals outSize : Nat) : Prop :=
  2 < outSize ∧ (digitText 10 number = ['0'] ∨ needed decimals (digitText 10 number) < outSize)

theorem formatNumber_narrow (small : number.toNat < 10 ^ 39)
    (narrow : ¬Room number.toNat decimals.toNat out.length) :
    (formatNumber number decimals out.length).run out = .error (.thrown errInvalidData) out := by
  obtain ⟨rest, run⟩ := formatNumber_adjusts number decimals out small
  have refused := adjustDecimals_run (digitText 10 number.toNat) rest decimals out
    (digitText_digits number.toNat)
  unfold Room at narrow
  rw [if_neg narrow] at refused
  rw [run, run_bind_error refused]

theorem formatNumber_writes (small : number.toNat < 10 ^ 39)
    (room : Room number.toNat decimals.toNat out.length) :
    ∃ after, (formatNumber number decimals out.length).run out = .ok () after ∧
      cString after = some (Decimal.fixedPoint decimals.toNat (digitText 10 number.toNat)) := by
  obtain ⟨rest, run⟩ := formatNumber_adjusts number decimals out small
  have written := adjustDecimals_run (digitText 10 number.toNat) rest decimals out
    (digitText_digits number.toNat)
  unfold Room at room
  rw [if_pos room] at written
  obtain ⟨offset, after, adjusted, text⟩ := written
  exact ⟨after, by rw [run, run_bind_ok adjusted]; rfl, text⟩

/-- A text that is written is the fixed point text of the number. -/
theorem formatNumber_text {after : List Char}
    (returns : (formatNumber number decimals out.length).run out = .ok () after) :
    cString after = some (Decimal.fixedPoint decimals.toNat (digitText 10 number.toNat)) := by
  by_cases large : 10 ^ 40 ≤ number.toNat
  · rw [formatNumber_refuses number decimals out large] at returns
    cases returns
  by_cases overrun : 10 ^ 39 ≤ number.toNat
  · rw [formatNumber_overruns number decimals out overrun (by omega)] at returns
    cases returns
  by_cases room : Room number.toNat decimals.toNat out.length
  · obtain ⟨written, run, text⟩ := formatNumber_writes number decimals out (by omega) room
    rw [run] at returns
    cases returns
    exact text
  · rw [formatNumber_narrow number decimals out (by omega) room] at returns
    cases returns

end Format

end FantomLedger
