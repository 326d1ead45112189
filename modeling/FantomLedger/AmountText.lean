import FantomLedger.MaximumFee

/-! The amount on the screen, and the room that the conversions to a string need. -/

namespace FantomLedger

open Library Library.Program Library.Numerals TextBuffer

section Length

variable (decimals : UInt8) (outSize : Nat)

theorem keeps_slice (memory : List Char) (start stop : Nat) :
    Keeps List.length (slice memory start stop) :=
  keeps_inside _

theorem keeps_isZeroText (src : List Char) (srcLength : Nat) :
    Keeps List.length (isZeroText src srcLength) := by
  apply keeps_ite
  · exact (keeps_inside _).map _
  · exact keeps_pure _

theorem keeps_placeDecimals (src : List Char) (srcLength decimals targetLength : Nat) :
    Keeps List.length (placeDecimals src srcLength decimals targetLength) := by
  apply keeps_ite
  · apply (keeps_validate _ _).bind
    intro _
    apply (keeps_storeAll _ _).bind
    intro startOffset
    apply (keeps_slice _ _ _).bind
    intro digits
    apply (keeps_storeAll _ _).bind
    intro offset
    exact (keeps_store _ _).bind fun _ => keeps_pure _
  · apply (keeps_validate _ _).bind
    intro _
    apply (keeps_slice _ _ _).bind
    intro whole
    apply (keeps_storeAll _ _).bind
    intro pointOffset
    have behind (startOffset : Nat) : Keeps List.length (do
        let offset ← storeAll startOffset (← slice src (srcLength - decimals) srcLength)
        store offset '\x00'
        return (startOffset, offset) : TextCode (Nat × Nat)) := by
      apply (keeps_slice _ _ _).bind
      intro fraction
      apply (keeps_storeAll _ _).bind
      intro offset
      exact (keeps_store _ _).bind fun _ => keeps_pure _
    apply keeps_ite
    · exact (keeps_storeAll _ _).bind behind
    · exact (keeps_pure _).bind behind

theorem keeps_cutAt (lastZeroOffset offset : Nat) : Keeps List.length (cutAt lastZeroOffset offset) := by
  apply keeps_ite
  · apply (keeps_store _ _).bind
    intro _
    apply (keeps_load _).bind
    intro c
    apply keeps_ite
    · exact (keeps_store _ _).bind fun _ => keeps_pure _
    · exact keeps_pure _
  · exact keeps_pure _

theorem keeps_dropTrailingZeros (startOffset offset : Nat) :
    Keeps List.length (dropTrailingZeros startOffset offset) := by
  apply keeps_get.bind
  intro memory
  exact (keeps_slice _ _ _).bind fun _ => keeps_cutAt _ _

theorem keeps_adjustDecimals (src : List Char) (srcLength : Nat) :
    Keeps List.length (adjustDecimals src srcLength decimals outSize) := by
  apply (keeps_validate _ _).bind
  intro _
  apply (keeps_isZeroText _ _).bind
  intro zero
  apply keeps_ite
  · apply (keeps_store _ _).bind
    intro _
    exact (keeps_store _ _).bind fun _ => keeps_pure _
  · exact (keeps_placeDecimals _ _ _ _).bind fun _ => keeps_dropTrailingZeros _ _

theorem keeps_formatNumber (number : Uint256) :
    Keeps List.length (formatNumber number decimals outSize) := by
  apply (keeps_onBuffer _ _).bind
  rintro ⟨length, tmp⟩
  apply (keeps_validate _ _).bind
  intro _
  exact (keeps_adjustDecimals _ _ _ _).bind fun _ => keeps_pure _

end Length

theorem txGetFormattedAmount_run (value : TxInt256) (decimals : UInt8) (out : List Char)
    (length : value.length.toNat ≤ txMaxInt256Length) (outSize : out.length < maxBufferSize) :
    ∃ number : Uint256, (txGetFormattedAmount value decimals out.length).run out =
        (formatNumber number decimals out.length).run out ∧
      number.toNat = Rlp.beNat value.bytes := by
  obtain ⟨number, read, number_eq⟩ := uint256ConvertBE_run value.value.toList _ length
    (by simpa using length) out
  refine ⟨number, ?_, number_eq⟩
  rw [txGetFormattedAmount, decide_eq_true outSize, assertThat_true, pure_bind, run_bind_ok read]

theorem txGetFormattedAmount_returns {value : TxInt256} {decimals : UInt8} {out after : List Char}
    (returns : (txGetFormattedAmount value decimals out.length).run out = .ok () after) :
    value.length.toNat ≤ txMaxInt256Length ∧ out.length < maxBufferSize := by
  by_cases outSize : out.length < maxBufferSize
  · refine ⟨?_, outSize⟩
    by_contra long
    have refused : ¬value.length.toNat ≤ 32 := long
    rw [txGetFormattedAmount, decide_eq_true outSize, assertThat_true, pure_bind, uint256ConvertBE,
      decide_eq_false refused] at returns
    cases returns
  · rw [txGetFormattedAmount, decide_eq_false outSize] at returns
    cases returns

/-- An amount that is formatted stands for the value exactly, in its canonical text. -/
theorem amount_shown_exactly (value : TxInt256) (decimals : UInt8) (out after : List Char)
    (returns : (txGetFormattedAmount value decimals out.length).run out = .ok () after) :
    after.length = out.length ∧ ∃ text number, cString after = some text ∧
      Decimal.decimalValue text = some number ∧
      number * 10 ^ decimals.toNat = Rlp.beNat value.bytes ∧ Decimal.Canonical text := by
  obtain ⟨length, outSize⟩ := txGetFormattedAmount_returns returns
  obtain ⟨number, run, number_eq⟩ := txGetFormattedAmount_run value decimals out length outSize
  rw [run] at returns
  have text := formatNumber_text number decimals out returns
  have kept := (keeps_formatNumber decimals out.length number).of_ok returns
  have digits := digitText_isDigit number.toNat
  have leading : digitText 10 number.toNat = ['0'] ∨
      (digitText 10 number.toNat).head? ≠ some '0' := by
    rcases (digitText_digits number.toNat).leading with zero | ⟨first, rest, shape, nonzero⟩
    · exact .inl zero
    · right
      rw [shape, List.head?_cons, Ne, Option.some_inj]
      exact nonzero
  refine ⟨kept, _, _, text, Decimal.decimalValue_fixedPoint _ digits, ?_,
    Decimal.canonical_fixedPoint _ digits leading⟩
  rw [wholeValue_digitText, number_eq]
  field_simp

/-- A quarter of 10 ^ 18. -/
def quarter : TxInt256 := .ofBytes _ [0x03, 0x78, 0x2d, 0xac, 0xe9, 0xd9, 0x00, 0x00]

def quarterText : List Char :=
  ['0', '.', '2', '5', '\x00'] ++ List.replicate 15 '0' ++ List.replicate 20 '\x00'

theorem quarter_shown_exactly :
    quarterText.length = (List.replicate 40 '\x00').length ∧
      ∃ text number, cString quarterText = some text ∧ Decimal.decimalValue text = some number ∧
        number * 10 ^ (18 : UInt8).toNat = Rlp.beNat quarter.bytes ∧ Decimal.Canonical text :=
  amount_shown_exactly quarter 18 (List.replicate 40 '\x00') quarterText
    (by decide +kernel)

/-- The digits of a number take up exactly this many characters. -/
def FillsExactly (base outLength number : Nat) : Prop :=
  number < base ^ outLength ∧ (outLength = 1 ∨ base ^ (outLength - 1) ≤ number)

/-- The code stores and reads inside its arrays only. -/
def StaysInside {α : Type} (code : TextCode α) (memory : List Char) : Prop :=
  ∀ after, code.run memory ≠ .error .undefined after

theorem fillsExactly_iff {base : Nat} (two : 2 ≤ base) {outLength : Nat} (positive : 0 < outLength)
    (number : Nat) :
    (digitText base number).length = outLength ↔ FillsExactly base outLength number := by
  have upper := @numeral_length_le base number two outLength positive
  have nonempty := numeral_length_pos base number
  rw [digitText_length, FillsExactly, ← upper]
  by_cases one : outLength = 1
  · omega
  · have lower := @numeral_length_le base number two (outLength - 1) (by omega)
    have most : base ^ (outLength - 1) ≤ number ↔ ¬(numeral base number).length ≤ outLength - 1 := by
      rw [lower, Nat.not_lt]
    rw [most]
    omega

theorem toString_inside_iff (number : Uint256) {base : Nat} (two : 2 ≤ base) (sixteen : base ≤ 16)
    (memory : List Char) (positive : 0 < memory.length) (small : memory.length < 2 ^ 32) :
    StaysInside (uint256ToString number base memory.length) memory ↔
      ¬FillsExactly base memory.length number.toNat := by
  have run := uint256ToString_run number two sixteen memory positive small
  rw [← fillsExactly_iff two positive, StaysInside, run]
  rcases Nat.lt_trichotomy (digitText base number.toNat).length memory.length with
    fits | same | long
  · rw [if_pos fits]
    exact iff_of_true (fun _ => nofun) fits.ne
  · rw [if_neg same.not_lt, if_pos same]
    exact iff_of_false (fun never => never _ rfl) (fun never => never same)
  · rw [if_neg long.not_gt, if_neg long.ne']
    exact iff_of_true (fun _ => nofun) long.ne'

theorem formatNumber_inside_iff (number : Uint256) (decimals : UInt8) (out : List Char) :
    StaysInside (formatNumber number decimals out.length) out ↔ ¬FillsExactly 10 40 number.toNat := by
  have fills : FillsExactly 10 40 number.toNat ↔ number.toNat < 10 ^ 40 ∧ 10 ^ 39 ≤ number.toNat :=
    and_congr_right fun _ => or_iff_right (by decide)
  rw [fills, StaysInside]
  by_cases large : 10 ^ 40 ≤ number.toNat
  · rw [formatNumber_refuses number decimals out large]
    exact iff_of_true (fun _ => nofun) (fun fewer => by omega)
  by_cases overrun : 10 ^ 39 ≤ number.toNat
  · rw [formatNumber_overruns number decimals out overrun (by omega)]
    exact iff_of_false (fun never => never _ rfl) (fun never => never ⟨by omega, overrun⟩)
  have other : ¬(number.toNat < 10 ^ 40 ∧ 10 ^ 39 ≤ number.toNat) := fun more => overrun more.2
  by_cases room : Room number.toNat decimals.toNat out.length
  · obtain ⟨after, run, text⟩ := formatNumber_writes number decimals out (by omega) room
    rw [run]
    exact iff_of_true (fun _ => nofun) other
  · rw [formatNumber_narrow number decimals out (by omega) room]
    exact iff_of_true (fun _ => nofun) other

/-- The terminator leaves the array exactly when the digits fill it; in the 40 characters of the
amount and the fee these are the numbers of 40 digits. -/
theorem conversions_inside_iff (number : Uint256) {base : Nat} (two : 2 ≤ base)
    (sixteen : base ≤ 16) (memory : List Char) (positive : 0 < memory.length)
    (small : memory.length < 2 ^ 32) (value : TxInt256) (tx : Transaction) (decimals : UInt8)
    (out : List Char) (outSize : out.length < maxBufferSize)
    (valueLength : value.length.toNat ≤ txMaxInt256Length)
    (gasPrice : tx.gasPrice.length.toNat ≤ txMaxInt256Length)
    (startGas : tx.startGas.length.toNat ≤ txMaxInt256Length) :
    (StaysInside (uint256ToString number base memory.length) memory ↔
      ¬FillsExactly base memory.length number.toNat) ∧
    (StaysInside (txGetFormattedAmount value decimals out.length) out ↔
      ¬FillsExactly 10 40 (Rlp.beNat value.bytes)) ∧
    (StaysInside (txGetFormattedFee tx decimals out.length) out ↔
      ¬FillsExactly 10 40 (computedFee (Rlp.beNat tx.gasPrice.bytes) (Rlp.beNat tx.startGas.bytes))) := by
  refine ⟨toString_inside_iff number two sixteen memory positive small, ?_, ?_⟩
  · obtain ⟨amount, run, amount_eq⟩ := txGetFormattedAmount_run value decimals out valueLength outSize
    have inside_iff := formatNumber_inside_iff amount decimals out
    rw [amount_eq] at inside_iff
    rw [StaysInside, run]
    exact inside_iff
  · obtain ⟨fee, run, fee_eq⟩ := txGetFormattedFee_run tx decimals out gasPrice startGas outSize
    have inside_iff := formatNumber_inside_iff fee decimals out
    rw [fee_eq] at inside_iff
    rw [StaysInside, run]
    exact inside_iff

theorem fee_stays_inside :
    (StaysInside (uint256ToString ⟨⟨0, 0⟩, ⟨0, 15⟩⟩ 10 2) ['\x00', '\x00'] ↔
      ¬FillsExactly 10 2 (Uint256.mk ⟨0, 0⟩ ⟨0, 15⟩).toNat) ∧
    (StaysInside (txGetFormattedAmount quarter 18 40) (List.replicate 40 '\x00') ↔
      ¬FillsExactly 10 40 (Rlp.beNat quarter.bytes)) ∧
    (StaysInside (txGetFormattedFee transferFee 18 40) (List.replicate 40 '\x00') ↔
      ¬FillsExactly 10 40 (computedFee (Rlp.beNat transferFee.gasPrice.bytes)
        (Rlp.beNat transferFee.startGas.bytes))) :=
  conversions_inside_iff ⟨⟨0, 0⟩, ⟨0, 15⟩⟩ (by decide) (by decide) ['\x00', '\x00'] (by decide)
    (by decide) quarter transferFee 18 (List.replicate 40 '\x00') (by decide) (by decide) (by decide)
    (by decide)

/-- An amount of 10 ^ 39, the least one of 40 digits. -/
def fortyDigits : TxInt256 :=
  .ofBytes _ [0x02, 0xf0, 0x50, 0xfe, 0x93, 0x89, 0x43, 0xac, 0xc4, 0x5f, 0x65, 0x56, 0x80, 0x00,
    0x00, 0x00, 0x00]

theorem fortyDigits_leave_array :
    Rlp.beNat fortyDigits.bytes = 10 ^ 39 ∧
      ¬StaysInside (txGetFormattedAmount fortyDigits 18 40) (List.replicate 40 '\x00') := by
  have value : Rlp.beNat fortyDigits.bytes = 10 ^ 39 := by decide +kernel
  obtain ⟨number, run, number_eq⟩ := txGetFormattedAmount_run fortyDigits 18
    (List.replicate 40 '\x00') (by decide) (by decide)
  have overrun := formatNumber_overruns number 18 (List.replicate 40 '\x00')
    (by rw [number_eq, value]) (by rw [number_eq, value]; decide)
  exact ⟨value, fun never => never _ (run.trans overrun)⟩

end FantomLedger
