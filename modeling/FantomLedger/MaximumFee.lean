import FantomLedger.FormattedNumber
import FantomLedger.Uint256Product

/-! The maximum fee on the screen against the product of gas price and gas volume. -/

namespace FantomLedger

open Library Library.Program Library.Numerals TextBuffer

/-- Room in the output for a number of units of 10 ^ -18. -/
def Fits (number outSize : Nat) : Prop :=
  2 < outSize ∧ (number = 0 ∨ 21 < outSize ∧ number < 10 ^ (outSize - 3))

instance (number outSize : Nat) : Decidable (Fits number outSize) :=
  inferInstanceAs (Decidable (_ ∧ _))

theorem needed_lt_iff (number outSize : Nat) :
    needed 18 (digitText 10 number) < outSize ↔ 21 < outSize ∧ number < 10 ^ (outSize - 3) := by
  unfold needed
  by_cases small : outSize ≤ 21
  · have large : ¬21 < outSize := by omega
    rw [iff_false_right (fun room => large room.1)]
    split_ifs <;> omega
  · have bound := digitText_length_le number (show 0 < outSize - 3 by omega)
    have room : 21 < outSize := by omega
    rw [← bound]
    split_ifs <;> omega

/-- The output has room for a number exactly when the digits are not refused. -/
theorem fits_iff (number outSize : Nat) :
    2 < outSize ∧ (digitText 10 number = ['0'] ∨ needed 18 (digitText 10 number) < outSize) ↔
      Fits number outSize := by
  rw [digitText_eq_zero_iff, needed_lt_iff, Fits]

/-- The text stands for the number of units of 10 ^ -18. -/
def Shows (memory : List Char) (number : Nat) : Prop :=
  ∃ text value, cString memory = some text ∧ Decimal.decimalValue text = some value ∧
    value * 10 ^ 18 = number

theorem shows_fixedPoint {memory : List Char} {number : Nat}
    (text : cString memory = some (Decimal.fixedPoint 18 (digitText 10 number))) :
    Shows memory number := by
  refine ⟨_, _, text, Decimal.decimalValue_fixedPoint 18 (digitText_isDigit number), ?_⟩
  rw [wholeValue_digitText]
  field_simp

theorem Shows.unique {memory : List Char} {first second : Nat} (one : Shows memory first)
    (two : Shows memory second) : first = second := by
  obtain ⟨text, value, string, reads, exact⟩ := one
  obtain ⟨_, _, string', reads', exact'⟩ := two
  rw [string, Option.some_inj] at string'
  subst string'
  rw [reads, Option.some_inj] at reads'
  subst reads'
  exact_mod_cast exact.symm.trans exact'

section Format

variable (number : Uint256) (out : List Char)

theorem room_iff (number outSize : Nat) :
    Room number (18 : UInt8).toNat outSize ↔ Fits number outSize :=
  fits_iff number outSize

theorem formatNumber_shows (small : number.toNat < 10 ^ 39) (room : Fits number.toNat out.length) :
    ∃ after, (formatNumber number 18 out.length).run out = .ok () after ∧
      Shows after number.toNat := by
  obtain ⟨after, run, text⟩ :=
    formatNumber_writes number 18 out small ((room_iff _ _).mpr room)
  exact ⟨after, run, shows_fixedPoint text⟩

end Format

/-- What the multiplication makes of the product of two numbers below 2 ^ 256. -/
def computedFee (gasPrice gasVolume : Nat) : Nat :=
  (gasPrice * gasVolume + misplacedCarry gasPrice gasVolume * (2 ^ 192 - 2 ^ 128)) % 2 ^ 256

/-- The fee comes out right, or it is refused. -/
def FeeExact (gasPrice gasVolume outSize : Nat) : Prop :=
  10 ^ 40 ≤ computedFee gasPrice gasVolume ∨
    computedFee gasPrice gasVolume < 10 ^ 39 ∧
      (misplacedCarry gasPrice gasVolume = 0 ∧ gasPrice * gasVolume < 2 ^ 256 ∨
        ¬Fits (computedFee gasPrice gasVolume) outSize)

instance (gasPrice gasVolume outSize : Nat) : Decidable (FeeExact gasPrice gasVolume outSize) :=
  inferInstanceAs (Decidable (_ ∨ _))

def Transaction.maxFee (tx : Transaction) : Nat :=
  Rlp.beNat tx.gasPrice.bytes * Rlp.beNat tx.startGas.bytes

/-- The formatted fee throws, or writes the product of gas price and gas volume. -/
def ShowsMaxFee (tx : Transaction) (out : List Char) : Prop :=
  match (txGetFormattedFee tx 18 out.length).run out with
  | .ok _ after => Shows after tx.maxFee
  | .error (.thrown _) _ => True
  | .error _ _ => False

theorem txGetFormattedFee_run (tx : Transaction) (decimals : UInt8) (out : List Char)
    (gasPrice : tx.gasPrice.length.toNat ≤ txMaxInt256Length)
    (startGas : tx.startGas.length.toNat ≤ txMaxInt256Length) (outSize : out.length < maxBufferSize) :
    ∃ fee : Uint256, (txGetFormattedFee tx decimals out.length).run out =
        (formatNumber fee decimals out.length).run out ∧
      fee.toNat = computedFee (Rlp.beNat tx.gasPrice.bytes) (Rlp.beNat tx.startGas.bytes) := by
  obtain ⟨price, readPrice, price_eq⟩ := uint256ConvertBE_run tx.gasPrice.value.toList _ gasPrice
    (by simpa using gasPrice) out
  obtain ⟨volume, readVolume, volume_eq⟩ := uint256ConvertBE_run tx.startGas.value.toList _ startGas
    (by simpa using startGas) out
  refine ⟨mul256 price volume, ?_, ?_⟩
  · rw [txGetFormattedFee, decide_eq_true outSize, assertThat_true, pure_bind,
      run_bind_ok readPrice, run_bind_ok readVolume]
  · rw [mul256_toNat, price_eq, volume_eq]
    rfl

/-- The fee on the screen is the maximum fee, for exactly the inputs that neither overflow
unnoticed nor fill the local array. -/
theorem showsMaxFee_iff (tx : Transaction) (out : List Char)
    (gasPrice : tx.gasPrice.length.toNat ≤ txMaxInt256Length)
    (startGas : tx.startGas.length.toNat ≤ txMaxInt256Length) (outSize : out.length < maxBufferSize) :
    ShowsMaxFee tx out ↔
      FeeExact (Rlp.beNat tx.gasPrice.bytes) (Rlp.beNat tx.startGas.bytes) out.length := by
  obtain ⟨fee, run, fee_eq⟩ := txGetFormattedFee_run tx 18 out gasPrice startGas outSize
  have exact_iff := wrapped_eq_iff (Rlp.beNat tx.gasPrice.bytes) (Rlp.beNat tx.startGas.bytes)
  rw [ShowsMaxFee, run, FeeExact, ← exact_iff]
  change _ ↔ _ ∨ _ ∧ (computedFee _ _ = _ ∨ _)
  rw [← fee_eq]
  by_cases large : 10 ^ 40 ≤ fee.toNat
  · rw [formatNumber_refuses fee 18 out large]
    exact iff_of_true trivial (.inl large)
  by_cases overrun : 10 ^ 39 ≤ fee.toNat
  · rw [formatNumber_overruns fee 18 out overrun (by omega)]
    refine iff_of_false id ?_
    rintro (more | ⟨fewer, _⟩)
    · exact large more
    · exact absurd overrun (by omega)
  have small : fee.toNat < 10 ^ 39 := by omega
  by_cases room : Fits fee.toNat out.length
  · obtain ⟨after, written, shows⟩ := formatNumber_shows fee out small room
    rw [written]
    constructor
    · exact fun right => .inr ⟨small, .inl (shows.unique right)⟩
    · rintro (more | ⟨_, same | narrow⟩)
      · exact absurd more large
      · show Shows after tx.maxFee
        rw [Transaction.maxFee, ← same]
        exact shows
      · exact absurd room narrow
  · rw [formatNumber_narrow fee 18 out small (fun fits => room ((room_iff _ _).mp fits))]
    exact iff_of_true trivial (.inr ⟨small, .inr room⟩)

/-- 21000 units of gas at 10 ^ 9 each. -/
def transferFee : Transaction :=
  { Transaction.zero with
    gasPrice := .ofBytes _ [0x3b, 0x9a, 0xca, 0x00]
    startGas := .ofBytes _ [0x52, 0x08] }

theorem transferFee_shown : ShowsMaxFee transferFee (List.replicate 40 '\x00') :=
  (showsMaxFee_iff transferFee (List.replicate 40 '\x00') (by decide) (by decide)
    (by decide)).mpr (by decide +kernel)

/-- Gas price and gas volume of 2 ^ 128 each. -/
def overflowingFee : Transaction :=
  { Transaction.zero with
    gasPrice := .ofBytes _ (1 :: List.replicate 16 0)
    startGas := .ofBytes _ (1 :: List.replicate 16 0) }

/-- The screen shows a fee of zero. -/
theorem overflowingFee_shown_as_zero :
    overflowingFee.maxFee = 2 ^ 256 ∧
      (∃ after, (txGetFormattedFee overflowingFee 18 40).run (List.replicate 40 '\x00') =
        .ok () after ∧ cString after = some ['0']) ∧
      ¬ShowsMaxFee overflowingFee (List.replicate 40 '\x00') := by
  have fee : overflowingFee.maxFee = 2 ^ 256 := by decide +kernel
  have run : (txGetFormattedFee overflowingFee 18 40).run (List.replicate 40 '\x00') =
      .ok () ('0' :: '\x00' :: List.replicate 38 '\x00') := by rfl
  refine ⟨fee, ⟨_, run, by decide⟩, ?_⟩
  intro right
  have shown : Shows ('0' :: '\x00' :: List.replicate 38 '\x00') 0 := shows_fixedPoint (by decide)
  rw [ShowsMaxFee, List.length_replicate, run] at right
  have same := shown.unique right
  rw [fee] at same
  exact absurd same (by decide)

end FantomLedger
