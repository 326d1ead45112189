import FantomLedger.Library.Numerals
import FantomLedger.Library.Rlp
import FantomLedger.TextBuffer
import FantomLedger.Uint256Division

/-! Reading a number from big-endian bytes and writing it as a string. -/

namespace FantomLedger

open Library Library.Program Library.Numerals TextBuffer

def hexDigits : List Char := "0123456789abcdef".toList

/-- Swap the characters at two indices and move towards each other. -/
def reverseLoop : Nat → Nat → Nat → TextCode Unit
  | 0, i, j => if i < j then throw .diverges else pure ()
  | rounds + 1, i, j => do
    if i < j then
      let c ← load i
      store i (← load j)
      store j c
      reverseLoop rounds (i + 1) (j - 1)

def stringReverse (length : Nat) : TextCode Unit :=
  reverseLoop length 0 (length - 1)

/-- The digits go to the array from the offset on, the least significant one first. None
where the source returns 0 for want of room, else the offset after the last digit. -/
def toStringLoop (base : Uint256) (outLength : Nat) : Nat → Uint256 → Nat → TextCode (Option Nat)
  | 0, _, _ => throw .diverges
  | rounds + 1, rDiv, offset => do
    if u32Sub outLength 1 < offset then
      return none
    match divMod256 rDiv base with
    | none => throw .diverges
    | some (rDiv, rMod) =>
      store offset (← inside hexDigits[rMod.lower.lower.toUInt8.toNat]?)
      if isZero256 rDiv then
        return some (offset + 1)
      else
        toStringLoop base outLength rounds rDiv (offset + 1)

/-- A base of at least 2 halves the number in each round. -/
def uint256ToString (number : Uint256) (baseParam : Nat) (outLength : Nat) : TextCode Nat := do
  validate (2 ≤ baseParam ∧ baseParam ≤ 16) errAssert
  match ← toStringLoop ⟨clear128, ⟨0, UInt64.ofNat baseParam⟩⟩ outLength 257 number 0 with
  | none => return 0
  | some offset =>
    store offset '\x00'
    stringReverse offset
    return offset

def hexDigit (digit : Nat) : Char := hexDigits.getD digit '0'

/-- The digits of a number as the loop stores them. -/
def storedDigits (base number : Nat) : List Char := (numeral base number).map hexDigit

/-- Two characters change places and the loop goes on between them. -/
theorem reverseLoop_step (rounds : Nat) (before : List Char) (c : Char) (middle : List Char)
    (d : Char) (after : List Char) :
    (reverseLoop (rounds + 1) before.length (before.length + middle.length + 1)).run
        (before ++ c :: (middle ++ d :: after)) =
      (reverseLoop rounds (before.length + 1) (before.length + middle.length)).run
        (before ++ d :: (middle ++ c :: after)) := by
  have upper (x : Char) : (before ++ x :: middle).length = before.length + middle.length + 1 := by
    simp only [List.length_append, List.length_cons]
    omega
  have regroup (x y : Char) : before ++ x :: (middle ++ y :: after) =
      (before ++ x :: middle) ++ y :: after := by simp
  have loadI := load_run before c (middle ++ d :: after)
  have loadJ := load_run (before ++ c :: middle) d after
  have storeI := store_run before c d (middle ++ d :: after)
  have storeJ := store_run (before ++ d :: middle) d c after
  rw [upper, ← regroup] at loadJ
  rw [upper, ← regroup, ← regroup] at storeJ
  rw [reverseLoop, if_pos (by omega)]
  simp only [EStateM.run_bind, loadI, loadJ, storeI, storeJ]
  rfl

theorem reverseLoop_run (rounds : Nat) (before text after : List Char)
    (enough : text.length ≤ rounds + 1) :
    (reverseLoop rounds before.length (before.length + text.length - 1)).run
        (before ++ text ++ after) = .ok () (before ++ text.reverse ++ after) := by
  induction rounds generalizing before text after with
  | zero =>
    have same : text.reverse = text := by
      rcases text with _ | ⟨c, rest⟩
      · rfl
      · obtain rfl := List.eq_nil_of_length_eq_zero (l := rest) (by simpa using enough)
        rfl
    rw [reverseLoop, if_neg (by omega), same]
    rfl
  | succ rounds ih =>
    rcases text with _ | ⟨c, rest⟩
    · rw [reverseLoop, if_neg (by simp)]
      rfl
    rcases List.eq_nil_or_concat' rest with rfl | ⟨middle, d, rfl⟩
    · rw [reverseLoop, if_neg (by simp)]
      rfl
    · have later := ih (before ++ [d]) middle (c :: after) (by simp at enough; omega)
      have ends : before.length + (c :: (middle ++ [d])).length - 1 =
          before.length + middle.length + 1 := by
        simp only [List.length_cons, List.length_append, List.length_nil]
        omega
      have inner : (before ++ [d]).length + middle.length - 1 = before.length + middle.length := by
        simp only [List.length_cons, List.length_append, List.length_nil]
        omega
      rw [inner] at later
      rw [ends]
      simpa [reverseLoop_step] using later

theorem hexDigits_load {digit : Nat} (small : digit < 16) :
    hexDigits[digit]? = some (hexDigit digit) := by
  have size : hexDigits.length = 16 := by decide
  rw [hexDigit, List.getD_eq_getElem?_getD, List.getElem?_eq_getElem (by omega)]
  rfl

/-- The remainder is the index of the digit. -/
theorem digit_index {rMod : Uint256} (small : rMod.toNat < 16) :
    rMod.lower.lower.toUInt8.toNat = rMod.toNat := by
  have bound := rMod.lower.lower.toNat_lt
  have lower : rMod.lower.lower.toNat = rMod.toNat % 2 ^ 128 % 2 ^ 64 := by
    rw [Uint256.toNat, DoubleWord.value_mod rMod.lower.toNat_lt, Uint128.toNat,
      DoubleWord.value_mod bound]
  have fits : rMod.toNat % 2 ^ 128 % 2 ^ 64 = rMod.toNat := by
    rw [Nat.mod_eq_of_lt (small.trans (by norm_num)), Nat.mod_eq_of_lt (small.trans (by norm_num))]
  rw [UInt64.toNat_toUInt8, lower, fits]
  exact Nat.mod_eq_of_lt (by omega)

theorem storedDigits_last {base number : Nat} (small : number / base = 0) :
    storedDigits base number = [hexDigit (number % base)] := by
  rw [storedDigits, numeral_last small]
  rfl

theorem storedDigits_more {base number : Nat} (two : 2 ≤ base) (more : number / base ≠ 0) :
    storedDigits base number =
      hexDigit (number % base) :: storedDigits base (number / base) := by
  rw [storedDigits, numeral_step two more]
  rfl

/-- The outcome of storing digits after a part of an array that is kept: all of them when
they fit, else none is returned with the array filled up. -/
def storing (digits before room : List Char) : EStateM.Result Exc (List Char) (Option Nat) :=
  if digits.length ≤ room.length then
    .ok (some (before.length + digits.length)) (before ++ digits ++ room.drop digits.length)
  else .ok none (before ++ digits.take room.length)

theorem storing_cons (c old : Char) (digits before room : List Char) :
    storing (c :: digits) before (old :: room) = storing digits (before ++ [c]) room := by
  have total : before.length + (digits.length + 1) = before.length + 1 + digits.length := by omega
  simp [storing, total]

theorem storing_last (c old : Char) (before room : List Char) :
    storing [c] before (old :: room) = .ok (some (before.length + 1)) (before ++ c :: room) := by
  simp [storing]

theorem storing_full (digits before : List Char) (some_digit : digits ≠ []) :
    storing digits before [] = .ok none before := by
  simp [storing, some_digit]

theorem toStringLoop_full (base : Uint256) (rounds : Nat) (number : Uint256) (before : List Char)
    (small : before.length + 0 < 2 ^ 32) (positive : 0 < before.length + 0) :
    (toStringLoop base before.length (rounds + 1) number before.length).run before =
      .ok none before := by
  have last : u32Sub before.length 1 = before.length - 1 := u32Sub_of_le (by omega) small
  rw [toStringLoop, last, if_pos (by omega)]
  rfl

section Digits

variable {base : Uint256} (two : 2 ≤ base.toNat) (sixteen : base.toNat ≤ 16)
include two sixteen

/-- One digit is stored. -/
theorem toStringLoop_step (rounds : Nat) (number : Uint256) (before : List Char) (old : Char)
    (room : List Char) (outLength : Nat) (small : outLength < 2 ^ 32)
    (inRange : before.length < outLength) :
    ∃ quotient : Uint256, quotient.toNat = number.toNat / base.toNat ∧
      (toStringLoop base outLength (rounds + 1) number before.length).run (before ++ old :: room) =
        if quotient.toNat = 0 then
          .ok (some (before.length + 1)) (before ++ hexDigit (number.toNat % base.toNat) :: room)
        else
          (toStringLoop base outLength rounds quotient (before.length + 1)).run
            (before ++ hexDigit (number.toNat % base.toNat) :: room) := by
  obtain ⟨quotient, remainder, division, quotient_eq, remainder_eq⟩ :=
    divMod256_eq number base (by omega)
  have digit : remainder.toNat < 16 := by
    rw [remainder_eq]
    exact (Nat.mod_lt _ (by omega)).trans_le sixteen
  refine ⟨quotient, quotient_eq, ?_⟩
  have stored := store_run before old (hexDigit remainder.toNat) room
  have last : u32Sub outLength 1 = outLength - 1 := u32Sub_of_le (by omega) small
  rw [toStringLoop, last, if_neg (by omega)]
  simp only [division, digit_index digit, hexDigits_load digit, inside_some, pure_bind]
  rw [EStateM.run_bind, stored, remainder_eq]
  by_cases done : quotient.toNat = 0
  · simp only [(isZero256_iff quotient).mpr done, done, ↓reduceIte]
    rfl
  · have more : isZero256 quotient = false := by
      rw [← Bool.not_eq_true, isZero256_iff]
      exact done
    simp only [more, done, ↓reduceIte, Bool.false_eq_true]

theorem toStringLoop_run (rounds : Nat) (number : Uint256) (before room : List Char)
    (small : before.length + room.length < 2 ^ 32) (positive : 0 < before.length + room.length)
    (enough : number.toNat < 2 ^ rounds) :
    (toStringLoop base (before.length + room.length) (rounds + 1) number before.length).run
        (before ++ room) = storing (storedDigits base.toNat number.toNat) before room := by
  induction rounds generalizing number before room with
  | zero =>
    rcases room with _ | ⟨old, room⟩
    · rw [storing_full _ _ (by simp [storedDigits, numeral]), List.append_nil]
      exact toStringLoop_full base _ _ before small positive
    obtain ⟨quotient, quotient_eq, step⟩ := toStringLoop_step two sixteen 0 number before old room
      _ small (by simp)
    have zero : number.toNat / base.toNat = 0 := by
      rw [show number.toNat = 0 by omega, Nat.zero_div]
    rw [step, if_pos (by rw [quotient_eq, zero]), storedDigits_last zero, storing_last]
  | succ rounds ih =>
    rcases room with _ | ⟨old, room⟩
    · rw [storing_full _ _ (by simp [storedDigits, numeral]), List.append_nil]
      exact toStringLoop_full base _ _ before small positive
    obtain ⟨quotient, quotient_eq, step⟩ := toStringLoop_step two sixteen (rounds + 1) number
      before old room _ small (by simp)
    rw [step]
    by_cases done : number.toNat / base.toNat = 0
    · rw [if_pos (by rw [quotient_eq, done]), storedDigits_last done, storing_last]
    rw [if_neg (by rw [quotient_eq]; exact done), storedDigits_more two done, storing_cons,
      ← quotient_eq]
    have halved : quotient.toNat < 2 ^ rounds := by
      rw [quotient_eq]
      apply Nat.div_lt_of_lt_mul
      calc
        number.toNat < 2 ^ (rounds + 1) := enough
        _ = 2 * 2 ^ rounds := by ring
        _ ≤ base.toNat * 2 ^ rounds := Nat.mul_le_mul_right _ two
    have total : before.length + (old :: room).length =
        (before ++ [hexDigit (number.toNat % base.toNat)]).length + room.length := by
      simp only [List.length_append, List.length_cons, List.length_nil]
      omega
    rw [total] at small positive ⊢
    have later := ih quotient (before ++ [hexDigit (number.toNat % base.toNat)]) room
      small positive halved
    rw [← later, List.length_append, List.append_assoc]
    rfl

end Digits

/-- The digits in reading order. -/
def digitText (base number : Nat) : List Char := (storedDigits base number).reverse

@[simp] theorem digitText_length (base number : Nat) :
    (digitText base number).length = (numeral base number).length := by
  simp [digitText, storedDigits]

theorem toStringLoop_init (number : Uint256) {base : Nat} (two : 2 ≤ base) (sixteen : base ≤ 16)
    (memory : List Char) (positive : 0 < memory.length) (small : memory.length < 2 ^ 32) :
    (toStringLoop ⟨clear128, ⟨0, UInt64.ofNat base⟩⟩ memory.length 257 number 0).run memory =
      storing (storedDigits base number.toNat) [] memory := by
  have baseNumber : (Uint256.mk clear128 ⟨0, UInt64.ofNat base⟩).toNat = base := by
    rw [Uint256.toNat_lowerOnly, Uint128.toNat_lowerOnly, UInt64.toNat_ofNat']
    exact Nat.mod_eq_of_lt (by omega)
  have loop := toStringLoop_run (by rw [baseNumber]; exact two) (by rw [baseNumber]; exact sixteen)
    256 number [] memory (by simpa using small) (by simpa using positive) number.toNat_lt
  rw [baseNumber, List.length_nil, Nat.zero_add] at loop
  exact loop

/-- The string needs one more character than it has digits. With exactly as many characters
as digits, the terminator is stored behind the array. -/
theorem uint256ToString_run (number : Uint256) {base : Nat} (two : 2 ≤ base)
    (sixteen : base ≤ 16) (memory : List Char) (positive : 0 < memory.length)
    (small : memory.length < 2 ^ 32) :
    (uint256ToString number base memory.length).run memory =
      if (digitText base number.toNat).length < memory.length then
        .ok (digitText base number.toNat).length
          (digitText base number.toNat ++ '\x00' ::
            memory.drop ((digitText base number.toNat).length + 1))
      else if (digitText base number.toNat).length = memory.length then
        .error .undefined (storedDigits base number.toNat)
      else .ok 0 ((storedDigits base number.toNat).take memory.length) := by
  have loop := toStringLoop_init number two sixteen memory positive small
  have lengths : (digitText base number.toNat).length =
      (storedDigits base number.toNat).length := by simp [digitText]
  have valid : (validate (2 ≤ base ∧ base ≤ 16) errAssert : TextCode Unit) = pure () := by
    rw [decide_eq_true (And.intro two sixteen), validate_true]
  rw [uint256ToString, lengths, digitText, valid, pure_bind]
  generalize storedDigits base number.toNat = stored at loop
  simp only [storing, List.length_nil, Nat.zero_add, List.nil_append] at loop
  rcases Nat.lt_trichotomy stored.length memory.length with fits | same | long
  · have rest := List.drop_eq_getElem_cons fits
    generalize memory[stored.length] = next at rest
    have terminated := store_run stored next '\x00' (memory.drop (stored.length + 1))
    have reversed := reverseLoop_run stored.length [] stored
      ('\x00' :: memory.drop (stored.length + 1)) (by omega)
    simp only [List.length_nil, Nat.zero_add, List.nil_append] at reversed
    rw [if_pos fits.le, rest] at loop
    rw [if_pos fits, run_bind_ok loop, run_bind_ok terminated, stringReverse, run_bind_ok reversed]
    rfl
  · have terminated := store_run_end stored '\x00'
    have nothing : memory.drop stored.length = [] := List.drop_eq_nil_of_le same.ge
    rw [if_pos same.le, nothing, List.append_nil] at loop
    rw [if_neg (by omega), if_pos same, run_bind_ok loop, run_bind_error terminated]
  · rw [if_neg (by omega)] at loop
    rw [if_neg (by omega), if_neg (by omega), run_bind_ok loop]
    rfl

/-- One more byte goes below the bytes read so far. -/
theorem or_byte {x y : UInt64} {shift high low : Nat} (above : x.toNat = high * 2 ^ (shift + 8))
    (below : y.toNat = low * 2 ^ shift) (byte : low < 256) :
    (x ||| y).toNat = (high * 256 + low) * 2 ^ shift := by
  have fits : low * 2 ^ shift < 2 ^ (shift + 8) := by
    calc
      low * 2 ^ shift < 256 * 2 ^ shift := Nat.mul_lt_mul_of_pos_right byte (Nat.two_pow_pos shift)
      _ = 2 ^ (shift + 8) := by ring
  rw [UInt64.toNat_or, above, below, Nat.mul_comm high, ← Nat.two_pow_add_eq_or_of_lt fits]
  ring

theorem shl64_byte (byte : UInt8) {shift : Nat} (small : shift ≤ 56) :
    (shl64 byte.toUInt64 shift).toNat = byte.toNat * 2 ^ shift := by
  have bound : byte.toNat * 2 ^ shift < 2 ^ 64 := by
    calc
      byte.toNat * 2 ^ shift < 2 ^ 8 * 2 ^ shift :=
        Nat.mul_lt_mul_of_pos_right byte.toNat_lt (Nat.two_pow_pos shift)
      _ = 2 ^ (8 + shift) := (pow_add 2 8 shift).symm
      _ ≤ 2 ^ 64 := Nat.pow_le_pow_right (by decide) (by omega)
  rw [shl64_toNat (by omega), UInt8.toNat_toUInt64, Nat.mod_eq_of_lt bound]

theorem readUint64BE_eq (bytes rest : List UInt8) (eight : bytes.length = 8) :
    ∃ limb, readUint64BE (bytes ++ rest) = some limb ∧ limb.toNat = Rlp.beNat bytes := by
  match bytes, eight with
  | [b0, b1, b2, b3, b4, b5, b6, b7], _ =>
    refine ⟨_, rfl, ?_⟩
    have last : b7.toUInt64.toNat = b7.toNat * 2 ^ 0 := by
      rw [UInt8.toNat_toUInt64, pow_zero, Nat.mul_one]
    have read := or_byte (or_byte (or_byte (or_byte (or_byte (or_byte (or_byte
      (shl64_byte b0 (show 56 ≤ 56 by decide))
      (shl64_byte b1 (show 48 ≤ 56 by decide)) b1.toNat_lt)
      (shl64_byte b2 (show 40 ≤ 56 by decide)) b2.toNat_lt)
      (shl64_byte b3 (show 32 ≤ 56 by decide)) b3.toNat_lt)
      (shl64_byte b4 (show 24 ≤ 56 by decide)) b4.toNat_lt)
      (shl64_byte b5 (show 16 ≤ 56 by decide)) b5.toNat_lt)
      (shl64_byte b6 (show 8 ≤ 56 by decide)) b6.toNat_lt)
      last b7.toNat_lt
    rw [read]
    simp only [Rlp.beNat_cons, Rlp.beNat_nil, List.length_cons, List.length_nil]
    ring

variable {σ : Type}

theorem readUint128BE_run (bytes rest : List UInt8) (sixteen : bytes.length = 16) (state : σ) :
    ∃ half : Uint128, (readUint128BE (bytes ++ rest) 16).run state = .ok half state ∧
      half.toNat = Rlp.beNat bytes := by
  have halves := List.take_append_drop 8 bytes
  have upperLength : (bytes.take 8).length = 8 := by rw [List.length_take]; omega
  have lowerLength : (bytes.drop 8).length = 8 := by rw [List.length_drop]; omega
  generalize bytes.take 8 = high at halves upperLength
  generalize bytes.drop 8 = low at halves lowerLength
  subst halves
  obtain ⟨upper, readUpper, upper_eq⟩ := readUint64BE_eq high (low ++ rest) upperLength
  obtain ⟨lower, readLower, lower_eq⟩ := readUint64BE_eq low rest lowerLength
  have dropped : (high ++ (low ++ rest)).drop 8 = low ++ rest := by
    rw [← upperLength, List.drop_left]
  refine ⟨⟨upper, lower⟩, ?_, ?_⟩
  · rw [readUint128BE, List.append_assoc, dropped, readUpper, readLower]
    rfl
  · rw [Rlp.beNat_append, lowerLength, ← upper_eq, ← lower_eq]
    rfl

theorem readUint256BE_run (bytes : List UInt8) (full : bytes.length = 32) (state : σ) :
    ∃ number : Uint256, (readUint256BE bytes 32).run state = .ok number state ∧
      number.toNat = Rlp.beNat bytes := by
  have halves := List.take_append_drop 16 bytes
  have upperLength : (bytes.take 16).length = 16 := by rw [List.length_take]; omega
  have lowerLength : (bytes.drop 16).length = 16 := by rw [List.length_drop]; omega
  generalize bytes.take 16 = high at halves upperLength
  generalize bytes.drop 16 = low at halves lowerLength
  subst halves
  obtain ⟨upper, readUpper, upper_eq⟩ := readUint128BE_run high low upperLength state
  obtain ⟨lower, readLower, lower_eq⟩ := readUint128BE_run low [] lowerLength state
  have dropped : (high ++ low).drop 16 = low ++ [] := by
    rw [← upperLength, List.drop_left, List.append_nil]
  refine ⟨⟨upper, lower⟩, ?_, ?_⟩
  · have valid : (validate (32 ≤ 32) errAssert : EStateM Exc σ Unit) = pure () := validate_true _
    rw [readUint256BE, dropped, valid, pure_bind, run_bind_ok readUpper, run_bind_ok readLower]
    rfl
  · rw [Rlp.beNat_append, lowerLength, ← upper_eq, ← lower_eq]
    rfl

theorem uint256ConvertBE_run (data : List UInt8) (length : Nat) (small : length ≤ 32)
    (inData : length ≤ data.length) (state : σ) :
    ∃ number : Uint256, (uint256ConvertBE data length).run state = .ok number state ∧
      number.toNat = Rlp.beNat (data.take length) := by
  have valid : (validate (length ≤ 32) errAssert : EStateM Exc σ Unit) = pure () := by
    rw [decide_eq_true small, validate_true]
  have padded : (List.replicate (32 - length) (0 : UInt8) ++ data.take length).length = 32 := by
    rw [List.length_append, List.length_replicate, List.length_take]
    omega
  obtain ⟨number, read, number_eq⟩ := readUint256BE_run _ padded state
  refine ⟨number, ?_, ?_⟩
  · rw [uint256ConvertBE, valid, pure_bind, if_pos inData, inside_some, pure_bind, read]
  · rw [number_eq, Rlp.beNat_append]
    have zeros (count : Nat) : Rlp.beNat (List.replicate count 0) = 0 := by
      induction count with
      | zero => rfl
      | succ count ih => rw [List.replicate_succ, Rlp.beNat_cons, ih]; simp
    rw [zeros, Nat.zero_mul, Nat.zero_add]

end FantomLedger
