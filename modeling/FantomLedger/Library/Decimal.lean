import Mathlib.Algebra.Order.Field.Rat
import Mathlib.Data.List.DropRight
import Mathlib.Data.Nat.Digits.Defs
import Mathlib.Data.Rat.Cast.Order
import Mathlib.Tactic.FieldSimp
import Mathlib.Tactic.Ring

/-! Decimal texts: digits, and optionally a point and more digits, and the rational number
they stand for. -/

namespace FantomLedger.Library.Decimal

def digitValue (c : Char) : Nat := c.toNat - '0'.toNat

/-- The number a text of digits stands for, most significant digit first. -/
def wholeValue (text : List Char) : Nat := Nat.ofDigits 10 (text.reverse.map digitValue)

/-- The number a decimal text stands for; none for other texts. -/
def decimalValue (text : List Char) : Option ℚ :=
  let whole := text.takeWhile (· ≠ '.')
  let fraction := (text.dropWhile (· ≠ '.')).tail
  if whole ≠ [] ∧ (whole ++ fraction).all Char.isDigit ∧ text ≠ whole ++ ['.'] then
    some (wholeValue whole + wholeValue fraction / 10 ^ fraction.length)
  else none

/-- A fraction with the point in front of it, and nothing when there is no digit. -/
def pointed : List Char → List Char
  | [] => []
  | c :: fraction => '.' :: c :: fraction

def trimZeros (fraction : List Char) : List Char := fraction.rdropWhile (· = '0')

/-- Digits with zeros in front, so that one stands before the point. -/
def padded (decimals : Nat) (digits : List Char) : List Char :=
  List.replicate (decimals + 1 - digits.length) '0' ++ digits

def wholePart (decimals : Nat) (digits : List Char) : List Char :=
  (padded decimals digits).take ((padded decimals digits).length - decimals)

def fractionPart (decimals : Nat) (digits : List Char) : List Char :=
  (padded decimals digits).drop ((padded decimals digits).length - decimals)

/-- The digits as a number of units of 10 ^ -decimals, without superfluous zeros behind. -/
def fixedPoint (decimals : Nat) (digits : List Char) : List Char :=
  wholePart decimals digits ++ pointed (trimZeros (fractionPart decimals digits))

theorem wholeValue_append (high low : List Char) :
    wholeValue (high ++ low) = wholeValue high * 10 ^ low.length + wholeValue low := by
  simp only [wholeValue, List.reverse_append, List.map_append, Nat.ofDigits_append,
    List.length_map, List.length_reverse]
  rw [Nat.mul_comm, Nat.add_comm]

theorem wholeValue_zeros (count : Nat) : wholeValue (List.replicate count '0') = 0 := by
  induction count with
  | zero => rfl
  | succ count ih =>
    rw [List.replicate_succ, ← List.singleton_append, wholeValue_append, ih,
      show wholeValue ['0'] = 0 from rfl, Nat.zero_mul]

theorem wholeValue_padded (decimals : Nat) (digits : List Char) :
    wholeValue (padded decimals digits) = wholeValue digits := by
  rw [padded, wholeValue_append, wholeValue_zeros, Nat.zero_mul, Nat.zero_add]

theorem parts_append (decimals : Nat) (digits : List Char) :
    wholePart decimals digits ++ fractionPart decimals digits = padded decimals digits :=
  List.take_append_drop _ _

theorem padded_length (decimals : Nat) (digits : List Char) :
    (padded decimals digits).length = max (decimals + 1) digits.length := by
  rw [padded, List.length_append, List.length_replicate]
  omega

theorem fractionPart_length (decimals : Nat) (digits : List Char) :
    (fractionPart decimals digits).length = decimals := by
  have long := padded_length decimals digits
  rw [fractionPart, List.length_drop]
  omega

theorem wholePart_ne_nil (decimals : Nat) (digits : List Char) :
    wholePart decimals digits ≠ [] := by
  have long := padded_length decimals digits
  apply List.ne_nil_of_length_pos
  rw [wholePart, List.length_take]
  omega

theorem trimZeros_append (fraction : List Char) :
    ∃ count, fraction = trimZeros fraction ++ List.replicate count '0' := by
  refine ⟨(fraction.rtakeWhile (· = '0')).length, ?_⟩
  have zeros : fraction.rtakeWhile (· = '0') =
      List.replicate (fraction.rtakeWhile (· = '0')).length '0' := by
    apply List.eq_replicate_of_mem
    intro c member
    simpa using List.mem_rtakeWhile_imp member
  rw [← zeros]
  exact List.rdropWhile_append_rtakeWhile.symm

theorem trimZeros_getLast {fraction : List Char} (nonempty : trimZeros fraction ≠ []) :
    (trimZeros fraction).getLast nonempty ≠ '0' := by
  intro zero
  exact List.rdropWhile_last_not (· = '0') fraction nonempty (decide_eq_true zero)

theorem trimZeros_zeros (text : List Char) (count : Nat) :
    trimZeros (text ++ List.replicate count '0') = trimZeros text := by
  induction count with
  | zero => rw [List.replicate_zero, List.append_nil]
  | succ count ih =>
    rw [List.replicate_succ', ← List.append_assoc, trimZeros,
      List.rdropWhile_concat_pos _ _ _ (by decide)]
    exact ih

theorem mem_of_mem_trimZeros {fraction : List Char} {c : Char} (member : c ∈ trimZeros fraction) :
    c ∈ fraction :=
  (List.rdropWhile_prefix (· = '0') fraction).subset member

/-- Trimming stops at the first other character from behind. -/
theorem trimZeros_append_of_ne_nil (front : List Char) {fraction : List Char}
    (nonempty : trimZeros fraction ≠ []) :
    trimZeros (front ++ fraction) = front ++ trimZeros fraction := by
  obtain ⟨count, split⟩ := trimZeros_append fraction
  have last := trimZeros_getLast nonempty
  generalize trimZeros fraction = kept at split nonempty last
  rw [split, ← List.append_assoc, trimZeros_zeros]
  apply List.rdropWhile_eq_self_iff.mpr
  intro _
  rw [List.getLast_append_of_ne_nil _ nonempty]
  simpa using last

theorem padded_isDigit (decimals : Nat) {digits : List Char}
    (isDigits : ∀ c ∈ digits, c.isDigit) : ∀ c ∈ padded decimals digits, c.isDigit := by
  intro c member
  rcases List.mem_append.mp member with zero | digit
  · rw [List.eq_of_mem_replicate zero]
    rfl
  · exact isDigits c digit

theorem pointed_of_ne_nil {fraction : List Char} (nonempty : fraction ≠ []) :
    pointed fraction = '.' :: fraction := by
  cases fraction with
  | nil => exact absurd rfl nonempty
  | cons c rest => rfl

theorem fixedPoint_long {decimals : Nat} {digits : List Char} (long : decimals < digits.length) :
    fixedPoint decimals digits = digits.take (digits.length - decimals) ++
      pointed (trimZeros (digits.drop (digits.length - decimals))) := by
  have none : decimals + 1 - digits.length = 0 := by omega
  rw [fixedPoint, wholePart, fractionPart, padded, none, List.replicate_zero, List.nil_append]

theorem fixedPoint_short {decimals : Nat} {digits : List Char} (short : digits.length ≤ decimals)
    (nonempty : trimZeros digits ≠ []) :
    fixedPoint decimals digits =
      '0' :: '.' :: List.replicate (decimals - digits.length) '0' ++ trimZeros digits := by
  have zeros : decimals + 1 - digits.length = decimals - digits.length + 1 := by omega
  have long := padded_length decimals digits
  have one : (padded decimals digits).length - decimals = 1 := by omega
  rw [fixedPoint, wholePart, fractionPart, one, padded, zeros, List.replicate_succ]
  simp only [List.cons_append, List.take_succ_cons, List.take_zero, List.drop_succ_cons,
    List.drop_zero]
  rw [trimZeros_append_of_ne_nil _ nonempty, pointed_of_ne_nil (by simp [nonempty])]
  rfl

theorem fixedPoint_zero (decimals : Nat) : fixedPoint decimals ['0'] = ['0'] := by
  have zeros : padded decimals ['0'] = '0' :: List.replicate decimals '0' := by
    rw [padded, List.length_singleton, Nat.add_sub_cancel, ← List.replicate_succ',
      List.replicate_succ]
  have one : (padded decimals ['0']).length - decimals = 1 := by
    rw [padded_length, List.length_singleton]
    omega
  have nothing : trimZeros (List.replicate decimals '0') = [] := by
    have trimmed := trimZeros_zeros [] decimals
    rwa [List.nil_append] at trimmed
  rw [fixedPoint, wholePart, fractionPart, one, zeros]
  simp only [List.take_succ_cons, List.take_zero, List.drop_succ_cons, List.drop_zero]
  rw [nothing]
  rfl

theorem decimalValue_eq {whole fraction : List Char} (some_digit : whole ≠ [])
    (wholeDigits : ∀ c ∈ whole, c.isDigit) (fractionDigits : ∀ c ∈ fraction, c.isDigit) :
    decimalValue (whole ++ pointed fraction) =
      some ((wholeValue whole : ℚ) + wholeValue fraction / 10 ^ fraction.length) := by
  have noPoint : ∀ c ∈ whole, decide (c ≠ '.') = true := by
    intro c member
    simp only [ne_eq, decide_not, Bool.not_eq_eq_eq_not, Bool.not_true, decide_eq_false_iff_not]
    rintro rfl
    exact absurd (wholeDigits _ member) (by decide)
  have taken : (whole ++ pointed fraction).takeWhile (· ≠ '.') = whole := by
    rw [List.takeWhile_append_of_pos noPoint]
    cases fraction <;> simp [pointed]
  have dropped : ((whole ++ pointed fraction).dropWhile (· ≠ '.')).tail = fraction := by
    rw [List.dropWhile_append_of_pos noPoint]
    cases fraction <;> simp [pointed]
  have notBare : whole ++ pointed fraction ≠ whole ++ ['.'] := by
    cases fraction <;> simp [pointed]
  have digits : (whole ++ fraction).all Char.isDigit = true := by
    rw [List.all_eq_true]
    intro c member
    rcases List.mem_append.mp member with inWhole | inFraction
    · exact wholeDigits c inWhole
    · exact fractionDigits c inFraction
  unfold decimalValue
  simp only [taken, dropped]
  exact if_pos ⟨some_digit, digits, notBare⟩

/-- A fixed point text stands for its digits divided by the power of ten. -/
theorem decimalValue_fixedPoint (decimals : Nat) {digits : List Char}
    (isDigits : ∀ c ∈ digits, c.isDigit) :
    decimalValue (fixedPoint decimals digits) = some ((wholeValue digits : ℚ) / 10 ^ decimals) := by
  obtain ⟨count, split⟩ := trimZeros_append (fractionPart decimals digits)
  have parts := parts_append decimals digits
  have allDigits := padded_isDigit decimals isDigits
  have value := wholeValue_padded decimals digits
  have size := fractionPart_length decimals digits
  rw [← parts] at allDigits value
  rw [fixedPoint]
  generalize trimZeros (fractionPart decimals digits) = fraction at split
  rw [split] at allDigits value size
  rw [decimalValue_eq (wholePart_ne_nil decimals digits)]
  · rw [wholeValue_append, wholeValue_append, wholeValue_zeros, Nat.add_zero] at value
    rw [List.length_append, List.length_replicate] at size
    congr 1
    rw [← value, ← size, List.length_append, List.length_replicate]
    push_cast
    rw [pow_add]
    field_simp
  · intro c member
    exact allDigits c (by simp [member])
  · intro c member
    exact allDigits c (by simp [member])

/-- No superfluous zero in front, none behind the point, and no bare point at the end. -/
structure Canonical (text : List Char) : Prop where
  leading : ∀ rest, text = '0' :: rest → rest = [] ∨ rest.head? = some '.'
  trailing : '.' ∈ text → text.getLast? ≠ some '0'
  point : text.getLast? ≠ some '.'

theorem canonical_pointed {whole fraction : List Char} (some_digit : whole ≠ [])
    (wholeDigits : ∀ c ∈ whole, c.isDigit) (leading : whole = ['0'] ∨ whole.head? ≠ some '0')
    (fractionDigits : ∀ c ∈ fraction, c.isDigit) (trailing : fraction.getLast? ≠ some '0') :
    Canonical (whole ++ pointed fraction) := by
  have notPoint {text : List Char} (digits : ∀ c ∈ text, c.isDigit) : '.' ∉ text :=
    fun member => absurd (digits '.' member) (by decide)
  have front : ∀ rest, whole ++ pointed fraction = '0' :: rest →
      rest = [] ∨ rest.head? = some '.' := by
    intro rest shape
    rcases leading with zero | other
    · rw [zero] at shape
      obtain rfl : pointed fraction = rest := (List.cons.inj shape).2
      cases fraction with
      | nil => exact .inl rfl
      | cons c fraction => exact .inr rfl
    · have head := congrArg List.head? shape
      rw [List.head?_append_of_ne_nil _ some_digit] at head
      exact absurd head other
  by_cases integer : fraction = []
  · subst integer
    rw [pointed, List.append_nil] at front ⊢
    exact ⟨front, fun inWhole => absurd inWhole (notPoint wholeDigits),
      fun last => notPoint wholeDigits (List.mem_of_getLast? last)⟩
  · have last : (whole ++ pointed fraction).getLast? = fraction.getLast? := by
      rw [pointed_of_ne_nil integer, List.getLast?_append_cons]
      exact List.getLast?_cons_of_ne_nil integer
    refine ⟨front, fun _ => ?_, ?_⟩
    · rw [last]
      exact trailing
    · rw [last]
      exact fun point => notPoint fractionDigits (List.mem_of_getLast? point)

/-- Digits without superfluous zeros give a text without any. -/
theorem canonical_fixedPoint (decimals : Nat) {digits : List Char}
    (isDigits : ∀ c ∈ digits, c.isDigit) (leading : digits = ['0'] ∨ digits.head? ≠ some '0') :
    Canonical (fixedPoint decimals digits) := by
  have allDigits := padded_isDigit decimals isDigits
  rw [← parts_append] at allDigits
  apply canonical_pointed (wholePart_ne_nil decimals digits)
  · exact fun c member => allDigits c (List.mem_append_left _ member)
  · have long := padded_length decimals digits
    by_cases short : digits.length ≤ decimals
    · have one : (padded decimals digits).length - decimals = 1 := by omega
      have zeros : decimals + 1 - digits.length = decimals - digits.length + 1 := by omega
      left
      rw [wholePart, one, padded, zeros, List.replicate_succ]
      rfl
    · have none : decimals + 1 - digits.length = 0 := by omega
      have same : wholePart decimals digits = digits.take (digits.length - decimals) := by
        rw [wholePart, padded, none, List.replicate_zero, List.nil_append]
      rw [same]
      rcases leading with rfl | other
      · have integer : decimals = 0 := by simpa using short
        exact .inl (by rw [integer]; rfl)
      · right
        rw [List.head?_take, if_neg (by omega)]
        exact other
  · exact fun c member => allDigits c (List.mem_append_right _ (mem_of_mem_trimZeros member))
  · intro zero
    have nonempty : trimZeros (fractionPart decimals digits) ≠ [] := by
      intro nothing
      rw [nothing] at zero
      exact absurd zero (by decide)
    rw [List.getLast?_eq_some_getLast nonempty, Option.some_inj] at zero
    exact trimZeros_getLast nonempty zero

end FantomLedger.Library.Decimal
