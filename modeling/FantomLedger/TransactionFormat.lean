import FantomLedger.Library.Decimal
import FantomLedger.TransactionFields
import FantomLedger.Uint256Text

/-! Amounts and fees as decimal strings. -/

namespace FantomLedger

open Library Library.Program TextBuffer

/-- Characters of an array from one index up to another. -/
def slice (memory : List Char) (start stop : Nat) : TextCode (List Char) :=
  inside (if stop ≤ memory.length then some ((memory.take stop).drop start) else none)

def isZeroText (src : List Char) (srcLength : Nat) : TextCode Bool :=
  if srcLength = 1 then (· == '0') <$> inside src[0]? else pure false

/-- Store the digits and the point. The values are the offset from which on trailing zeros
are looked for, and the offset of the terminator. -/
def placeDecimals (src : List Char) (srcLength decimals targetLength : Nat) :
    TextCode (Nat × Nat) := do
  if srcLength ≤ decimals then
    let delta := decimals - srcLength
    validate (srcLength + 1 + 2 + delta < targetLength) errInvalidData
    let startOffset ← storeAll 0 ('0' :: '.' :: List.replicate delta '0')
    let offset ← storeAll startOffset (← slice src 0 srcLength)
    store offset '\x00'
    return (startOffset, offset)
  else
    let delta := srcLength - decimals
    validate (srcLength + 1 + 1 < targetLength) errInvalidData
    let pointOffset ← storeAll 0 (← slice src 0 delta)
    let startOffset ← if decimals ≠ 0 then storeAll pointOffset ['.'] else pure pointOffset
    let offset ← storeAll startOffset (← slice src delta srcLength)
    store offset '\x00'
    return (startOffset, offset)

/-- The offset of the first zero after the last other character, 0 when there is none. -/
def lastZero : List Char → Nat → Nat → Nat
  | [], _, lastZeroOffset => lastZeroOffset
  | c :: text, i, lastZeroOffset =>
      lastZero text (i + 1)
        (if c = '0' then if lastZeroOffset = 0 then i else lastZeroOffset else 0)

/-- End the string at the zeros found, and at the point when they follow it at once. -/
def cutAt (lastZeroOffset offset : Nat) : TextCode Nat := do
  if lastZeroOffset ≠ 0 then
    store lastZeroOffset '\x00'
    if (← load (lastZeroOffset - 1)) = '.' then
      store (lastZeroOffset - 1) '\x00'
      return lastZeroOffset - 1
    else
      return lastZeroOffset
  else
    return offset

def dropTrailingZeros (startOffset offset : Nat) : TextCode Nat := do
  let text ← slice (← get) startOffset offset
  cutAt (lastZero text startOffset 0) offset

def adjustDecimals (src : List Char) (srcLength : Nat) (decimals : UInt8) (targetLength : Nat) :
    TextCode Nat := do
  validate (2 < targetLength) errInvalidData
  if ← isZeroText src srcLength then
    store 0 '0'
    store 1 '\x00'
    return 1
  let (startOffset, offset) ← placeDecimals src srcLength decimals.toNat targetLength
  dropTrailingZeros startOffset offset

/-- Convert a number to a decimal string in a local array and from there to the output. No
character of the array is read that the conversion does not store first. -/
def formatNumber (number : Uint256) (decimals : UInt8) (outSize : Nat) : TextCode Unit := do
  let (length, tmp) ← onBuffer (List.replicate 40 '\x00') (uint256ToString number 10 40)
  validate (0 < length) errInvalidData
  let _ ← adjustDecimals tmp length decimals outSize

def txGetFormattedAmount (value : TxInt256) (decimals : UInt8) (outSize : Nat) : TextCode Unit := do
  assertThat (outSize < maxBufferSize)
  let tmpValue ← uint256ConvertBE value.value.toList value.length.toNat
  formatNumber tmpValue decimals outSize

def txGetFormattedFee (tx : Transaction) (decimals : UInt8) (outSize : Nat) : TextCode Unit := do
  assertThat (outSize < maxBufferSize)
  let gasPrice ← uint256ConvertBE tx.gasPrice.value.toList tx.gasPrice.length.toNat
  let gasVolume ← uint256ConvertBE tx.startGas.value.toList tx.startGas.length.toNat
  formatNumber (mul256 gasPrice gasVolume) decimals outSize

theorem slice_eq (before text after : List Char) :
    slice (before ++ text ++ after) before.length (before.length + text.length) = pure text := by
  have taken : (before ++ text ++ after).take (before.length + text.length) = before ++ text := by
    rw [← List.length_append, List.take_left]
  rw [slice, if_pos (by simp), inside_some, taken, List.drop_left]

theorem lastZero_append (first second : List Char) (i lastZeroOffset : Nat) :
    lastZero (first ++ second) i lastZeroOffset =
      lastZero second (i + first.length) (lastZero first i lastZeroOffset) := by
  induction first generalizing i lastZeroOffset with
  | nil => rfl
  | cons c first ih =>
    rw [List.cons_append, lastZero, ih, lastZero, List.length_cons]
    congr 1
    omega

theorem lastZero_zeros (count i lastZeroOffset : Nat) (positive : 0 < i) :
    lastZero (List.replicate count '0') i lastZeroOffset =
      if count = 0 then lastZeroOffset else if lastZeroOffset = 0 then i else lastZeroOffset := by
  induction count generalizing i lastZeroOffset with
  | zero => rfl
  | succ count ih =>
    rw [List.replicate_succ, lastZero, if_pos rfl, ih _ _ (by omega),
      if_neg (Nat.succ_ne_zero count)]
    by_cases first : lastZeroOffset = 0
    · simp [first, positive.ne']
    · simp [first]

/-- The zeros found are those that are trimmed. -/
theorem lastZero_eq (fraction : List Char) (count start : Nat) (positive : 0 < start)
    (split : fraction = Decimal.trimZeros fraction ++ List.replicate count '0') :
    lastZero fraction start 0 =
      if count = 0 then 0 else start + (Decimal.trimZeros fraction).length := by
  have kept : lastZero (Decimal.trimZeros fraction) start 0 = 0 := by
    rcases List.eq_nil_or_concat' (Decimal.trimZeros fraction) with nothing | ⟨front, last, eq⟩
    · rw [nothing]
      rfl
    · have notZero : last ≠ '0' := by
        have nonempty : Decimal.trimZeros fraction ≠ [] := by rw [eq]; simp
        have ends := Decimal.trimZeros_getLast nonempty
        simpa only [eq, List.getLast_append_singleton] using ends
      rw [eq, lastZero_append, lastZero, if_neg notZero]
      rfl
  conv_lhs => rw [split]
  rw [lastZero_append, kept, lastZero_zeros _ _ _ (by omega), if_pos rfl]

theorem cutAt_kept (front : List Char) (last old : Char) (rest : List Char) (offset : Nat)
    (notPoint : last ≠ '.') :
    (cutAt (front.length + 1) offset).run (front ++ last :: old :: rest) =
      .ok (front.length + 1) (front ++ last :: '\x00' :: rest) := by
  have stored := store_run (front ++ [last]) old '\x00' rest
  have loaded := load_run front last ('\x00' :: rest)
  simp only [List.length_append, List.length_singleton, List.append_assoc,
    List.singleton_append] at stored
  rw [cutAt, if_pos (Nat.succ_ne_zero _), run_bind_ok stored, Nat.add_sub_cancel,
    run_bind_ok loaded, if_neg notPoint]
  rfl

theorem cutAt_point (front : List Char) (old : Char) (rest : List Char) (offset : Nat) :
    (cutAt (front.length + 1) offset).run (front ++ '.' :: old :: rest) =
      .ok front.length (front ++ '\x00' :: '\x00' :: rest) := by
  have stored := store_run (front ++ ['.']) old '\x00' rest
  have loaded := load_run front '.' ('\x00' :: rest)
  have cleared := store_run front '.' '\x00' ('\x00' :: rest)
  simp only [List.length_append, List.length_singleton, List.append_assoc,
    List.singleton_append] at stored
  rw [cutAt, if_pos (Nat.succ_ne_zero _), run_bind_ok stored, Nat.add_sub_cancel,
    run_bind_ok loaded, if_pos rfl, run_bind_ok cleared]
  rfl

theorem dropTrailingZeros_run (front scanned rest : List Char) :
    (dropTrailingZeros front.length (front.length + scanned.length)).run
        (front ++ scanned ++ rest) =
      (cutAt (lastZero scanned front.length 0) (front.length + scanned.length)).run
        (front ++ scanned ++ rest) := by
  have got : (get : TextCode (List Char)).run (front ++ scanned ++ rest) =
      .ok (front ++ scanned ++ rest) (front ++ scanned ++ rest) := rfl
  rw [dropTrailingZeros, run_bind_ok got, slice_eq, pure_bind]

theorem nul_notMem {text : List Char} (isDigits : ∀ c ∈ text, c.isDigit) : '\x00' ∉ text :=
  fun member => absurd (isDigits _ member) (by decide)

/-- Nothing but trailing zeros goes as long as a digit in front of them stays. -/
theorem dropTrailingZeros_kept (front scanned rest : List Char) (nonempty : front ≠ [])
    (clean : '\x00' ∉ front) (isDigits : ∀ c ∈ scanned, c.isDigit)
    (stays : scanned = [] ∨ Decimal.trimZeros scanned ≠ []) :
    ∃ offset memory, (dropTrailingZeros front.length (front.length + scanned.length)).run
        (front ++ scanned ++ '\x00' :: rest) = .ok offset memory ∧
      cString memory = some (front ++ Decimal.trimZeros scanned) := by
  obtain ⟨count, split⟩ := Decimal.trimZeros_append scanned
  have found := lastZero_eq scanned count front.length (List.length_pos_of_ne_nil nonempty) split
  have keptDigits : ∀ c ∈ Decimal.trimZeros scanned, c.isDigit := fun c member =>
    isDigits c (Decimal.mem_of_mem_trimZeros member)
  have cleanAll : '\x00' ∉ front ++ Decimal.trimZeros scanned := by
    rw [List.mem_append, not_or]
    exact ⟨clean, nul_notMem keptDigits⟩
  rw [dropTrailingZeros_run, found]
  by_cases none : count = 0
  · subst none
    rw [List.replicate_zero, List.append_nil] at split
    rw [← split] at cleanAll ⊢
    exact ⟨_, _, rfl, cString_terminated cleanAll rest⟩
  · obtain ⟨fewer, rfl⟩ := Nat.exists_eq_succ_of_ne_zero none
    have kept : Decimal.trimZeros scanned ≠ [] := by
      rcases stays with nothing | kept
      · rw [nothing] at split
        simp at split
      · exact kept
    rcases List.eq_nil_or_concat' (Decimal.trimZeros scanned) with nothing | ⟨init, last, shape⟩
    · exact absurd nothing kept
    rw [shape] at split keptDigits cleanAll ⊢
    have notPoint : last ≠ '.' := by
      rintro rfl
      exact absurd (keptDigits '.' (by simp)) (by decide)
    have cut := cutAt_kept (front ++ init) last '0' (List.replicate fewer '0' ++ '\x00' :: rest)
      (front.length + scanned.length) notPoint
    rw [if_neg none]
    generalize front.length + scanned.length = offset at cut ⊢
    refine ⟨(front ++ init).length + 1, _, ?_, cString_terminated cleanAll (List.replicate fewer '0' ++ '\x00' :: rest)⟩
    conv_lhs => rw [split]
    simpa [List.replicate_succ, Nat.add_assoc] using cut

/-- When all digits behind the point are zeros, the point goes too. -/
theorem dropTrailingZeros_point (front scanned rest : List Char) (clean : '\x00' ∉ front)
    (some_digit : scanned ≠ []) (zeros : Decimal.trimZeros scanned = []) :
    ∃ offset memory, (dropTrailingZeros (front ++ ['.']).length
        ((front ++ ['.']).length + scanned.length)).run
          (front ++ ['.'] ++ scanned ++ '\x00' :: rest) = .ok offset memory ∧
      cString memory = some front := by
  obtain ⟨count, split⟩ := Decimal.trimZeros_append scanned
  have found := lastZero_eq scanned count (front ++ ['.']).length (by simp) split
  rw [dropTrailingZeros_run, found, zeros]
  rw [zeros, List.nil_append] at split
  by_cases none : count = 0
  · subst none
    exact absurd split some_digit
  · obtain ⟨fewer, rfl⟩ := Nat.exists_eq_succ_of_ne_zero none
    have cut := cutAt_point front '0' (List.replicate fewer '0' ++ '\x00' :: rest)
      ((front ++ ['.']).length + scanned.length)
    rw [if_neg none]
    generalize (front ++ ['.']).length + scanned.length = offset at cut ⊢
    refine ⟨front.length, _, ?_, cString_terminated clean ('\x00' :: (List.replicate fewer '0' ++ '\x00' :: rest))⟩
    rw [split]
    simpa [List.replicate_succ, split] using cut

/-- The part in front of the scanned digits, the digits and the terminator. -/
def place (front scanned : List Char) : TextCode (Nat × Nat) := do
  let startOffset ← storeAll 0 front
  let offset ← storeAll startOffset scanned
  store offset '\x00'
  return (startOffset, offset)

theorem place_run (front scanned memory : List Char)
    (fits : front.length + scanned.length < memory.length) :
    ∃ rest, (place front scanned).run memory =
      .ok (front.length, front.length + scanned.length) (front ++ scanned ++ '\x00' :: rest) := by
  have split := List.take_append_drop (front.length + scanned.length) memory
  have rest := List.drop_eq_getElem_cons fits
  generalize memory[front.length + scanned.length] = old at rest
  generalize memory.drop (front.length + scanned.length + 1) = rest' at rest
  have room := List.take_append_drop front.length (memory.take (front.length + scanned.length))
  have first : ((memory.take (front.length + scanned.length)).take front.length).length =
      front.length := by
    rw [List.length_take, List.length_take]
    omega
  have second : ((memory.take (front.length + scanned.length)).drop front.length).length =
      scanned.length := by
    rw [List.length_drop, List.length_take]
    omega
  generalize (memory.take (front.length + scanned.length)).take front.length = room1 at room first
  generalize (memory.take (front.length + scanned.length)).drop front.length = room2 at room second
  have storedFront := storeAll_run [] front room1 (room2 ++ old :: rest') first
  have storedDigits := storeAll_run front scanned room2 (old :: rest') second
  have terminated := store_run (front ++ scanned) old '\x00' rest'
  rw [List.length_append] at terminated
  simp only [List.nil_append, List.length_nil, Nat.zero_add] at storedFront
  rw [List.append_assoc front room2] at storedDigits
  refine ⟨rest', ?_⟩
  rw [place, ← split, ← room, rest, List.append_assoc, run_bind_ok storedFront,
    run_bind_ok storedDigits, run_bind_ok terminated]
  rfl

theorem storeAll_append (offset : Nat) (first second : List Char) :
    storeAll offset (first ++ second) =
      storeAll offset first >>= fun next => storeAll next second := by
  induction first generalizing offset with
  | nil => simp [storeAll]
  | cons c first ih => simp [storeAll, ih]

/-- The digits in front of the scanned ones, with the point. -/
def frontPart (decimals : Nat) (digits : List Char) : List Char :=
  if digits.length ≤ decimals then '0' :: '.' :: List.replicate (decimals - digits.length) '0'
  else digits.take (digits.length - decimals) ++ if decimals ≠ 0 then ['.'] else []

def scannedPart (decimals : Nat) (digits : List Char) : List Char :=
  if digits.length ≤ decimals then digits else digits.drop (digits.length - decimals)

/-- What the output array has to hold for the digits. -/
def needed (decimals : Nat) (digits : List Char) : Nat :=
  if digits.length ≤ decimals then decimals + 3 else digits.length + 2

theorem placeDecimals_run (digits srcRest : List Char) (decimals : Nat) (memory : List Char) :
    (placeDecimals (digits ++ srcRest) digits.length decimals memory.length).run memory =
      if needed decimals digits < memory.length then
        (place (frontPart decimals digits) (scannedPart decimals digits)).run memory
      else .error (.thrown errInvalidData) memory := by
  unfold placeDecimals needed frontPart scannedPart
  by_cases short : digits.length ≤ decimals
  · have size : digits.length + 1 + 2 + (decimals - digits.length) = decimals + 3 := by omega
    have source : slice (digits ++ srcRest) 0 digits.length = pure digits := by
      simpa using slice_eq [] digits srcRest
    simp only [short, ↓reduceIte, size]
    by_cases enough : decimals + 3 < memory.length
    · rw [if_pos enough, decide_eq_true enough, validate_true, pure_bind, source]
      rfl
    · rw [if_neg enough, decide_eq_false enough, validate_false, run_bind_error (run_throw _ _)]
  · have whole : (digits.take (digits.length - decimals)).length = digits.length - decimals := by
      rw [List.length_take]
      omega
    have total : digits.length - decimals + (digits.drop (digits.length - decimals)).length =
        digits.length := by
      rw [List.length_drop]
      omega
    have parts := List.take_append_drop (digits.length - decimals) digits
    have first : slice (digits ++ srcRest) 0 (digits.length - decimals) =
        pure (digits.take (digits.length - decimals)) := by
      have sliced := slice_eq [] (digits.take (digits.length - decimals))
        (digits.drop (digits.length - decimals) ++ srcRest)
      rw [List.nil_append, ← List.append_assoc, parts, whole, List.length_nil, Nat.zero_add]
        at sliced
      exact sliced
    have second : slice (digits ++ srcRest) (digits.length - decimals) digits.length =
        pure (digits.drop (digits.length - decimals)) := by
      have sliced := slice_eq (digits.take (digits.length - decimals))
        (digits.drop (digits.length - decimals)) srcRest
      rwa [parts, whole, total] at sliced
    have size : digits.length + 1 + 1 = digits.length + 2 := rfl
    simp only [short, ↓reduceIte, size]
    by_cases enough : digits.length + 2 < memory.length
    · rw [if_pos enough, decide_eq_true enough, validate_true, pure_bind, first, pure_bind,
        place, storeAll_append, bind_assoc, second]
      by_cases integer : decimals = 0
      · simp only [integer, ne_eq, not_true_eq_false, ↓reduceIte, storeAll]
        rfl
      · simp only [integer, ne_eq, not_false_eq_true, ↓reduceIte]
        rfl
    · rw [if_neg enough, decide_eq_false enough, validate_false, run_bind_error (run_throw _ _)]

/-- Digits as the conversion to a string yields them: none, or no zero in front. -/
structure Digits (digits : List Char) : Prop where
  isDigits : ∀ c ∈ digits, c.isDigit
  leading : digits = ['0'] ∨ ∃ first rest, digits = first :: rest ∧ first ≠ '0'

theorem frontPart_ne_nil (decimals : Nat) (digits : List Char) :
    frontPart decimals digits ≠ [] := by
  unfold frontPart
  split_ifs with short integer
  · simp
  · apply List.ne_nil_of_length_pos
    simp
  · apply List.ne_nil_of_length_pos
    rw [List.length_append, List.length_take, List.length_nil]
    omega

theorem parts_length (decimals : Nat) (digits : List Char) :
    (frontPart decimals digits).length + (scannedPart decimals digits).length <
      needed decimals digits := by
  unfold frontPart scannedPart needed
  split_ifs <;> simp <;> omega

theorem nul_notMem_frontPart (decimals : Nat) {digits : List Char}
    (isDigits : ∀ c ∈ digits, c.isDigit) : '\x00' ∉ frontPart decimals digits := by
  have inDigits (c : Char) (member : c ∈ digits.take (digits.length - decimals)) : c.isDigit :=
    isDigits c (List.mem_of_mem_take member)
  unfold frontPart
  split_ifs with short integer
  · simp
  · rw [List.mem_append, not_or]
    exact ⟨nul_notMem inDigits, by decide⟩
  · rw [List.append_nil]
    exact nul_notMem inDigits

theorem scannedPart_isDigit (decimals : Nat) {digits : List Char}
    (isDigits : ∀ c ∈ digits, c.isDigit) : ∀ c ∈ scannedPart decimals digits, c.isDigit := by
  unfold scannedPart
  split_ifs
  · exact isDigits
  · exact fun c member => isDigits c (List.mem_of_mem_drop member)

theorem Digits.trimZeros_ne_nil {digits : List Char} (shape : Digits digits)
    (nonzero : digits ≠ ['0']) : Decimal.trimZeros digits ≠ [] := by
  rcases shape.leading with zero | ⟨first, rest, rfl, notZero⟩
  · exact absurd zero nonzero
  · intro trimmed
    have allZeros := List.rdropWhile_eq_nil_iff.mp trimmed
    exact notZero (by simpa using allZeros first (by simp))

/-- Behind the digits, dropping the trailing zeros leaves the fixed point text. -/
theorem place_drop_run (decimals : Nat) {digits : List Char} (shape : Digits digits)
    (nonzero : digits ≠ ['0']) (rest : List Char) :
    ∃ offset memory, (dropTrailingZeros (frontPart decimals digits).length
        ((frontPart decimals digits).length + (scannedPart decimals digits).length)).run
          (frontPart decimals digits ++ scannedPart decimals digits ++ '\x00' :: rest) =
        .ok offset memory ∧ cString memory = some (Decimal.fixedPoint decimals digits) := by
  have clean := nul_notMem_frontPart decimals shape.isDigits
  have scannedDigits := scannedPart_isDigit decimals shape.isDigits
  have kept := dropTrailingZeros_kept _ _ rest (frontPart_ne_nil decimals digits) clean
    scannedDigits
  by_cases short : digits.length ≤ decimals
  · have trimmed := shape.trimZeros_ne_nil nonzero
    have all : scannedPart decimals digits = digits := by rw [scannedPart, if_pos short]
    rw [all] at kept ⊢
    obtain ⟨offset, memory, run, text⟩ := kept (.inr trimmed)
    refine ⟨offset, memory, run, ?_⟩
    rw [text, Decimal.fixedPoint_short short trimmed, frontPart, if_pos short]
  · have long : decimals < digits.length := by omega
    have some_digits : scannedPart decimals digits = digits.drop (digits.length - decimals) := by
      rw [scannedPart, if_neg short]
    rw [Decimal.fixedPoint_long long, ← some_digits]
    by_cases trimmed : Decimal.trimZeros (scannedPart decimals digits) = []
    · rw [trimmed] at kept ⊢
      by_cases integer : decimals = 0
      · subst integer
        have nothing : scannedPart 0 digits = [] := by simp [some_digits]
        obtain ⟨offset, memory, run, text⟩ := kept (.inl nothing)
        refine ⟨offset, memory, run, ?_⟩
        rw [text, frontPart, if_neg short]
        simp [Decimal.pointed]
      · have front : frontPart decimals digits =
            digits.take (digits.length - decimals) ++ ['.'] := by
          rw [frontPart, if_neg short, if_pos integer]
        have some_digit : scannedPart decimals digits ≠ [] := by
          apply List.ne_nil_of_length_pos
          rw [some_digits, List.length_drop]
          omega
        rw [front] at clean ⊢
        have whole : '\x00' ∉ digits.take (digits.length - decimals) := fun member =>
          clean (List.mem_append_left _ member)
        obtain ⟨offset, memory, run, text⟩ :=
          dropTrailingZeros_point _ _ rest whole some_digit trimmed
        refine ⟨offset, memory, run, ?_⟩
        rw [text, Decimal.pointed, List.append_nil]
    · obtain ⟨offset, memory, run, text⟩ := kept (.inr trimmed)
      refine ⟨offset, memory, run, ?_⟩
      have integer : decimals ≠ 0 := by
        rintro rfl
        exact trimmed (by simp [some_digits, Decimal.trimZeros])
      rw [text, frontPart, if_neg short, if_pos integer, Decimal.pointed_of_ne_nil trimmed]
      simp

theorem isZeroText_eq (digits srcRest : List Char) (nonempty : digits ≠ []) :
    isZeroText (digits ++ srcRest) digits.length = pure (digits == ['0']) := by
  unfold isZeroText
  match digits with
  | [] => exact absurd rfl nonempty
  | [c] =>
    rw [List.length_singleton, if_pos rfl]
    simp only [List.singleton_append, List.getElem?_cons_zero, inside_some, map_pure]
    congr 1
    simp
  | c :: d :: digits =>
    rw [if_neg (by simp)]
    simp

/-- The text is written when there is room for it and nothing is stored when there is not. -/
theorem adjustDecimals_run (digits srcRest : List Char) (decimals : UInt8) (memory : List Char)
    (shape : Digits digits) :
    if 2 < memory.length ∧ (digits = ['0'] ∨ needed decimals.toNat digits < memory.length) then
      ∃ offset after, (adjustDecimals (digits ++ srcRest) digits.length decimals memory.length).run
          memory = .ok offset after ∧
        cString after = some (Decimal.fixedPoint decimals.toNat digits)
    else (adjustDecimals (digits ++ srcRest) digits.length decimals memory.length).run memory =
      .error (.thrown errInvalidData) memory := by
  have nonempty : digits ≠ [] := by
    rcases shape.leading with rfl | ⟨_, _, rfl, _⟩ <;> simp
  have zeroText := isZeroText_eq digits srcRest nonempty
  unfold adjustDecimals
  rw [zeroText]
  by_cases two : 2 < memory.length
  · rw [decide_eq_true two, validate_true, pure_bind, pure_bind]
    by_cases zero : digits = ['0']
    · subst zero
      rw [if_pos ⟨two, .inl rfl⟩]
      match memory, two with
      | first :: second :: memory, _ =>
        have text := cString_terminated (show '\x00' ∉ ['0'] by decide) memory
        exact ⟨1, '0' :: '\x00' :: memory, rfl, by rw [Decimal.fixedPoint_zero]; exact text⟩
    · have notZero : (digits == ['0']) = false := by simpa using zero
      have placed := placeDecimals_run digits srcRest decimals.toNat memory
      simp only [two, zero, false_or, true_and, notZero, Bool.false_eq_true, ↓reduceIte]
      by_cases enough : needed decimals.toNat digits < memory.length
      · rw [if_pos enough] at placed ⊢
        have fits := (parts_length decimals.toNat digits).trans enough
        obtain ⟨rest, done⟩ := place_run _ _ memory fits
        rw [done] at placed
        obtain ⟨offset, after, run, text⟩ := place_drop_run decimals.toNat shape zero rest
        exact ⟨offset, after, by rw [run_bind_ok placed]; exact run, text⟩
      · rw [if_neg enough] at placed ⊢
        rw [run_bind_error placed]
  · rw [if_neg (fun room => two room.1), decide_eq_false two, validate_false,
      run_bind_error (run_throw _ _)]

end FantomLedger
