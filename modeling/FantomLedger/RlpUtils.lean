import FantomLedger.Errors
import FantomLedger.Library.Rlp

/-! Length headers of the stream: when the bytes read so far are a complete header, and
what a complete header says. -/

namespace FantomLedger

open Library

def rlpLengthBufferSize : Nat := 5

abbrev RlpBuffer := Vector UInt8 rlpLengthBufferSize

def RlpBuffer.first (buffer : RlpBuffer) : UInt8 :=
  have inRange : 0 < rlpLengthBufferSize := by decide
  buffer[0]

variable {σ : Type}

/-- The value is none while the header is incomplete, and else what is stored to `isValid`. -/
def rlpCanDecode (buffer : RlpBuffer) (length : Nat) : EStateM Exc σ (Option Bool) := do
  validate (0 < length) errInvalidData
  validate (length < maxBufferSize) errInvalidData
  let first := buffer.first.toNat
  if 0xb8 ≤ first ∧ first ≤ 0xbf ∧ length < 1 + (first - 0xb7) then
    return none
  if 0xb8 ≤ first ∧ first ≤ 0xbf ∧ 0xbb < first then
    return some false
  if 0xf8 ≤ first ∧ length < 1 + (first - 0xf7) then
    return none
  if 0xf8 ≤ first ∧ 0xfb < first then
    return some false
  return some true

structure RlpLength where
  fieldLength : Nat
  offset : Nat
  isList : Bool
  deriving DecidableEq, Repr

/-- The length bytes after the first byte of a long form, one case for each width. -/
def rlpReadLength (buffer : RlpBuffer) (bufferLength : Nat) :
    Nat → EStateM Exc σ (Option Nat)
  | 1 => do
    validate (1 < bufferLength) errInvalidData
    return some buffer[1].toNat
  | 2 => do
    validate (2 < bufferLength) errInvalidData
    return some (u32 (buffer[1].toNat <<< 8 + buffer[2].toNat))
  | 3 => do
    validate (3 < bufferLength) errInvalidData
    return some (u32 (buffer[1].toNat <<< 16 + buffer[2].toNat <<< 8 + buffer[3].toNat))
  | 4 => do
    validate (4 < bufferLength) errInvalidData
    return some (u32 (buffer[1].toNat <<< 24 + buffer[2].toNat <<< 16 +
      buffer[3].toNat <<< 8 + buffer[4].toNat))
  | _ => return none

/-- None where the source returns false. -/
def rlpDecodeLength (buffer : RlpBuffer) (bufferLength : Nat) :
    EStateM Exc σ (Option RlpLength) := do
  validate (0 < bufferLength) errInvalidData
  let first := buffer.first.toNat
  if first ≤ 0x7f then
    return some ⟨1, 0, false⟩
  else if first ≤ 0xb7 then
    return some ⟨first - 0x80, 1, false⟩
  else if first ≤ 0xbf then
    match ← rlpReadLength buffer bufferLength (first - 0xb7) with
    | some fieldLength => return some ⟨fieldLength, 1 + (first - 0xb7), false⟩
    | none => return none
  else if first ≤ 0xf7 then
    return some ⟨first - 0xc0, 1, true⟩
  else
    match ← rlpReadLength buffer bufferLength (first - 0xf7) with
    | some fieldLength => return some ⟨fieldLength, 1 + (first - 0xf7), true⟩
    | none => return none

/-- The detection accepts exactly the complete headers, and within the buffer it never
meets a length of more than four bytes. -/
theorem rlpCanDecode_run (buffer : RlpBuffer) (length : Nat) (state : σ) (positive : 0 < length)
    (small : length ≤ rlpLengthBufferSize) :
    (rlpCanDecode buffer length).run state =
      .ok (if length < (Rlp.form buffer.first).size then none else some true) state := by
  have five : length ≤ 5 := small
  have below : length < maxBufferSize := by simp only [maxBufferSize]; omega
  have byte := buffer.first.toNat_lt
  simp only [rlpCanDecode, positive, below, decide_true, validate_true, pure_bind]
  unfold Rlp.form
  generalize buffer.first.toNat = first at *
  split_ifs <;> simp only [Rlp.Form.size] at * <;> first | rfl | omega

theorem rlpReadLength_run (buffer : RlpBuffer) (length width : Nat) (state : σ)
    (complete : length = 1 + width) (positive : 0 < width) (small : length ≤ rlpLengthBufferSize) :
    (rlpReadLength buffer length width).run state =
      .ok (some (Rlp.beNat ((buffer.toList.take length).tail))) state := by
  subst complete
  have four : width ≤ 4 := by simp only [rlpLengthBufferSize] at small; omega
  obtain ⟨array, size⟩ := buffer
  obtain ⟨items⟩ := array
  match items, size with
  | [b0, b1, b2, b3, b4], _ =>
    have h1 := b1.toNat_lt
    have h2 := b2.toNat_lt
    have h3 := b3.toNat_lt
    have h4 := b4.toNat_lt
    interval_cases width <;>
      simp [rlpReadLength, Rlp.beNat_cons, Rlp.beNat_nil, Nat.shiftLeft_eq, u32] <;> omega

/-- A complete header decodes to what its form says. -/
theorem rlpDecodeLength_run (buffer : RlpBuffer) (length : Nat) (state : σ)
    (complete : length = (Rlp.form buffer.first).size) (small : length ≤ rlpLengthBufferSize) :
    (rlpDecodeLength buffer length).run state =
      .ok (some ⟨((Rlp.form buffer.first).header (buffer.toList.take length).tail).length,
        if Rlp.form buffer.first = .single then 0 else length,
        ((Rlp.form buffer.first).header (buffer.toList.take length).tail).isList⟩) state := by
  have positive : 0 < length := by have := (Rlp.form buffer.first).size_pos; omega
  have read (width : Nat) (long : length = 1 + width) (some : 0 < width) :=
    rlpReadLength_run buffer length width state long some small
  simp only [rlpDecodeLength, positive, decide_true, validate_true, pure_bind]
  unfold Rlp.form at *
  generalize buffer.first.toNat = first at *
  by_cases single : first ≤ 0x7f
  · simp only [single, ↓reduceIte] at *
    rfl
  by_cases short : first ≤ 0xb7
  · simp only [single, short, ↓reduceIte] at *
    subst complete
    rfl
  by_cases long : first ≤ 0xbf
  · have width : 0 < first - 0xb7 := by omega
    simp only [single, short, long, ↓reduceIte, Rlp.Form.size, Rlp.Form.header] at *
    rw [EStateM.run_bind, read (first - 0xb7) complete width]
    simp only [complete, reduceCtorEq, ↓reduceIte]
    rfl
  by_cases shortList : first ≤ 0xf7
  · simp only [single, short, long, shortList, ↓reduceIte] at *
    subst complete
    rfl
  · have width : 0 < first - 0xf7 := by omega
    simp only [single, short, long, shortList, ↓reduceIte, Rlp.Form.size, Rlp.Form.header] at *
    rw [EStateM.run_bind, read (first - 0xf7) complete width]
    simp only [complete, reduceCtorEq, ↓reduceIte]
    rfl

section Agreement

/-- The buffer once these bytes were stored to it, over what it held before. -/
def RlpBuffer.holding (stale : RlpBuffer) (bytes : List UInt8) : RlpBuffer :=
  Vector.ofFn fun i => bytes.getD i.val stale[i]

theorem RlpBuffer.take_holding (stale : RlpBuffer) {bytes : List UInt8}
    (small : bytes.length ≤ rlpLengthBufferSize) :
    (stale.holding bytes).toList.take bytes.length = bytes := by
  apply List.ext_getElem
  · rw [List.length_take, Vector.length_toList]
    exact Nat.min_eq_left small
  · intro i _ inBytes
    simp [holding, List.getD_eq_getElem?_getD, inBytes]

theorem RlpBuffer.first_of_take {buffer : RlpBuffer} {length : Nat} {first : UInt8}
    {more : List UInt8} (held : buffer.toList.take length = first :: more) : buffer.first = first := by
  have head := congrArg List.head? held
  have positive : length ≠ 0 := by
    rintro rfl
    cases held
  rw [List.head?_take, if_neg positive, List.head?_cons] at head
  obtain ⟨array, size⟩ := buffer
  obtain ⟨items⟩ := array
  match items, size with
  | [b0, b1, b2, b3, b4], _ => exact Option.some.inj head

/-- The detection takes the bytes fed so far for a complete and valid header. -/
def CanDecode (stale : RlpBuffer) (bytes : List UInt8) (length : Nat) : Prop :=
  (rlpCanDecode (stale.holding (bytes.take length)) length : EStateM Exc Unit _).run () =
    .ok (some true) ()

/-- The first of at most five lengths at which the detection does so. -/
structure DetectedAt (stale : RlpBuffer) (bytes : List UInt8) (length : Nat) : Prop where
  positive : 0 < length
  small : length ≤ rlpLengthBufferSize
  fed : length ≤ bytes.length
  decodes : CanDecode stale bytes length
  first : ∀ shorter, 0 < shorter → shorter < length → ¬CanDecode stale bytes shorter

theorem canDecode_iff {stale : RlpBuffer} {first : UInt8} {more : List UInt8} {length : Nat}
    (positive : 0 < length) (small : length ≤ rlpLengthBufferSize)
    (fed : length ≤ (first :: more).length) :
    CanDecode stale (first :: more) length ↔ (Rlp.form first).size ≤ length := by
  have size : ((first :: more).take length).length = length := by
    rw [List.length_take]
    exact Nat.min_eq_left fed
  have held := stale.take_holding (show ((first :: more).take length).length ≤ _ by rw [size]; exact small)
  obtain ⟨shorter, rfl⟩ := Nat.exists_eq_add_of_lt positive
  rw [size, Nat.zero_add, List.take_succ_cons] at held
  have head := RlpBuffer.first_of_take held
  rw [CanDecode, rlpCanDecode_run _ _ () positive small, Nat.zero_add, List.take_succ_cons, head]
  split_ifs with short
  · simp only [EStateM.Result.ok.injEq, reduceCtorEq, false_and, false_iff]
    omega
  · simp only [true_iff]
    omega

/-- The header that is detected is as long as its form says. -/
theorem DetectedAt.length_eq {stale : RlpBuffer} {first : UInt8} {more : List UInt8} {length : Nat}
    (detected : DetectedAt stale (first :: more) length) : length = (Rlp.form first).size := by
  have reached := (canDecode_iff detected.positive detected.small detected.fed).mp detected.decodes
  by_contra longer
  have positive := (Rlp.form first).size_pos
  have fed := detected.fed
  have small := detected.small
  apply detected.first _ positive (by omega)
  exact (canDecode_iff positive (by omega) (by omega)).mpr (Nat.le_refl _)

/-- What a header says, from its bytes. -/
def announced (header : List UInt8) : RlpLength where
  fieldLength := ((Rlp.form (header.headD 0)).header header.tail).length
  offset := if (header.headD 0).toNat < 0x80 then 0 else header.length
  isList := 0xc0 ≤ (header.headD 0).toNat

theorem form_single_iff (first : UInt8) : Rlp.form first = .single ↔ first.toNat < 0x80 := by
  unfold Rlp.form
  split_ifs <;> simp <;> omega

theorem header_isList (first : UInt8) (more : List UInt8) :
    ((Rlp.form first).header more).isList = decide (0xc0 ≤ first.toNat) := by
  unfold Rlp.form
  split_ifs <;> simp only [Rlp.Form.header] <;> symm <;> simp <;> omega

/-- Where the detection stops, the decoding goes on from the same bytes: it reads no others, and
the header that it finds ends with them. A header that announces more than four length bytes is
never detected. -/
theorem header_routines_agree (stale : RlpBuffer) (bytes : List UInt8) :
    (∀ length, DetectedAt stale bytes length →
      (∀ buffer : RlpBuffer, buffer.toList.take length = bytes.take length →
        (rlpDecodeLength buffer length : EStateM Exc Unit _).run () =
          .ok (some (announced (bytes.take length))) ()) ∧
      ((bytes.headD 0).toNat < 0x80 → length = 1)) ∧
    ∀ isList width, Rlp.form (bytes.headD 0) = .long isList width → 4 < width →
      ∀ length, ¬DetectedAt stale bytes length := by
  rcases bytes with _ | ⟨first, more⟩
  · have unfed (length : Nat) : ¬DetectedAt stale [] length := by
      intro detected
      exact absurd (Nat.lt_of_lt_of_le detected.positive detected.fed) (Nat.lt_irrefl 0)
    exact ⟨fun length detected => absurd detected (unfed length), fun _ _ _ _ => unfed⟩
  refine ⟨?_, ?_⟩
  · intro length detected
    have size := detected.length_eq
    obtain ⟨shorter, rfl⟩ := Nat.exists_eq_add_of_lt detected.positive
    rw [Nat.zero_add] at detected size ⊢
    refine ⟨?_, ?_⟩
    · intro buffer held
      rw [List.take_succ_cons] at held ⊢
      have head := RlpBuffer.first_of_take held
      have decoded := rlpDecodeLength_run buffer (shorter + 1) () (by rw [head]; exact size)
        detected.small
      have whole : (first :: more.take shorter).length = shorter + 1 := by
        have fed := detected.fed
        rw [List.length_cons] at fed
        rw [List.length_cons, List.length_take]
        omega
      rw [decoded, held, head, announced, whole, List.headD_cons, List.tail_cons, header_isList]
      simp only [form_single_iff]
    · intro small
      rw [List.headD_cons] at small
      rw [size, (form_single_iff first).mpr small]
      rfl
  · intro isList width long wide length detected
    have size := detected.length_eq
    have small := detected.small
    rw [List.headD_cons] at long
    rw [long, Rlp.Form.size] at size
    rw [rlpLengthBufferSize] at small
    omega

/-- A string of 256 bytes is announced by three bytes. -/
theorem long_header_agrees :
    (∀ buffer : RlpBuffer, buffer.toList.take 3 = [0xb9, 1, 0] →
        (rlpDecodeLength buffer 3 : EStateM Exc Unit _).run () =
          .ok (some (announced [0xb9, 1, 0])) ()) ∧
      announced [0xb9, 1, 0] = ⟨256, 3, false⟩ := by
  have detected : DetectedAt (Vector.replicate _ 0) [0xb9, 1, 0] 3 := by
    refine ⟨by decide, by decide, by decide, by unfold CanDecode; rfl, ?_⟩
    intro shorter positive below
    rw [canDecode_iff positive (by rw [rlpLengthBufferSize]; omega) (by simp; omega)]
    have size : (Rlp.form 0xb9).size = 3 := by decide
    omega
  exact ⟨((header_routines_agree _ [0xb9, 1, 0]).1 3 detected).1, by decide +kernel⟩

end Agreement

end FantomLedger
