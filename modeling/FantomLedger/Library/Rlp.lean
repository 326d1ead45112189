import Mathlib.Data.FinEnum
import Mathlib.Data.Nat.Digits.Lemmas
import Mathlib.Tactic.IntervalCases

/-! Recursive length prefix encoding: what a first byte announces, which byte strings
encode a string item, and the canonical encodings. -/

namespace FantomLedger.Library.Rlp

/-- Value of a byte string, most significant byte first. -/
def beNat (bytes : List UInt8) : Nat :=
  Nat.ofDigits 256 (bytes.reverse.map UInt8.toNat)

/-- The shortest byte string with a given value. -/
def beBytes (n : Nat) : List UInt8 :=
  ((Nat.digits 256 n).map UInt8.ofNat).reverse

theorem beNat_nil : beNat [] = 0 := rfl

theorem beNat_append (first second : List UInt8) :
    beNat (first ++ second) = beNat first * 256 ^ second.length + beNat second := by
  simp only [beNat, List.reverse_append, List.map_append, Nat.ofDigits_append,
    List.length_map, List.length_reverse]
  rw [Nat.mul_comm, Nat.add_comm]

theorem beNat_cons (byte : UInt8) (rest : List UInt8) :
    beNat (byte :: rest) = byte.toNat * 256 ^ rest.length + beNat rest := by
  simpa [beNat] using beNat_append [byte] rest

theorem beNat_lt (bytes : List UInt8) : beNat bytes < 256 ^ bytes.length := by
  have bound : ∀ digit ∈ bytes.reverse.map UInt8.toNat, digit < 256 := by
    intro digit member
    obtain ⟨byte, _, rfl⟩ := List.mem_map.mp member
    exact byte.toNat_lt
  simpa [beNat] using Nat.ofDigits_lt_base_pow_length (b := 256) (by decide) bound

theorem beNat_beBytes (n : Nat) : beNat (beBytes n) = n := by
  have same : (Nat.digits 256 n).map (UInt8.toNat ∘ UInt8.ofNat) = Nat.digits 256 n := by
    rw [List.map_congr_left (g := id), List.map_id]
    intro digit member
    have small : digit < 256 := Nat.digits_lt_base (by decide) member
    simp [Nat.mod_eq_of_lt small]
  simp only [beNat, beBytes, List.reverse_reverse, List.map_map, same, Nat.ofDigits_digits]

theorem beBytes_length_le (n width : Nat) (small : n < 256 ^ width) :
    (beBytes n).length ≤ width := by
  simpa [beBytes] using (Nat.digits_length_le_iff (by decide) n).mpr small

theorem beBytes_length_pos (n : Nat) (positive : 0 < n) : 0 < (beBytes n).length := by
  have nonzero : Nat.digits 256 n ≠ [] := Nat.digits_ne_nil_iff_ne_zero.mpr (by omega)
  simpa [beBytes, List.length_pos_iff] using nonzero

/-- What the first byte of an encoding announces. A single byte below 0x80 encodes
itself; a long form is followed by the bytes of the payload length. -/
inductive Form where
  | single
  | short (isList : Bool) (length : Nat)
  | long (isList : Bool) (width : Nat)
  deriving DecidableEq, Repr

def form (first : UInt8) : Form :=
  if first.toNat ≤ 0x7f then .single
  else if first.toNat ≤ 0xb7 then .short false (first.toNat - 0x80)
  else if first.toNat ≤ 0xbf then .long false (first.toNat - 0xb7)
  else if first.toNat ≤ 0xf7 then .short true (first.toNat - 0xc0)
  else .long true (first.toNat - 0xf7)

structure Header where
  isList : Bool
  length : Nat
  deriving DecidableEq, Repr

/-- Bytes that have to be read before the payload length is known. -/
def Form.size : Form → Nat
  | .long _ width => 1 + width
  | _ => 1

/-- The header announced by a first byte and the length bytes after it. -/
def Form.header : Form → List UInt8 → Header
  | .single, _ => ⟨false, 1⟩
  | .short isList length, _ => ⟨isList, length⟩
  | .long isList _, more => ⟨isList, beNat more⟩

theorem Form.size_pos (f : Form) : 0 < f.size := by
  cases f <;> simp only [size] <;> omega

/-- A payload length read from four or fewer length bytes fits 32 bits. -/
theorem header_length_lt (first : UInt8) (more : List UInt8) (narrow : more.length ≤ 4) :
    ((form first).header more).length < 2 ^ 32 := by
  have value := beNat_lt more
  have wide : 256 ^ more.length ≤ 256 ^ 4 := Nat.pow_le_pow_right (by decide) narrow
  have byte := first.toNat_lt
  cases kind : form first with
  | single => simp [Form.header]
  | short isList length =>
    simp only [Form.header]
    unfold form at kind
    split_ifs at kind <;> cases kind <;> omega
  | long isList width => simp only [Form.header]; omega

/-- A complete header other than a self-encoded byte, in at most `limit` bytes. -/
def IsHeader (limit : Nat) (bytes : List UInt8) (header : Header) : Prop :=
  ∃ first more, bytes = first :: more ∧ form first ≠ .single ∧
    more.length + 1 = (form first).size ∧ bytes.length ≤ limit ∧
    (form first).header more = header

/-- What a complete header announces is told by its bytes, and no header starts another one. -/
theorem IsHeader.unique {limit : Nat} {bytes other rest later : List UInt8} {header header' : Header}
    (first : IsHeader limit bytes header) (second : IsHeader limit other header')
    (same : bytes ++ rest = other ++ later) : bytes = other ∧ header = header' ∧ rest = later := by
  obtain ⟨byte, more, rfl, _, size, _, rfl⟩ := first
  obtain ⟨byte', more', rfl, _, size', _, rfl⟩ := second
  obtain ⟨rfl, tails⟩ := List.cons.inj same
  obtain ⟨rfl, rfl⟩ := List.append_inj tails (by omega)
  exact ⟨rfl, rfl, rfl⟩

/-- Byte strings that encode a string, in any header form of at most `limit` bytes. -/
inductive Item (limit : Nat) : List UInt8 → List UInt8 → Prop
  | single (byte : UInt8) (small : form byte = .single) : Item limit [byte] [byte]
  | framed (header content : List UInt8)
      (announces : IsHeader limit header ⟨false, content.length⟩) :
      Item limit (header ++ content) content

/-- No encoding starts another one, and each encodes one string. -/
theorem Item.unique {limit : Nat} {encoding other content content' rest later : List UInt8}
    (first : Item limit encoding content) (second : Item limit other content')
    (same : encoding ++ rest = other ++ later) : encoding = other ∧ content = content' ∧ rest = later := by
  cases first with
  | single byte small =>
    cases second with
    | single byte' small' =>
      obtain ⟨rfl, rfl⟩ := List.cons.inj same
      exact ⟨rfl, rfl, rfl⟩
    | framed header _ announces =>
      obtain ⟨byte', more, rfl, framed, _⟩ := announces
      obtain ⟨rfl, _⟩ := List.cons.inj same
      exact absurd small framed
  | framed header _ announces =>
    cases second with
    | single byte small =>
      obtain ⟨byte', more, rfl, framed, _⟩ := announces
      obtain ⟨rfl, _⟩ := List.cons.inj same
      exact absurd small framed
    | framed header' _ announces' =>
      rw [List.append_assoc, List.append_assoc] at same
      obtain ⟨rfl, lengths, tails⟩ := announces.unique announces' same
      obtain ⟨rfl, rfl⟩ := List.append_inj tails (congrArg Header.length lengths)
      exact ⟨rfl, rfl, rfl⟩

/-- Concatenated encodings of a list of strings. -/
inductive Items (limit : Nat) : List UInt8 → List (List UInt8) → Prop
  | nil : Items limit [] []
  | cons {encoding content rest : List UInt8} {contents : List (List UInt8)}
      (item : Item limit encoding content) (items : Items limit rest contents) :
      Items limit (encoding ++ rest) (content :: contents)

/-! ## Canonical encodings -/

/-- `base` is 0x80 for a string and 0xc0 for a list. -/
def lengthPrefix (base length : Nat) : List UInt8 :=
  if length ≤ 55 then [UInt8.ofNat (base + length)]
  else UInt8.ofNat (base + 55 + (beBytes length).length) :: beBytes length

def encodeString (content : List UInt8) : List UInt8 :=
  if content.length = 1 ∧ ∀ byte ∈ content, form byte = .single then content
  else lengthPrefix 0x80 content.length ++ content

def encodeList (payload : List UInt8) : List UInt8 :=
  lengthPrefix 0xc0 payload.length ++ payload

/-- The header byte for each kind of payload: strings from 0x80, lists from 0xc0. -/
def base (isList : Bool) : Nat := if isList then 0xc0 else 0x80

theorem form_short (isList : Bool) (length : Nat) (small : length ≤ 55) :
    form (UInt8.ofNat (base isList + length)) = .short isList length := by
  have value : (UInt8.ofNat (base isList + length)).toNat = base isList + length := by
    rw [UInt8.toNat_ofNat']
    apply Nat.mod_eq_of_lt
    cases isList <;> simp only [base, Bool.false_eq_true, ↓reduceIte] <;> omega
  unfold form
  rw [value]
  cases isList <;> simp only [base, Bool.false_eq_true, ↓reduceIte] <;>
    split_ifs <;> first | omega | (simp only [Form.short.injEq, true_and]; omega)

theorem form_long (isList : Bool) (width : Nat) (positive : 0 < width) (small : width ≤ 8) :
    form (UInt8.ofNat (base isList + 55 + width)) = .long isList width := by
  have value : (UInt8.ofNat (base isList + 55 + width)).toNat = base isList + 55 + width := by
    rw [UInt8.toNat_ofNat']
    apply Nat.mod_eq_of_lt
    cases isList <;> simp only [base, Bool.false_eq_true, ↓reduceIte] <;> omega
  unfold form
  rw [value]
  cases isList <;> simp only [base, Bool.false_eq_true, ↓reduceIte] <;>
    split_ifs <;> first | omega | (simp only [Form.long.injEq, true_and]; omega)

theorem isHeader_lengthPrefix (isList : Bool) (length width : Nat) (fits : length < 256 ^ width)
    (narrow : width ≤ 8) (nonempty : 0 < width) :
    IsHeader (1 + width) (lengthPrefix (base isList) length) ⟨isList, length⟩ := by
  unfold lengthPrefix
  by_cases small : length ≤ 55
  · rw [if_pos small]
    refine ⟨_, [], rfl, ?_⟩
    rw [form_short isList length small]
    simp [Form.size, Form.header]
  · have count := beBytes_length_le length width fits
    have positive := beBytes_length_pos length (by omega)
    rw [if_neg small]
    refine ⟨_, _, rfl, ?_⟩
    rw [form_long isList _ positive (by omega)]
    refine ⟨by simp, by simp only [Form.size]; omega, ?_, ?_⟩
    · simp only [List.length_cons]
      omega
    · simp [Form.header, beNat_beBytes]

theorem item_encodeString (content : List UInt8) (fits : content.length < 256 ^ 4) :
    Item 5 (encodeString content) content := by
  unfold encodeString
  split_ifs with self
  · obtain ⟨byte, rfl⟩ := List.length_eq_one_iff.mp self.1
    exact Item.single byte (self.2 byte (by simp))
  · exact Item.framed _ _ (isHeader_lengthPrefix false content.length 4 fits (by decide) (by decide))

theorem encodeString_length_le (content : List UInt8) :
    content.length ≤ (encodeString content).length := by
  unfold encodeString
  split_ifs <;> simp

end FantomLedger.Library.Rlp
