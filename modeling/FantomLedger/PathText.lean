import FantomLedger.Policy

/-! The text of a derivation path, and the buffers it is written to. -/

namespace FantomLedger

open Library.Program TextBuffer

def Bip44Path.text (path : Bip44Path) : List Char := (path.indexes.map indexText).flatten

theorem indexText_length (value : UInt32) : (indexText value).length ≤ 12 := by
  have digits (number : UInt32) : (digitText 10 number.toNat).length ≤ 10 :=
    (digitText_length_le number.toNat (by decide)).mpr (number.toNat_lt.trans (by decide))
  have marked := digits (value &&& ~~~hardenedBip32)
  have plain := digits value
  unfold indexText
  split_ifs
  · simp only [List.cons_append, List.length_cons, List.length_append, List.length_nil]
    omega
  · simp only [List.length_cons]
    omega

theorem nul_notMem_digitText (number : Nat) : '\x00' ∉ digitText 10 number := by
  intro member
  have digit := (isNumeral_digitText (show 2 ≤ 10 by decide) (by decide) number).digits _ member
  exact absurd digit (by decide)

theorem nul_notMem_indexText (value : UInt32) : '\x00' ∉ indexText value := by
  unfold indexText
  split_ifs
  · simp [nul_notMem_digitText]
  · simp [nul_notMem_digitText]

theorem nul_notMem_text (path : Bip44Path) : '\x00' ∉ path.text := by
  intro member
  obtain ⟨component, listed, inside⟩ := List.mem_flatten.mp member
  obtain ⟨value, _, rfl⟩ := List.mem_map.mp listed
  exact nul_notMem_indexText value inside

/-- As much of the text as fits is stored, and the terminator behind it. -/
theorem snprintf_truncates (before text room : List Char) (positive : 0 < room.length) :
    (snprintf before.length room.length text).run (before ++ room) =
      .ok () (before ++ text.take (room.length - 1) ++
        '\x00' :: room.drop ((text.take (room.length - 1)).length + 1)) := by
  have shorter : (text.take (room.length - 1)).length ≤ room.length - 1 := List.length_take_le _ _
  rw [snprintf, if_pos positive]
  generalize text.take (room.length - 1) = kept at shorter ⊢
  have taken : (room.take (kept.length + 1)).length = (kept ++ ['\x00']).length := by
    rw [List.length_take, List.length_append, List.length_singleton]
    omega
  have stored := storeAll_run before (kept ++ ['\x00']) (room.take (kept.length + 1))
    (room.drop (kept.length + 1)) taken
  rw [List.append_assoc, List.take_append_drop] at stored
  rw [run_bind_ok stored]
  simp

theorem snprintf_run (before text room : List Char) (fits : text.length < room.length) :
    (snprintf before.length room.length text).run (before ++ room) =
      .ok () (before ++ text ++ '\x00' :: room.drop (text.length + 1)) := by
  have whole : text.take (room.length - 1) = text := List.take_of_length_le (by omega)
  have truncated := snprintf_truncates before text room (by omega)
  rwa [whole] at truncated

theorem strlen_run (before text rest : List Char) (clean : '\x00' ∉ text) :
    (strlen before.length).run (before ++ text ++ '\x00' :: rest) =
      .ok text.length (before ++ text ++ '\x00' :: rest) := by
  have got : (get : TextCode (List Char)).run (before ++ text ++ '\x00' :: rest) =
      .ok (before ++ text ++ '\x00' :: rest) (before ++ text ++ '\x00' :: rest) := rfl
  rw [strlen, run_bind_ok got, List.append_assoc, List.drop_left, cString_terminated clean]
  rfl

theorem writeText_run (before text room : List Char) (clean : '\x00' ∉ text)
    (fits : text.length + 1 < room.length) :
    (writeText before.length (before ++ room).length text).run (before ++ room) =
      .ok (before.length + text.length) (before ++ text ++ '\x00' :: room.drop (text.length + 1)) := by
  have size : (before ++ room).length = before.length + room.length := List.length_append
  have left : before.length + room.length - before.length = room.length := by omega
  have printed := snprintf_run before text room (by omega)
  have measured := strlen_run before text (room.drop (text.length + 1)) clean
  rw [writeText, size, decide_eq_true (by omega : before.length ≤ before.length + room.length),
    assertThat_true, pure_bind, left, run_bind_ok printed, run_bind_ok measured,
    decide_eq_true fits, assertThat_true, pure_bind]
  rfl

/-- Behind the texts written so far the terminator stands, and the rest is as it was. -/
theorem writeIndexes_run (indexes : List UInt32) (before room : List Char)
    (fits : (indexes.map indexText).flatten.length + 1 < room.length) :
    (writeIndexes (before ++ room).length indexes before.length).run (before ++ room) =
      .ok (before.length + (indexes.map indexText).flatten.length)
        (before ++ (indexes.map indexText).flatten ++
          if indexes = [] then room
          else '\x00' :: room.drop ((indexes.map indexText).flatten.length + 1)) := by
  induction indexes generalizing before room with
  | nil => simp [writeIndexes]
  | cons value indexes ih =>
    simp only [List.map_cons, List.flatten_cons, List.length_append] at fits
    have written := writeText_run before (indexText value) room (nul_notMem_indexText value)
      (by omega)
    have later := ih (before ++ indexText value) ('\x00' :: room.drop ((indexText value).length + 1))
      (by rw [List.length_cons, List.length_drop]; omega)
    have sizes : (before ++ indexText value ++ '\x00' :: room.drop ((indexText value).length + 1)).length =
        (before ++ room).length := by
      simp only [List.length_append, List.length_cons, List.length_drop]
      omega
    have place : (before ++ indexText value).length = before.length + (indexText value).length :=
      List.length_append
    rw [sizes, place] at later
    rw [writeIndexes, run_bind_ok written, later, if_neg (List.cons_ne_nil _ _)]
    simp only [List.map_cons, List.flatten_cons, List.length_append, List.append_assoc,
      Nat.add_assoc]
    by_cases last : indexes = []
    · simp [last]
    · rw [if_neg last, List.drop_succ_cons, List.drop_drop]
      have depth : (indexText value).length + 1 + (indexes.map indexText).flatten.length =
          (indexText value).length + ((indexes.map indexText).flatten.length + 1) := by omega
      rw [depth]

theorem indexes_of_prefix {path : Bip44Path} (valid : bip44HasValidFantomPrefix path = true) :
    ∃ rest, path.indexes = (bip44 ||| hardenedBip32) :: (fantomCoinType ||| hardenedBip32) :: rest := by
  obtain ⟨rest, shape⟩ := path.prefix_iff.mp valid
  have purpose : (bip44 ||| hardenedBip32).toNat = hardened 44 := by decide
  have coin : (fantomCoinType ||| hardenedBip32).toNat = hardened 60 := by decide
  rw [Bip44Path.numbers, ← purpose, ← coin] at shape
  rcases indexes : path.indexes with _ | ⟨first, _ | ⟨second, later⟩⟩
  · simp [indexes] at shape
  · simp [indexes] at shape
  · rw [indexes] at shape
    simp only [List.cons_append, List.map_cons, List.cons.injEq, UInt32.toNat_inj] at shape
    exact ⟨later, by rw [← shape.1, ← shape.2.1]⟩

/-- At most nine indexes under 44'/60' take no more than 92 characters. -/
theorem text_length_le {path : Bip44Path} (valid : bip44HasValidFantomPrefix path = true)
    (nine : path.length ≤ 9) : path.text.length ≤ 92 := by
  obtain ⟨rest, shape⟩ := indexes_of_prefix valid
  have size : path.indexes.length = path.length := by
    have numbers := path.numbers_length
    rwa [Bip44Path.numbers, List.length_map] at numbers
  have purpose : (indexText (bip44 ||| hardenedBip32)).length = 4 := by decide
  have coin : (indexText (fantomCoinType ||| hardenedBip32)).length = 4 := by decide
  have others (indexes : List UInt32) :
      (indexes.map indexText).flatten.length ≤ 12 * indexes.length := by
    induction indexes with
    | nil => simp
    | cons value indexes ih =>
      have one := indexText_length value
      simp only [List.map_cons, List.flatten_cons, List.length_append, List.length_cons]
      omega
  have bound := others rest
  rw [shape] at size
  simp only [List.length_cons] at size
  rw [Bip44Path.text, shape]
  simp only [List.map_cons, List.flatten_cons, List.length_append]
  omega

/-- With room for 100 characters the text of an accepted path of at most nine indexes is written. -/
theorem bip44PathToStr_run {path : Bip44Path} (valid : bip44HasValidFantomPrefix path = true)
    (nine : path.length ≤ 9) (out : List Char) (room : 100 ≤ out.length)
    (small : out.length < maxBufferSize) :
    (bip44PathToStr path out.length).run out =
      .ok () (path.text ++ '\x00' :: out.drop (path.text.length + 1)) := by
  have short := text_length_le valid nine
  obtain ⟨rest, shape⟩ := indexes_of_prefix valid
  have written := writeIndexes_run path.indexes [] out
    (show path.text.length + 1 < out.length by omega)
  rw [if_neg (by rw [shape]; exact List.cons_ne_nil _ _)] at written
  simp only [List.nil_append, List.length_nil, Nat.zero_add] at written
  have positive : 0 < out.length := by omega
  have fewer : path.length < bip32MaxPathLength := Nat.lt_succ_of_le nine
  have inside : (path.indexes.map indexText).flatten.length < out.length := by
    show path.text.length < out.length
    omega
  rw [bip44PathToStr, decide_eq_true small, decide_eq_true positive, decide_eq_true fewer]
  simp only [assertThat_true, pure_bind]
  rw [run_bind_ok written, decide_eq_true inside]
  rfl

/-- Whatever the size of the array, a text that is written under 44'/60' is that of the path. -/
theorem text_of_written {path : Bip44Path} (valid : bip44HasValidFantomPrefix path = true)
    {out memory : List Char} {result : Unit} (room : 100 ≤ out.length) (small : out.length < maxBufferSize)
    (run : (bip44PathToStr path out.length).run out = .ok result memory) :
    path.length ≤ 9 ∧ cString memory = some path.text := by
  have nine : path.length ≤ 9 := by
    by_contra long
    have full : ¬path.length < bip32MaxPathLength := by
      rw [bip32MaxPathLength]
      omega
    rw [bip44PathToStr, decide_eq_true small, decide_eq_true (show 0 < out.length by omega),
      decide_eq_false full] at run
    cases run
  have written := bip44PathToStr_run valid nine out room small
  rw [run] at written
  cases written
  exact ⟨nine, cString_terminated (nul_notMem_text path) _⟩

section Signed

/-- The conversion %d. -/
def signedText (number : Int32) : List Char :=
  if number < 0 then '-' :: digitText 10 number.toInt.natAbs else digitText 10 number.toInt.toNat

theorem signedText_of_lt {value : UInt32} (small : value.toNat < 2 ^ 31) :
    signedText value.toInt32 = digitText 10 value.toNat := by
  have number : value.toInt32.toInt = value.toNat := by
    rw [← Int32.toInt_toBitVec, UInt32.toBitVec_toInt32, BitVec.toInt_eq_toNat_of_lt]
    · rw [UInt32.toNat_toBitVec]
    · rw [UInt32.toNat_toBitVec]
      omega
  have nonneg : ¬value.toInt32 < 0 := by
    rw [Int32.lt_iff_toInt_lt, number]
    exact Int.not_lt.mpr (Int.natCast_nonneg _)
  rw [signedText, if_neg nonneg, number, Int.toNat_natCast]

theorem lt_of_unmarked {value : UInt32} (plain : ¬value &&& hardenedBip32 = hardenedBip32) :
    value.toNat < 2 ^ 31 := by
  by_contra large
  apply plain
  have hardened := (isHardened_iff value).mpr (Nat.le_of_not_lt large)
  rw [bip44IsHardened, beq_iff_eq] at hardened
  calc value &&& hardenedBip32
      = (value ||| hardenedBip32) &&& hardenedBip32 := by rw [← hardened]
    _ = hardenedBip32 := by
      apply UInt32.toBitVec_inj.mp
      ext bit
      simp only [UInt32.toBitVec_and, UInt32.toBitVec_or, BitVec.getElem_and, BitVec.getElem_or]
      exact Bool.and_eq_right_iff_imp.mpr fun set => by simp [set]

/-- The signed format never meets a negative number: the mask leaves 31 bits, and so does the
test for the hardened bit. -/
theorem indexText_signed (value : UInt32) :
    indexText value =
      if value &&& hardenedBip32 = hardenedBip32 then
        '/' :: signedText (value &&& ~~~hardenedBip32).toInt32 ++ ['\x27']
      else '/' :: signedText value.toInt32 := by
  have masked : (value &&& ~~~hardenedBip32).toNat < 2 ^ 31 := by
    rw [unhardened_toNat]
    exact Nat.mod_lt _ (by decide)
  unfold indexText
  split_ifs with hardened
  · rw [signedText_of_lt masked]
  · rw [signedText_of_lt (lt_of_unmarked hardened)]

end Signed

section Reading

/-- The number that a component stands for, the apostrophe of a hardened one behind it. -/
def readIndex (component : List Char) : UInt32 :=
  if component.getLast? = some '\x27' then
    UInt32.ofNat (readBack 10 component.dropLast) ||| hardenedBip32
  else
    UInt32.ofNat (readBack 10 component)

/-- The indexes of a text: what stands behind each slash. -/
def readPath (text : List Char) : List UInt32 := (text.splitOn '/').tail.map readIndex

theorem slash_notMem_indexText (value : UInt32) : '/' ∉ (indexText value).tail := by
  have digits (number : Nat) : '/' ∉ digitText 10 number := by
    intro member
    have digit := (isNumeral_digitText (show 2 ≤ 10 by decide) (by decide) number).digits _ member
    exact absurd digit (by decide)
  unfold indexText
  split_ifs
  · simp [digits]
  · simp [digits]

theorem indexText_eq_cons (value : UInt32) : indexText value = '/' :: (indexText value).tail := by
  unfold indexText
  split_ifs <;> rfl

/-- Setting the bit again undoes the masking of a hardened value. -/
theorem unmark_mark {value : UInt32} (hardened : value &&& hardenedBip32 = hardenedBip32) :
    (value &&& ~~~hardenedBip32) ||| hardenedBip32 = value := by
  calc (value &&& ~~~hardenedBip32) ||| hardenedBip32
      = (value &&& ~~~hardenedBip32) ||| (value &&& hardenedBip32) := by rw [hardened]
    _ = value &&& (~~~hardenedBip32 ||| hardenedBip32) := UInt32.toBitVec_inj.mp BitVec.and_or_distrib_left.symm
    _ = value := by
      rw [show ~~~hardenedBip32 ||| hardenedBip32 = -1 from by decide, UInt32.and_neg_one]

theorem readIndex_indexText (value : UInt32) : readIndex (indexText value).tail = value := by
  have read (number : UInt32) : UInt32.ofNat (readBack 10 (digitText 10 number.toNat)) = number := by
    rw [readBack_digitText (by decide) (by decide), UInt32.ofNat_toNat]
  unfold indexText
  split_ifs with hardened
  · rw [List.cons_append, List.tail_cons, readIndex, if_pos List.getLast?_concat,
      List.dropLast_concat, read, unmark_mark hardened]
  · have unmarked : (digitText 10 value.toNat).getLast? ≠ some '\x27' := by
      intro last
      have digit := (isNumeral_digitText (show 2 ≤ 10 by decide) (by decide) value.toNat).digits _
        (List.mem_of_getLast? last)
      exact absurd digit (by decide)
    rw [List.tail_cons, readIndex, if_neg unmarked, read]

theorem splitOn_text (indexes : List UInt32) (front : List Char) (clean : '/' ∉ front) :
    (front ++ (indexes.map indexText).flatten).splitOn '/' =
      front :: indexes.map fun value => (indexText value).tail := by
  induction indexes generalizing front with
  | nil => simpa using List.splitOn_eq_singleton clean
  | cons value indexes ih =>
    have later := ih (indexText value).tail (slash_notMem_indexText value)
    rw [List.map_cons, List.flatten_cons, indexText_eq_cons, List.cons_append,
      List.splitOn_append_cons_self_of_not_mem clean, later, List.map_cons]

theorem readPath_text (path : Bip44Path) : readPath path.text = path.indexes := by
  have split := splitOn_text path.indexes [] List.not_mem_nil
  rw [List.nil_append] at split
  rw [readPath, Bip44Path.text, split, List.tail_cons, List.map_map]
  exact List.map_id'' readIndex_indexText _

end Reading

end FantomLedger
