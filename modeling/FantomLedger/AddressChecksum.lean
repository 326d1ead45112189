import FantomLedger.AddressText

/-! The text of an address, character by character, and the two loops that write it. -/

namespace FantomLedger

open Library Library.Program TextBuffer

/-- The value of the k-th nibble, the upper half of a byte before the lower. -/
def nibbleAt (bytes : List UInt8) (k : Nat) : Nat :=
  let byte := (bytes.getD (k / 2) 0).toNat
  if k % 2 = 0 then byte / 16 else byte % 16

/-- The lower-case characters of the nibbles. -/
def lowerHex (bytes : List UInt8) : List UInt8 :=
  (List.range (2 * bytes.length)).map fun k => UInt8.ofNat (Nat.digitChar (nibbleAt bytes k)).toNat

/-- The bytes of a text after its prefix, whatever the case of its letters. -/
def readAddress (text : List Char) : List UInt8 :=
  (List.range rawAddressSize).map fun i =>
    UInt8.ofNat (16 * caselessValue (text.getD (2 * i + 2) '0') + caselessValue (text.getD (2 * i + 3) '0'))

/-- The characters are those of the nibbles; a letter is upper case where the hash of the lower-case
characters has a nibble of at least 8. -/
structure ChecksumText (hash : List UInt8 → Vector UInt8 32) (address : List UInt8)
    (text : List Char) : Prop where
  length : text.length = 2 + 2 * address.length
  start : text.take 2 = ['0', 'x']
  digit : ∀ k < 2 * address.length, ∃ c, text[k + 2]? = some c ∧
    c.toLower = Nat.digitChar (nibbleAt address k) ∧
    (c.isUpper ↔ c.isAlpha ∧ 8 ≤ nibbleAt (hash (lowerHex address)).toList k)

theorem nibbleAt_lt (bytes : List UInt8) (k : Nat) : nibbleAt bytes k < 16 := by
  have small := (bytes.getD (k / 2) 0).toNat_lt
  unfold nibbleAt
  dsimp only
  split_ifs <;> omega

theorem nibbleAt_cons (byte : UInt8) (bytes : List UInt8) (k : Nat) :
    nibbleAt (byte :: bytes) (k + 2) = nibbleAt bytes k := by
  have half : (k + 2) / 2 = k / 2 + 1 := by omega
  rw [nibbleAt, half, Nat.add_mod_right, List.getD_cons_succ, nibbleAt]

theorem nibbles_getElem? {bytes : List UInt8} {k : Nat} (inside : k < 2 * bytes.length) :
    (nibbles bytes)[k]? = some (UInt8.ofNat (nibbleAt bytes k)) := by
  induction bytes generalizing k with
  | nil => exact absurd inside (Nat.not_lt_zero _)
  | cons byte bytes ih =>
    have unfolded : nibbles (byte :: bytes) = ((byte >>> 4) &&& 0x0f) :: (byte &&& 0x0f) :: nibbles bytes :=
      rfl
    rw [unfolded]
    match k with
    | 0 =>
      have upper := highNibble_toNat byte
      rw [List.getElem?_cons_zero, ← UInt8.ofNat_toNat (x := (byte >>> 4) &&& 0x0f), upper]
      rfl
    | 1 =>
      have lower := lowNibble_toNat byte
      rw [List.getElem?_cons_succ, List.getElem?_cons_zero, ← UInt8.ofNat_toNat (x := byte &&& 0x0f), lower]
      rfl
    | k + 2 =>
      rw [List.getElem?_cons_succ, List.getElem?_cons_succ, nibbleAt_cons]
      apply ih
      rw [List.length_cons] at inside
      omega

theorem hexByte_ofNat {value : Nat} (small : value < 16) :
    hexByte (UInt8.ofNat value) = UInt8.ofNat (Nat.digitChar value).toNat := by
  have all : ∀ value < 16, hexByte (UInt8.ofNat value) = UInt8.ofNat (Nat.digitChar value).toNat := by
    decide +kernel
  exact all value small

theorem lowerHex_eq (bytes : List UInt8) : (nibbles bytes).map hexByte = lowerHex bytes := by
  apply List.ext_getElem?
  intro k
  by_cases inside : k < 2 * bytes.length
  · rw [List.getElem?_map, nibbles_getElem? inside, lowerHex, List.getElem?_map,
      List.getElem?_range inside]
    simp only [Option.map_some, hexByte_ofNat (nibbleAt_lt bytes k)]
  · rw [List.getElem?_eq_none, List.getElem?_eq_none]
    · rw [lowerHex, List.length_map, List.length_range]
      omega
    · rw [List.length_map, nibbles_length]
      omega

theorem foldDigit_case {value checksum : Nat} (small : value < 16) (smallChecksum : checksum < 16) :
    (foldDigit (UInt8.ofNat value) (UInt8.ofNat checksum)).toLower = Nat.digitChar value ∧
      ((foldDigit (UInt8.ofNat value) (UInt8.ofNat checksum)).isUpper ↔
        (foldDigit (UInt8.ofNat value) (UInt8.ofNat checksum)).isAlpha ∧ 8 ≤ checksum) := by
  have all : ∀ value < 16, ∀ checksum < 16,
      (foldDigit (UInt8.ofNat value) (UInt8.ofNat checksum)).toLower = Nat.digitChar value ∧
        ((foldDigit (UInt8.ofNat value) (UInt8.ofNat checksum)).isUpper ↔
          (foldDigit (UInt8.ofNat value) (UInt8.ofNat checksum)).isAlpha ∧ 8 ≤ checksum) := by
    decide +kernel
  exact all value small checksum smallChecksum

theorem toLower_upper {c : Char} (upper : c.isUpper = true) : c.toLower.toNat = c.toNat + 32 := by
  have range : c.val ≥ 'A'.val ∧ c.val ≤ 'Z'.val := of_decide_eq_true upper
  have most : c.toNat ≤ 90 := range.2
  unfold Char.toLower
  rw [dif_pos range]
  show (c.val + ('a'.val - 'A'.val)).toNat = _
  rw [UInt32.toNat_add]
  exact Nat.mod_eq_of_lt (Nat.lt_of_le_of_lt (Nat.add_le_add_right most 32) (by decide))

theorem toLower_of_not_upper {c : Char} (lower : ¬c.isUpper = true) : c.toLower = c := by
  have range : ¬(c.val ≥ 'A'.val ∧ c.val ≤ 'Z'.val) := by
    intro range
    exact lower (decide_eq_true range)
  unfold Char.toLower
  rw [dif_neg range]

theorem caselessValue_of_toLower {c : Char} {value : Nat} (small : value < 16)
    (shown : c.toLower = Nat.digitChar value) : caselessValue c = value := by
  by_cases upper : c.isUpper = true
  · have letters : ∀ value < 16, 97 ≤ (Nat.digitChar value).toNat →
        (Nat.digitChar value).toNat - 87 = value := by decide +kernel
    have least : 65 ≤ c.toNat := (of_decide_eq_true upper : c.val ≥ 'A'.val ∧ _).1
    have notDigit : ¬c.isDigit = true := by
      intro digit
      have most : c.toNat ≤ 57 := (Bool.and_eq_true_iff.mp digit).2 |> of_decide_eq_true
      omega
    have moved := toLower_upper upper
    rw [shown] at moved
    have letter := letters value small (by omega)
    rw [caselessValue, if_neg notDigit, if_pos upper]
    omega
  · have digits : ∀ value < 16, caselessValue (Nat.digitChar value) = value := by decide +kernel
    rw [toLower_of_not_upper upper] at shown
    rw [shown]
    exact digits value small

namespace ChecksumText

variable {hash : List UInt8 → Vector UInt8 32} {address : List UInt8} {text : List Char}

theorem value (shown : ChecksumText hash address text) {k : Nat} (inside : k < 2 * address.length) :
    caselessValue (text.getD (k + 2) '0') = nibbleAt address k := by
  obtain ⟨c, placed, lower, _⟩ := shown.digit k inside
  rw [List.getD_eq_getElem?_getD, placed]
  exact caselessValue_of_toLower (nibbleAt_lt address k) lower

/-- The text reads back as the address. -/
theorem read (shown : ChecksumText hash address text) (whole : address.length = rawAddressSize) :
    readAddress text = address := by
  apply List.ext_getElem
  · rw [readAddress, List.length_map, List.length_range, whole]
  · intro i _ inside
    have upper := shown.value (k := 2 * i) (by omega)
    have lower := shown.value (k := 2 * i + 1) (by omega)
    have halves : nibbleAt address (2 * i) = address[i].toNat / 16 ∧
        nibbleAt address (2 * i + 1) = address[i].toNat % 16 := by
      have even : 2 * i / 2 = i ∧ 2 * i % 2 = 0 := by omega
      have odd : (2 * i + 1) / 2 = i ∧ ¬(2 * i + 1) % 2 = 0 := by omega
      rw [nibbleAt, nibbleAt, even.1, odd.1]
      simp only [even.2, odd.2, if_true, if_false, List.getD_eq_getElem _ _ inside, and_self]
    simp only [readAddress, List.getElem_map, List.getElem_range]
    rw [upper, show 2 * i + 3 = 2 * i + 1 + 2 from rfl, lower, halves.1, halves.2, Nat.div_add_mod,
      UInt8.ofNat_toNat]

end ChecksumText

section Text

variable (sdk : Sdk)

theorem addressText_checksum {address : List UInt8} (whole : address.length = rawAddressSize) :
    ChecksumText sdk.keccak256 address (addressText sdk address (lowerHex address)) := by
  have shown : address.take rawAddressSize = address := List.take_of_length_le whole.le
  refine ⟨?_, rfl, ?_⟩
  · rw [addressText_length sdk whole.ge, whole]
    rfl
  · intro k inside
    have hashed : k < 2 * (sdk.keccak256 (lowerHex address)).toList.length := by
      rw [Vector.length_toList]
      rw [whole, rawAddressSize] at inside
      omega
    have digit := foldDigit_case (nibbleAt_lt address k)
      (nibbleAt_lt (sdk.keccak256 (lowerHex address)).toList k)
    refine ⟨_, ?_, digit⟩
    rw [addressText, List.getElem?_cons_succ, List.getElem?_cons_succ, addressDigits, shown,
      List.getElem?_zipWith, nibbles_getElem? inside, nibbles_getElem? hashed]

theorem hashedDigits_whole {address : List UInt8} (whole : address.length = rawAddressSize)
    (tmp : Vector UInt8 40) : hashedDigits address rawAddressSize tmp = lowerHex address := by
  have used : tmp.toList.drop (2 * rawAddressSize) = [] := by
    apply List.drop_eq_nil_of_le
    rw [Vector.length_toList]
    rfl
  rw [hashedDigits, List.take_of_length_le whole.le, lowerHex_eq, used, List.append_nil]

theorem addressFormatStr_checksum {address : List UInt8} (whole : address.length = rawAddressSize)
    (tmp : Vector UInt8 40) (out : List Char) (room : minAddressStrBufferSize ≤ out.length)
    (small : out.length < maxBufferSize) :
    (addressFormatStr sdk address rawAddressSize tmp out.length).run out =
      .ok ⟨lowerHex address, true⟩
        (addressText sdk address (lowerHex address) ++ '\x00' :: out.drop minAddressStrBufferSize) := by
  have run := addressFormatStr_run sdk address rawAddressSize tmp out (by decide) le_rfl whole.ge
    room small
  rwa [hashedDigits_whole whole] at run

/-- In an array of at least 43 and fewer than 1024 characters, the text of 20 bytes is written with
its checksum, and no other address has it. -/
theorem address_text_checksum (address : Vector UInt8 20) (tmp : Vector UInt8 40) (out : List Char)
    (room : 43 ≤ out.length) (small : out.length < 1024) :
    ∃ text, (addressFormatStr sdk address.toList 20 tmp out.length).run out =
        .ok ⟨lowerHex address.toList, true⟩ (text ++ '\x00' :: out.drop 43) ∧
      '\x00' ∉ text ∧ ChecksumText sdk.keccak256 address.toList text ∧
      readAddress text = address.toList ∧
      ∀ (other : Vector UInt8 20) (otherTmp : Vector UInt8 40) (otherOut rest : List Char)
        (context : Sha3Context), 43 ≤ otherOut.length → otherOut.length < 1024 →
        (addressFormatStr sdk other.toList 20 otherTmp otherOut.length).run otherOut =
          .ok context (text ++ '\x00' :: rest) → other = address := by
  have checksum (address : Vector UInt8 20) :=
    addressText_checksum sdk (address.length_toList : address.toList.length = rawAddressSize)
  have clean := addressText_clean sdk address.toList (lowerHex address.toList)
  refine ⟨addressText sdk address.toList (lowerHex address.toList),
    addressFormatStr_checksum sdk address.length_toList tmp out room small, clean,
    checksum address, (checksum address).read address.length_toList, ?_⟩
  intro other otherTmp otherOut rest context otherRoom otherSmall run
  have written := addressFormatStr_checksum sdk other.length_toList otherTmp otherOut otherRoom
    otherSmall
  have texts := congrArg cString (EStateM.Result.ok.inj (written.symm.trans run)).2
  rw [cString_terminated clean, cString_terminated (addressText_clean sdk _ _)] at texts
  have same := (checksum other).read other.length_toList
  rw [Option.some.inj texts, (checksum address).read address.length_toList] at same
  exact Vector.toList_inj.mp same.symm

end Text

/-- A hash whose nibbles are 8 and 0 by turns. -/
def foldingSdk : Sdk := { zeroSdk with keccak256 := fun _ => Vector.replicate _ 0x80 }

/-- The address abab..ab under this hash: the first digit of each byte is upper case. -/
theorem folded_address_checksum :
    ∃ text, text = "0xAbAbAbAbAbAbAbAbAbAbAbAbAbAbAbAbAbAbAbAb".toList ∧
      (addressFormatStr foldingSdk (Vector.replicate 20 0xab).toList 20 (Vector.replicate 40 7)
          (List.replicate 64 'x').length).run (List.replicate 64 'x') =
        .ok ⟨lowerHex (Vector.replicate 20 0xab).toList, true⟩
          (text ++ '\x00' :: (List.replicate 64 'x').drop 43) ∧
      '\x00' ∉ text ∧ ChecksumText foldingSdk.keccak256 (Vector.replicate 20 0xab).toList text ∧
      readAddress text = (Vector.replicate 20 0xab).toList ∧
      ∀ (other : Vector UInt8 20) (otherTmp : Vector UInt8 40) (otherOut rest : List Char)
        (context : Sha3Context), 43 ≤ otherOut.length → otherOut.length < 1024 →
        (addressFormatStr foldingSdk other.toList 20 otherTmp otherOut.length).run otherOut =
          .ok context (text ++ '\x00' :: rest) → other = Vector.replicate 20 0xab := by
  obtain ⟨text, run, holds⟩ := address_text_checksum foldingSdk (Vector.replicate 20 0xab)
    (Vector.replicate 40 7) (List.replicate 64 'x') (by rw [List.length_replicate]; decide)
    (by rw [List.length_replicate]; decide)
  have whole : (Vector.replicate 20 (0xab : UInt8)).toList.length = rawAddressSize := Vector.length_toList
  have written := addressFormatStr_checksum foldingSdk whole (Vector.replicate 40 7) (List.replicate 64 'x')
    (by rw [List.length_replicate]; decide) (by rw [List.length_replicate]; decide)
  have same := List.append_cancel_right (EStateM.Result.ok.inj (written.symm.trans run)).2
  refine ⟨text, ?_, run, holds⟩
  rw [← same]
  decide +kernel

theorem large_array_resets :
    43 ≤ (List.replicate 1024 'x').length ∧
      (addressFormatStr zeroSdk (Vector.replicate 20 0).toList 20 (Vector.replicate 40 0)
        (List.replicate 1024 'x').length).run (List.replicate 1024 'x') =
        .error .reset (List.replicate 1024 'x') := by
  rw [List.length_replicate]
  exact ⟨by decide, rfl⟩

section Loops

/-- The first loop, which fills two places of `tmp` for each byte. -/
def fillDigits (address : List UInt8) (addrLen : Nat) (tmp : List UInt8) : List UInt8 :=
  (List.range addrLen).foldl (fun tmp i =>
    let digit := address.getD i 0
    (tmp.set (2 * i) (hexByte ((digit >>> 4) &&& 0x0f))).set (2 * i + 1) (hexByte (digit &&& 0x0f))) tmp

/-- The character that the second loop stores at `out[i + 2]`. -/
def outDigit (address hashChecksum : List UInt8) (i : Nat) : Char :=
  let digit := address.getD (i / 2) 0
  let digit := if i % 2 = 0 then (digit >>> 4) &&& 0x0f else digit &&& 0x0f
  let v := (hashChecksum.getD (i / 2) 0 >>> UInt8.ofNat (4 * (1 - i % 2))) &&& 0x0f
  if 10 ≤ digit ∧ 8 ≤ v then
    Char.ofNat (hexByte digit - 97 + 65).toNat
  else
    Char.ofNat (hexByte digit).toNat

/-- The stores in the order of the source: the digits, then the prefix and the terminator. -/
def addressFormatLoops (sdk : Sdk) (address : Vector UInt8 20) (addrLen : Nat) (tmp : Vector UInt8 40)
    (outSize : Nat) : TextCode Sha3Context := do
  assertThat (outSize < maxBufferSize)
  assertThat (0 < addrLen)
  assertThat (addrLen ≤ rawAddressSize)
  assertThat (minAddressStrBufferSize ≤ outSize)
  let tmp := fillDigits address.toList addrLen tmp.toList
  let (sha3Context, hashChecksum) := cxKeccakInit.cxHashLast sdk tmp
  let _ ← storeAll 2 ((List.range (2 * rawAddressSize)).map (outDigit address.toList hashChecksum.toList))
  store 0 '0'
  store 1 'x'
  store 42 '\x00'
  return sha3Context

theorem fillDigits_eq {address tmp : List UInt8} {addrLen : Nat} (reached : addrLen ≤ address.length)
    (fits : 2 * addrLen ≤ tmp.length) :
    fillDigits address addrLen tmp =
      (nibbles (address.take addrLen)).map hexByte ++ tmp.drop (2 * addrLen) := by
  induction addrLen with
  | zero => rfl
  | succ addrLen ih =>
    have before := ih (by omega) (by omega)
    have size : ((nibbles (address.take addrLen)).map hexByte).length = 2 * addrLen := by
      rw [List.length_map, nibbles_length, List.length_take_of_le (by omega)]
    obtain ⟨first, second, rest, places⟩ : ∃ first second rest,
        tmp.drop (2 * addrLen) = first :: second :: rest := by
      have left : 2 ≤ (tmp.drop (2 * addrLen)).length := by
        rw [List.length_drop]
        omega
      match tmp.drop (2 * addrLen), left with
      | first :: second :: rest, _ => exact ⟨first, second, rest, rfl⟩
    have later : tmp.drop (2 * (addrLen + 1)) = rest := by
      rw [show 2 * (addrLen + 1) = 2 * addrLen + 2 from rfl, ← List.drop_drop, places]
      rfl
    rw [fillDigits] at before ⊢
    rw [List.range_succ, List.foldl_append, before, places, later, List.take_succ_eq_append_getElem reached,
      nibbles_append, List.map_append]
    simp only [List.foldl_cons, List.foldl_nil, List.getD_eq_getElem _ _ reached]
    rw [List.set_append_right _ _ size.le, size, Nat.sub_self, List.set_cons_zero,
      List.set_append_right _ _ (by omega), size, Nat.add_sub_cancel_left, List.set_cons_succ,
      List.set_cons_zero, List.append_assoc]
    rfl

theorem ofNat_nibbleAt (bytes : List UInt8) (i : Nat) :
    UInt8.ofNat (nibbleAt bytes i) =
      if i % 2 = 0 then (bytes.getD (i / 2) 0 >>> 4) &&& 0x0f else bytes.getD (i / 2) 0 &&& 0x0f := by
  unfold nibbleAt
  dsimp only
  split_ifs
  · rw [← highNibble_toNat, UInt8.ofNat_toNat]
  · rw [← lowNibble_toNat, UInt8.ofNat_toNat]

theorem outDigit_eq (address hashChecksum : List UInt8) (i : Nat) :
    outDigit address hashChecksum i =
      foldDigit (UInt8.ofNat (nibbleAt address i)) (UInt8.ofNat (nibbleAt hashChecksum i)) := by
  have shifted : (hashChecksum.getD (i / 2) 0 >>> UInt8.ofNat (4 * (1 - i % 2))) &&& 0x0f =
      UInt8.ofNat (nibbleAt hashChecksum i) := by
    rw [ofNat_nibbleAt]
    split_ifs with upper
    · rw [upper]
      rfl
    · have none : UInt8.ofNat (4 * (1 - 1)) = 0 := rfl
      rw [Nat.mod_two_ne_zero.mp upper, none, UInt8.shiftRight_zero]
  unfold outDigit foldDigit
  dsimp only
  rw [shifted, ← ofNat_nibbleAt]
  split_ifs <;> rfl

theorem outDigits_eq {address hashChecksum : List UInt8} (shown : address.length = rawAddressSize)
    (long : rawAddressSize ≤ hashChecksum.length) :
    (List.range (2 * rawAddressSize)).map (outDigit address hashChecksum) =
      List.zipWith foldDigit (nibbles address) (nibbles hashChecksum) := by
  apply List.ext_getElem?
  intro i
  by_cases inside : i < 2 * rawAddressSize
  · rw [List.getElem?_map, List.getElem?_range inside, List.getElem?_zipWith,
      nibbles_getElem? (by omega), nibbles_getElem? (by omega)]
    simp only [Option.map_some, outDigit_eq]
  · rw [List.getElem?_eq_none, List.getElem?_eq_none]
    · rw [List.length_zipWith, nibbles_length, nibbles_length]
      omega
    · rw [List.length_map, List.length_range]
      omega

/-- The digits first and the prefix and the terminator behind them, or all from the left: the array is the same. -/
theorem stores_run {digits out : List Char} (size : digits.length = 40)
    (room : minAddressStrBufferSize ≤ out.length) (context : Sha3Context) :
    (do
      let _ ← storeAll 2 digits
      store 0 '0'
      store 1 'x'
      store 42 '\x00'
      return context : TextCode Sha3Context).run out =
    (do
      let _ ← storeAll 0 ('0' :: 'x' :: digits ++ ['\x00'])
      return context : TextCode Sha3Context).run out := by
  obtain ⟨first, second, middle, last, rest, rfl, same⟩ : ∃ first second middle last rest,
      out = [first, second] ++ middle ++ last :: rest ∧ middle.length = digits.length := by
    match out, room with
    | first :: second :: others, room =>
      have left : 41 ≤ others.length := by
        rw [minAddressStrBufferSize] at room
        simp only [List.length_cons] at room
        omega
      obtain ⟨last, rest, tail⟩ : ∃ last rest, others.drop 40 = last :: rest :=
        List.exists_cons_of_length_pos (by rw [List.length_drop]; omega)
      refine ⟨first, second, others.take 40, last, rest, ?_, ?_⟩
      · rw [List.append_assoc, ← tail, List.take_append_drop]
        rfl
      · rw [List.length_take_of_le (by omega), size]
  have place : ('0' :: 'x' :: digits).length = 42 := by
    rw [List.length_cons, List.length_cons, size]
  have digitsStored := storeAll_run [first, second] digits middle (last :: rest) same
  have zero := store_run [] first '0' (second :: digits ++ last :: rest)
  have mark := store_run ['0'] second 'x' (digits ++ last :: rest)
  have nul := store_run ('0' :: 'x' :: digits) last '\x00' rest
  have whole := storeAll_run [] ('0' :: 'x' :: digits ++ ['\x00']) (first :: second :: middle ++ [last])
    rest (by simp [same])
  rw [place] at nul
  simp only [List.nil_append, List.cons_append, List.append_assoc, List.length_nil, List.length_cons]
    at digitsStored zero mark nul whole ⊢
  rw [run_bind_ok digitsStored, run_bind_ok zero, run_bind_ok mark, run_bind_ok nul,
    run_bind_ok whole]

/-- The two loops of the source do what the formatter does. -/
theorem addressFormatLoops_run (sdk : Sdk) (address : Vector UInt8 20) (addrLen : Nat)
    (tmp : Vector UInt8 40) (out : List Char) :
    (addressFormatLoops sdk address addrLen tmp out.length).run out =
      (addressFormatStr sdk address.toList addrLen tmp out.length).run out := by
  have whole : address.toList.length = rawAddressSize := address.length_toList
  apply assertThat_bind_congr
  intro small
  apply assertThat_bind_congr
  intro some
  apply assertThat_bind_congr
  intro most
  apply assertThat_bind_congr
  intro room
  have reached : addrLen ≤ address.toList.length := (of_decide_eq_true most).trans whole.ge
  have fits : 2 * addrLen ≤ tmp.toList.length := by
    rw [Vector.length_toList]
    exact Nat.mul_le_mul_left 2 (of_decide_eq_true most)
  rw [if_pos reached, if_pos whole.ge]
  simp only [inside_some, pure_bind]
  rw [fillDigits_eq reached fits]
  generalize (nibbles (address.toList.take addrLen)).map hexByte ++ tmp.toList.drop (2 * addrLen) = hashed
  rw [List.take_of_length_le whole.le, ← outDigits_eq whole (by rw [Vector.length_toList]; decide)]
  exact stores_run (by rw [List.length_map, List.length_range]; rfl) (of_decide_eq_true room) _

end Loops

end FantomLedger
