import FantomLedger.PathText

/-! The wire format of a derivation path: numbers in big-endian order, and which payloads the
parser accepts. -/

namespace FantomLedger

open Library.Program

section BigEndian

def u2beWrite (value : UInt16) : List UInt8 := [(value >>> 8).toUInt8, (value &&& 0xff).toUInt8]

def u4beWrite (value : UInt32) : List UInt8 :=
  u2beWrite (value >>> 16).toUInt16 ++ u2beWrite (value &&& 0xffff).toUInt16

theorem u2beRead_toNat (high low : UInt8) :
    (u2beRead high low).toNat = high.toNat * 256 + low.toNat := by
  have top := high.toNat_lt
  have bottom := low.toNat_lt
  have small : high.toNat <<< 8 % 2 ^ 32 = high.toNat <<< 8 := by
    apply Nat.mod_eq_of_lt
    rw [Nat.shiftLeft_eq]
    omega
  rw [u2beRead, UInt32.toNat_toUInt16, UInt32.toNat_or, UInt32.toNat_shiftLeft]
  simp only [UInt8.toNat_toUInt32, UInt32.reduceToNat, Nat.reduceMod]
  rw [small, ← Nat.shiftLeft_add_eq_or_of_lt bottom, Nat.shiftLeft_eq]
  omega

theorem u2beWrite_read (high low : UInt8) : u2beWrite (u2beRead high low) = [high, low] := by
  have top := high.toNat_lt
  have bottom := low.toNat_lt
  have value := u2beRead_toNat high low
  have first : ((u2beRead high low) >>> 8).toUInt8 = high := by
    apply UInt8.toNat_inj.mp
    simp only [UInt16.toNat_toUInt8, UInt16.toNat_shiftRight, UInt16.reduceToNat, Nat.reduceMod]
    rw [value, Nat.shiftRight_eq_div_pow]
    omega
  have second : ((u2beRead high low) &&& 0xff).toUInt8 = low := by
    apply UInt8.toNat_inj.mp
    simp only [UInt16.toNat_toUInt8, UInt16.toNat_and, UInt16.reduceToNat]
    rw [value, Nat.and_two_pow_sub_one_eq_mod _ 8]
    omega
  rw [u2beWrite, first, second]

theorem u2beRead_write (value : UInt16) :
    u2beRead (value >>> 8).toUInt8 (value &&& 0xff).toUInt8 = value := by
  apply UInt16.toNat_inj.mp
  have small := value.toNat_lt
  rw [u2beRead_toNat]
  simp only [UInt16.toNat_toUInt8, UInt16.toNat_shiftRight, UInt16.toNat_and, UInt16.reduceToNat,
    Nat.reduceMod]
  rw [Nat.and_two_pow_sub_one_eq_mod _ 8, Nat.shiftRight_eq_div_pow]
  omega

theorem halves_toNat (high low : UInt16) :
    (high.toUInt32 <<< 16 ||| low.toUInt32).toNat = high.toNat * 65536 + low.toNat := by
  have top := high.toNat_lt
  have bottom := low.toNat_lt
  have small : high.toNat <<< 16 % 2 ^ 32 = high.toNat <<< 16 := by
    apply Nat.mod_eq_of_lt
    rw [Nat.shiftLeft_eq]
    omega
  rw [UInt32.toNat_or, UInt32.toNat_shiftLeft]
  simp only [UInt16.toNat_toUInt32, UInt32.reduceToNat, Nat.reduceMod]
  rw [small, ← Nat.shiftLeft_add_eq_or_of_lt bottom, Nat.shiftLeft_eq]

theorem u4beWrite_halves (high low : UInt16) :
    u4beWrite (high.toUInt32 <<< 16 ||| low.toUInt32) = u2beWrite high ++ u2beWrite low := by
  have top := high.toNat_lt
  have bottom := low.toNat_lt
  have value := halves_toNat high low
  have first : ((high.toUInt32 <<< 16 ||| low.toUInt32) >>> 16).toUInt16 = high := by
    apply UInt16.toNat_inj.mp
    rw [UInt32.toNat_toUInt16, UInt32.toNat_shiftRight, value, Nat.shiftRight_eq_div_pow]
    simp only [UInt32.reduceToNat, Nat.reduceMod]
    omega
  have second : ((high.toUInt32 <<< 16 ||| low.toUInt32) &&& 0xffff).toUInt16 = low := by
    apply UInt16.toNat_inj.mp
    rw [UInt32.toNat_toUInt16, UInt32.toNat_and, value]
    simp only [UInt32.reduceToNat]
    rw [Nat.and_two_pow_sub_one_eq_mod _ 16]
    omega
  rw [u4beWrite, first, second]

theorem halves_eq (value : UInt32) :
    (value >>> 16).toUInt16.toUInt32 <<< 16 ||| (value &&& 0xffff).toUInt16.toUInt32 = value := by
  apply UInt32.toNat_inj.mp
  have small := value.toNat_lt
  rw [halves_toNat, UInt32.toNat_toUInt16, UInt32.toNat_toUInt16, UInt32.toNat_shiftRight,
    UInt32.toNat_and, Nat.shiftRight_eq_div_pow]
  simp only [UInt32.reduceToNat, Nat.reduceMod]
  rw [Nat.and_two_pow_sub_one_eq_mod _ 16]
  omega

theorem u4beWrite_length (value : UInt32) : (u4beWrite value).length = 4 := rfl

theorem u4beRead_write (value : UInt32) (rest : List UInt8) :
    u4beRead (u4beWrite value ++ rest) = some value := by
  show some ((u2beRead _ _).toUInt32 <<< 16 ||| (u2beRead _ _).toUInt32) = some value
  rw [u2beRead_write, u2beRead_write, halves_eq]

/-- Four bytes are the number that is read from them, written again. -/
theorem u4beWrite_read {data : List UInt8} (whole : 4 ≤ data.length) :
    ∃ value, data = u4beWrite value ++ data.drop 4 := by
  rcases data with _ | ⟨b0, _ | ⟨b1, _ | ⟨b2, _ | ⟨b3, rest⟩⟩⟩⟩
  · cases whole
  · cases Nat.le_of_succ_le_succ whole
  · cases Nat.le_of_succ_le_succ (Nat.le_of_succ_le_succ whole)
  · cases Nat.le_of_succ_le_succ (Nat.le_of_succ_le_succ (Nat.le_of_succ_le_succ whole))
  · refine ⟨(u2beRead b0 b1).toUInt32 <<< 16 ||| (u2beRead b2 b3).toUInt32, ?_⟩
    rw [u4beWrite_halves, u2beWrite_read, u2beWrite_read]
    rfl

end BigEndian

section Path

/-- Numbers one behind the other. -/
def encodeIndexes (indexes : List UInt32) : List UInt8 := (indexes.map u4beWrite).flatten

/-- The number of indexes, and the indexes. -/
def encodePath (indexes : List UInt32) : List UInt8 :=
  UInt8.ofNat indexes.length :: encodeIndexes indexes

theorem encodeIndexes_length (indexes : List UInt32) :
    (encodeIndexes indexes).length = 4 * indexes.length := by
  induction indexes with
  | nil => rfl
  | cons value indexes ih =>
    rw [encodeIndexes, List.map_cons, List.flatten_cons, List.length_append, u4beWrite_length]
    rw [encodeIndexes] at ih
    rw [ih, List.length_cons]
    omega

theorem encodeIndexes_cons (value : UInt32) (indexes : List UInt32) :
    encodeIndexes (value :: indexes) = u4beWrite value ++ encodeIndexes indexes := rfl

/-- Any bytes are the encoding of as many indexes as there is room for. -/
theorem encodeIndexes_read (count : Nat) {data : List UInt8} (whole : 4 * count ≤ data.length) :
    ∃ indexes rest, indexes.length = count ∧ data = encodeIndexes indexes ++ rest := by
  induction count generalizing data with
  | zero => exact ⟨[], data, rfl, rfl⟩
  | succ count ih =>
    obtain ⟨value, split⟩ := u4beWrite_read (show 4 ≤ data.length by omega)
    obtain ⟨indexes, rest, length, later⟩ := @ih (data.drop 4) (by rw [List.length_drop]; omega)
    refine ⟨value :: indexes, rest, congrArg (· + 1) length, ?_⟩
    rw [encodeIndexes_cons, List.append_assoc, ← later]
    exact split

variable {σ : Type}

/-- The indexes are stored from a place on, and the rest of the array stays. -/
theorem parseIndexes_run (indexes : List UInt32) (rest : List UInt8) (i : Nat)
    (path : Vector UInt32 bip32MaxPathLength) (fits : i + indexes.length ≤ bip32MaxPathLength)
    (s : σ) :
    ∃ stored, (parseIndexes indexes.length i (encodeIndexes indexes ++ rest) path).run s =
        .ok stored s ∧
      stored.toList = path.toList.take i ++ indexes ++ path.toList.drop (i + indexes.length) := by
  induction indexes generalizing i path with
  | nil =>
    refine ⟨path, rfl, ?_⟩
    rw [List.append_nil]
    exact (List.take_append_drop i _).symm
  | cons value indexes ih =>
    rw [List.length_cons] at fits
    have inRange : i < bip32MaxPathLength := by omega
    obtain ⟨stored, run, list⟩ := ih (i + 1) (path.set i value) (by omega)
    refine ⟨stored, ?_, ?_⟩
    · rw [List.length_cons, parseIndexes, encodeIndexes_cons, List.append_assoc, u4beRead_write,
        inside_some, pure_bind, dif_pos inRange, inside_some, pure_bind]
      exact run
    · have size : i < path.toList.length := by
        rw [Vector.length_toList]
        exact inRange
      have front : (path.toList.set i value).take (i + 1) = path.toList.take i ++ [value] := by
        rw [List.take_add_one, List.take_set_of_le (Nat.le_refl i), List.getElem?_set_self size]
        rfl
      have back : (path.toList.set i value).drop (i + 1 + indexes.length) =
          path.toList.drop (i + 1 + indexes.length) := List.drop_set_of_lt (by omega)
      rw [list, Vector.toList_set, front, back, List.length_cons, List.append_assoc,
        Nat.add_right_comm i 1, ← Nat.add_assoc]
      simp

/-- An array that starts with the indexes, and keeps the places behind them. -/
def Overlays (old : Bip44Path) (indexes : List UInt32) (path : Bip44Path) : Prop :=
  path.path.toList = indexes ++ old.path.toList.drop indexes.length ∧ path.length = indexes.length

theorem Overlays.indexes {old path : Bip44Path} {indexes : List UInt32}
    (overlays : Overlays old indexes path) : path.indexes = indexes := by
  rw [Bip44Path.indexes, overlays.1, overlays.2]
  exact List.take_left

theorem Overlays.unique {old path other : Bip44Path} {indexes : List UInt32}
    (first : Overlays old indexes path) (second : Overlays old indexes other) : path = other := by
  obtain ⟨array, length, fits⟩ := path
  obtain ⟨array', length', fits'⟩ := other
  have same : array = array' := Vector.toList_inj.mp (first.1.trans second.1.symm)
  have sameLength : length = length' := first.2.trans second.2.symm
  subst same sameLength
  rfl

/-- The parser run on the encoding of at most ten indexes. -/
theorem bip44ParseFromWire_encode (old : Bip44Path) (indexes : List UInt32) (rest : List UInt8)
    (fits : indexes.length ≤ bip32MaxPathLength) (s : σ) :
    ∃ path, (bip44ParseFromWire old (encodePath indexes ++ rest)).run s =
        .ok (path, (encodePath indexes).length) s ∧ Overlays old indexes path := by
  obtain ⟨stored, run, list⟩ := parseIndexes_run indexes rest 0 old.path (by omega) s
  have count : (UInt8.ofNat indexes.length).toNat = indexes.length := by
    apply UInt8.toNat_ofNat_of_lt'
    exact Nat.lt_of_le_of_lt fits (by decide)
  have size := encodeIndexes_length indexes
  have some_data : decide (1 ≤ (encodePath indexes ++ rest).length) = true := by
    rw [decide_eq_true_eq, encodePath, List.cons_append, List.length_cons]
    omega
  have enough : decide (indexes.length * 4 + 1 ≤ (encodePath indexes ++ rest).length) = true := by
    rw [decide_eq_true_eq, encodePath, List.cons_append, List.length_cons, List.length_append, size]
    omega
  have whole : 1 + 4 * indexes.length = (encodePath indexes).length := by
    rw [encodePath, List.length_cons, size]
    omega
  refine ⟨⟨stored, indexes.length, fits⟩, ?_, ?_, rfl⟩
  · have first : (encodePath indexes ++ rest)[0]? = some (UInt8.ofNat indexes.length) := rfl
    rw [bip44ParseFromWire, some_data, validate_true, pure_bind, first, inside_some, pure_bind]
    simp only [count]
    rw [dif_pos fits, enough, validate_true, pure_bind]
    have body : (encodePath indexes ++ rest).drop 1 = encodeIndexes indexes ++ rest := rfl
    rw [body, run_bind_ok run, whole]
    rfl
  · rw [list, List.take_zero, List.nil_append, Nat.zero_add]

/-- What is accepted starts with the encoding of the path. -/
theorem bip44ParseFromWire_eq_ok {old path : Bip44Path} {wire : List UInt8} {size : Nat} {s t : σ}
    (parsed : (bip44ParseFromWire old wire).run s = .ok (path, size) t) :
    t = s ∧ encodePath path.indexes <+: wire ∧ size = (encodePath path.indexes).length ∧
      Overlays old path.indexes path := by
  have accepted : ∃ indexes rest, wire = encodePath indexes ++ rest ∧
      indexes.length ≤ bip32MaxPathLength := by
    rcases wire with _ | ⟨count, data⟩
    · cases parsed
    · have some_data : decide (1 ≤ (count :: data).length) = true := by simp
      rw [bip44ParseFromWire, some_data, validate_true, pure_bind, List.getElem?_cons_zero,
        inside_some, pure_bind] at parsed
      dsimp only at parsed
      split_ifs at parsed with fits
      · obtain ⟨_, _, checked, _⟩ := run_bind_eq_ok.mp parsed
        have enough := of_decide_eq_true (validate_eq_ok.mp checked).1
        rw [List.length_cons] at enough
        obtain ⟨indexes, rest, length, split⟩ :=
          @encodeIndexes_read count.toNat data (by omega)
        refine ⟨indexes, rest, ?_, by rw [length]; exact fits⟩
        rw [encodePath, length, UInt8.ofNat_toNat, List.cons_append, ← split]
      · cases parsed
  obtain ⟨indexes, rest, rfl, fits⟩ := accepted
  obtain ⟨path', run, overlays⟩ := bip44ParseFromWire_encode old indexes rest fits s
  cases parsed.symm.trans run
  rw [overlays.indexes]
  exact ⟨rfl, List.prefix_append _ _, rfl, overlays⟩

/-- What is not accepted is refused as invalid data; no byte is read that has not been received. -/
theorem bip44ParseFromWire_refuses (old : Bip44Path) (wire : List UInt8) (s : σ)
    (other : ∀ indexes : List UInt32, indexes.length ≤ bip32MaxPathLength → ¬encodePath indexes <+: wire) :
    (bip44ParseFromWire old wire).run s = .error (.thrown errInvalidData) s := by
  rcases wire with _ | ⟨count, data⟩
  · rfl
  have some_data : decide (1 ≤ (count :: data).length) = true := by simp
  rw [bip44ParseFromWire, some_data, validate_true, pure_bind, List.getElem?_cons_zero, inside_some,
    pure_bind]
  dsimp only
  split_ifs with fits
  · by_cases enough : count.toNat * 4 + 1 ≤ (count :: data).length
    · obtain ⟨indexes, rest, length, split⟩ :=
        @encodeIndexes_read count.toNat data (by rw [List.length_cons] at enough; omega)
      have begins : encodePath indexes <+: count :: data := by
        refine ⟨rest, ?_⟩
        rw [encodePath, length, UInt8.ofNat_toNat, List.cons_append, ← split]
      exact absurd begins (other indexes (length ▸ fits))
    · rw [decide_eq_false enough]
      rfl
  · rfl

/-- The payloads that are accepted are those that start with the encoding of at most ten indexes: these are
the path, and the places behind them in its array keep what they held. All others are refused alike. -/
theorem paths_on_wire (old : Bip44Path) (wire : List UInt8) (s : σ) :
    (∀ path size t, (bip44ParseFromWire old wire).run s = .ok (path, size) t ↔
      t = s ∧ encodePath path.indexes <+: wire ∧ size = (encodePath path.indexes).length ∧
        Overlays old path.indexes path) ∧
    ((∀ indexes : List UInt32, indexes.length ≤ bip32MaxPathLength → ¬encodePath indexes <+: wire) →
      (bip44ParseFromWire old wire).run s = .error (.thrown errInvalidData) s) := by
  refine ⟨?_, bip44ParseFromWire_refuses old wire s⟩
  intro path size t
  constructor
  · exact bip44ParseFromWire_eq_ok
  · rintro ⟨rfl, ⟨rest, rfl⟩, rfl, overlays⟩
    have fits : path.indexes.length ≤ bip32MaxPathLength := by
      rw [← overlays.2]
      exact path.fits
    obtain ⟨path', run, overlays'⟩ := bip44ParseFromWire_encode old path.indexes rest fits t
    rw [overlays.unique overlays']
    rw [overlays.unique overlays'] at run
    exact run

/-- Where the whole payload is consumed, it is the encoding of the path. -/
theorem wire_of_parse {old path : Bip44Path} {wire : List UInt8} {s t : σ}
    (parsed : (bip44ParseFromWire old wire).run s = .ok (path, wire.length) t) :
    wire = encodePath path.indexes := by
  obtain ⟨_, starts, size, _⟩ := bip44ParseFromWire_eq_ok parsed
  exact (starts.eq_of_length size.symm).symm

end Path

end FantomLedger
