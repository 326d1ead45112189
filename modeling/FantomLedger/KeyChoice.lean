import FantomLedger.Device
import FantomLedger.PathUse

/-! The choice that the build for large displays offers before it exports a public key. -/

namespace FantomLedger

open Library.Program TextBuffer

/-- Two arrays of 30 and of 200 characters. -/
structure UiFieldPair where
  header : List Char
  text : List Char
  deriving DecidableEq, Repr

/-- The texts of a choice as they are on the screen. -/
structure Choice where
  message : List Char
  subMessage : List Char
  confirmText : List Char
  cancelText : List Char
  deriving DecidableEq, Repr

def pairHeaderSize : Nat := 30

/-- The text, and terminators up to the size; none when the text is as long. -/
def strncpy (text : List Char) (size : Nat) : List Char :=
  (text ++ List.replicate size '\x00').take size

variable {σ : Type}

/-- `subtext` is a local array: what it holds before is left from other calls. -/
def uiExportKeyConfirm (ioState : IoState) (subtext : Vector Char 40) (pair : UiFieldPair) :
    EStateM Exc σ Choice := do
  assertThat (ioState == .expectNone || ioState == .expectUi)
  let header ← inside (cString pair.header)
  let text ← inside (cString pair.text)
  let (_, subtext) ← onBuffer subtext.toList (snprintf 0 40 (header ++ '\n' :: text))
  return {
    message := "Export public key ?".toList
    subMessage := ← inside (cString subtext)
    confirmText := "Confirm".toList
    cancelText := "Cancel".toList }

/-- The step that shows the path. -/
def displayPathChoice (ioState : IoState) (subtext : Vector Char 40) (path : Bip44Path) :
    EStateM Exc σ Choice := do
  let cleared := List.replicate (pathStrSize .nbgl) '\x00'
  let (_, text) ← onBuffer cleared (bip44PathToStr path (pathStrSize .nbgl))
  let header := strncpy "Derivation Path".toList pairHeaderSize
  let (_, text) ← onBuffer text (bip44PathToStr path (pathStrSize .nbgl))
  uiExportKeyConfirm ioState subtext ⟨header, text⟩

/-- What is left of the header and the path in 40 characters. -/
def choiceText (path : Bip44Path) : List Char :=
  ("Derivation Path\n".toList ++ path.text).take 39

def exportChoice (subMessage : List Char) : Choice :=
  ⟨"Export public key ?".toList, subMessage, "Confirm".toList, "Cancel".toList⟩

@[simp]
theorem exportChoice_subMessage (subMessage : List Char) :
    (exportChoice subMessage).subMessage = subMessage := rfl

theorem uiExportKeyConfirm_run {ioState : IoState} (asks : ioState ≠ .expectIo)
    (subtext : Vector Char 40) {header text : List Char} (cleanHeader : '\x00' ∉ header)
    (cleanText : '\x00' ∉ text) (pair : UiFieldPair) (headerShown : cString pair.header = some header)
    (textShown : cString pair.text = some text) (s : σ) :
    (uiExportKeyConfirm ioState subtext pair).run s =
      .ok (exportChoice ((header ++ '\n' :: text).take 39)) s := by
  have allowed : (ioState == .expectNone || ioState == .expectUi) = true := by
    cases ioState with
    | expectIo => exact absurd rfl asks
    | expectUi => rfl
    | expectNone => rfl
  have clean : '\x00' ∉ (header ++ '\n' :: text).take 39 := by
    intro member
    rcases List.mem_append.mp (List.mem_of_mem_take member) with inHeader | inText
    · exact cleanHeader inHeader
    · rcases List.mem_cons.mp inText with newline | inText
      · exact absurd newline (by decide)
      · exact cleanText inText
  have printed := snprintf_truncates [] (header ++ '\n' :: text) subtext.toList
    (by rw [Vector.length_toList]; decide)
  rw [Vector.length_toList, List.length_nil] at printed
  have shown := onBuffer_ok printed s
  rw [List.nil_append, List.nil_append] at shown
  rw [uiExportKeyConfirm, allowed, assertThat_true, pure_bind, headerShown, textShown]
  simp only [inside_some, pure_bind]
  rw [run_bind_ok shown]
  simp only [cString_terminated clean, inside_some, pure_bind]
  rfl

theorem displayPathChoice_run {path : Bip44Path} (valid : bip44HasValidFantomPrefix path = true)
    (nine : path.length ≤ 9) {ioState : IoState} (asks : ioState ≠ .expectIo)
    (subtext : Vector Char 40) (s : σ) :
    (displayPathChoice ioState subtext path).run s = .ok (exportChoice (choiceText path)) s := by
  have writes (out : List Char) (size : out.length = pathStrSize .nbgl) :
      (onBuffer out (bip44PathToStr path (pathStrSize .nbgl)) : EStateM Exc σ _).run s =
        .ok ((), path.text ++ '\x00' :: out.drop (path.text.length + 1)) s := by
    have room : 100 ≤ out.length := by
      rw [size]
      decide
    have small : out.length < maxBufferSize := by
      rw [size]
      decide
    rw [← size]
    exact onBuffer_ok (bip44PathToStr_run valid nine out room small) s
  have short := text_length_le valid nine
  have first := writes (List.replicate (pathStrSize .nbgl) '\x00') List.length_replicate
  have second := writes (path.text ++ '\x00' ::
      (List.replicate (pathStrSize .nbgl) '\x00').drop (path.text.length + 1)) (by
    simp only [List.length_append, List.length_cons, List.length_drop, List.length_replicate,
      pathStrSize]
    omega)
  have headerShown : cString (strncpy "Derivation Path".toList pairHeaderSize) =
      some "Derivation Path".toList := by decide
  have textShown := cString_terminated (nul_notMem_text path)
    ((path.text ++ '\x00' :: (List.replicate (pathStrSize .nbgl) '\x00').drop
      (path.text.length + 1)).drop (path.text.length + 1))
  rw [displayPathChoice]
  simp only [run_bind_ok first, run_bind_ok second]
  exact uiExportKeyConfirm_run asks subtext (by decide) (nul_notMem_text path)
    ⟨_, _⟩ headerShown textShown s

/-- The code writes the text of the path in the size of this build. -/
def Bip44Path.Written (path : Bip44Path) : Prop :=
  ∃ memory, (bip44PathToStr path (pathStrSize .nbgl)).run (List.replicate (pathStrSize .nbgl) '\x00') =
    .ok () memory

theorem Bip44Path.Written.nine {path : Bip44Path} (written : path.Written) : path.length ≤ 9 := by
  obtain ⟨memory, run⟩ := written
  by_contra long
  have fewer : ¬path.length < bip32MaxPathLength := by
    rw [bip32MaxPathLength]
    omega
  rw [bip44PathToStr, decide_eq_false fewer] at run
  cases run

/-- The choice comes up only for a path that can be written, while no APDU is expected. -/
theorem displayPathChoice_eq_ok {path : Bip44Path} (valid : bip44HasValidFantomPrefix path = true)
    {ioState : IoState} {subtext : Vector Char 40} {s after : σ} {choice : Choice}
    (run : (displayPathChoice ioState subtext path).run s = .ok choice after) :
    ioState ≠ .expectIo ∧ choice = exportChoice (choiceText path) := by
  have written : path.Written := by
    cases first : (bip44PathToStr path (pathStrSize .nbgl)).run
        (List.replicate (pathStrSize .nbgl) '\x00') with
    | ok result memory => exact ⟨memory, first⟩
    | error exc memory =>
      have stopped := onBuffer_error first s
      rw [displayPathChoice, run_bind_error stopped] at run
      cases run
  have asks : ioState ≠ .expectIo := by
    rintro rfl
    obtain ⟨_, _, _, later⟩ := run_bind_eq_ok.mp run
    obtain ⟨_, _, _, later⟩ := run_bind_eq_ok.mp later
    cases later
  refine ⟨asks, ?_⟩
  have chosen := displayPathChoice_run valid written.nine asks subtext s
  rw [run] at chosen
  cases chosen
  rfl

theorem slash_mem_text {path : Bip44Path} (valid : bip44HasValidFantomPrefix path = true) :
    ∃ rest, path.text = '/' :: rest := by
  obtain ⟨rest, shape⟩ := indexes_of_prefix valid
  rw [Bip44Path.text, shape, List.map_cons, List.flatten_cons, indexText_eq_cons]
  exact ⟨_, rfl⟩

theorem choiceText_short {path : Bip44Path} (short : path.text.length ≤ 23) :
    choiceText path = "Derivation Path\n".toList ++ path.text := by
  apply List.take_of_length_le
  rw [List.length_append]
  exact Nat.add_le_add_left short 16

/-- The header has no slash, so the path can only stand behind it, where 23 characters are left. -/
theorem whole_iff {path : Bip44Path} (valid : bip44HasValidFantomPrefix path = true) :
    path.text <:+: choiceText path ↔ path.text.length ≤ 23 := by
  constructor
  · rintro ⟨before, after, split⟩
    by_contra long
    obtain ⟨rest, shape⟩ := slash_mem_text valid
    have sizes := congrArg List.length split
    have bound : (choiceText path).length ≤ 39 := List.length_take_le _ _
    simp only [List.length_append] at sizes
    have early : before.length < "Derivation Path\n".toList.length := by
      show before.length < 16
      omega
    have slash : (choiceText path)[before.length]? = some '/' := by
      rw [← split, shape, List.append_assoc, List.getElem?_append_right le_rfl, Nat.sub_self]
      rfl
    rw [choiceText, List.getElem?_take_of_lt (by omega), List.getElem?_append_left early] at slash
    exact absurd (List.mem_of_getElem? slash) (by decide)
  · intro short
    rw [choiceText_short short]
    exact (List.suffix_append _ _).isInfix

/-- The choices of two paths that are not denied hold both paths, and tell them apart, exactly when
neither text has more than 23 characters. -/
theorem key_choices_iff (path other : Bip44Path) (ioState : IoState) (left otherLeft : Vector Char 40)
    (accepted : (policyForGetPublicKey path : EStateM Exc Unit _).run () ≠ .ok .deny ())
    (otherAccepted : (policyForGetPublicKey other : EStateM Exc Unit _).run () ≠ .ok .deny ())
    (written : path.Written) (otherWritten : other.Written) (asks : ioState ≠ .expectIo) :
    ∃ choice otherChoice : Choice,
      (displayPathChoice ioState left path : EStateM Exc Unit _).run () = .ok choice () ∧
      (displayPathChoice ioState otherLeft other : EStateM Exc Unit _).run () = .ok otherChoice () ∧
      ((path.text <:+: choice.subMessage ∧ other.text <:+: otherChoice.subMessage ∧
          (path.indexes ≠ other.indexes → choice.subMessage ≠ otherChoice.subMessage)) ↔
        path.text.length ≤ 23 ∧ other.text.length ≤ 23) := by
  have valid : bip44HasValidFantomPrefix path = true :=
    prefix_of_policy .getKey accepted
  have otherValid : bip44HasValidFantomPrefix other = true :=
    prefix_of_policy .getKey otherAccepted
  have run := displayPathChoice_run valid written.nine asks left ()
  have otherRun := displayPathChoice_run otherValid otherWritten.nine asks otherLeft ()
  refine ⟨exportChoice (choiceText path), exportChoice (choiceText other), run, otherRun, ?_⟩
  rw [exportChoice_subMessage, exportChoice_subMessage, whole_iff valid, whole_iff otherValid]
  constructor
  · intro identifies
    exact ⟨identifies.1, identifies.2.1⟩
  · intro short
    refine ⟨short.1, short.2, ?_⟩
    intro different same
    apply different
    rw [choiceText_short short.1, choiceText_short short.2] at same
    rw [← readPath_text path, List.append_cancel_left same, readPath_text]

/-- The path 44'/60'/0'/0/i. -/
def addressPath (index : UInt32) : Bip44Path :=
  ⟨#v[0x8000002c, 0x8000003c, 0x80000000, 0, index, 0, 0, 0, 0, 0], 5, fiveLevels_fit⟩

theorem addressPath_written (index : UInt32) : (addressPath index).Written := by
  have valid : bip44HasValidFantomPrefix (addressPath index) = true := rfl
  have nine : (addressPath index).length ≤ 9 := Nat.le_of_ble_eq_true rfl
  exact ⟨_, bip44PathToStr_run valid nine (List.replicate (pathStrSize .nbgl) '\x00')
    (by rw [List.length_replicate]; decide) (by rw [List.length_replicate]; decide)⟩

theorem first_address_choices :
    ∃ choice otherChoice : Choice,
      (displayPathChoice .expectUi (Vector.replicate _ 'x') (addressPath 0) : EStateM Exc Unit _).run () =
        .ok choice () ∧
      (displayPathChoice .expectUi (Vector.replicate _ 'y') (addressPath 1) : EStateM Exc Unit _).run () =
        .ok otherChoice () ∧
      (((addressPath 0).text <:+: choice.subMessage ∧ (addressPath 1).text <:+: otherChoice.subMessage ∧
          ((addressPath 0).indexes ≠ (addressPath 1).indexes →
            choice.subMessage ≠ otherChoice.subMessage)) ↔
        (addressPath 0).text.length ≤ 23 ∧ (addressPath 1).text.length ≤ 23) :=
  key_choices_iff (addressPath 0) (addressPath 1) .expectUi (Vector.replicate _ 'x')
    (Vector.replicate _ 'y') (by decide +kernel) (by decide +kernel) (addressPath_written 0)
    (addressPath_written 1) (by decide)

/-- The tenth digit of an index does not fit. -/
theorem last_digit_hidden :
    (policyForGetPublicKey (addressPath 1234567890) : EStateM Exc Unit _).run () ≠ .ok .deny () ∧
      (policyForGetPublicKey (addressPath 1234567891) : EStateM Exc Unit _).run () ≠ .ok .deny () ∧
      (addressPath 1234567890).Written ∧ (addressPath 1234567891).Written ∧
      (addressPath 1234567890).indexes ≠ (addressPath 1234567891).indexes ∧
      ∃ choice : Choice,
        (displayPathChoice .expectUi (Vector.replicate _ 'x') (addressPath 1234567890) :
          EStateM Exc Unit _).run () = .ok choice () ∧
        (displayPathChoice .expectUi (Vector.replicate _ 'x') (addressPath 1234567891) :
          EStateM Exc Unit _).run () = .ok choice () ∧
        ¬(addressPath 1234567890).text <:+: choice.subMessage := by
  have valid (index : UInt32) : bip44HasValidFantomPrefix (addressPath index) = true := rfl
  have nine (index : UInt32) : (addressPath index).length ≤ 9 := Nat.le_of_ble_eq_true rfl
  have asks : IoState.expectUi ≠ .expectIo := by decide
  have run := displayPathChoice_run (valid 1234567890) (nine _) asks (Vector.replicate _ 'x') ()
  have otherRun := displayPathChoice_run (valid 1234567891) (nine _) asks (Vector.replicate _ 'x') ()
  have same : choiceText (addressPath 1234567891) = choiceText (addressPath 1234567890) := by
    decide +kernel
  rw [same] at otherRun
  refine ⟨by decide +kernel, by decide +kernel, addressPath_written _, addressPath_written _,
    by decide +kernel, exportChoice (choiceText (addressPath 1234567890)), run, otherRun, ?_⟩
  rw [exportChoice_subMessage, whole_iff (valid _)]
  decide +kernel

end FantomLedger
