import FantomLedger.DeriveKey
import FantomLedger.PathText

/-! Whether a path that an instruction accepts can be used in the rest of it. -/

namespace FantomLedger

open Library.Program TextBuffer

/-- The instructions that take a path, with what their policy depends on. -/
inductive PathIns where
  | getKey
  | getAddr (isShowAddress : Bool)
  | signTx
  deriving DecidableEq, Repr

variable {σ : Type}

def PathIns.policy : PathIns → Bip44Path → EStateM Exc σ SecurityPolicy
  | .getKey, path => policyForGetPublicKey path
  | .getAddr isShowAddress, path => policyForGetAddress path isShowAddress
  | .signTx, path => policyForSignTxInit path

/-- Whether the instruction shows the path. -/
def PathIns.showsPath : PathIns → Bool
  | .getKey => true
  | .getAddr _ => true
  | .signTx => false

/-- The size of the buffer that the text of a path goes to. -/
def pathStrSize : Build → Nat
  | .bagl => 100
  | .nbgl => 200

/-- The code neither fails an ASSERT nor leaves an array. -/
def PassesAsserts {α : Type} (code : EStateM Exc σ α) (s : σ) : Prop :=
  ∀ t, code.run s ≠ .error .reset t ∧ code.run s ≠ .error .undefined t

theorem PassesAsserts.of_ok {α : Type} {code : EStateM Exc σ α} {s t : σ} {result : α}
    (run : code.run s = .ok result t) : PassesAsserts code s := by
  intro u
  rw [run]
  exact ⟨nofun, nofun⟩

/-- What the instruction does with the path later: deriving its key, and writing its text. -/
def Usable (sdk : Sdk) (build : Build) (ins : PathIns) (path : Bip44Path) : Prop :=
  PassesAsserts (derivePrivateKey sdk path) () ∧
    (ins.showsPath = true → ∀ out : List Char, out.length = pathStrSize build →
      PassesAsserts (bip44PathToStr path out.length) out)

theorem parsed_length {old path : Bip44Path} {payload : List UInt8} {s t : σ} {parsedSize : Nat}
    (parsed : (bip44ParseFromWire old payload).run s = .ok (path, parsedSize) t) :
    path.length = (payload.headD 0).toNat := by
  rcases payload with _ | ⟨count, data⟩
  · cases parsed
  · have some_data : decide (1 ≤ (count :: data).length) = true := by simp
    rw [bip44ParseFromWire, some_data, validate_true, pure_bind] at parsed
    simp only [List.getElem?_cons_zero, inside_some, pure_bind] at parsed
    split_ifs at parsed with fits
    · cases enough : decide (count.toNat * 4 + 1 ≤ (count :: data).length) with
      | false =>
        rw [enough] at parsed
        cases parsed
      | true =>
        rw [enough, validate_true, pure_bind] at parsed
        cases indexes : (parseIndexes count.toNat 0 ((count :: data).drop 1) old.path).run s with
        | ok result u =>
          rw [run_bind_ok indexes] at parsed
          cases parsed
          rfl
        | error exc u =>
          rw [run_bind_error indexes] at parsed
          cases parsed
    · cases parsed

/-- A path that is not denied is under 44'/60'. -/
theorem prefix_of_policy (ins : PathIns) {path : Bip44Path} {s : σ}
    (notDenied : (ins.policy path).run s ≠ .ok .deny s) : bip44HasValidFantomPrefix path = true := by
  by_contra invalid
  apply notDenied
  have refused : bip44HasValidFantomPrefix path = false := by simpa using invalid
  cases ins with
  | getKey => simp [PathIns.policy, policyForGetPublicKey, refused]
  | getAddr isShowAddress => simp [PathIns.policy, policyForGetAddress, policyForPath, refused]
  | signTx => simp [PathIns.policy, policyForSignTxInit, policyForPath, refused]

/-- An accepted path is usable exactly when it has no more than nine indexes: at ten the key
derivation and the text fail their ASSERTs. -/
theorem usable_iff (sdk : Sdk) (build : Build) (ins : PathIns) (old path : Bip44Path)
    (payload : List UInt8)
    (accepted : (bip44ParseFromWire old payload : EStateM Exc Unit _).run () =
      .ok (path, payload.length) ())
    (notDenied : (ins.policy path : EStateM Exc Unit _).run () ≠ .ok .deny ()) :
    Usable sdk build ins path ↔ (payload.headD 0).toNat ≤ 9 := by
  have valid := prefix_of_policy ins notDenied
  rw [← parsed_length accepted]
  constructor
  · rintro ⟨derives, _⟩
    by_contra long
    have refused : ¬path.length < bip32MaxPathLength := by
      rw [bip32MaxPathLength]
      omega
    apply (derives ()).1
    rw [derivePrivateKey, valid, decide_eq_false refused]
    rfl
  · intro nine
    have fewer : path.length < bip32MaxPathLength := Nat.lt_succ_of_le nine
    constructor
    · have derives : (derivePrivateKey sdk path : EStateM Exc Unit _).run () =
          .ok (sdk.osPersoDeriveNodeBip32 path.indexes) () := by
        rw [derivePrivateKey, valid, decide_eq_true fewer]
        rfl
      exact .of_ok derives
    · intro _ out size
      have room : 100 ≤ out.length := by
        rw [size]
        cases build <;> decide
      have small : out.length < maxBufferSize := by
        rw [size]
        cases build <;> decide
      exact .of_ok (bip44PathToStr_run valid nine out room small)

/-- An operating system whose calls return zeros. -/
def zeroSdk : Sdk where
  keccak256 _ := Vector.replicate _ 0
  osPersoDeriveNodeBip32 _ := (Vector.replicate _ 0, Vector.replicate _ 0)
  cxEcfpGeneratePair _ := Vector.replicate _ 0
  cxEcdsaSign _ _ := ⟨Vector.replicate _ 0, 0, false, false⟩

/-- The payload with the path 44'/60'/0'/0/0. -/
def firstPayload : List UInt8 :=
  [5, 0x80, 0, 0, 44, 0x80, 0, 0, 60, 0x80, 0, 0, 0, 0, 0, 0, 0, 0, 0, 0, 0]

def firstPath : Bip44Path :=
  ⟨#v[0x8000002c, 0x8000003c, 0x80000000, 0, 0, 0, 0, 0, 0, 0], 5, fiveLevels_fit⟩

theorem firstPath_usable :
    Usable zeroSdk .bagl .signTx firstPath ↔ (firstPayload.headD 0).toNat ≤ 9 :=
  usable_iff zeroSdk .bagl .signTx .zero firstPath firstPayload (by decide +kernel) (by decide +kernel)

/-- The payload with five more indexes of zero. -/
def longPayload : List UInt8 := 10 :: firstPayload.tail ++ List.replicate 20 0

def longPath : Bip44Path :=
  ⟨#v[0x8000002c, 0x8000003c, 0x80000000, 0, 0, 0, 0, 0, 0, 0], 10, by decide⟩

/-- The text of an accepted path of at most nine indexes is complete, and gives them back. -/
theorem path_text_determines (path : Bip44Path) (out : List Char)
    (valid : bip44HasValidFantomPrefix path = true) (nine : path.length ≤ 9)
    (size : out.length = 100) :
    ∃ memory, (bip44PathToStr path out.length).run out = .ok () memory ∧
      cString memory = some (path.indexes.map indexText).flatten ∧
      readPath (path.indexes.map indexText).flatten = path.indexes ∧
      ∀ (other : Bip44Path) (otherOut otherMemory : List Char),
        bip44HasValidFantomPrefix other = true → other.length ≤ 9 → otherOut.length = 100 →
        (bip44PathToStr other otherOut.length).run otherOut = .ok () otherMemory →
        cString otherMemory = cString memory → other.indexes = path.indexes := by
  have shows {path : Bip44Path} {out : List Char} (valid : bip44HasValidFantomPrefix path = true)
      (nine : path.length ≤ 9) (size : out.length = 100) :
      ∃ memory, (bip44PathToStr path out.length).run out = .ok () memory ∧
        cString memory = some path.text := by
    have run := bip44PathToStr_run valid nine out (by omega) (by rw [size]; decide)
    exact ⟨_, run, cString_terminated (nul_notMem_text path) _⟩
  obtain ⟨memory, run, shown⟩ := shows valid nine size
  refine ⟨memory, run, shown, readPath_text path, ?_⟩
  intro other otherOut otherMemory otherValid otherNine otherSize otherRun same
  obtain ⟨written, writtenRun, otherShown⟩ := shows otherValid otherNine otherSize
  obtain rfl : written = otherMemory := by
    rw [writtenRun] at otherRun
    exact (EStateM.Result.ok.inj otherRun).2
  have texts : other.text = path.text := Option.some.inj (otherShown.symm.trans (same.trans shown))
  rw [← readPath_text other, texts, readPath_text]

theorem firstPath_text_determines :
    ∃ memory, (bip44PathToStr firstPath (List.replicate 100 '\x00').length).run
        (List.replicate 100 '\x00') = .ok () memory ∧
      cString memory = some (firstPath.indexes.map indexText).flatten ∧
      readPath (firstPath.indexes.map indexText).flatten = firstPath.indexes ∧
      ∀ (other : Bip44Path) (otherOut otherMemory : List Char),
        bip44HasValidFantomPrefix other = true → other.length ≤ 9 → otherOut.length = 100 →
        (bip44PathToStr other otherOut.length).run otherOut = .ok () otherMemory →
        cString otherMemory = cString memory → other.indexes = firstPath.indexes :=
  path_text_determines firstPath (List.replicate 100 '\x00') (by decide) (by decide)
    List.length_replicate

theorem longPath_resets :
    (bip44ParseFromWire .zero longPayload : EStateM Exc Unit _).run () =
        .ok (longPath, longPayload.length) () ∧
      (policyForSignTxInit longPath : EStateM Exc Unit _).run () = .ok .warn () ∧
      ¬Usable zeroSdk .bagl .signTx longPath := by
  refine ⟨by decide +kernel, by decide +kernel, ?_⟩
  rintro ⟨derives, _⟩
  have resets : (derivePrivateKey zeroSdk longPath : EStateM Exc Unit _).run () = .error .reset () := by
    decide +kernel
  exact (derives ()).1 resets

end FantomLedger
