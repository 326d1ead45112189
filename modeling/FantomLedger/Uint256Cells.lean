import FantomLedger.Uint256Division

/-! The 256-bit primitives on pointers: whichever of their operands the target is, they store
what they compute from the values before the call. -/

namespace FantomLedger

section Places

variable {Cell : Type}

inductive Half where
  | upper
  | lower
  deriving DecidableEq, Repr

/-- A pointer to one half of a number in a cell. -/
structure Place (Cell : Type) where
  cell : Cell
  half : Half
  deriving DecidableEq, Repr

def Uint256.get (number : Uint256) : Half → Uint128
  | .upper => number.upper
  | .lower => number.lower

def Uint256.set (number : Uint256) (value : Uint128) : Half → Uint256
  | .upper => { number with upper := value }
  | .lower => { number with lower := value }

/-- The halves of the number that a pointer points to. -/
def upperOf (cell : Cell) : Place Cell := ⟨cell, .upper⟩

def lowerOf (cell : Cell) : Place Cell := ⟨cell, .lower⟩

theorem halves_ne (cell other : Cell) : lowerOf cell ≠ upperOf other := by
  intro same
  cases congrArg Place.half same

def load128 (place : Place Cell) (cells : Cell → Uint256) : Uint128 :=
  (cells place.cell).get place.half

variable [DecidableEq Cell]

def store128 (place : Place Cell) (value : Uint128) (cells : Cell → Uint256) : Cell → Uint256 :=
  Function.update cells place.cell ((cells place.cell).set value place.half)

/-- The assignments to one limb. -/
def storeUpper (place : Place Cell) (limb : UInt64) (cells : Cell → Uint256) : Cell → Uint256 :=
  store128 place { load128 place cells with upper := limb } cells

def storeLower (place : Place Cell) (limb : UInt64) (cells : Cell → Uint256) : Cell → Uint256 :=
  store128 place { load128 place cells with lower := limb } cells

@[simp] theorem load128_store128 (place : Place Cell) (value : Uint128) (cells : Cell → Uint256) :
    load128 place (store128 place value cells) = value := by
  rw [load128, store128, Function.update_self]
  cases place.half <;> rfl

theorem load128_store128_of_ne {place other : Place Cell} (apart : place ≠ other) (value : Uint128)
    (cells : Cell → Uint256) : load128 place (store128 other value cells) = load128 place cells := by
  rw [load128, store128]
  by_cases same : place.cell = other.cell
  · have halves : place.half ≠ other.half := by
      intro equal
      apply apart
      cases place
      cases other
      cases same
      cases equal
      rfl
    rw [same, Function.update_self, load128, same]
    cases first : place.half <;> cases second : other.half <;> first | rfl | skip
    · exact absurd (first.trans second.symm) halves
    · exact absurd (first.trans second.symm) halves
  · rw [Function.update_of_ne same]
    rfl

@[simp] theorem store128_store128 (place : Place Cell) (value later : Uint128)
    (cells : Cell → Uint256) :
    store128 place later (store128 place value cells) = store128 place later cells := by
  rw [store128, store128, Function.update_self, Function.update_idem, store128]
  cases place.half <;> rfl

/-- Both halves of a number replaced. -/
theorem store128_both (cell : Cell) (upper lower : Uint128) (cells : Cell → Uint256) :
    store128 (lowerOf cell) lower (store128 (upperOf cell) upper cells) =
      Function.update cells cell ⟨upper, lower⟩ := by
  rw [store128, store128]
  show Function.update (Function.update cells cell _) cell
    ((Function.update cells cell _ cell).set lower .lower) = _
  rw [Function.update_self, Function.update_idem]
  rfl

section Routines

/-- The second operand may also be a local variable. -/
def add128Cells (number1 : Place Cell) (number2 : (Cell → Uint256) → Uint128) (target : Place Cell)
    (cells : Cell → Uint256) : Cell → Uint256 :=
  let cells := storeUpper target
    ((load128 number1 cells).upper + (number2 cells).upper +
      flag ((load128 number1 cells).lower + (number2 cells).lower < (load128 number1 cells).lower)) cells
  storeLower target ((load128 number1 cells).lower + (number2 cells).lower) cells

def minus128Cells (number1 : Place Cell) (number2 : (Cell → Uint256) → Uint128) (target : Place Cell)
    (cells : Cell → Uint256) : Cell → Uint256 :=
  let cells := storeUpper target
    ((load128 number1 cells).upper - (number2 cells).upper -
      flag ((load128 number1 cells).lower < (load128 number1 cells).lower - (number2 cells).lower)) cells
  storeLower target ((load128 number1 cells).lower - (number2 cells).lower) cells

def add256Cells (number1 number2 target : Cell) (cells : Cell → Uint256) : Cell → Uint256 :=
  let cells := add128Cells (upperOf number1) (load128 (upperOf number2)) (upperOf target) cells
  let tmp := add128 (load128 (lowerOf number1) cells) (load128 (lowerOf number2) cells)
  let cells := if gt128 (load128 (lowerOf number1) cells) tmp then
      add128Cells (upperOf target) (fun _ => ⟨0, 1⟩) (upperOf target) cells
    else cells
  add128Cells (lowerOf number1) (load128 (lowerOf number2)) (lowerOf target) cells

def minus256Cells (number1 number2 target : Cell) (cells : Cell → Uint256) : Cell → Uint256 :=
  let cells := minus128Cells (upperOf number1) (load128 (upperOf number2)) (upperOf target) cells
  let tmp := minus128 (load128 (lowerOf number1) cells) (load128 (lowerOf number2) cells)
  let cells := if gt128 tmp (load128 (lowerOf number1) cells) then
      minus128Cells (upperOf target) (fun _ => ⟨0, 1⟩) (upperOf target) cells
    else cells
  minus128Cells (lowerOf number1) (load128 (lowerOf number2)) (lowerOf target) cells

def shiftLeft128Cells (number : Place Cell) (value : Nat) (target : Place Cell)
    (cells : Cell → Uint256) : Cell → Uint256 :=
  if 128 ≤ value then store128 target clear128 cells
  else if value = 64 then
    let cells := storeUpper target (load128 number cells).lower cells
    storeLower target 0 cells
  else if value = 0 then store128 target (load128 number cells) cells
  else if value < 64 then
    let cells := storeUpper target (shl64 (load128 number cells).upper value +
      shr64 (load128 number cells).lower (64 - value)) cells
    storeLower target (shl64 (load128 number cells).lower value) cells
  else
    let cells := storeUpper target (shl64 (load128 number cells).lower (value - 64)) cells
    storeLower target 0 cells

def shiftRight128Cells (number : Place Cell) (value : Nat) (target : Place Cell)
    (cells : Cell → Uint256) : Cell → Uint256 :=
  if 128 ≤ value then store128 target clear128 cells
  else if value = 64 then
    let cells := storeUpper target 0 cells
    storeLower target (load128 number cells).upper cells
  else if value = 0 then store128 target (load128 number cells) cells
  else if value < 64 then
    store128 target
      { upper := shr64 (load128 number cells).upper value
        lower := shl64 (load128 number cells).upper (64 - value) +
          shr64 (load128 number cells).lower value } cells
  else
    let cells := storeLower target (shr64 (load128 number cells).upper (value - 64)) cells
    storeUpper target 0 cells

def shiftLeft256Cells (number : Cell) (value : Nat) (target : Cell) (cells : Cell → Uint256) :
    Cell → Uint256 :=
  if 256 ≤ value then Function.update cells target clear256
  else if value = 128 then
    let cells := store128 (upperOf target) (load128 (lowerOf number) cells) cells
    store128 (lowerOf target) clear128 cells
  else if value = 0 then Function.update cells target (cells number)
  else if value < 128 then
    -- both halves go to a local variable first
    Function.update cells target
      { upper := add128 (shiftLeft128 (load128 (upperOf number) cells) value)
          (shiftRight128 (load128 (lowerOf number) cells) (128 - value))
        lower := shiftLeft128 (load128 (lowerOf number) cells) value }
  else
    let cells := shiftLeft128Cells (lowerOf number) (value - 128) (upperOf target) cells
    store128 (lowerOf target) clear128 cells

def shiftRight256Cells (number : Cell) (value : Nat) (target : Cell) (cells : Cell → Uint256) :
    Cell → Uint256 :=
  if 256 ≤ value then Function.update cells target clear256
  else if value = 128 then
    let cells := store128 (lowerOf target) (load128 (upperOf number) cells) cells
    store128 (upperOf target) clear128 cells
  else if value = 0 then Function.update cells target (cells number)
  else if value < 128 then
    Function.update cells target
      { upper := shiftRight128 (load128 (upperOf number) cells) value
        lower := add128 (shiftRight128 (load128 (lowerOf number) cells) value)
          (shiftLeft128 (load128 (upperOf number) cells) (128 - value)) }
  else
    let cells := shiftRight128Cells (upperOf number) (value - 128) (lowerOf target) cells
    store128 (upperOf target) clear128 cells

end Routines

section Aliasing

variable (cells : Cell → Uint256)

/-- An assignment to an upper limb leaves the lower limbs alone, at the same place too. -/
theorem load128_storeUpper_lower (place other : Place Cell) (limb : UInt64) :
    (load128 place (storeUpper other limb cells)).lower = (load128 place cells).lower := by
  unfold storeUpper
  by_cases same : place = other
  · rw [same, load128_store128]
  · rw [load128_store128_of_ne same]

theorem storeLower_storeUpper (place : Place Cell) (upper lower : UInt64) :
    storeLower place lower (storeUpper place upper cells) = store128 place ⟨upper, lower⟩ cells := by
  rw [storeLower, storeUpper, load128_store128, store128_store128]

theorem storeUpper_storeLower (place : Place Cell) (upper lower : UInt64) :
    storeUpper place upper (storeLower place lower cells) = store128 place ⟨upper, lower⟩ cells := by
  rw [storeUpper, storeLower, load128_store128, store128_store128]

/-- An operand of which an assignment to an upper limb leaves the lower limb. -/
def KeepsLower (number : (Cell → Uint256) → Uint128) : Prop :=
  ∀ place limb cells, (number (storeUpper place limb cells)).lower = (number cells).lower

theorem keepsLower_load128 (place : Place Cell) : KeepsLower (load128 place) :=
  fun other limb cells => load128_storeUpper_lower cells place other limb

theorem keepsLower_local (value : Uint128) : KeepsLower fun _ : Cell → Uint256 => value :=
  fun _ _ _ => rfl

theorem add128Cells_eq (number1 target : Place Cell) {number2 : (Cell → Uint256) → Uint128}
    (keeps : KeepsLower number2) :
    add128Cells number1 number2 target cells =
      store128 target (add128 (load128 number1 cells) (number2 cells)) cells := by
  simp only [add128Cells, load128_storeUpper_lower, keeps _ _ _, storeLower_storeUpper]
  rfl

theorem minus128Cells_eq (number1 target : Place Cell) {number2 : (Cell → Uint256) → Uint128}
    (keeps : KeepsLower number2) :
    minus128Cells number1 number2 target cells =
      store128 target (minus128 (load128 number1 cells) (number2 cells)) cells := by
  simp only [minus128Cells, load128_storeUpper_lower, keeps _ _ _, storeLower_storeUpper]
  rfl

theorem add256Cells_eq (number1 number2 target : Cell) :
    add256Cells number1 number2 target cells =
      Function.update cells target (add256 (cells number1) (cells number2)) := by
  have lower (place : Cell) (value : Uint128) :
      load128 (lowerOf place) (store128 (upperOf target) value cells) = (cells place).lower :=
    load128_store128_of_ne (halves_ne place target) value cells
  simp only [add256Cells, add128Cells_eq _ _ _ (keepsLower_load128 _),
    add128Cells_eq _ _ _ (keepsLower_local _), load128_store128, store128_store128, lower]
  split_ifs with carries
  · rw [lower, lower, store128_both, add256, if_pos carries]
    rfl
  · rw [lower, lower, store128_both, add256, if_neg carries]
    rfl

theorem minus256Cells_eq (number1 number2 target : Cell) :
    minus256Cells number1 number2 target cells =
      Function.update cells target (minus256 (cells number1) (cells number2)) := by
  have lower (place : Cell) (value : Uint128) :
      load128 (lowerOf place) (store128 (upperOf target) value cells) = (cells place).lower :=
    load128_store128_of_ne (halves_ne place target) value cells
  simp only [minus256Cells, minus128Cells_eq _ _ _ (keepsLower_load128 _),
    minus128Cells_eq _ _ _ (keepsLower_local _), load128_store128, store128_store128, lower]
  split_ifs with borrows
  · rw [lower, lower, store128_both, minus256, if_pos borrows]
    rfl
  · rw [lower, lower, store128_both, minus256, if_neg borrows]
    rfl

theorem shiftLeft128Cells_eq (number target : Place Cell) (value : Nat) :
    shiftLeft128Cells number value target cells =
      store128 target (shiftLeft128 (load128 number cells) value) cells := by
  unfold shiftLeft128Cells shiftLeft128
  simp only [load128_storeUpper_lower, storeLower_storeUpper]
  split_ifs <;> rfl

/-- By a whole limb the source clears the upper limb before it reads it: the target has to be
another place then. -/
theorem shiftRight128Cells_eq {number target : Place Cell} {value : Nat}
    (safe : number ≠ target ∨ value < 64) :
    shiftRight128Cells number value target cells =
      store128 target (shiftRight128 (load128 number cells) value) cells := by
  unfold shiftRight128Cells shiftRight128
  split_ifs with all word
  · rfl
  · have apart : number ≠ target := safe.resolve_right (by omega)
    have upper : load128 number (storeUpper target 0 cells) = load128 number cells :=
      load128_store128_of_ne apart _ cells
    dsimp only
    rw [upper, storeLower_storeUpper]
  · rfl
  · rfl
  · rw [storeUpper_storeLower]

theorem shiftLeft256Cells_eq (number target : Cell) (value : Nat) :
    shiftLeft256Cells number value target cells =
      Function.update cells target (shiftLeft256 (cells number) value) := by
  unfold shiftLeft256Cells shiftLeft256
  split_ifs
  · rfl
  · exact store128_both target _ _ cells
  · rfl
  · rfl
  · rw [shiftLeft128Cells_eq]
    exact store128_both target _ _ cells

/-- The halves of a number replaced in the other order. -/
theorem store128_both_lowerFirst (cell : Cell) (upper lower : Uint128) :
    store128 (upperOf cell) upper (store128 (lowerOf cell) lower cells) =
      Function.update cells cell ⟨upper, lower⟩ := by
  rw [store128, store128]
  show Function.update (Function.update cells cell _) cell
    ((Function.update cells cell _ cell).set upper .upper) = _
  rw [Function.update_self, Function.update_idem]
  rfl

theorem shiftRight256Cells_eq (number target : Cell) (value : Nat) :
    shiftRight256Cells number value target cells =
      Function.update cells target (shiftRight256 (cells number) value) := by
  unfold shiftRight256Cells shiftRight256
  split_ifs
  · rfl
  · exact store128_both_lowerFirst cells target _ _
  · rfl
  · rfl
  · rw [shiftRight128Cells_eq cells (.inl (halves_ne target number).symm)]
    exact store128_both_lowerFirst cells target _ _

end Aliasing

section Modular

/-- Whichever cells the operands are in, also the one that takes the result, the primitives
compute modulo 2 ^ 256; the shift inside the bit count works in place too. -/
theorem primitives_modular (cells : Cell → Uint256) (number1 number2 target : Cell) (value : UInt32) :
    (∃ sum, add256Cells number1 number2 target cells = Function.update cells target sum ∧
      sum.toNat = ((cells number1).toNat + (cells number2).toNat) % 2 ^ 256) ∧
    (∃ difference,
      minus256Cells number1 number2 target cells = Function.update cells target difference ∧
        difference.toNat = ((cells number1).toNat + 2 ^ 256 - (cells number2).toNat) % 2 ^ 256) ∧
    (∃ shifted,
      shiftLeft256Cells number1 value.toNat target cells = Function.update cells target shifted ∧
        shifted.toNat = (cells number1).toNat * 2 ^ value.toNat % 2 ^ 256) ∧
    (∃ shifted,
      shiftRight256Cells number1 value.toNat target cells = Function.update cells target shifted ∧
        shifted.toNat = (cells number1).toNat / 2 ^ value.toNat) ∧
    (gt256 (cells number1) (cells number2) = true ↔ (cells number2).toNat < (cells number1).toNat) ∧
    (gte256 (cells number1) (cells number2) = true ↔ (cells number2).toNat ≤ (cells number1).toNat) ∧
    bits256 (cells number1) = (cells number1).toNat.size ∧
    ∀ place : Place Cell, shiftRight128Cells place 1 place cells =
      store128 place (shiftRight128 (load128 place cells) 1) cells :=
  ⟨⟨_, add256Cells_eq cells number1 number2 target, add256_toNat _ _⟩,
    ⟨_, minus256Cells_eq cells number1 number2 target, minus256_mod _ _⟩,
    ⟨_, shiftLeft256Cells_eq cells number1 target value.toNat, shiftLeft256_toNat _ _⟩,
    ⟨_, shiftRight256Cells_eq cells number1 target value.toNat, shiftRight256_toNat _ _⟩,
    gt256_iff _ _, gte256_iff _ _, bits256_eq _,
    fun _ => shiftRight128Cells_eq cells (.inr (by decide))⟩

end Modular

end Places

end FantomLedger
