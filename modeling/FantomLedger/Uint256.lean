import FantomLedger.Errors
import FantomLedger.Library.Schoolbook
import Mathlib.Data.Fin.VecNotation

/-! Unsigned integers of 128 and 256 bits, made of 64-bit limbs. -/

namespace FantomLedger

structure Uint128 where
  upper : UInt64
  lower : UInt64
  deriving DecidableEq, Repr

structure Uint256 where
  upper : Uint128
  lower : Uint128
  deriving DecidableEq, Repr

def isZero128 (number : Uint128) : Bool := number.lower == 0 && number.upper == 0

def isZero256 (number : Uint256) : Bool := isZero128 number.lower && isZero128 number.upper

def clear128 : Uint128 := ⟨0, 0⟩

def clear256 : Uint256 := ⟨clear128, clear128⟩

def equal128 (number1 number2 : Uint128) : Bool :=
  number1.upper == number2.upper && number1.lower == number2.lower

def equal256 (number1 number2 : Uint256) : Bool :=
  equal128 number1.upper number2.upper && equal128 number1.lower number2.lower

def gt128 (number1 number2 : Uint128) : Bool :=
  if number1.upper == number2.upper then number2.lower < number1.lower
  else number2.upper < number1.upper

def gt256 (number1 number2 : Uint256) : Bool :=
  if equal128 number1.upper number2.upper then gt128 number1.lower number2.lower
  else gt128 number1.upper number2.upper

def gte256 (number1 number2 : Uint256) : Bool :=
  gt256 number1 number2 || equal256 number1 number2

/-- A C comparison used as a number. -/
def flag (condition : Bool) : UInt64 := if condition then 1 else 0

def add128 (number1 number2 : Uint128) : Uint128 where
  upper := number1.upper + number2.upper +
    flag (number1.lower + number2.lower < number1.lower)
  lower := number1.lower + number2.lower

def add256 (number1 number2 : Uint256) : Uint256 :=
  let upper := add128 number1.upper number2.upper
  let tmp := add128 number1.lower number2.lower
  { upper := if gt128 number1.lower tmp then add128 upper ⟨0, 1⟩ else upper
    lower := add128 number1.lower number2.lower }

def minus128 (number1 number2 : Uint128) : Uint128 where
  upper := number1.upper - number2.upper -
    flag (number1.lower < number1.lower - number2.lower)
  lower := number1.lower - number2.lower

def minus256 (number1 number2 : Uint256) : Uint256 :=
  let upper := minus128 number1.upper number2.upper
  let tmp := minus128 number1.lower number2.lower
  { upper := if gt128 tmp number1.lower then minus128 upper ⟨0, 1⟩ else upper
    lower := minus128 number1.lower number2.lower }

def or128 (number1 number2 : Uint128) : Uint128 where
  upper := number1.upper ||| number2.upper
  lower := number1.lower ||| number2.lower

def or256 (number1 number2 : Uint256) : Uint256 where
  upper := or128 number1.upper number2.upper
  lower := or128 number1.lower number2.lower

/-- Shifts of a limb by less than 64 bits. -/
def shl64 (limb : UInt64) (value : Nat) : UInt64 := limb <<< UInt64.ofNat value

def shr64 (limb : UInt64) (value : Nat) : UInt64 := limb >>> UInt64.ofNat value

def shiftLeft128 (number : Uint128) (value : Nat) : Uint128 :=
  if 128 ≤ value then clear128
  else if value = 64 then ⟨number.lower, 0⟩
  else if value = 0 then number
  else if value < 64 then
    { upper := shl64 number.upper value + shr64 number.lower (64 - value)
      lower := shl64 number.lower value }
  else ⟨shl64 number.lower (value - 64), 0⟩

def shiftRight128 (number : Uint128) (value : Nat) : Uint128 :=
  if 128 ≤ value then clear128
  else if value = 64 then ⟨0, number.upper⟩
  else if value = 0 then number
  else if value < 64 then
    { upper := shr64 number.upper value
      lower := shl64 number.upper (64 - value) + shr64 number.lower value }
  else ⟨0, shr64 number.upper (value - 64)⟩

def shiftLeft256 (number : Uint256) (value : Nat) : Uint256 :=
  if 256 ≤ value then clear256
  else if value = 128 then ⟨number.lower, clear128⟩
  else if value = 0 then number
  else if value < 128 then
    { upper := add128 (shiftLeft128 number.upper value) (shiftRight128 number.lower (128 - value))
      lower := shiftLeft128 number.lower value }
  else ⟨shiftLeft128 number.lower (value - 128), clear128⟩

def shiftRight256 (number : Uint256) (value : Nat) : Uint256 :=
  if 256 ≤ value then clear256
  else if value = 128 then ⟨clear128, number.upper⟩
  else if value = 0 then number
  else if value < 128 then
    { upper := shiftRight128 number.upper value
      lower := add128 (shiftRight128 number.lower value)
        (shiftLeft128 number.upper (128 - value)) }
  else ⟨clear128, shiftRight128 number.upper (value - 128)⟩

/-- Count the shifts that clear a number; no number needs more rounds than it has bits. -/
def countShifts : Nat → Uint128 → Nat → Nat
  | 0, _, result => result
  | rounds + 1, rest, result =>
      if isZero128 rest then result
      else countShifts rounds (shiftRight128 rest 1) (result + 1)

def bits256 (number : Uint256) : Nat :=
  if !isZero128 number.upper then countShifts 128 number.upper 128
  else countShifts 128 number.lower 0

/-- The sums of a multiplication, by weight. -/
structure Columns (limb : Type) where
  fourth : limb
  third : limb
  second : limb
  first : limb
  deriving DecidableEq, Repr

/-- Products of the 32-bit words of two numbers. -/
def products128 (number1 number2 : Uint128) (x y : Fin 4) : UInt64 :=
  let low32 := (0xffffffff : UInt64)
  let top : Fin 4 → UInt64 := ![shr64 number1.upper 32, number1.upper &&& low32,
    shr64 number1.lower 32, number1.lower &&& low32]
  let bottom : Fin 4 → UInt64 := ![shr64 number2.upper 32, number2.upper &&& low32,
    shr64 number2.lower 32, number2.lower &&& low32]
  top (3 - x) * bottom y

def columns128 (products : Fin 4 → Fin 4 → UInt64) : Columns UInt64 :=
  let low (number : UInt64) : UInt64 := number &&& 0xffffffff
  let high (number : UInt64) : UInt64 := shr64 number 32
  let fourth32 := low (products 0 3)
  let third32 := low (products 0 2) + high (products 0 3)
  let second32 := low (products 0 1) + high (products 0 2)
  let first32 := low (products 0 0) + high (products 0 1)
  let third32 := third32 + low (products 1 3)
  let second32 := second32 + (low (products 1 2) + high (products 1 3))
  let first32 := first32 + (low (products 1 1) + high (products 1 2))
  let second32 := second32 + low (products 2 3)
  let first32 := first32 + (low (products 2 2) + high (products 2 3))
  let first32 := first32 + low (products 3 3)
  ⟨fourth32, third32, second32, first32⟩

def assemble128 (columns : Columns UInt64) : Uint128 :=
  let tmp : Uint128 := ⟨shl64 columns.first 32, 0⟩
  let tmp2 : Uint128 := ⟨shr64 columns.third 32, shl64 columns.third 32⟩
  let target := add128 tmp tmp2
  let tmp2 := add128 ⟨columns.second, 0⟩ target
  add128 ⟨0, columns.fourth⟩ tmp2

def mul128 (number1 number2 : Uint128) : Uint128 :=
  assemble128 (columns128 (products128 number1 number2))

/-- Products of the 64-bit limbs of two numbers. -/
def products256 (number1 number2 : Uint256) (x y : Fin 4) : Uint128 :=
  let top : Fin 4 → Uint128 := ![⟨0, number1.upper.upper⟩, ⟨0, number1.upper.lower⟩,
    ⟨0, number1.lower.upper⟩, ⟨0, number1.lower.lower⟩]
  let bottom : Fin 4 → Uint128 := ![⟨0, number2.upper.upper⟩, ⟨0, number2.upper.lower⟩,
    ⟨0, number2.lower.upper⟩, ⟨0, number2.lower.lower⟩]
  mul128 (top (3 - x)) (bottom y)

def columns256 (products : Fin 4 → Fin 4 → Uint128) : Columns Uint128 :=
  let low (number : Uint128) : Uint128 := ⟨0, number.lower⟩
  let high (number : Uint128) : Uint128 := ⟨0, number.upper⟩
  let fourth64 := low (products 0 3)
  let third64 := add128 (low (products 0 2)) (high (products 0 3))
  let second64 := add128 (low (products 0 1)) (high (products 0 2))
  let first64 := add128 (low (products 0 0)) (high (products 0 1))
  let third64 := add128 (low (products 1 3)) third64
  let tmp2 := add128 (low (products 1 2)) second64
  let second64 := add128 (high (products 1 3)) tmp2
  let tmp2 := add128 (low (products 1 1)) first64
  let first64 := add128 (high (products 1 2)) tmp2
  let second64 := add128 (low (products 2 3)) second64
  let tmp2 := add128 (low (products 2 2)) first64
  let first64 := add128 (high (products 2 3)) tmp2
  let first64 := add128 (low (products 3 3)) first64
  ⟨fourth64, third64, second64, first64⟩

def assemble256 (columns : Columns Uint128) : Uint256 :=
  let target1 : Uint256 := ⟨shiftLeft128 columns.first 64, clear128⟩
  -- the carry of the third column goes to the most significant limb
  let target2 : Uint256 := ⟨⟨columns.third.upper, 0⟩, shiftLeft128 columns.third 64⟩
  let target := add256 target1 target2
  let target2 := add256 ⟨columns.second, clear128⟩ target
  add256 ⟨clear128, columns.fourth⟩ target2

def mul256 (number1 number2 : Uint256) : Uint256 :=
  assemble256 (columns256 (products256 number1 number2))

/-- The values the division loop works on. -/
structure Division where
  copyD : Uint256
  adder : Uint256
  resDiv : Uint256
  resMod : Uint256
  deriving DecidableEq, Repr

def divRound (state : Division) : Division :=
  let taken := if gte256 state.resMod state.copyD then
      { state with
        resMod := minus256 state.resMod state.copyD
        resDiv := or256 state.resDiv state.adder }
    else state
  { taken with
    copyD := shiftRight256 taken.copyD 1
    adder := shiftRight256 taken.adder 1 }

/-- None when the rounds do not bring the remainder below the divisor. -/
def divLoop (r : Uint256) : Nat → Division → Option Division
  | 0, _ => none
  | rounds + 1, state => if gte256 state.resMod r then divLoop r rounds (divRound state) else some state

/-- Divisor and adder are shifted to the top bit of the dividend. -/
def divStart (l r : Uint256) : Division :=
  let diffBits := bits256 l - bits256 r
  let copyD := shiftLeft256 r diffBits
  let adder := shiftLeft256 ⟨clear128, ⟨0, 1⟩⟩ diffBits
  if gt256 copyD l then ⟨shiftRight256 copyD 1, shiftRight256 adder 1, clear256, l⟩
  else ⟨copyD, adder, clear256, l⟩

/-- Quotient and remainder; none where the loop would not end (a divisor of zero). Each
round halves the adder, which starts below 2 ^ 256, so more rounds are never run. -/
def divMod256 (l r : Uint256) : Option (Uint256 × Uint256) :=
  if gt256 r l then some (clear256, l)
  else (divLoop r 258 (divStart l r)).map fun state => (state.resDiv, state.resMod)

/-- None when the buffer is shorter than the number. -/
def readUint64BE : List UInt8 → Option UInt64
  | b0 :: b1 :: b2 :: b3 :: b4 :: b5 :: b6 :: b7 :: _ =>
      some (shl64 b0.toUInt64 56 ||| shl64 b1.toUInt64 48 ||| shl64 b2.toUInt64 40 |||
        shl64 b3.toUInt64 32 ||| shl64 b4.toUInt64 24 ||| shl64 b5.toUInt64 16 |||
        shl64 b6.toUInt64 8 ||| b7.toUInt64)
  | _ => none

variable {σ : Type}

def readUint128BE (buffer : List UInt8) (length : Nat) : EStateM Exc σ Uint128 := do
  validate (16 ≤ length) errAssert
  return ⟨← inside (readUint64BE buffer), ← inside (readUint64BE (buffer.drop 8))⟩

def readUint256BE (buffer : List UInt8) (length : Nat) : EStateM Exc σ Uint256 := do
  validate (32 ≤ length) errAssert
  return ⟨← readUint128BE buffer 16, ← readUint128BE (buffer.drop 16) 16⟩

/-- The data is padded with zeros from the left to 32 bytes first. -/
def uint256ConvertBE (data : List UInt8) (length : Nat) : EStateM Exc σ Uint256 := do
  validate (length ≤ 32) errAssert
  let copied ← inside (if length ≤ data.length then some (data.take length) else none)
  readUint256BE (List.replicate (32 - length) 0 ++ copied) 32

end FantomLedger
