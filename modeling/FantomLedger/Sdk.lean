import FantomLedger.Errors
import Mathlib.Data.Vector.Defs

/-! The operating system's cryptography, of which only the types are known here. -/

namespace FantomLedger

abbrev PrivateKey := Vector UInt8 32
abbrev ChainCode := Vector UInt8 32

/-- An uncompressed point, its first byte included. -/
abbrev PublicKey := Vector UInt8 65

/-- The output buffer of the signing call, the length it returns and its flags. -/
structure EcdsaSignature where
  sig : Vector UInt8 100
  sigLength : UInt8
  parityOdd : Bool
  xGTn : Bool
  deriving DecidableEq, Repr

/-- The calls of the operating system that compute something from their arguments alone. -/
structure Sdk where
  keccak256 : List UInt8 → Vector UInt8 32
  osPersoDeriveNodeBip32 : List UInt32 → PrivateKey × ChainCode
  cxEcfpGeneratePair : PrivateKey → PublicKey
  cxEcdsaSign : PrivateKey → Vector UInt8 32 → EcdsaSignature

/-- The two user interface builds of the application. -/
inductive Build where
  | bagl
  | nbgl
  deriving DecidableEq, Repr

end FantomLedger
