import FantomLedger.Bip44
import FantomLedger.Sdk

/-! Private and public keys of a derivation path. -/

namespace FantomLedger

def publicKeySize : Nat := 32

structure ExtendedPublicKey where
  length : UInt8
  publicKey : Vector UInt8 32
  chainCode : ChainCode
  deriving DecidableEq, Repr

variable {σ : Type} (sdk : Sdk)

def derivePrivateKey (path : Bip44Path) : EStateM Exc σ (PrivateKey × ChainCode) := do
  if !bip44HasValidFantomPrefix path then
    throw (.thrown errInvalidData)
  assertThat (path.length < bip32MaxPathLength)
  return sdk.osPersoDeriveNodeBip32 path.indexes

def deriveRawPublicKey (privateKey : PrivateKey) : PublicKey := sdk.cxEcfpGeneratePair privateKey

variable {sdk} in
/-- Only the key of a path of at most nine indexes is derived. -/
theorem length_of_derived {path : Bip44Path} {s t : σ} {keys : PrivateKey × ChainCode}
    (derived : (derivePrivateKey sdk path).run s = .ok keys t) : path.length < bip32MaxPathLength := by
  by_contra long
  rw [derivePrivateKey, decide_eq_false long] at derived
  split_ifs at derived
  · cases derived
  · cases derived

/-- The last 32 bytes of the point in reverse order, with the parity of its other coordinate's
last byte in the top bit of the last one. -/
def extractRawPublicKey (publicKey : PublicKey) : Vector UInt8 32 :=
  let outBuffer := Vector.ofFn fun i : Fin 32 => publicKey[64 - i.val]
  if publicKey[32] &&& 1 ≠ 0 then outBuffer.set 31 (outBuffer[31] ||| 0x80) else outBuffer

def deriveExtendedPublicKey (path : Bip44Path) : EStateM Exc σ ExtendedPublicKey := do
  let (privateKey, chainCode) ← derivePrivateKey sdk path
  let publicKey := deriveRawPublicKey sdk privateKey
  return ⟨UInt8.ofNat publicKeySize, extractRawPublicKey publicKey, chainCode⟩

section Alike

open Library.Program

variable {τ : Type}

theorem alike_derivePrivateKey (path : Bip44Path) :
    Alike (derivePrivateKey sdk path : EStateM Exc σ _) (derivePrivateKey sdk path : EStateM Exc τ _) := by
  apply alike_ite
  · exact (alike_throw _).bind fun _ => (alike_assertThat _).bind fun _ => alike_pure _
  · exact (alike_pure _).bind fun _ => (alike_assertThat _).bind fun _ => alike_pure _

theorem alike_deriveExtendedPublicKey (path : Bip44Path) :
    Alike (deriveExtendedPublicKey sdk path : EStateM Exc σ _)
      (deriveExtendedPublicKey sdk path : EStateM Exc τ _) :=
  (alike_derivePrivateKey sdk path).bind fun _ => alike_pure _

end Alike

end FantomLedger
