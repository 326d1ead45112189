import FantomLedger.DeriveKey
import FantomLedger.TextBuffer
import FantomLedger.TransactionFields
import FantomLedger.TxStream

/-! Addresses: the last bytes of a public key's hash, and their text with its checksum. -/

namespace FantomLedger

open TextBuffer

def rawAddressSize : Nat := 20
def addressHashBufferSize : Nat := 32
def minAddressStrBufferSize : Nat := 43

/-- HEXDIGITS. -/
def hexDigits8 : List UInt8 := "0123456789abcdef".toList.map fun c => UInt8.ofNat c.toNat

def hexByte (digit : UInt8) : UInt8 := hexDigits8.getD digit.toNat 0

/-- The upper and the lower digit of every byte. -/
def nibbles (bytes : List UInt8) : List UInt8 :=
  bytes.flatMap fun byte : UInt8 => [(byte >>> 4) &&& 0x0f, byte &&& 0x0f]

/-- A digit of the text; letters are folded to upper case where the checksum says so. -/
def foldDigit (digit checksum : UInt8) : Char :=
  let lower := hexByte digit
  let folded := if 10 ≤ digit ∧ 8 ≤ checksum then lower - 97 + 65 else lower
  Char.ofNat folded.toNat

/-- The context of a hash after the last data, and the digest. -/
def Sha3Context.cxHashLast (sdk : Sdk) (context : Sha3Context) (data : List UInt8) :
    Sha3Context × Vector UInt8 32 :=
  let absorbed := context.absorbed ++ data
  (⟨absorbed, true⟩, sdk.keccak256 absorbed)

variable {σ : Type} (sdk : Sdk)

def getRawAddress (publicKey : PublicKey) (outSize : Nat) :
    EStateM Exc σ (Sha3Context × List UInt8) := do
  assertThat (rawAddressSize ≤ outSize)
  let (sha3Context, hashAddress) :=
    cxKeccakInit.cxHashLast sdk ((publicKey.toList.drop 1).take 64)
  return (sha3Context, hashAddress.toList.drop (addressHashBufferSize - rawAddressSize))

def deriveAddress (path : Bip44Path) (outSize : Nat) : EStateM Exc σ (Sha3Context × List UInt8) := do
  assertThat (outSize < maxBufferSize)
  assertThat (rawAddressSize ≤ outSize)
  let (privateKey, _) ← derivePrivateKey sdk path
  let publicKey := deriveRawPublicKey sdk privateKey
  getRawAddress sdk publicKey outSize

section Alike

open Library.Program

variable {τ : Type}

theorem alike_getRawAddress (publicKey : PublicKey) (outSize : Nat) :
    Alike (getRawAddress sdk publicKey outSize : EStateM Exc σ _)
      (getRawAddress sdk publicKey outSize : EStateM Exc τ _) :=
  (alike_assertThat _).bind fun _ => alike_pure _

theorem alike_deriveAddress (path : Bip44Path) (outSize : Nat) :
    Alike (deriveAddress sdk path outSize : EStateM Exc σ _)
      (deriveAddress sdk path outSize : EStateM Exc τ _) := by
  apply (alike_assertThat _).bind
  intro _
  apply (alike_assertThat _).bind
  intro _
  exact (alike_derivePrivateKey sdk path).bind fun _ => alike_getRawAddress sdk _ _

end Alike

section Length

open Library.Program

variable {sdk}

theorem getRawAddress_eq_ok {publicKey : PublicKey} {outSize : Nat} {s t : σ}
    {sha3Context : Sha3Context} {address : List UInt8}
    (run : (getRawAddress sdk publicKey outSize).run s = .ok (sha3Context, address) t) :
    address.length = rawAddressSize := by
  obtain ⟨_, _, _, run⟩ := run_bind_eq_ok.mp run
  cases run
  rw [List.length_drop, Vector.length_toList]
  rfl

theorem deriveAddress_eq_ok {path : Bip44Path} {outSize : Nat} {s t : σ}
    {sha3Context : Sha3Context} {address : List UInt8}
    (run : (deriveAddress sdk path outSize).run s = .ok (sha3Context, address) t) :
    address.length = rawAddressSize := by
  obtain ⟨_, _, _, run⟩ := run_bind_eq_ok.mp run
  obtain ⟨_, _, _, run⟩ := run_bind_eq_ok.mp run
  obtain ⟨_, _, _, run⟩ := run_bind_eq_ok.mp run
  exact getRawAddress_eq_ok run

end Length

/-- The hash is taken over all 40 bytes of `tmp`, of which the loop fills two for each byte of
the address, and all 20 bytes at the address are formatted. -/
def addressFormatStr (address : List UInt8) (addrLen : Nat) (tmp : Vector UInt8 40) (outSize : Nat) :
    TextCode Sha3Context := do
  assertThat (outSize < maxBufferSize)
  assertThat (0 < addrLen)
  assertThat (addrLen ≤ rawAddressSize)
  assertThat (minAddressStrBufferSize ≤ outSize)
  let hashed ← inside (if addrLen ≤ address.length then some (address.take addrLen) else none)
  let filled := (nibbles hashed).map hexByte ++ tmp.toList.drop (2 * addrLen)
  let (sha3Context, hashChecksum) := cxKeccakInit.cxHashLast sdk filled
  let shown ← inside (if rawAddressSize ≤ address.length then some (address.take rawAddressSize) else none)
  let digits := List.zipWith foldDigit (nibbles shown) (nibbles hashChecksum.toList)
  let _ ← storeAll 0 ('0' :: 'x' :: digits ++ ['\x00'])
  return sha3Context

end FantomLedger
