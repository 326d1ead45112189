import FantomLedger.Library.Der
import FantomLedger.PathUse
import FantomLedger.TransactionSign

/-! The two numbers of a signature, taken out of the encoding that the signing call returns. -/

namespace FantomLedger

open Library Library.Program

theorem storeRight_toList {size : Nat} {source : List UInt8} (fits : source.length ≤ size) :
    (storeRight (Vector.replicate size 0) source).toList =
      List.replicate (size - source.length) 0 ++ source := by
  apply List.ext_getElem
  · rw [Vector.length_toList, List.length_append, List.length_replicate]
    omega
  · intro i inside _
    rw [Vector.length_toList] at inside
    simp only [storeRight, Vector.getElem_toList, Vector.getElem_ofFn]
    split_ifs with before
    · rw [List.getElem_append_left (by rw [List.length_replicate]; exact before),
        List.getElem_replicate, Fin.getElem_fin, Vector.getElem_replicate]
    · rw [List.getElem_append_right (by rw [List.length_replicate]; omega),
        List.getD_eq_getElem _ _ (by omega)]
      simp only [List.length_replicate]

/-- Bytes copied to the end of a cleared array are the encoding of their value in its width. -/
theorem storeRight_fixed {size n : Nat} {source : List UInt8} (fits : source.length ≤ size)
    (value : Rlp.beNat source = n) : storeRight (Vector.replicate size 0) source = Der.fixed size n := by
  apply Der.eq_fixed
  rw [storeRight_toList fits, Der.beNat_zeros, value]

variable {σ : Type}

/-- The byte before a value is its length; at 33 the leading byte is left out. -/
theorem signatureValue_run {sig : Vector UInt8 100} {front rest : List UInt8} {n : Nat}
    (small : n < 256 ^ 32)
    (split : sig.toList = front ++ UInt8.ofNat (Der.content n).length :: (Der.content n ++ rest)) :
    ∃ xOffset xLength,
      (∀ s : σ, (signatureValue sig (front.length + 1)).run s = .ok (xOffset, xLength) s) ∧
      xLength ≤ txSignatureHashLength ∧
      xOffset + xLength = front.length + 1 + (Der.content n).length ∧
      ((sig.toList.drop xOffset).take xLength).length = xLength ∧
      Rlp.beNat ((sig.toList.drop xOffset).take xLength) = n := by
  have most := Der.content_length_le small
  have byte : (UInt8.ofNat (Der.content n).length).toNat = (Der.content n).length := by
    rw [UInt8.toNat_ofNat']
    exact Nat.mod_eq_of_lt (by omega)
  have placed : sig[front.length]? = some (UInt8.ofNat (Der.content n).length) := by
    rw [← Vector.getElem?_toList, split, List.getElem?_append_right le_rfl, Nat.sub_self]
    rfl
  have behind : sig.toList.drop (front.length + 1) = Der.content n ++ rest := by
    rw [split, ← List.drop_drop, List.drop_left]
    rfl
  have run (s : σ) : (signatureValue sig (front.length + 1)).run s =
      .ok (if (Der.content n).length = 33 then (front.length + 2, 32)
        else (front.length + 1, (Der.content n).length)) s := by
    rw [signatureValue, Nat.add_sub_cancel, placed, inside_some, pure_bind, byte]
    rfl
  by_cases full : (Der.content n).length = 33
  · have value := Der.beNat_content_tail small full
    obtain ⟨first, tail, shape⟩ := List.exists_cons_of_length_eq_add_one full
    have size : tail.length = 32 := by simpa [shape] using full
    have next : sig.toList.drop (front.length + 1 + 1) = tail ++ rest := by
      rw [← List.drop_drop, behind, shape]
      rfl
    have taken : (sig.toList.drop (front.length + 1 + 1)).take 32 = tail := by
      rw [next, ← size, List.take_left]
    simp only [if_pos full] at run
    rw [shape, List.tail_cons] at value
    refine ⟨front.length + 1 + 1, 32, run, le_rfl, by omega, ?_, ?_⟩
    · rw [taken, size]
    · rw [taken, value]
  · have taken : (sig.toList.drop (front.length + 1)).take (Der.content n).length = Der.content n := by
      rw [behind, List.take_left]
    simp only [if_neg full] at run
    have short : (Der.content n).length ≤ 32 := by omega
    refine ⟨front.length + 1, (Der.content n).length, run, short, rfl, ?_, ?_⟩
    · rw [taken]
    · rw [taken, Der.beNat_content]

/-- The address of the sender is computed and stored before the signature. -/
theorem sender_stored (sdk : Sdk) (publicKey : PublicKey) (sender : TxAddress) (s : σ) :
    ∃ sha3Context address stored,
      (getRawAddress sdk publicKey txMaxAddressLength).run s = .ok (sha3Context, address) s ∧
        sender.store 0 address = some stored := by
  obtain ⟨sha3Context, address, run⟩ : ∃ sha3Context address,
      (getRawAddress sdk publicKey txMaxAddressLength).run s = .ok (sha3Context, address) s :=
    ⟨_, _, rfl⟩
  have whole := getRawAddress_eq_ok run
  obtain ⟨stored, store⟩ := Option.isSome_iff_exists.mp
    ((sender.store_isSome_iff 0 address).mpr (.inr (by rw [whole]; decide)))
  exact ⟨sha3Context, address, stored, run, store⟩

/-- What the signing call returns for two numbers: their encoding, and its length. -/
structure DerSigned (signed : EcdsaSignature) (r s : Nat) : Prop where
  first : 1 ≤ r ∧ r < 2 ^ 256
  second : 1 ≤ s ∧ s < 2 ^ 256
  encoded : ∃ rest, signed.sig.toList = Der.signature r s ++ rest
  length : signed.sigLength.toNat = (Der.signature r s).length

/-- A number of the encoding is found at an offset, and it is copied in its width. -/
structure Located (signed : EcdsaSignature) (place xOffset xLength n : Nat) : Prop where
  found : ∀ ctx : SignTxContext, (signatureValue signed.sig place).run ctx = .ok (xOffset, xLength) ctx
  fits : xLength ≤ txSignatureHashLength
  stored : storeRight (Vector.replicate txSignatureHashLength 0)
    ((signed.sig.toList.drop xOffset).take xLength) = Der.fixed 32 n

theorem located_of_split {signed : EcdsaSignature} {front rest : List UInt8} {n : Nat} (small : n < 2 ^ 256)
    (split : signed.sig.toList =
      front ++ UInt8.ofNat (Der.content n).length :: (Der.content n ++ rest)) :
    ∃ xOffset xLength, Located signed (front.length + 1) xOffset xLength n ∧
      xOffset + xLength = front.length + 1 + (Der.content n).length := by
  obtain ⟨xOffset, xLength, run, fits, ends, taken, value⟩ :=
    signatureValue_run (σ := SignTxContext) small split
  exact ⟨xOffset, xLength, ⟨run, fits, storeRight_fixed (taken.trans_le fits) value⟩, ends⟩

theorem der_first (r s : Nat) : ∃ total, Der.signature r s =
    [0x30, total, 0x02] ++ UInt8.ofNat (Der.content r).length :: (Der.content r ++ Der.integer s) := by
  simp only [Der.signature, Der.integer, Der.tagged, List.cons_append, List.nil_append]
  exact ⟨_, rfl⟩

theorem der_length (r s : Nat) :
    (Der.signature r s).length = (Der.content r).length + (Der.content s).length + 6 := by
  simp only [Der.signature, Der.integer, Der.tagged_length, List.length_append]
  omega

/-- Both numbers of an encoding are located, the second one behind the first. -/
theorem DerSigned.located {signed : EcdsaSignature} {r s : Nat} (der : DerSigned signed r s) :
    ∃ rOffset rLength sOffset sLength, Located signed 4 rOffset rLength r ∧
      Located signed (rOffset + rLength + 2) sOffset sLength s ∧
      rOffset + rLength < signed.sigLength.toNat ∧ sOffset + sLength ≤ signed.sigLength.toNat := by
  obtain ⟨rest, encoded⟩ := der.encoded
  obtain ⟨total, front⟩ := der_first r s
  have length := der.length.trans (der_length r s)
  rw [front] at encoded
  obtain ⟨rOffset, rLength, first, firstEnds⟩ := @located_of_split signed [0x30, total, 0x02]
    (Der.integer s ++ rest) r der.first.2 (by rw [encoded]; simp)
  obtain ⟨sOffset, sLength, second, secondEnds⟩ := @located_of_split signed
    ([0x30, total, 0x02, UInt8.ofNat (Der.content r).length] ++ Der.content r ++ [0x02]) rest s der.second.2
    (by rw [encoded]; simp [Der.integer, Der.tagged])
  simp only [List.length_append, List.length_cons, List.length_nil] at first firstEnds second secondEnds
  have next : 0 + 1 + 1 + 1 + 1 + (Der.content r).length + (0 + 1) + 1 = rOffset + rLength + 2 := by
    omega
  rw [next] at second
  exact ⟨rOffset, rLength, sOffset, sLength, first, second, by omega, by omega⟩

/-- The signature as it is sent: its flags, and its two numbers in their width. -/
def sentSignature (signed : EcdsaSignature) (r s : Nat) : TxSignature :=
  ⟨27 + (if signed.parityOdd then 1 else 0) + (if signed.xGTn then 2 else 0), Der.fixed 32 r, Der.fixed 32 s⟩

theorem sentSignature_r (signed : EcdsaSignature) (r s : Nat) :
    (sentSignature signed r s).r = Der.fixed 32 r := rfl

theorem sentSignature_s (signed : EcdsaSignature) (r s : Nat) :
    (sentSignature signed r s).s = Der.fixed 32 s := rfl

theorem txGetSignature_der {sdk : Sdk} {hash : Vector UInt8 32} {ctx : SignTxContext} {privateKey : PrivateKey}
    {chainCode : ChainCode} {r s : Nat}
    (derived : (derivePrivateKey sdk ctx.path).run ctx = .ok (privateKey, chainCode) ctx)
    (der : DerSigned (sdk.cxEcdsaSign privateKey hash) r s) :
    ∃ after, (txGetSignature sdk hash).run ctx = .ok () after ∧
      (ctx.signature = .zero → after.signature = sentSignature (sdk.cxEcdsaSign privateKey hash) r s) := by
  obtain ⟨sha3Context, address, stored, hashed, store⟩ :=
    sender_stored sdk (deriveRawPublicKey sdk privateKey) ctx.tx.sender ctx
  obtain ⟨rOffset, rLength, sOffset, sLength, first, second, inner, outer⟩ := der.located
  have length := der.length.trans (der_length r s)
  unfold sentSignature
  generalize same : sdk.cxEcdsaSign privateKey hash = signed at first second inner outer length ⊢
  have positive : decide (0 < signed.sigLength) = true := by
    rw [decide_eq_true_eq, UInt8.lt_iff_toNat_lt, length]
    exact Nat.succ_pos _
  have got : (get : SignCode SignTxContext).run ctx = .ok ctx ctx := rfl
  have kept : ByteField.store ctx.stream.tx.sender 0 address = some stored := store
  rw [txGetSignature, run_bind_ok got, run_bind_ok derived]
  dsimp only
  rw [run_bind_ok hashed]
  simp only [EStateM.run_bind, EStateM.run_modify, EStateM.run_get, SignTxContext.tx,
    SignTxContext.setSha3Context, same, kept, inside_some, EStateM.run_pure, positive, assertThat_true,
    first.found, decide_eq_true first.fits, validate_true, decide_eq_true inner, second.found,
    decide_eq_true second.fits, decide_eq_true outer]
  refine ⟨_, rfl, fun cleared => ?_⟩
  rw [cleared, ← first.stored, ← second.stored]
  rfl

/-- A signature of two positive numbers below 2^256 comes out of its encoding. -/
theorem signature_undoes_der (sdk : Sdk) (hash : Vector UInt8 32) (ctx : SignTxContext)
    (privateKey : PrivateKey) (chainCode : ChainCode) (r s : Nat) (rest : List UInt8)
    (rBounds : 1 ≤ r ∧ r < 2 ^ 256) (sBounds : 1 ≤ s ∧ s < 2 ^ 256)
    (cleared : ctx.signature = .zero)
    (derived : (derivePrivateKey sdk ctx.path).run ctx = .ok (privateKey, chainCode) ctx)
    (encoded : (sdk.cxEcdsaSign privateKey hash).sig.toList = Der.signature r s ++ rest)
    (length : (sdk.cxEcdsaSign privateKey hash).sigLength.toNat = (Der.signature r s).length) :
    ∃ after, (txGetSignature sdk hash).run ctx = .ok () after ∧
      after.signature.r = Der.fixed 32 r ∧ after.signature.s = Der.fixed 32 s := by
  have der : DerSigned (sdk.cxEcdsaSign privateKey hash) r s := ⟨rBounds, sBounds, ⟨rest, encoded⟩, length⟩
  obtain ⟨after, run, signature⟩ := txGetSignature_der derived der
  have sent := signature cleared
  refine ⟨after, run, ?_, ?_⟩
  · exact (congrArg TxSignature.r sent).trans (sentSignature_r ..)
  · exact (congrArg TxSignature.s sent).trans (sentSignature_s ..)

/-- The encoding of 1 and 2^255, the shortest contents and the longest. -/
def unevenSignature : List UInt8 :=
  [0x30, 38, 0x02, 1, 1, 0x02, 33, 0, 0x80] ++ List.replicate 31 0

def unevenSdk : Sdk :=
  { zeroSdk with cxEcdsaSign _ _ := ⟨Vector.ofFn fun i => unevenSignature.getD i 0, 40, true, false⟩ }

theorem uneven_signature_undone :
    ∃ after, (txGetSignature unevenSdk (Vector.replicate 32 0)).run
        { SignTxContext.zero with path := firstPath } = .ok () after ∧
      after.signature.r = Der.fixed 32 1 ∧ after.signature.s = Der.fixed 32 (2 ^ 255) :=
  signature_undoes_der unevenSdk (Vector.replicate 32 0) { SignTxContext.zero with path := firstPath }
    (Vector.replicate 32 0) (Vector.replicate 32 0) 1 (2 ^ 255) (List.replicate 60 0) (by decide)
    (by decide) rfl rfl (by decide +kernel) (by decide +kernel)

end FantomLedger
