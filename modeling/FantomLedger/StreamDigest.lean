import FantomLedger.StreamMemory
import FantomLedger.StreamSafety

/-! What the digest of a stream covers: the bytes that were consumed, as long as no v item is too long for
its array. Behind the array lie the flags that tell the parser what it has still to hash. -/

namespace FantomLedger

open StreamParser

/-- As long as there was no fault and no v item is too long for its array, the digest has absorbed the chunks
without the part of the last one that was not consumed, whatever lies behind the array. -/
theorem absorbed_is_consumed (overrun : Store) (tx : Transaction) (calls : List Call)
    (spared : ¬LongV (tagged calls).flatten)
    (noFault : (feed (storeOver overrun) (txStreamInit tx) calls).status ≠ .ok .fault) :
    DigestExact (feed (storeOver overrun) (txStreamInit tx) calls) := by
  rw [feed_spared overrun tx spared] at noFault ⊢
  rcases feed_outcome tx calls with ⟨_, long⟩ | ⟨⟨status, answered⟩, _⟩
  · exact absurd long spared
  · apply digestExact_of_ok answered
    rintro rfl
    exact noFault answered

/-- Where the hash context lies in memory. -/
def sha3Address : Nat := 0x20001200

theorem simple_absorbed :
    DigestExact (feed (storeOver (memoryOverrun sha3Address)) (txStreamInit .zero)
      (withFlags 0 simplePieces)) := by
  have answered : (feed storeInside (txStreamInit .zero) (withFlags 0 simplePieces)).status =
      .ok .finished := by decide +kernel
  exact absorbed_is_consumed _ .zero _ (spared_of_ok answered) (by decide +kernel)

/-- The bytes of a v item of the network that is too long for its array. Those past its end leave the pointer
to the hash context and the field as they are, end the item after one byte, and mark it as one that has been
hashed already. -/
def unhashedV : List UInt8 :=
  [0xfa, 0, 0, 0] ++ [1, 0, 0] ++ wordBytes sha3Address ++ wordBytes TxRlpField.v.number ++
    wordBytes 1 ++ wordBytes (2 ^ 32 - 31) ++ [0, 1, 1, 0] ++ wordBytes 0 ++ [0]

/-- Six empty items before that item. -/
def unhashedChunk : Chunk where
  bytes := [0xe9, 0x80, 0x80, 0x80, 0x80, 0x80, 0x80, 0xa0] ++ unhashedV ++ [0x80, 0x80]
  nonempty := nofun
  length_lt := by decide

/-- On a device with this memory the stream is finished without its v item in the digest. -/
theorem longV_not_absorbed :
    let fed := feed (storeOver (memoryOverrun sha3Address)) (txStreamInit .zero) [(unhashedChunk, 0)]
    fed.status = .ok .finished ∧ ¬DigestExact fed := by
  constructor
  · decide +kernel
  · intro digest
    exact absurd digest.bytes (by decide +kernel)

/-- A v item of six bytes behind the data of a call: its last byte takes the mark of the call away. -/
def unmarkedChunk : Chunk where
  bytes := [0xf3, 0x80, 0x80, 0x80, 0x80, 0x80, 0xa4] ++ List.replicate 36 1 ++
    [0x86, 0, 0, 0, 0xfa, 0, 0, 0x80, 0x80]
  nonempty := nofun
  length_lt := by decide

example :
    let fed := feed (storeOver (memoryOverrun sha3Address)) (txStreamInit .zero) [(unmarkedChunk, 0)]
    fed.status = .ok .finished ∧ fed.stream.tx.isContractCall = false := by decide +kernel

end FantomLedger
