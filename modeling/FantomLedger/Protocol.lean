import FantomLedger.Library.Exchange
import FantomLedger.Sessions

/-! The messages that the host and the device exchange, in both builds. -/

namespace FantomLedger

open Library.Exchange

structure Response where
  code : Nat
  payload : Payload
  deriving DecidableEq, Repr

def Payload.isSignature : Payload → Bool
  | .signature _ => true
  | _ => false

/-- The payload that belongs to an instruction and its first parameter. -/
inductive Payload.Belongs : Ins → UInt8 → Payload → Prop
  | version (p1 major minor patch flags : UInt8) :
    Payload.Belongs .version p1 (.version major minor patch flags)
  | pubKey (p1 : UInt8) (key : ExtendedPublicKey) : Payload.Belongs .getKey p1 (.pubKey key)
  | address (p1 : UInt8) (address : ByteField 64) : Payload.Belongs .getAddr p1 (.address address)
  | started : Payload.Belongs .signTx p1NewTransaction .empty
  | stage (stage : TxStage) : Payload.Belongs .signTx p1StreamData (.stage stage)
  | signature (signature : TxSignature) : Payload.Belongs .signTx p1GetSignature (.signature signature)

/-- A response that an APDU can have: an error, or what belongs to its instruction. -/
inductive Response.Fits : List UInt8 → Response → Prop
  | error (bytes : List UInt8) {code : Nat} (fails : code ≠ success) : Response.Fits bytes ⟨code, .empty⟩
  | success {ins : Ins} {p1 : UInt8} {payload : Payload} (rest : List UInt8)
    (belongs : payload.Belongs ins p1) : Response.Fits (cla :: ins.byte :: p1 :: rest) ⟨success, payload⟩

theorem awaits_error {messages : List (Library.Exchange.Message (List UInt8) Response)} {response : Response}
    {code : Nat} (awaits : Awaits Response.Fits messages response) (fails : code ≠ success) :
    Awaits Response.Fits messages ⟨code, .empty⟩ := by
  obtain ⟨earlier, bytes, rfl, _⟩ := awaits
  exact awaits_request (.error bytes fails)

abbrev Message := Library.Exchange.Message (List UInt8) Response

/-- What of the outputs goes to the host. -/
def answers (outputs : List Output) : List Message :=
  outputs.filterMap fun
    | .response code payload => some (.answer ⟨code, payload⟩)
    | _ => none

end FantomLedger
