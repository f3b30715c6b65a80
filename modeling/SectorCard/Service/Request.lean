import SectorCard.Service.Fault
import SectorCard.Dialogue.Basic
import SectorCard.Bytes

/-!
# The smart-card service

The service of the operating system owns the readers.  A program establishes a context with it, asks for the
list of readers, connects to the card on a reader, exchanges commands with the card, disconnects and releases
the context.  Each call succeeds or fails with a fault of the service.  What the service does is left open: any
responder will do.
-/

namespace SectorCard

/-- The protocol spoken with a card. -/
inductive Protocol where
  | t0
  | t1
  | raw
  deriving DecidableEq, Repr

namespace Protocol

/-- The number of a protocol. -/
def code : Protocol → Nat
  | .t0 => 1
  | .t1 => 2
  | .raw => 4

/-- The protocol with a given number. -/
def ofCode? : Nat → Option Protocol
  | 1 => some .t0
  | 2 => some .t1
  | 4 => some .raw
  | _ => none

/-- The name under which a protocol is reported. -/
def name : Protocol → String
  | .t0 => "T0"
  | .t1 => "T1"
  | .raw => "RAW"

theorem ofCode?_code (p : Protocol) : ofCode? p.code = some p := by
  cases p <;> rfl

end Protocol

/-- What happens to a card when it is disconnected. -/
inductive Disposition where
  | leave
  | reset
  | unpower
  deriving DecidableEq, Repr

/-- The number of a disposition. -/
def Disposition.code : Disposition → Nat
  | .leave => 0
  | .reset => 1
  | .unpower => 2

/-- A connection to a card, as the service hands it out, with the protocol agreed on when the card was
last connected. -/
structure Handle where
  id : Nat
  protocol : Protocol
  deriving DecidableEq, Repr

namespace Service

/-- A call of the service.  The lengths of lists and of the parts of a status are asked for before their
contents.  A reply that is longer than `room` is a fault. -/
inductive Request where
  | establish
  | release
  | isValid
  | listLength
  | listReaders
  | connect (reader : Bytes)
  | reconnect (card : Handle)
  | disconnect (card : Handle) (disposition : Disposition)
  | statusLengths (card : Handle)
  | status (card : Handle)
  | transmit (card : Handle) (command : Bytes) (room : Nat)
  deriving DecidableEq, Repr

/-- What a call gives if it succeeds. -/
abbrev Gain : Request → Type
  | .listLength => Nat
  | .listReaders => List Bytes
  | .connect _ => Handle
  | .reconnect _ => Protocol
  | .status _ => Option Protocol
  | .transmit _ _ _ => Bytes
  | _ => Unit

end Service

/-- The signature of dialogues with the smart-card service. -/
abbrev Service : Signature := ⟨Service.Request, fun q => Except ServiceFault (Service.Gain q)⟩

end SectorCard
