import SectorCard.Key.Selector
import SectorCard.Wire.StatusWord
import SectorCard.Service.Fault
import SectorCard.Text.Hex

/-!
# Errors

One type holds every reason for which an operation on a card is refused.  Each reason carries the data that
its report shows.  The name, the message and the status word of an error are each given in one place.
-/

namespace SectorCard

/-- Why an operation on a card was refused.  A failed exchange carries the fault of the service if it
came from there; a status is unexpected if it has no place in a chained exchange; no key is usable if the
policy of the sector permits the operation to none. -/
inductive CardError where
  | notConnected
  | transport (cause : Option ServiceFault)
  | malformedReply (length : Nat)
  | authFailed (status : StatusWord)
  | loadKeyFailed (status : StatusWord)
  | readFailed (status : StatusWord)
  | writeFailed (status : StatusWord)
  | unexpectedStatus (status : StatusWord)
  | invalidBlock (block : UInt16)
  | invalidSector (sector : UInt8)
  | unsupportedPolicy
  | invalidAccessBits
  | noUsableKey (sector : UInt8)
  | keyNotConfigured (selector : KeySelector)
  | notAuthenticating (selector : KeySelector)
  | invalidKeySlot (slot : UInt8)
  | size
  | cipher
  deriving DecidableEq, Repr

namespace CardError

def name : CardError → String
  | .notConnected => "NotConnected"
  | .transport _ => "TransportError"
  | .malformedReply _ => "MalformedResponse"
  | .authFailed _ => "AuthFailed"
  | .loadKeyFailed _ => "LoadKeyFailed"
  | .readFailed _ => "ReaderReadError"
  | .writeFailed _ => "ReaderWriteError"
  | .unexpectedStatus _ => "UnexpectedStatus"
  | .invalidBlock _ => "InvalidBlock"
  | .invalidSector _ => "InvalidSector"
  | .unsupportedPolicy => "UnsupportedAccessCombination"
  | .invalidAccessBits => "InvalidAccessBits"
  | .noUsableKey _ => "NoUsableKey"
  | .keyNotConfigured _ => "KeyNotConfigured"
  | .notAuthenticating _ => "KeyTypeNotAuthenticating"
  | .invalidKeySlot _ => "InvalidKeySlot"
  | .size => "SizeError"
  | .cipher => "CipherError"

def showStatus (w : StatusWord) : String :=
  "(SW=" ++ String.ofList (Hex.upperPair w.sw1 ++ Hex.upperPair w.sw2) ++ ")"

def message : CardError → String
  | .notConnected => "card not connected"
  | .transport (some fault) => "PC/SC error: " ++ fault.text
  | .transport none => "transport error"
  | .malformedReply length =>
    "malformed response (" ++ toString length ++ " bytes, need at least 2)"
  | .authFailed status => "authentication failed " ++ showStatus status
  | .loadKeyFailed status => "load key failed " ++ showStatus status
  | .readFailed status => "read failed " ++ showStatus status
  | .writeFailed status => "write failed " ++ showStatus status
  | .unexpectedStatus status => "card returned unexpected status " ++ showStatus status
  | .invalidBlock block => "invalid block: " ++ toString block.toNat
  | .invalidSector sector => "invalid sector: " ++ toString sector.toNat
  | .unsupportedPolicy => "unsupported access combination"
  | .invalidAccessBits => "invalid access bits"
  | .noUsableKey sector =>
    "no key permitted for this operation in sector " ++ toString sector.toNat
  | .keyNotConfigured selector => "no key configured for key type " ++ selector.name
  | .notAuthenticating selector =>
    "key type " ++ selector.name ++ " cannot be used to authenticate"
  | .invalidKeySlot slot => "invalid key slot: 0x" ++ Hex.lower [slot]
  | .size => "size error"
  | .cipher => "cipher error"

def status? : CardError → Option StatusWord
  | .authFailed status | .loadKeyFailed status | .readFailed status | .writeFailed status
  | .unexpectedStatus status => some status
  | _ => none

/-- The fault of the service behind an error. -/
def cause? : CardError → Option ServiceFault
  | .transport cause => cause
  | _ => none

/-- The error a fault of the service amounts to: faults that say there is no card mean that nothing is
connected, all others are failures of the transport. -/
def ofFault (fault : ServiceFault) : CardError :=
  if fault.meansNoCard then .notConnected else .transport (some fault)

end CardError
end SectorCard
