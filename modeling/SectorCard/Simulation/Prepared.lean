import SectorCard.CardError
import SectorCard.Bytes

/-!
# Prepared answers

A simulated device answers a command with bytes, or fails in one of the ways in which an exchange can fail.
The same answer reads differently on a bare link and behind the smart-card service, where every failure is a
fault of the service.
-/

namespace SectorCard.Simulation

/-- The answer of a simulated device. -/
inductive Prepared where
  | bytes (data : Bytes)
  | notConnected
  | transportError
  | fault (f : ServiceFault)
  deriving DecidableEq, Repr

namespace Prepared

def status (sw1 sw2 : UInt8) : Prepared := .bytes [sw1, sw2]

def success (data : Bytes) : Prepared := .bytes (data ++ [0x90, 0x00])

/-- The answer as a bare link gives it. -/
def onLink : Prepared → Except CardError Bytes
  | .bytes data => .ok data
  | .notConnected => .error .notConnected
  | .transportError => .error (.transport none)
  | .fault f => .error (.ofFault f)

/-- The answer as the smart-card service gives it. -/
def onService : Prepared → Except ServiceFault Bytes
  | .bytes data => .ok data
  | .notConnected => .error .noSmartcard
  | .transportError => .error .commError
  | .fault f => .error f

end Prepared
end SectorCard.Simulation
