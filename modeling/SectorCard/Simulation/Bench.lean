import SectorCard.Simulation.Chip
import SectorCard.Wire.Link

/-!
# A test bench

A bench holds a device, either a chip or a list of answers prepared in advance, keeps a record of the commands
it was sent, and can be plugged and unplugged.
-/

namespace SectorCard.Simulation

/-- What answers on a bench: a chip, or answers prepared in advance, with one for all that comes later. -/
inductive Device where
  | script (replies : List Prepared) (rest : Prepared)
  | chip (c : Chip)
  deriving DecidableEq, Repr

namespace Device

/-- The answer to a command and the device after it. -/
def respond (command : Bytes) : Device → Prepared × Device
  | .script [] rest => (rest, .script [] rest)
  | .script (reply :: replies) rest => (reply, .script replies rest)
  | .chip c =>
    let (answer, c) := c.respond command
    (answer, .chip c)

/-- Changes the chip, if there is one. -/
def mapChip (f : Chip → Chip) : Device → Device
  | .script replies rest => .script replies rest
  | .chip c => .chip (f c)

/-- Forgets which sector is authenticated. -/
def loseAuth : Device → Device := mapChip fun c => { c with authed := none }

/-- The bytes stored in a block; prepared answers have no memory. -/
def peek (address : UInt8) : Device → Bytes
  | .script _ _ => List.replicate blockSize 0
  | .chip c => c.load address

end Device

/-- A device with a plug and a record of the commands sent, the latest first. -/
structure Bench where
  connected : Bool
  record : List Bytes
  device : Device
  deriving DecidableEq, Repr

namespace Bench

/-- The commands sent, in order. -/
def sent (b : Bench) : List Bytes := b.record.reverse

/-- Sends a command to the device and records it, if the device is plugged in. -/
def transmit (command : Bytes) (b : Bench) : Except CardError Bytes × Bench :=
  if b.connected then
    let (answer, device) := b.device.respond command
    (answer.onLink, { b with record := command :: b.record, device := device })
  else (.error .notConnected, b)

/-- A bench as a transport. -/
def transport : Transport Bench where
  isConnected := connected
  transmit := transmit

end Bench
end SectorCard.Simulation
