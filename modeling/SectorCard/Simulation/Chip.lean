import SectorCard.Simulation.Prepared
import SectorCard.Geometry

/-!
# A simulated card and reader

The chip holds memory of 256 blocks and the key slots of the reader in front of it.  A lenient chip serves
every access.  A strict chip serves only the sector of its last successful authentication, compares the key in
the named slot with the key stored in the sector's trailer, and hides key A when a trailer is read.

Glitches are planned misbehaviours: each waits for a certain instruction, lets some commands pass, and then
answers in the chip's place without any effect on it.
-/

namespace SectorCard.Simulation

/-- A planned misbehaviour.  Of the commands with its instruction and its address, or any address if it
has none, it lets `skip` pass and answers the next `times`. -/
structure Glitch where
  instruction : UInt8
  address : Option UInt8
  skip : Nat
  times : Nat
  reply : Prepared
  deriving DecidableEq, Repr

namespace Glitch

/-- Whether a glitch is still waiting for a command like this. -/
def awaits (g : Glitch) (instruction address : UInt8) : Bool :=
  g.instruction == instruction && (g.address.all (· == address)) && g.times != 0

/-- The answer of the first glitch that strikes, and the glitches after the command. -/
def strike (instruction address : UInt8) : List Glitch → Option Prepared × List Glitch
  | [] => (none, [])
  | g :: rest =>
    if g.awaits instruction address then
      if g.skip = 0 then (some g.reply, { g with times := g.times - 1 } :: rest)
      else
        let (answer, rest) := strike instruction address rest
        (answer, { g with skip := g.skip - 1 } :: rest)
    else
      let (answer, rest) := strike instruction address rest
      (answer, g :: rest)

end Glitch

/-- A simulated card behind a simulated reader.  Access needs authentication if it is strict.  Of what
was written and of what was loaded, the latest comes first. -/
structure Chip where
  strict : Bool
  blocks : List (UInt8 × Bytes)
  slots : List (UInt8 × Bytes)
  authed : Option Nat
  glitches : List Glitch
  deriving DecidableEq, Repr

namespace Chip

/-- A chip that nothing was done to yet. -/
def new (strict : Bool) : Chip := ⟨strict, [], [], none, []⟩

/-! ## Memory -/

/-- The sector of a block. -/
def sectorOf (address : UInt8) : Nat := Geometry.sectorIndex address.toNat

/-- The trailer block of a sector. -/
def trailerOf (sector : Nat) : UInt8 := UInt8.ofNat (Geometry.trailerIndex sector)

/-- Whether a block is the trailer of its sector. -/
def isTrailer (address : UInt8) : Bool := trailerOf (sectorOf address) == address

/-- The trailer that cards are delivered with. -/
def deliveredTrailer : Bytes :=
  List.replicate 6 0xff ++ [0xff, 0x07, 0x80, 0x69] ++ List.replicate 6 0xff

/-- The contents of a block that was never written. -/
def blank (strict : Bool) (address : UInt8) : Bytes :=
  if strict && isTrailer address then deliveredTrailer else List.replicate blockSize 0

/-- The sixteen bytes stored in a block. -/
def load (chip : Chip) (address : UInt8) : Bytes :=
  (chip.blocks.lookup address).getD (blank chip.strict address)

/-- Stores data in a block. -/
def store (chip : Chip) (address : UInt8) (data : Bytes) : Chip :=
  { chip with
    blocks := (address, Bytes.fit blockSize data) :: chip.blocks.filter fun entry => entry.1 != address }

/-- The bytes of a block that a reader gets to see: a strict chip hides key A. -/
def visible (chip : Chip) (address : UInt8) : Bytes :=
  if chip.strict && isTrailer address then List.replicate 6 0 ++ (chip.load address).drop 6
  else chip.load address

/-! ## Commands -/

/-- Whether the key in a slot is the key of a sector under a code. -/
def keyMatches (chip : Chip) (sector : Nat) (code : UInt8) (slot : UInt8) : Bool :=
  let trailer := chip.load (trailerOf sector)
  let wanted := if code == 0x60 then trailer.take 6 else trailer.drop 10
  chip.slots.lookup slot == some wanted

/-- Whether an access to a block is served. -/
def serves (chip : Chip) (address : UInt8) : Bool :=
  !chip.strict || chip.authed == some (sectorOf address)

/-- Carries out a command that is not struck by a glitch; `tail` is what follows the header and is not
empty. -/
def carryOut (chip : Chip) (instruction address first : UInt8) (tail : Bytes) : Prepared × Chip :=
  match instruction with
  | 0xb0 =>
    if chip.serves address then
      (.success ((chip.visible address).take (min first.toNat blockSize)), chip)
    else (.status 0x63 0x00, chip)
  | 0xd6 =>
    if chip.serves address then (.success [], chip.store address (tail.drop 1))
    else (.status 0x63 0x00, chip)
  | 0x82 =>
    (.success [], { chip with
      slots := (address, tail.drop 1) :: chip.slots.filter fun entry => entry.1 != address })
  | 0x88 =>
    if !chip.strict then (.success [], chip)
    else
      let sector := sectorOf address
      match tail with
      | [code, slot] =>
        if chip.keyMatches sector code slot then (.success [], { chip with authed := some sector })
        else (.status 0x63 0x00, { chip with authed := none })
      | _ => (.status 0x63 0x00, { chip with authed := none })
  | _ => (.status 0x6d 0x00, chip)

/-- The answer to a command and the chip after it. -/
def respond (chip : Chip) (command : Bytes) : Prepared × Chip :=
  match command with
  | cla :: instruction :: _ :: address :: first :: rest =>
    if cla == 0xff then
      let (struck, glitches) := Glitch.strike instruction address chip.glitches
      let chip := { chip with glitches := glitches }
      match struck with
      | some answer => (answer, chip)
      | none => chip.carryOut instruction address first (first :: rest)
    else (.status 0x6e 0x00, chip)
  | _ => (.status 0x6e 0x00, chip)

end Chip
end SectorCard.Simulation
