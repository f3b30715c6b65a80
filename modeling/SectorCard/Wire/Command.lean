import SectorCard.Failure
import SectorCard.Key.Slot

/-!
# Commands

A command to the reader is four header bytes and a body.  The class byte is always the one of commands that
the reader carries out itself.  The body is empty, an expected length, data behind its length, or bytes as
they stand.  A body can be given only once, and data behind a length can have at most 255 bytes.

The four commands the library sends are `Command.readBinary`, `Command.updateBinary`, `Command.loadKey` and
`Command.authenticate`.
-/

namespace SectorCard

inductive Instruction where
  | readBinary
  | updateBinary
  | loadKey
  | authenticate
  | other (code : UInt8)
  deriving DecidableEq, Repr

namespace Instruction

def code : Instruction → UInt8
  | .readBinary => 0xb0
  | .updateBinary => 0xd6
  | .loadKey => 0x82
  | .authenticate => 0x88
  | .other code => code

def ofCode (code : UInt8) : Instruction :=
  if code = 0xb0 then .readBinary
  else if code = 0xd6 then .updateBinary
  else if code = 0x82 then .loadKey
  else if code = 0x88 then .authenticate
  else .other code

@[simp] theorem code_ofCode (c : UInt8) : (ofCode c).code = c := by
  unfold ofCode
  repeat' split
  all_goals simp_all [code]

def name : Instruction → String
  | .readBinary => "ReadBinary"
  | .updateBinary => "UpdateBinary"
  | .loadKey => "LoadKey"
  | .authenticate => "Authenticate"
  | .other code => "Other(" ++ toString code.toNat ++ ")"

end Instruction

/-- What follows the four header bytes: nothing, the expected length of the reply, data behind its
length, or bytes as they stand. -/
inductive Body where
  | empty
  | expect (length : UInt8)
  | data (bytes : Bytes)
  | raw (bytes : Bytes)
  deriving DecidableEq, Repr

/-- A command; where there is a page address, it is the second parameter. -/
structure Command where
  instruction : Instruction
  p1 : UInt8
  p2 : UInt8
  body : Body
  deriving DecidableEq, Repr

namespace Command

/-- The class byte of commands that the reader carries out itself. -/
def readerClass : UInt8 := 0xff

/-! ## Putting a command together -/

def new (instruction : Instruction) : Command := ⟨instruction, 0, 0, .empty⟩

def params (c : Command) (p1 p2 : UInt8) : Command := { c with p1 := p1, p2 := p2 }

def withBody (c : Command) (body : Body) : Except Defect Command :=
  if c.body = .empty then .ok { c with body := body } else .error .bodyAlreadySet

def expect (c : Command) (length : UInt8) : Except Defect Command := c.withBody (.expect length)

def data (c : Command) (bytes : Bytes) : Except Defect Command :=
  if c.body ≠ .empty then .error .bodyAlreadySet
  else if bytes.length ≤ Defect.maxData then c.withBody (.data bytes)
  else .error (.dataTooLong bytes.length)

/-- Adds bytes as they stand. -/
def raw (c : Command) (bytes : Bytes) : Except Defect Command := c.withBody (.raw bytes)

def encodeBody : Body → Bytes
  | .empty => []
  | .expect length => [length]
  | .data bytes => UInt8.ofNat bytes.length :: bytes
  | .raw bytes => bytes

def encode (c : Command) : Bytes :=
  readerClass :: c.instruction.code :: c.p1 :: c.p2 :: encodeBody c.body

/-! ## The commands of the library -/

/-- Read `length` bytes at a page address. -/
def readBinary (address length : UInt8) : Except Defect Command :=
  ((new .readBinary).params 0 address).expect length

/-- Write bytes at a page address. -/
def updateBinary (address : UInt8) (bytes : Bytes) : Except Defect Command :=
  ((new .updateBinary).params 0 address).data bytes

/-- Load a key into the slot it is meant for. -/
def loadKey (entry : KeyEntry) : Except Defect Command :=
  ((new .loadKey).params entry.store.code entry.slot).data entry.key.bytes

/-- Authenticate a page address with the key in a slot, under the code of key A or key B. -/
def authenticate (address keyCode slot : UInt8) : Except Defect Command :=
  ((new .authenticate).params 0 address).raw [keyCode, slot]

theorem readBinary_eq (address length : UInt8) :
    readBinary address length = .ok ⟨.readBinary, 0, address, .expect length⟩ := rfl

theorem updateBinary_eq {bytes : Bytes} (address : UInt8) (h : bytes.length ≤ Defect.maxData) :
    updateBinary address bytes = .ok ⟨.updateBinary, 0, address, .data bytes⟩ := by
  simp [updateBinary, data, withBody, params, new, h]

theorem loadKey_eq (entry : KeyEntry) :
    loadKey entry = .ok ⟨.loadKey, entry.store.code, entry.slot, .data entry.key.bytes⟩ := by
  have h : entry.key.bytes.length ≤ Defect.maxData := by
    rw [entry.key.length_bytes]; decide
  simp [loadKey, data, withBody, params, new, h]

theorem authenticate_eq (address keyCode slot : UInt8) :
    authenticate address keyCode slot = .ok ⟨.authenticate, 0, address, .raw [keyCode, slot]⟩ := rfl

end Command
end SectorCard
