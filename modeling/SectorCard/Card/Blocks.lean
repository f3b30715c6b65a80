import SectorCard.Card.Authorization

/-!
# Data blocks

Data blocks are read and written one by one or in runs.  A trailer block is never a data block, and the
manufacturer's block cannot be written.  Each block is checked, and its key chosen, just before it is
accessed, so a run that meets a forbidden block has done its work up to there.
-/

namespace SectorCard

structure Block where
  bytes : Bytes
  length_bytes : bytes.length = blockSize
  deriving DecidableEq

def Block.ofBytes (bytes : Bytes) : Except CardError Block :=
  if h : bytes.length = blockSize then .ok ⟨bytes, h⟩ else .error .size

namespace Card

def blockLength : UInt8 := 16

/-- The sector of a block that may be accessed as data. -/
def dataSector (card : Card) (block : UInt16) (access : Access) : Except CardError UInt8 :=
  match card.geometry.sectorOf block with
  | .error e => .error e
  | .ok sector =>
    if card.geometry.isTrailer block || (access == .write && card.geometry.isManufacturer block) then
      .error (.invalidBlock block)
    else .ok sector

/-- Reads a block of a sector under the key for reading; a reply shorter than a block is refused. -/
def readAuthorized (sector : UInt8) (block : UInt16) : CardM Bytes := do
  let selector ← inspect fun card => card.chooseKey sector .read
  let address ← Procedure.ofExcept (Checked.narrow block)
  let data ← withAuthRetry sector selector (Coupler.readPage address blockLength)
  if data.length < blockSize then throw (.error .size) else pure data

def writeAuthorized (sector : UInt8) (block : UInt16) (page : Bytes) : CardM Unit := do
  let selector ← inspect fun card => card.chooseKey sector .write
  let address ← Procedure.ofExcept (Checked.narrow block)
  withAuthRetry sector selector (Coupler.writePage address page)

def readBlock (block : UInt16) : CardM Bytes := do
  let sector ← inspect fun card => Failure.lift (card.dataSector block .read)
  readAuthorized sector block

def writeBlock (block : UInt16) (data : Block) : CardM Unit := do
  let sector ← inspect fun card => Failure.lift (card.dataSector block .write)
  writeAuthorized sector block data.bytes

/-- Reads the front of consecutive data blocks, as many bytes of each as the list says. -/
def readRun : (block : UInt16) → List Nat → CardM Bytes
  | _, [] => pure []
  | block, take :: rest => do
    let sector ← inspect fun card => Failure.lift (card.dataSector block .read)
    let data ← readAuthorized sector block
    let part ← Procedure.ofExcept (Checked.front take data)
    let next ← Procedure.ofExcept (Checked.next block)
    let others ← readRun next rest
    pure (part ++ others)

def readLinear (start : UInt16) (length : Nat) : CardM Bytes :=
  readRun start (Bytes.pieceLengths blockSize length)

/-- Writes pieces to consecutive data blocks, each filled up with zeros. -/
def writeRun : (block : UInt16) → List Bytes → CardM Unit
  | _, [] => pure ()
  | block, piece :: rest => do
    let sector ← inspect fun card => Failure.lift (card.dataSector block .write)
    let page ← Procedure.ofExcept (Checked.page blockSize piece)
    writeAuthorized sector block page
    let next ← Procedure.ofExcept (Checked.next block)
    writeRun next rest

/-- Writes data to consecutive data blocks; the last one is filled up with zeros. -/
def writeLinear (start : UInt16) (data : Bytes) : CardM Unit :=
  writeRun start (Bytes.pieces blockSize data)

end Card
end SectorCard
