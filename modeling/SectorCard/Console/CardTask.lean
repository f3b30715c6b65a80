import SectorCard.Console.Invocation
import SectorCard.Console.Report

/-!
# Tasks on a card

Each task on a card is a procedure that ends with a report.  Reading, writing, showing a trailer and applying a
policy stop at the first error.  Dumping does not: a block that cannot be read is shown as such, and the next
one is tried.

Main statement: `blockNumbers_eq`, the blocks between two block numbers come in order, each once.
-/

namespace SectorCard.Console

/-- What is shown for a block that could not be read. -/
def unreadable : String := "<unreadable>"

def contents (data : Option Bytes) : String := (data.map Hex.upperSpaced).getD unreadable

/-! ## Reading and writing -/

def showBlocks (block count : UInt16) : CardM Report :=
  reporting (Card.readLinear block (count.toNat * blockSize))
    (fun error => "couldn't read block " ++ toString block.toNat ++ ": " ++ error)
    fun data => pure (.finished (Line.blocks block.toNat (Bytes.pieces blockSize data)))

def written (block : UInt16) (length : Nat) : Line :=
  .success "Wrote" (toString length ++ " bytes (" ++ toString (Bytes.pieceCount blockSize length)
    ++ " blocks) starting at block " ++ toString block.toNat)

/-- Writes data, given as hexadecimal text, to consecutive data blocks. -/
def writeBlocks (block : UInt16) (text : String) : CardM Report :=
  match Hex.decode text with
  | .error fault => pure (.failed ("invalid hex data: " ++ fault.message))
  | .ok [] => pure (.failed "nothing to write")
  | .ok data =>
    reporting (Card.writeLinear block data)
      (fun error => "couldn't write block " ++ toString block.toNat ++ ": " ++ error)
      fun () => pure (.finished [written block data.length])

/-! ## Dumping -/

/-- The blocks from `first` up to, but not including, `stop`. -/
def blockNumbers (first stop : UInt16) : List UInt16 :=
  (List.range' first.toNat (stop.toNat - first.toNat)).map UInt16.ofNat

def dumpBlock (block : UInt16) : CardM Line := do
  let data ← ifPossible (Card.readBlock block)
  pure (.block block.toNat (contents data))

/-- The lines of a sector: its data blocks, then its trailer. -/
def dumpSector (sector : UInt8) (first trailer : UInt16) : CardM (List Line) := do
  let blocks ← (blockNumbers first trailer).mapM dumpBlock
  let last ← ifPossible (Card.readTrailer sector)
  pure (.sector sector :: blocks ++ [.block trailer.toNat (contents (last.map SectorTrailer.toBytes))])

/-- Shows sectors one after the other. -/
def dumpSectors : List UInt8 → CardM Report
  | [] => pure (.finished [])
  | sector :: rest => do
    let card ← get
    match card.geometry.firstBlock sector, card.geometry.trailerBlock sector with
    | .ok first, .ok trailer => do
      let lines ← dumpSector sector first trailer
      let report ← dumpSectors rest
      pure (report.after lines)
    | .error e, _ => pure (.failed e.message)
    | _, .error e => pure (.failed e.message)

def allSectors (g : Geometry) : List UInt8 := (List.range g.sectorCount).map UInt8.ofNat

def showSectors (sector : Option UInt8) : CardM Report := do
  match sector with
  | some sector => dumpSectors [sector]
  | none => do
    let card ← get
    dumpSectors (allSectors card.geometry)

/-! ## Trailers -/

/-- The lines about access bits: the condition of each position, and the policy they amount to. -/
def conditionLines (conditions : AccessConditions) : List Line :=
  let positions := (List.range 4).filterMap fun i =>
    (conditions.at? i).map fun c => Line.attribute ("C" ++ toString i) c.digits
  let policy := (conditions.policy?.map AccessPolicy.describe).getD "<custom>"
  positions ++ [.attribute "config" policy]

/-- The lines about a trailer; contradictory access bits are only warned of. -/
def trailerLines (sector : UInt8) (trailer : SectorTrailer) : List Line :=
  let regions := [Line.sector sector,
    .attribute "key A" (Hex.upperSpaced trailer.keyA.bytes),
    .attribute "access" (Hex.upperSpaced trailer.access.toBytes),
    .attribute "key B" (Hex.upperSpaced trailer.keyB.bytes)]
  match trailer.access.decode with
  -- The regions are shown whether or not the bits make sense.
  | .error e => regions ++ [.warning e.message]
  | .ok conditions => regions ++ conditionLines conditions

def showTrailer (sector : UInt8) : CardM Report :=
  reporting (Card.readTrailer sector)
    (fun error => "couldn't read trailer of sector " ++ toString sector.toNat ++ ": " ++ error)
    fun trailer => pure (.finished (trailerLines sector trailer))

/-- A policy and a sector, as reports on applying name them. -/
def target (sector : UInt8) (policy : AccessPolicy) : String :=
  policy.describe ++ " to sector " ++ toString sector.toNat

def updateTrailer (sector : UInt8) (policy : AccessPolicy) (selector : KeySelector) (keepPrevious confirmed : Bool) :
    CardM Report :=
  if !confirmed then
    pure (.stopped (.warning ("this rewrites the keys and access bits of sector "
      ++ toString sector.toNat ++ "; pass --yes to proceed")))
  else
    reporting (Procedure.change (Card.setPolicy sector policy)) id fun () =>
      reporting (Card.applyPolicy sector selector keepPrevious)
        (fun error => "couldn't apply " ++ target sector policy ++ ": " ++ error)
        fun () => pure (.finished [.success "Applied" (target sector policy)])

/-! ## All tasks -/

def CardTask.perform : CardTask → CardM Report
  | .read block count => showBlocks block count
  | .write block text => writeBlocks block text
  | .dump sector => showSectors sector
  | .trailer sector => showTrailer sector
  | .apply sector policy selector keepPrevious confirmed =>
    updateTrailer sector policy selector keepPrevious confirmed

/-- The blocks between two block numbers come in order, each once. -/
theorem blockNumbers_eq {first stop : UInt16} :
    (blockNumbers first stop).map UInt16.toNat = List.range' first.toNat (stop.toNat - first.toNat) := by
  rw [blockNumbers, List.map_map]
  refine (List.map_congr_left ?_).trans (List.map_id _)
  intro n hn
  have below := stop.toNat_lt
  obtain ⟨i, hi, rfl⟩ := List.mem_range'.1 hn
  exact (UInt16.toNat_ofNat' ..).trans (Nat.mod_eq_of_lt (by omega))

end SectorCard.Console
