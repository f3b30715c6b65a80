import SectorCard.CardError

/-!
# Geometry

A card is an array of blocks, grouped into sectors.  The small card has 16 sectors of 4 blocks.  The large
card has 32 sectors of 4 blocks and, from block 128 on, 8 sectors of 16 blocks.  The last block of a sector
is its trailer.  Block 0 holds the manufacturer's data.

The arithmetic is done on natural numbers (`sectorIndex`, `firstIndex`, `lengthOf`, `trailerIndex`).  On top
of it stand the checked functions, which take and give fixed-width numbers and refuse what is not on the
card.  Main statements: `toNat_of_sectorOf` and its companions (the checked functions compute what the
arithmetic says, so that no number is cut) and `sectorIndex_trailerIndex` (a trailer lies in its own
sector).
-/

namespace SectorCard

/-- The size class of a card: 16 sectors with 64 blocks, or 40 sectors with 256 blocks. -/
inductive Geometry where
  | small
  | large
  deriving DecidableEq, Repr

namespace Geometry

/-- The size of a card about which nothing is known. -/
instance : Inhabited Geometry := ⟨.small⟩

def sectorCount : Geometry → Nat
  | .small => 16
  | .large => 40

def blockCount : Geometry → Nat
  | .small => 64
  | .large => 256

/-! ## Arithmetic -/

/-- The first block that lies in a sector of 16 blocks. -/
def firstWideBlock : Nat := 128

/-- The first sector that has 16 blocks. -/
def firstWideSector : Nat := 32

def sectorIndex (block : Nat) : Nat :=
  if block < firstWideBlock then block / 4
  else firstWideSector + (block - firstWideBlock) / 16

def lengthOf (sector : Nat) : Nat :=
  if sector < firstWideSector then 4 else 16

def firstIndex (sector : Nat) : Nat :=
  if sector < firstWideSector then sector * 4
  else firstWideBlock + (sector - firstWideSector) * 16

/-- The last block of a sector. -/
def trailerIndex (sector : Nat) : Nat :=
  firstIndex sector + lengthOf sector - 1

theorem sectorIndex_trailerIndex (sector : Nat) : sectorIndex (trailerIndex sector) = sector := by
  grind [sectorIndex, trailerIndex, firstIndex, lengthOf, firstWideBlock, firstWideSector]

theorem sectorIndex_firstIndex (sector : Nat) : sectorIndex (firstIndex sector) = sector := by
  grind [sectorIndex, firstIndex, firstWideBlock, firstWideSector]

theorem trailerIndex_lt {g : Geometry} {sector : Nat} (h : sector < g.sectorCount) :
    trailerIndex sector < g.blockCount := by
  cases g <;>
    grind [sectorCount, blockCount, trailerIndex, firstIndex, lengthOf, firstWideBlock,
      firstWideSector]

/-- Every block has a page address. -/
theorem blockCount_le (g : Geometry) : g.blockCount ≤ 256 := by
  cases g <;> decide

theorem firstIndex_le_trailerIndex (sector : Nat) : firstIndex sector ≤ trailerIndex sector := by
  grind [trailerIndex, lengthOf]

theorem sectorIndex_lt {g : Geometry} {block : Nat} (h : block < g.blockCount) :
    sectorIndex block < g.sectorCount := by
  cases g <;> grind [sectorCount, blockCount, sectorIndex, firstWideBlock, firstWideSector]

/-! ## Checked functions -/

def checkBlock (g : Geometry) (block : UInt16) : Except CardError Unit :=
  if block.toNat < g.blockCount then .ok () else .error (.invalidBlock block)

def checkSector (g : Geometry) (sector : UInt8) : Except CardError Unit :=
  if sector.toNat < g.sectorCount then .ok () else .error (.invalidSector sector)

def sectorOf (g : Geometry) (block : UInt16) : Except CardError UInt8 :=
  if block.toNat < g.blockCount then .ok (UInt8.ofNat (sectorIndex block.toNat))
  else .error (.invalidBlock block)

def blocksPerSector (g : Geometry) (sector : UInt8) : Except CardError Nat :=
  if sector.toNat < g.sectorCount then .ok (lengthOf sector.toNat) else .error (.invalidSector sector)

def firstBlock (g : Geometry) (sector : UInt8) : Except CardError UInt16 :=
  if sector.toNat < g.sectorCount then .ok (UInt16.ofNat (firstIndex sector.toNat))
  else .error (.invalidSector sector)

def trailerBlock (g : Geometry) (sector : UInt8) : Except CardError UInt16 :=
  if sector.toNat < g.sectorCount then .ok (UInt16.ofNat (trailerIndex sector.toNat))
  else .error (.invalidSector sector)

/-- Whether a block is on the card and the last one of its sector. -/
def isTrailer (g : Geometry) (block : UInt16) : Bool :=
  block.toNat < g.blockCount && trailerIndex (sectorIndex block.toNat) == block.toNat

def isManufacturer (_ : Geometry) (block : UInt16) : Bool :=
  block == 0

/-! ## No number is cut -/

theorem toNat_of_sectorOf {g : Geometry} {block : UInt16} {sector : UInt8}
    (h : g.sectorOf block = .ok sector) :
    block.toNat < g.blockCount ∧ sector.toNat = sectorIndex block.toNat := by
  unfold sectorOf at h
  split at h
  · rename_i hb
    cases h
    refine ⟨hb, ?_⟩
    have := sectorIndex_lt hb
    have : g.sectorCount ≤ 40 := by cases g <;> decide
    rw [UInt8.toNat_ofNat']
    omega
  · cases h

theorem toNat_of_firstBlock {g : Geometry} {block : UInt16} {sector : UInt8}
    (h : g.firstBlock sector = .ok block) :
    sector.toNat < g.sectorCount ∧ block.toNat = firstIndex sector.toNat := by
  unfold firstBlock at h
  split at h
  · rename_i hs
    cases h
    refine ⟨hs, ?_⟩
    have := trailerIndex_lt hs
    have := firstIndex_le_trailerIndex sector.toNat
    have := g.blockCount_le
    rw [UInt16.toNat_ofNat']
    omega
  · cases h

theorem toNat_of_trailerBlock {g : Geometry} {block : UInt16} {sector : UInt8}
    (h : g.trailerBlock sector = .ok block) :
    sector.toNat < g.sectorCount ∧ block.toNat = trailerIndex sector.toNat := by
  unfold trailerBlock at h
  split at h
  · rename_i hs
    cases h
    refine ⟨hs, ?_⟩
    have := trailerIndex_lt hs
    have := g.blockCount_le
    rw [UInt16.toNat_ofNat']
    omega
  · cases h

/-- A block is a trailer exactly if it is the trailer block of the sector it lies in. -/
theorem isTrailer_iff {g : Geometry} {block : UInt16} :
    g.isTrailer block ↔ ∃ sector, g.sectorOf block = .ok sector ∧ g.trailerBlock sector = .ok block := by
  constructor
  · intro h
    simp only [isTrailer, Bool.and_eq_true, decide_eq_true_eq, beq_iff_eq] at h
    obtain ⟨hb, ht⟩ := h
    have hs := sectorIndex_lt hb
    have h40 : g.sectorCount ≤ 40 := by cases g <;> decide
    have e : (UInt8.ofNat (sectorIndex block.toNat)).toNat = sectorIndex block.toNat := by
      rw [UInt8.toNat_ofNat']; omega
    refine ⟨UInt8.ofNat (sectorIndex block.toNat), by simp [sectorOf, hb], ?_⟩
    calc
      g.trailerBlock (UInt8.ofNat (sectorIndex block.toNat))
          = .ok (UInt16.ofNat (trailerIndex (sectorIndex block.toNat))) := by rw [trailerBlock, e, if_pos hs]
      _ = .ok block := by rw [ht, UInt16.ofNat_toNat]
  · rintro ⟨sector, h1, h2⟩
    obtain ⟨hb, e1⟩ := toNat_of_sectorOf h1
    obtain ⟨-, e2⟩ := toNat_of_trailerBlock h2
    simp [isTrailer, hb, ← e1, ← e2]

end Geometry
end SectorCard
