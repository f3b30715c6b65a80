import Mathlib.Data.List.Forall2
import SectorCard.Console.Program
import SectorCard.Proofs.WireContract

/-!
# Dumps

A dump of a whole card has one line for each sector and one for each of its blocks, in the order of their numbers
(`entries`, `blocks_entries`).  Which lines there are does not depend on the card: a block that cannot be read has its
line like any other (`Legible.dump`).

What the lines say is left to the card.  A predicate on what is shown for a block holds of a whole dump if it holds of
each single read, in any situation that the reads before it may have left behind (`Legible`).
-/

namespace SectorCard

namespace Console

open Procedure

/-! ## What a dump consists of -/

/-- What a line of a dump is about. -/
inductive Entry where
  | sector (number : UInt8)
  | block (number : Nat)
  deriving DecidableEq, Repr

namespace Entry

def block? : Entry → Option Nat
  | .sector _ => none
  | .block number => some number

/-- The line for an entry, given the texts for all blocks. -/
def line (text : Nat → String) : Entry → Line
  | .sector number => .sector number
  | .block number => .block number (text number)

/-- A line is the one for an entry, and the text for a block satisfies `P`. -/
inductive ShownBy (P : Nat → String → Prop) : Entry → Line → Prop where
  | sector (number : UInt8) : ShownBy P (.sector number) (.sector number)
  | block {number : Nat} {text : String} (h : P number text) : ShownBy P (.block number) (.block number text)

end Entry

/-- A sector, and its blocks up to the trailer. -/
def sectorEntries (sector : UInt8) : List Entry :=
  .sector sector :: (List.range' (Geometry.firstIndex sector.toNat) (Geometry.lengthOf sector.toNat)).map .block

def entries (g : Geometry) : List Entry := (allSectors g).flatMap sectorEntries

theorem blocks_sectorEntries (sector : UInt8) : (sectorEntries sector).filterMap Entry.block? =
    List.range' (Geometry.firstIndex sector.toNat) (Geometry.lengthOf sector.toNat) := by
  rw [sectorEntries, List.filterMap_cons_none rfl, List.filterMap_map]
  exact List.filterMap_some

theorem firstIndex_succ (sector : Nat) :
    Geometry.firstIndex (sector + 1) = Geometry.firstIndex sector + Geometry.lengthOf sector := by
  grind [Geometry.firstIndex, Geometry.lengthOf, Geometry.firstWideBlock, Geometry.firstWideSector]

theorem firstIndex_sectorCount (g : Geometry) : Geometry.firstIndex g.sectorCount = g.blockCount := by
  cases g <;> rfl

/-- The blocks of the first sectors are those in front of the next sector. -/
theorem blocks_of_sectors {count : Nat} (hcount : count ≤ 256) :
    (((List.range count).map UInt8.ofNat).flatMap sectorEntries).filterMap Entry.block? =
      List.range (Geometry.firstIndex count) := by
  induction count with
  | zero => rfl
  | succ count ih =>
    have hsector : (UInt8.ofNat count).toNat = count := by
      rw [UInt8.toNat_ofNat']
      omega
    rw [List.range_succ, List.map_append, List.flatMap_append, List.filterMap_append, ih (by omega)]
    simp only [List.map_cons, List.map_nil, List.flatMap_singleton, blocks_sectorEntries, hsector]
    rw [firstIndex_succ, List.range_eq_range', List.range_eq_range', ← List.range'_append_1, Nat.zero_add]

/-- A dump has exactly one line for each block of the card, in the order of their numbers. -/
theorem blocks_entries (g : Geometry) : (entries g).filterMap Entry.block? = List.range g.blockCount := by
  have hcount : g.sectorCount ≤ 256 := by cases g <;> decide
  rw [entries, allSectors, blocks_of_sectors hcount, firstIndex_sectorCount]

theorem line_congr {text text' : Nat → String} {shown : List Entry}
    (h : ∀ block ∈ shown.filterMap Entry.block?, text block = text' block) :
    shown.map (Entry.line text) = shown.map (Entry.line text') := by
  refine List.map_congr_left fun entry hentry => ?_
  cases entry with
  | sector number => rfl
  | block number => exact congrArg (Line.block number) (h number (List.mem_filterMap.2 ⟨_, hentry, rfl⟩))

/-- If no block has two lines, what is shown for a block depends on the block alone. -/
theorem exists_text {P : Nat → String → Prop} {shown : List Entry} {lines : List Line}
    (h : List.Forall₂ (Entry.ShownBy P) shown lines) (honce : (shown.filterMap Entry.block?).Nodup) :
    ∃ text : Nat → String, lines = shown.map (Entry.line text) ∧
      ∀ block ∈ shown.filterMap Entry.block?, P block (text block) := by
  -- By induction on the lines: each new block gets its own text in a function that is there for the rest.
  induction h with
  | nil => exact ⟨fun _ => "", rfl, fun _ h => nomatch h⟩
  | @cons entry line rest others hfirst _ ih =>
    cases hfirst with
    | sector number =>
      rcases ih honce with ⟨text, rfl, htext⟩
      exact ⟨text, rfl, htext⟩
    | @block number first hP =>
      have hblocks : (Entry.block number :: rest).filterMap Entry.block? = number :: rest.filterMap Entry.block? := rfl
      rw [hblocks] at honce ⊢
      rcases List.nodup_cons.1 honce with ⟨hnew, honce⟩
      rcases ih honce with ⟨text, rfl, htext⟩
      -- The other lines are not about this block, so they keep their texts.
      have hkept : ∀ block ∈ rest.filterMap Entry.block?, Function.update text number first block = text block :=
        fun block hblock => Function.update_of_ne (by rintro rfl; exact hnew hblock) _ _
      refine ⟨Function.update text number first, ?_, fun block hblock => ?_⟩
      · rw [List.map_cons, line_congr hkept, Entry.line, Function.update_self]
      · rcases List.mem_cons.1 hblock with rfl | hblock
        · rw [Function.update_self]
          exact hP
        · rw [hkept block hblock]
          exact htext block hblock

/-! ## Reading on after a failure -/

section Reads

variable {ω α : Type} {t : Transport ω} {c : Situation Link Card ω}

/-- A dump goes on after an error, but would not after a broken rule. -/
theorem ensures_ifPossible {p : CardM α} {Q : Except Failure (Option α) → Situation Link Card ω → Prop}
    (h : Ensures t.responder p c fun x c' => NoDefect x ∧ Q (.ok x.toOption) c') :
    Ensures t.responder (ifPossible p) c Q := by
  refine h.bind_attempt ?_
  rintro ((e | d) | a) c' ⟨hplain, hQ⟩
  · exact ensures_pure hQ
  · exact hplain.elim
  · exact ensures_pure hQ

/-- Whatever was read before, so that `I` holds: a read breaks no rule, keeps `I`, and what is shown for its block
satisfies `P`. -/
structure Legible (t : Transport ω) (g : Geometry) (I : Situation Link Card ω → Prop) (P : Nat → String → Prop) :
    Prop where
  geometry : ∀ c, I c → c.state.geometry = g
  data : ∀ c (block : UInt16), I c → block.toNat < g.blockCount →
    Geometry.trailerIndex (Geometry.sectorIndex block.toNat) ≠ block.toNat →
    Ensures t.responder (Card.readBlock block) c fun x c' =>
      NoDefect x ∧ I c' ∧ P block.toNat (contents x.toOption)
  trailer : ∀ c (sector : UInt8), I c → sector.toNat < g.sectorCount →
    Ensures t.responder (Card.readTrailer sector) c fun x c' =>
      NoDefect x ∧ I c' ∧ P (Geometry.trailerIndex sector.toNat) (contents (x.toOption.map SectorTrailer.toBytes))

variable {g : Geometry} {I : Situation Link Card ω → Prop} {P : Nat → String → Prop}

theorem Legible.dumpBlock (h : Legible t g I P) {block : UInt16} (hc : I c) (hblock : block.toNat < g.blockCount)
    (hdata : Geometry.trailerIndex (Geometry.sectorIndex block.toNat) ≠ block.toNat) :
    Ensures t.responder (dumpBlock block) c fun x c' => ∃ line, x = .ok line ∧
      Entry.ShownBy P (.block block.toNat) line ∧ I c' := by
  refine Ensures.bind_of_exists (P := fun data c' => P block.toNat (contents data) ∧ I c') ?_ ?_
  · refine ensures_ifPossible ((h.data c block hc hblock hdata).mono ?_)
    rintro x c' ⟨hplain, hc', hshown⟩
    exact ⟨hplain, _, rfl, hshown, hc'⟩
  · rintro data c' ⟨hshown, hc'⟩
    exact ensures_pure ⟨_, rfl, .block hshown, hc'⟩

theorem Legible.dumpBlocks (h : Legible t g I P) {blocks : List UInt16} (hblocks : ∀ block ∈ blocks,
      block.toNat < g.blockCount ∧ Geometry.trailerIndex (Geometry.sectorIndex block.toNat) ≠ block.toNat)
    (hc : I c) : Ensures t.responder (blocks.mapM Console.dumpBlock) c fun x c' => ∃ lines, x = .ok lines ∧
      List.Forall₂ (Entry.ShownBy P) (blocks.map fun block => .block block.toNat) lines ∧ I c' := by
  induction blocks generalizing c with
  | nil => exact ensures_pure ⟨[], rfl, .nil, hc⟩
  | cons block rest ih =>
    rcases hblocks block List.mem_cons_self with ⟨hblock, hdata⟩
    rw [List.mapM_cons]
    refine (h.dumpBlock hc hblock hdata).bind_of_exists ?_
    rintro line c' ⟨hline, hc'⟩
    refine (ih (fun b hb => hblocks b (List.mem_cons_of_mem _ hb)) hc').bind_of_exists ?_
    rintro lines c'' ⟨hlines, hc''⟩
    exact ensures_pure ⟨line :: lines, rfl, .cons hline hlines, hc''⟩

theorem sectorIndex_eq {sector block : Nat} (hfirst : Geometry.firstIndex sector ≤ block)
    (hlast : block ≤ Geometry.trailerIndex sector) : Geometry.sectorIndex block = sector := by
  grind [Geometry.sectorIndex, Geometry.trailerIndex, Geometry.firstIndex, Geometry.lengthOf, Geometry.firstWideBlock,
    Geometry.firstWideSector]

/-- The data blocks of a sector are those before its trailer. -/
theorem data_of_mem_blockNumbers {sector : UInt8} {first trailer block : UInt16}
    (hfirst : g.firstBlock sector = .ok first) (htrailer : g.trailerBlock sector = .ok trailer)
    (h : block ∈ blockNumbers first trailer) :
    block.toNat < g.blockCount ∧ Geometry.trailerIndex (Geometry.sectorIndex block.toNat) ≠ block.toNat := by
  rcases Geometry.toNat_of_firstBlock hfirst with ⟨hsector, hfirst⟩
  have htrailer := (Geometry.toNat_of_trailerBlock htrailer).2
  have hmem : block.toNat ∈ (blockNumbers first trailer).map UInt16.toNat := List.mem_map_of_mem h
  rw [blockNumbers_eq, List.mem_range'_1] at hmem
  have hcard := Geometry.trailerIndex_lt hsector
  have hsame : Geometry.sectorIndex block.toNat = sector.toNat := sectorIndex_eq (by omega) (by omega)
  rw [hsame]
  omega

theorem sectorEntries_eq {sector : UInt8} {first trailer : UInt16} (hfirst : g.firstBlock sector = .ok first)
    (htrailer : g.trailerBlock sector = .ok trailer) :
    sectorEntries sector = .sector sector ::
      ((blockNumbers first trailer).map (fun block => .block block.toNat) ++ [.block trailer.toNat]) := by
  have hfirst := (Geometry.toNat_of_firstBlock hfirst).2
  have htrailer := (Geometry.toNat_of_trailerBlock htrailer).2
  -- No sector is without a trailer, so the last of its numbers can be split off.
  have hpositive : 0 < Geometry.lengthOf sector.toNat := by
    unfold Geometry.lengthOf
    split <;> decide
  have hlength : Geometry.lengthOf sector.toNat = trailer.toNat - first.toNat + 1 := by
    rw [hfirst, htrailer, Geometry.trailerIndex]
    omega
  have hlast : trailer.toNat = first.toNat + (trailer.toNat - first.toNat) := by
    have := Geometry.firstIndex_le_trailerIndex sector.toNat
    omega
  have hblocks : (blockNumbers first trailer).map (fun block => Entry.block block.toNat) =
      (List.range' first.toNat (trailer.toNat - first.toNat)).map .block := by
    rw [← blockNumbers_eq, List.map_map]
    rfl
  rw [sectorEntries, hlength, ← hfirst, List.range'_1_concat, List.map_append, hblocks, ← hlast]
  rfl

theorem Legible.dumpSector (h : Legible t g I P) {sector : UInt8} {first trailer : UInt16} (hc : I c)
    (hfirst : g.firstBlock sector = .ok first) (htrailer : g.trailerBlock sector = .ok trailer) :
    Ensures t.responder (dumpSector sector first trailer) c fun x c' => ∃ lines, x = .ok lines ∧
      List.Forall₂ (Entry.ShownBy P) (sectorEntries sector) lines ∧ I c' := by
  have hlast := Geometry.toNat_of_trailerBlock htrailer
  rw [sectorEntries_eq hfirst htrailer]
  refine (h.dumpBlocks (fun _ => data_of_mem_blockNumbers hfirst htrailer) hc).bind_of_exists ?_
  rintro lines c' ⟨hlines, hc'⟩
  refine Ensures.bind_of_exists (P := fun last c'' =>
    P trailer.toNat (contents (last.map SectorTrailer.toBytes)) ∧ I c'') ?_ ?_
  · refine ensures_ifPossible ((h.trailer c' sector hc' hlast.1).mono ?_)
    rintro x c'' ⟨hplain, hc'', hshown⟩
    rw [← hlast.2] at hshown
    exact ⟨hplain, _, rfl, hshown, hc''⟩
  · rintro last c'' ⟨hshown, hc''⟩
    refine ensures_pure ⟨_, rfl, ?_, hc''⟩
    exact .cons (.sector sector) (List.rel_append hlines (.cons (.block hshown) .nil))

/-- If each read is legible, a dump has all its lines. -/
theorem Legible.dumpSectors (h : Legible t g I P) {sectors : List UInt8}
    (hsectors : ∀ sector ∈ sectors, sector.toNat < g.sectorCount) (hc : I c) :
    Ensures t.responder (dumpSectors sectors) c fun x _ => ∃ lines, x = .ok (.finished lines) ∧
      List.Forall₂ (Entry.ShownBy P) (sectors.flatMap sectorEntries) lines := by
  -- The induction is on the sectors, and what holds between two reads carries from one sector to the next.
  induction sectors generalizing c with
  | nil => exact ensures_pure ⟨[], rfl, .nil⟩
  | cons sector rest ih =>
    have hsector := hsectors sector List.mem_cons_self
    have hfirst : g.firstBlock sector = .ok _ := if_pos hsector
    have htrailer : g.trailerBlock sector = .ok _ := if_pos hsector
    unfold Console.dumpSectors
    refine ensures_get_bind ?_
    rw [h.geometry c hc, hfirst, htrailer]
    refine (h.dumpSector hc hfirst htrailer).bind_of_exists ?_
    rintro lines c' ⟨hlines, hc'⟩
    refine Ensures.bind_of_exists (P := fun report _ => ∃ others, report = .finished others ∧
      List.Forall₂ (Entry.ShownBy P) (rest.flatMap sectorEntries) others) ?_ ?_
    · refine (ih (fun s hs => hsectors s (List.mem_cons_of_mem _ hs)) hc').mono ?_
      rintro x _ ⟨others, rfl, hothers⟩
      exact ⟨_, rfl, others, rfl, hothers⟩
    · rintro _ c'' ⟨others, rfl, hothers⟩
      exact ensures_pure ⟨lines ++ others, rfl, List.rel_append hlines hothers⟩

/-- If each read is legible, a dump of the card shows every block. -/
theorem Legible.dump (h : Legible t g I P) (hc : I c) :
    Ensures t.responder (CardTask.dump none).perform c fun x _ => ∃ text : Nat → String,
      x = .ok (.finished ((entries g).map (Entry.line text))) ∧ ∀ block < g.blockCount, P block (text block) := by
  have hsectors : ∀ sector ∈ allSectors g, sector.toNat < g.sectorCount := by
    intro sector hsector
    rcases List.mem_map.1 hsector with ⟨number, hnumber, rfl⟩
    rw [UInt8.toNat_ofNat']
    exact Nat.lt_of_le_of_lt (Nat.mod_le _ _) (List.mem_range.1 hnumber)
  -- Every block has one line, so a function of blocks can give all texts.
  have honce : ((entries g).filterMap Entry.block?).Nodup := by
    rw [blocks_entries]
    exact List.nodup_range
  refine ensures_get_bind ?_
  rw [h.geometry c hc]
  refine (h.dumpSectors hsectors hc).mono ?_
  rintro x _ ⟨lines, rfl, hlines⟩
  have hlines : List.Forall₂ (Entry.ShownBy P) (entries g) lines := hlines
  rcases exists_text hlines honce with ⟨text, rfl, htext⟩
  rw [blocks_entries] at htext
  exact ⟨text, rfl, fun block hblock => htext block (List.mem_range.2 hblock)⟩

/-! ## Reads as operations -/

theorem ensures_of_bind_pure {α β : Type} {p : CardM α} {f : α → CardM β} {Q : Situation Link Card ω → Prop}
    (hf : ∀ a, ∃ b, f a = pure b) (h : Ensures t.responder (p >>= f) c fun _ c' => Q c') :
    Ensures t.responder p c fun _ c' => Q c' := by
  unfold Ensures at h ⊢
  rw [exec_bind] at h
  rcases hp : exec t.responder p c with ⟨_ | a, c'⟩
  · rw [hp] at h
    exact h
  · rcases hf a with ⟨b, hb⟩
    rw [hp] at h
    simpa [hb] using h

/-- What the operation that reads a block keeps is kept by reading the block. -/
theorem ensures_readBlock_of_perform {block : UInt16} {Q : Situation Link Card ω → Prop}
    (h : Ensures t.responder (Card.perform (.readBlock block)) c fun _ c' => Q c') :
    Ensures t.responder (Card.readBlock block) c fun _ c' => Q c' := by
  have hbind : Card.perform (.readBlock block) = Card.readBlock block >>= fun data => pure (some data) :=
    (bind_pure_comp _ _).symm
  rw [hbind] at h
  exact ensures_of_bind_pure (fun _ => ⟨_, rfl⟩) h

theorem ensures_readTrailer_of_perform {sector : UInt8} {Q : Situation Link Card ω → Prop}
    (h : Ensures t.responder (Card.perform (.readTrailer sector)) c fun _ c' => Q c') :
    Ensures t.responder (Card.readTrailer sector) c fun _ c' => Q c' :=
  ensures_of_bind_pure (fun _ => ⟨_, rfl⟩) h

/-- Reading breaks no rule, and keeps what its operation keeps.  What remains to be seen is what is shown. -/
theorem Legible.of_perform (geometry : ∀ c, I c → c.state.geometry = g)
    (readsBlock : ∀ c block, I c → Ensures t.responder (Card.perform (.readBlock block)) c fun _ c' => I c')
    (readsTrailer : ∀ c sector, I c → Ensures t.responder (Card.perform (.readTrailer sector)) c fun _ c' => I c')
    (data : ∀ c (block : UInt16), I c → block.toNat < g.blockCount →
      Geometry.trailerIndex (Geometry.sectorIndex block.toNat) ≠ block.toNat →
      Ensures t.responder (Card.readBlock block) c fun x _ => P block.toNat (contents x.toOption))
    (trailer : ∀ c (sector : UInt8), I c → sector.toNat < g.sectorCount →
      Ensures t.responder (Card.readTrailer sector) c fun x _ =>
        P (Geometry.trailerIndex sector.toNat) (contents (x.toOption.map SectorTrailer.toBytes))) :
    Legible t g I P where
  geometry := geometry
  data c block hc hblock hdata := by
    have hplain := Card.faultless_readBlock (t := t) block c
    have hkept := ensures_readBlock_of_perform (readsBlock c block hc)
    exact hplain.and (hkept.and (data c block hc hblock hdata))
  trailer c sector hc hsector := by
    have hplain := Card.faultless_readTrailer (t := t) sector c
    have hkept := ensures_readTrailer_of_perform (readsTrailer c sector hc)
    exact hplain.and (hkept.and (trailer c sector hc hsector))

/-- Whatever the transport does, nothing that is read stops a dump. -/
theorem legible_any (t : Transport ω) (g : Geometry) :
    Legible t g (fun c => c.state.geometry = g) fun _ _ => True := by
  have hkept : ∀ (op : Card.Operation) (c : Situation Link Card ω), c.state.geometry = g →
      Ensures t.responder (Card.perform op) c fun _ c' => c'.state.geometry = g := by
    intro op c hc
    exact (Card.perform_maySay op c).mono fun _ _ h => h.1.trans hc
  exact .of_perform (fun _ hc => hc) (fun c _ => hkept _ c) (fun c _ => hkept _ c) (fun _ _ _ _ _ => trivial)
    (fun _ _ _ _ => trivial)

end Reads

end Console
end SectorCard
