import SectorCard.Proofs.TagSteps

/-!
# A card is an array of blocks

A card whose trailers hold the configured keys is an array of blocks: reading gives the stored bytes, writing
stores the given bytes, filled up with zeros, and nothing else.  Commands may be refused at any time.  A refusal
makes its own operation fail and leaves the cache stale, a stale cache costs a few more commands, and no later
operation fails because of it (`perform_on_array`).

What carries through every run, refusals included, is `Keyed`: the card is sound, and both configured keys are in
every trailer.
-/

namespace SectorCard

open Simulation.Chip (isTrailer)
open Tag (Holds storedKey update)

/-! ## The array -/

namespace Tag

/-- The bytes of consecutive blocks. -/
def stream (memory : UInt8 → Block) (start : Nat) : (count : Nat) → Bytes
  | 0 => []
  | count + 1 => (memory (UInt8.ofNat start)).bytes ++ stream memory (start + 1) count

/-- The fronts of consecutive blocks, as many bytes of each as the list says. -/
def fronts (memory : UInt8 → Block) (start : Nat) : List Nat → Bytes
  | [] => []
  | take :: rest => (memory (UInt8.ofNat start)).bytes.take take ++ fronts memory (start + 1) rest

/-- The blocks after pieces were stored in consecutive blocks. -/
def storePieces (memory : UInt8 → Block) (start : Nat) (pieces : List Bytes) : UInt8 → Block := fun a =>
  if start ≤ a.toNat then
    match pieces[a.toNat - start]? with
    | some piece => Block.fit piece
    | none => memory a
  else memory a

end Tag

namespace Card.Operation

/-- Whether an operation leaves keys and trailers as they are. -/
def sparesTrailers : Operation → Bool
  | .setKey _ _ _ _ | .changeTrailer _ _ | .applyPolicy _ _ _ => false
  | _ => true

def access? : Operation → Option Access
  | .readBlock _ | .readLinear _ _ => some .read
  | .writeBlock _ _ | .writeLinear _ _ => some .write
  | _ => none

/-- The blocks that an operation accesses as data. -/
def Covers : Operation → (block : Nat) → Prop
  | .readBlock first, block | .writeBlock first _, block => block = first.toNat
  | .readLinear start length, block => start.toNat ≤ block ∧ blockSize * (block - start.toNat) < length
  | .writeLinear start data, block => start.toNat ≤ block ∧ blockSize * (block - start.toNat) < data.length
  | _, _ => False

def readFrom (memory : UInt8 → Block) : Operation → Option Bytes
  | .readBlock block => some (memory (UInt8.ofNat block.toNat)).bytes
  | .readLinear start length =>
    some ((Tag.stream memory start.toNat (Bytes.pieceCount blockSize length)).take length)
  | _ => none

def writtenTo (memory : UInt8 → Block) : Operation → UInt8 → Block
  | .writeBlock block data => fun a => if a.toNat = block.toNat then data else memory a
  | .writeLinear start data => fun a =>
    if start.toNat ≤ a.toNat ∧ blockSize * (a.toNat - start.toNat) < data.length then
      Block.fit (data.drop (blockSize * (a.toNat - start.toNat)))
    else memory a
  | _ => memory

end Card.Operation

/-! ## Pieces -/

namespace Tag

theorem storePieces_pieces (memory : UInt8 → Block) (start : Nat) (data : Bytes) :
    storePieces memory start (Bytes.pieces blockSize data) = fun a =>
      if start ≤ a.toNat ∧ blockSize * (a.toNat - start) < data.length then
        Block.fit (data.drop (blockSize * (a.toNat - start)))
      else memory a := by
  funext a
  unfold storePieces
  by_cases hstart : start ≤ a.toNat
  · by_cases hlength : blockSize * (a.toNat - start) < data.length
    · have hpiece := Bytes.getElem?_pieces ((Bytes.lt_pieceCount_iff (by decide)).2 hlength)
      rw [if_pos hstart, if_pos ⟨hstart, hlength⟩, hpiece, Nat.mul_comm]
      exact Block.ext (Bytes.fit_take _ _)
    · have hnone : (Bytes.pieces blockSize data)[a.toNat - start]? = none := by
        rw [List.getElem?_eq_none_iff, Bytes.length_pieces]
        exact Nat.le_of_not_lt fun h => hlength ((Bytes.lt_pieceCount_iff (by decide)).1 h)
      rw [if_pos hstart, if_neg (fun h => hlength h.2), hnone]
  · rw [if_neg hstart, if_neg (fun h => hstart h.1)]

theorem storePieces_cons (memory : UInt8 → Block) {start : Nat} {address : UInt8} (haddress : address.toNat = start)
    (piece : Bytes) (rest : List Bytes) :
    storePieces (update memory address (Block.fit piece)) (start + 1) rest =
      storePieces memory start (piece :: rest) := by
  funext a
  unfold storePieces
  -- An address beyond the first piece, the address of that piece, or one in front of it.
  by_cases hlt : start < a.toNat
  · have hne : a ≠ address := by
      rintro rfl
      omega
    have hindex : a.toNat - start = (a.toNat - (start + 1)) + 1 := by omega
    rw [if_pos (by omega), if_pos (by omega), hindex, List.getElem?_cons_succ, update_of_ne hne]
  · by_cases heq : a.toNat = start
    · have hsame : a = address := UInt8.toNat_inj.1 (heq.trans haddress.symm)
      rw [if_neg (by omega), if_pos (by omega), heq, Nat.sub_self, hsame, update_self]
      rfl
    · have hne : a ≠ address := by
        rintro rfl
        exact heq haddress
      rw [if_neg (by omega), if_neg (by omega), update_of_ne hne]

theorem pieceCount_of_pos {length : Nat} (h : 0 < length) :
    Bytes.pieceCount blockSize length = Bytes.pieceCount blockSize (length - blockSize) + 1 := by
  unfold Bytes.pieceCount blockSize
  omega

theorem pieceLengths_of_pos {length : Nat} (h : 0 < length) :
    Bytes.pieceLengths blockSize length =
      min blockSize length :: Bytes.pieceLengths blockSize (length - blockSize) := by
  unfold Bytes.pieceLengths
  rw [pieceCount_of_pos h, List.range_succ_eq_map, List.map_cons, List.map_map, Nat.zero_mul, Nat.sub_zero]
  congr 1
  refine List.map_congr_left fun i _ => ?_
  have hindex : (i + 1) * blockSize = blockSize + i * blockSize := by rw [Nat.succ_mul, Nat.add_comm]
  simp only [Function.comp, hindex, Nat.sub_sub]

/-- The fronts of the pieces that a length is cut into are the bytes up to that length. -/
theorem fronts_pieceLengths (memory : UInt8 → Block) (start length : Nat) :
    fronts memory start (Bytes.pieceLengths blockSize length) =
      (stream memory start (Bytes.pieceCount blockSize length)).take length := by
  -- By induction on the length, a whole block less each time; the first front may be shorter than its block.
  induction length using Nat.strongRecOn generalizing start with
  | ind length ih =>
    rcases Nat.eq_zero_or_pos length with rfl | hpos
    · rfl
    · have hlength : (memory (UInt8.ofNat start)).bytes.length = blockSize := (memory _).length_bytes
      have hsmaller : length - blockSize < length := Nat.sub_lt hpos (by decide)
      have hfirst : (memory (UInt8.ofNat start)).bytes.take (min blockSize length) =
          (memory (UInt8.ofNat start)).bytes.take length := by
        rw [← hlength, List.take_eq_take_iff]
        omega
      calc
        fronts memory start (Bytes.pieceLengths blockSize length)
            = (memory (UInt8.ofNat start)).bytes.take (min blockSize length) ++
                fronts memory (start + 1) (Bytes.pieceLengths blockSize (length - blockSize)) := by
              rw [pieceLengths_of_pos hpos, fronts]
        _ = (memory (UInt8.ofNat start)).bytes.take length ++
              (stream memory (start + 1) (Bytes.pieceCount blockSize (length - blockSize))).take
                (length - blockSize) := by
              rw [hfirst, ih _ hsmaller]
        _ = ((memory (UInt8.ofNat start)).bytes ++
              stream memory (start + 1) (Bytes.pieceCount blockSize (length - blockSize))).take length := by
              rw [List.take_append, hlength]
        _ = (stream memory start (Bytes.pieceCount blockSize length)).take length := by
              rw [pieceCount_of_pos hpos, stream]

end Tag

namespace Card

open Procedure

/-! ## Cards with their keys in every trailer -/

section Keyed

variable {a b : KeyEntry} {card : Card} {memory : UInt8 → Block}

/-- A sound card with both keys configured, which every trailer holds. -/
structure Keyed (a b : KeyEntry) (card : Card) (memory : UInt8 → Block) : Prop where
  sound : Sound card
  keyA : card.findKey .a = .ok a
  keyB : card.findKey .b = .ok b
  held : ∀ sector : UInt8, sector.toNat < card.geometry.sectorCount →
    Holds memory sector .a a ∧ Holds memory sector .b b

namespace Keyed

theorem holds (h : Keyed a b card memory) {sector : UInt8} {selector : KeySelector} {entry : KeyEntry}
    (hsector : sector.toNat < card.geometry.sectorCount) (hkey : card.findKey selector = .ok entry) :
    Holds memory sector selector entry := by
  cases selector with
  | a =>
    cases h.keyA.symm.trans hkey
    exact (h.held sector hsector).1
  | b =>
    cases h.keyB.symm.trans hkey
    exact (h.held sector hsector).2
  | access => cases hkey
  | both => cases hkey
  | all => cases hkey

theorem coherent (h : Keyed a b card memory) : Coherent card memory where
  sound := h.sound
  held sector auth _ hcached hkey := h.holds (h.sound.recorded sector auth hcached).1 hkey

/-- The key for an access is one of the two. -/
theorem chosen (h : Keyed a b card memory) {sector : UInt8} {access : Access} {selector : KeySelector}
    (hchosen : card.chooseKey sector access = .ok selector) : ∃ entry, card.findKey selector = .ok entry := by
  have hpreferred : ∀ policy, preferredKey? policy access = some selector → selector = .a ∨ selector = .b := by
    intro policy hpolicy
    cases access <;> grind [preferredKey?]
  unfold chooseKey at hchosen
  split at hchosen
  · cases hchosen
  · rename_i policy _
    split at hchosen
    · rename_i found hfound
      cases hchosen
      rcases hpreferred policy hfound with rfl | rfl
      · exact ⟨a, h.keyA⟩
      · exact ⟨b, h.keyB⟩
    · cases hchosen

theorem congr (h : Keyed a b card memory) {card' : Card} {memory' : UInt8 → Block} (hsound : Sound card')
    (hgeometry : card'.geometry = card.geometry) (hkeys : card'.keys = card.keys)
    (hsame : ∀ sector : UInt8, sector.toNat < card.geometry.sectorCount →
      memory' (Simulation.Chip.trailerOf sector.toNat) = memory (Simulation.Chip.trailerOf sector.toNat)) :
    Keyed a b card' memory' where
  sound := hsound
  keyA := by
    rw [findKey, hkeys]
    exact h.keyA
  keyB := by
    rw [findKey, hkeys]
    exact h.keyB
  held sector hsector := by
    rw [hgeometry] at hsector
    rcases h.held sector hsector with ⟨hA, hB⟩
    exact ⟨hA.congr (hsame sector hsector), hB.congr (hsame sector hsector)⟩

theorem stored (h : Keyed a b card memory) {address : UInt8} (haddress : isTrailer address = false) (block : Block) :
    Keyed a b card (update memory address block) :=
  h.congr h.sound rfl rfl fun _ hsector => Tag.update_of_ne (Tag.trailerOf_ne hsector haddress) block

theorem stands (h : Keyed a b card memory) {tag : Tag} (hsame : tag.memory = memory) (history : List (Event Link)) :
    Stands card memory ⟨card, tag, history⟩ :=
  ⟨.refl card, hsame, h.coherent⟩

end Keyed

end Keyed

/-! ## Blocks that may be accessed -/

/-- An existing data block, in a sector whose policy permits a key for the access.  The manufacturer's block is
only read. -/
structure Usable (card : Card) (access : Access) (block : Nat) : Prop where
  exists_block : block < card.geometry.blockCount
  no_trailer : Geometry.trailerIndex (Geometry.sectorIndex block) ≠ block
  no_manufacturer : access = .write → block ≠ 0
  permitted : ∃ selector, card.chooseKey (UInt8.ofNat (Geometry.sectorIndex block)) access = .ok selector

theorem Usable.lt {card : Card} {access : Access} {block : Nat} (h : Usable card access block) : block < 256 := by
  have hblock := h.exists_block
  have hcount := card.geometry.blockCount_le
  omega

theorem Usable.checked {card : Card} {access : Access} {block : UInt16} (h : Usable card access block.toNat) :
    ∃ sector address selector, card.dataSector block access = .ok sector ∧ Checked.narrow block = .ok address ∧
      address = UInt8.ofNat block.toNat ∧ DataBlock card.geometry access sector address ∧
      card.chooseKey sector access = .ok selector := by
  have hdata := dataSector_eq_ok h.exists_block h.no_trailer h.no_manufacturer
  rcases dataBlock_of_dataSector hdata with ⟨address, hnarrow, -, haddress⟩
  rcases h.permitted with ⟨selector, hselector⟩
  have hsame : address = UInt8.ofNat block.toNat := by
    unfold Checked.narrow at hnarrow
    split at hnarrow
    · cases hnarrow
      rfl
    · cases hnarrow
  exact ⟨_, address, selector, hdata, hnarrow, hsame, haddress, hselector⟩

/-! ## Access to data in front of a tag -/

section Tag

variable {shown : UInt8 → Block → Bytes} {a b : KeyEntry} {card : Card} {memory : UInt8 → Block}
  {c : Situation Link Card Tag}

theorem ensures_dataSector_bind {β : Type} {block : UInt16} {access : Access} {f : UInt8 → CardM β}
    {Q : Except Failure β → Situation Link Card Tag → Prop} (husable : Usable card access block.toNat)
    (hc : Stands card memory c)
    (h : ∀ sector address selector, Checked.narrow block = .ok address → address = UInt8.ofNat block.toNat →
      DataBlock card.geometry access sector address → card.chooseKey sector access = .ok selector →
      Ensures (Tag.transport shown).responder (f sector) c Q) :
    Ensures (Tag.transport shown).responder
      (inspect (fun card => Failure.lift (card.dataSector block access)) >>= f) c Q := by
  rcases husable.checked with ⟨sector, address, selector, hsector, hnarrow, hsame, haddress, hselector⟩
  have hsector' : c.state.dataSector block access = .ok sector := (hc.setup.dataSector block access).trans hsector
  exact ensures_inspect_lift_bind_of_ok hsector' (h sector address selector hnarrow hsame haddress hselector)

variable {sector address : UInt8} {selector : KeySelector} {block : UInt16}

theorem ensures_readAuthorized (hshown : ∀ address block, isTrailer address = false → shown address block = block.bytes)
    (hkeyed : Keyed a b card memory) (hc : Stands card memory c) (hnarrow : Checked.narrow block = .ok address)
    (haddress : DataBlock card.geometry .read sector address) (hselector : card.chooseKey sector .read = .ok selector) :
    Ensures (Tag.transport shown).responder (readAuthorized sector block) c fun x c' =>
      x = .ok (memory address).bytes ∧ Stands card memory c' := by
  have hselector' : c.state.chooseKey sector .read = .ok selector := (hc.setup.chooseKey _ _).trans hselector
  rcases hkeyed.chosen hselector with ⟨entry, hkey⟩
  have hon := haddress.toInSector.sector_lt
  have hop := Coupler.carries_readPage shown haddress.toInSector memory
  rw [hshown _ _ (Tag.not_isTrailer haddress), List.take_of_length_le (Nat.le_of_eq (memory address).length_bytes)] at hop
  unfold readAuthorized
  refine ensures_inspect_bind_of_ok hselector' ?_
  rw [hnarrow, ofExcept_ok, pure_bind]
  refine (withAuthRetry_of_holds hop hc hon hkey (hkeyed.holds hon hkey)).bind_of_ok ?_
  rintro c' ⟨hsetup, hcoherent, hstored⟩
  rw [if_neg (by rw [(memory address).length_bytes]; exact Nat.lt_irrefl _)]
  exact ensures_pure ⟨rfl, hsetup, hstored, hcoherent⟩

theorem ensures_writeAuthorized (hkeyed : Keyed a b card memory) (hc : Stands card memory c)
    (hnarrow : Checked.narrow block = .ok address) (haddress : DataBlock card.geometry .write sector address)
    (hselector : card.chooseKey sector .write = .ok selector) (data : Block) :
    Ensures (Tag.transport shown).responder (writeAuthorized sector block data.bytes) c fun x c' =>
      x = .ok () ∧ Stands card (update memory address data) c' := by
  have hselector' : c.state.chooseKey sector .write = .ok selector := (hc.setup.chooseKey _ _).trans hselector
  rcases hkeyed.chosen hselector with ⟨entry, hkey⟩
  have hon := haddress.toInSector.sector_lt
  have hop := Coupler.carries_writePage shown haddress.toInSector memory data
  unfold writeAuthorized
  refine ensures_inspect_bind_of_ok hselector' ?_
  rw [hnarrow, ofExcept_ok, pure_bind]
  refine (withAuthRetry_of_holds hop hc hon hkey (hkeyed.holds hon hkey)).mono ?_
  rintro x c' ⟨hx, hsetup, hcoherent, hstored⟩
  exact ⟨hx, hsetup, hstored, hcoherent.stored (Tag.not_isTrailer haddress) data⟩

theorem ensures_readRun (hshown : ∀ address block, isTrailer address = false → shown address block = block.bytes)
    (hkeyed : Keyed a b card memory) (hc : Stands card memory c) {lengths : List Nat}
    (hsize : ∀ n ∈ lengths, n ≤ blockSize) (husable : ∀ i < lengths.length, Usable card .read (block.toNat + i)) :
    Ensures (Tag.transport shown).responder (readRun block lengths) c fun x c' =>
      x = .ok (Tag.fronts memory block.toNat lengths) ∧ Stands card memory c' := by
  -- The induction is on the cut, for every block to start from: the run goes on at the next block.
  induction lengths generalizing block c with
  | nil => exact ensures_pure ⟨rfl, hc⟩
  | cons take rest ih =>
    have hfirst : Usable card .read block.toNat := husable 0 (Nat.succ_pos _)
    refine ensures_dataSector_bind hfirst hc fun sector address selector hnarrow hsame haddress hselector => ?_
    refine (ensures_readAuthorized hshown hkeyed hc hnarrow haddress hselector).bind_of_ok fun c' hc' => ?_
    have hfront : Checked.front take (memory address).bytes = .ok ((memory address).bytes.take take) :=
      if_pos (by rw [(memory address).length_bytes]; exact hsize take List.mem_cons_self)
    have hlt := hfirst.lt
    -- There is a next block number, since the block itself fits an address.
    rcases Checked.next_eq_ok (n := block) (by omega) with ⟨hnext, hnat⟩
    rw [hfront, ofExcept_ok, pure_bind, hnext, ofExcept_ok, pure_bind]
    have hrest : ∀ i < rest.length, Usable card .read ((block + 1).toNat + i) := by
      intro i hi
      rw [hnat, Nat.add_assoc, Nat.add_comm 1]
      exact husable (i + 1) (Nat.succ_lt_succ hi)
    refine (ih hc' (fun n hn => hsize n (List.mem_cons_of_mem _ hn)) hrest).bind_of_ok fun c'' hc'' => ?_
    refine ensures_pure ⟨?_, hc''⟩
    rw [Tag.fronts, hnat, hsame]

theorem ensures_writeRun (hkeyed : Keyed a b card memory) (hc : Stands card memory c) {pieces : List Bytes}
    (hsize : ∀ piece ∈ pieces, piece.length ≤ blockSize)
    (husable : ∀ i < pieces.length, Usable card .write (block.toNat + i)) :
    Ensures (Tag.transport shown).responder (writeRun block pieces) c fun x c' =>
      x = .ok () ∧ Stands card (Tag.storePieces memory block.toNat pieces) c' := by
  -- The memory varies in the induction too: the rest of the run starts from what the first write has stored.
  induction pieces generalizing block c memory with
  | nil =>
    have hnone : Tag.storePieces memory block.toNat [] = memory := by
      funext a
      simp [Tag.storePieces]
    rw [hnone]
    exact ensures_pure ⟨rfl, hc⟩
  | cons piece rest ih =>
    have hfirst : Usable card .write block.toNat := husable 0 (Nat.succ_pos _)
    have hlt := hfirst.lt
    refine ensures_dataSector_bind hfirst hc fun sector address selector hnarrow hsame haddress hselector => ?_
    rw [page_eq_ok (hsize piece List.mem_cons_self), ofExcept_ok, pure_bind]
    refine (ensures_writeAuthorized hkeyed hc hnarrow haddress hselector (Block.fit piece)).bind_of_ok fun c' hc' => ?_
    rcases Checked.next_eq_ok (n := block) (by omega) with ⟨hnext, hnat⟩
    rw [hnext, ofExcept_ok, pure_bind]
    have hrest : ∀ i < rest.length, Usable card .write ((block + 1).toNat + i) := by
      intro i hi
      rw [hnat, Nat.add_assoc, Nat.add_comm 1]
      exact husable (i + 1) (Nat.succ_lt_succ hi)
    -- A data block was written, so every trailer still holds its keys.
    have hkeyed' := hkeyed.stored (Tag.not_isTrailer haddress) (Block.fit piece)
    have hnat' : address.toNat = block.toNat := by
      rw [hsame, UInt8.toNat_ofNat']
      exact Nat.mod_eq_of_lt hlt
    have hdone := ih hkeyed' hc' (fun p hp => hsize p (List.mem_cons_of_mem _ hp)) hrest
    rw [hnat, Tag.storePieces_cons memory hnat'] at hdone
    exact hdone

theorem usable_of_covers {start : UInt16} {length : Nat} {access : Access}
    (husable : ∀ block, start.toNat ≤ block ∧ blockSize * (block - start.toNat) < length → Usable card access block)
    {i : Nat} (hi : i < Bytes.pieceCount blockSize length) : Usable card access (start.toNat + i) := by
  refine husable _ ⟨Nat.le_add_right _ _, ?_⟩
  rw [Nat.add_sub_cancel_left]
  exact (Bytes.lt_pieceCount_iff (by decide)).1 hi

/-- In front of a tag, operations on data work as on an array of blocks. -/
theorem ensures_perform_data (hshown : ∀ address block, isTrailer address = false → shown address block = block.bytes)
    (hkeyed : Keyed a b card memory) (hc : Stands card memory c) {op : Operation} {access : Access}
    (hop : op.access? = some access) (husable : ∀ block, op.Covers block → Usable card access block) :
    Ensures (Tag.transport shown).responder (perform op) c fun x c' =>
      x = .ok (op.readFrom memory) ∧ c'.world.memory = op.writtenTo memory := by
  cases op with
  | readBlock block =>
    cases hop
    refine Ensures.map (ensures_dataSector_bind (husable _ rfl) hc ?_)
    intro sector address selector hnarrow hsame haddress hselector
    refine (ensures_readAuthorized hshown hkeyed hc hnarrow haddress hselector).mono ?_
    rintro x c' ⟨rfl, hc'⟩
    rw [hsame]
    exact ⟨rfl, hc'.same⟩
  | writeBlock block data =>
    cases hop
    have hlt := (husable _ rfl).lt
    refine Ensures.bind_of_ok (a := ()) (P := fun c' => c'.world.memory = _) ?_ (fun _ hc' => ensures_pure ⟨rfl, hc'⟩)
    refine ensures_dataSector_bind (husable _ rfl) hc ?_
    intro sector address selector hnarrow hsame haddress hselector
    refine (ensures_writeAuthorized hkeyed hc hnarrow haddress hselector data).mono ?_
    rintro x c' ⟨hx, hc'⟩
    refine ⟨hx, ?_⟩
    rw [hc'.same]
    -- The operation is specified by block numbers, and the tag stores by addresses.
    funext a
    have hiff : a = address ↔ a.toNat = block.toNat := by
      rw [hsame, ← UInt8.toNat_inj, UInt8.toNat_ofNat', Nat.mod_eq_of_lt hlt]
    simp only [update, Operation.writtenTo, hiff]
  | readLinear start length =>
    cases hop
    refine Ensures.map ?_
    have hsize : ∀ n ∈ Bytes.pieceLengths blockSize length, n ≤ blockSize := fun n hn => Bytes.le_of_mem_pieceLengths hn
    have hblocks : ∀ i < (Bytes.pieceLengths blockSize length).length, Usable card .read (start.toNat + i) := by
      intro i hi
      exact usable_of_covers husable (by simpa [Bytes.pieceLengths] using hi)
    refine (ensures_readRun hshown hkeyed hc hsize hblocks).mono ?_
    rintro x c' ⟨rfl, hc'⟩
    rw [Tag.fronts_pieceLengths]
    exact ⟨rfl, hc'.same⟩
  | writeLinear start data =>
    cases hop
    refine Ensures.bind_of_ok (a := ()) (P := fun c' => c'.world.memory = _) ?_ (fun _ hc' => ensures_pure ⟨rfl, hc'⟩)
    have hblocks : ∀ i < (Bytes.pieces blockSize data).length, Usable card .write (start.toNat + i) := by
      intro i hi
      exact usable_of_covers husable (by simpa using hi)
    refine (ensures_writeRun hkeyed hc (fun _ h => Bytes.length_le_of_mem_pieces h) hblocks).mono ?_
    rintro x c' ⟨hx, hc'⟩
    rw [Tag.storePieces_pieces] at hc'
    exact ⟨hx, hc'.same⟩
  -- Nothing else has an access to data.
  | _ => cases hop

end Tag

/-! ## Refused commands -/

section Fronts

variable {ω : Type} {t : Transport ω} {shown : UInt8 → Block → Bytes} {view : ω → Tag} {a b : KeyEntry}

/-- Loading and authenticating store nothing, whether or not they are refused. -/
theorem withstands_memory (hfronts : t.Fronts shown view) (memory : UInt8 → Block) :
    Coupler.Withstands t fun c => (view c.world).memory = memory where
  loading c entry h := by
    have hsame : (view (t.exchange (.loading entry) c.world).2).memory = (view c.world).memory := by
      rcases hfronts.exchange (.loading entry) c.world with ⟨-, hview⟩ | ⟨-, hview⟩
      · exact (congrArg Tag.memory hview).trans (Tag.memory_loading _ _)
      · exact congrArg Tag.memory hview
    exact hsame.trans h
  authenticating c address code slot h := by
    have hsame : (view (t.exchange (.authenticating address code slot) c.world).2).memory = (view c.world).memory := by
      rcases hfronts.exchange (.authenticating address code slot) c.world with ⟨-, hview⟩ | ⟨-, hview⟩
      · exact (congrArg Tag.memory hview).trans (Tag.memory_authenticating _ _ _ _)
      · exact congrArg Tag.memory hview
    exact hsame.trans h
  state _ _ h := h

theorem memory_reading (hfronts : t.Fronts shown view) (address : UInt8) (w : ω) :
    (view (t.exchange (.reading address blockLength) w).2).memory = (view w).memory := by
  have hread : ((Tag.transport shown).exchange (.reading address blockLength) (view w)).2.memory = (view w).memory := by
    rw [Tag.exchange_reading]
    split <;> rfl
  rcases hfronts.exchange (.reading address) w with ⟨-, hview⟩ | ⟨-, hview⟩
  · calc
      (view (t.exchange (.reading address blockLength) w).2).memory
          = ((Tag.transport shown).exchange (.reading address blockLength) (view w)).2.memory :=
            congrArg Tag.memory hview
      _ = (view w).memory := hread
  · exact congrArg Tag.memory hview

theorem memory_writing (hfronts : t.Fronts shown view) (address : UInt8) (block : Block) (w : ω) :
    (view (t.exchange (.writing address block.bytes) w).2).memory = (view w).memory ∨
      (view (t.exchange (.writing address block.bytes) w).2).memory = update (view w).memory address block := by
  rcases hfronts.exchange (.writing address block) w with ⟨-, hview⟩ | ⟨-, hview⟩
  · rw [congrArg Tag.memory hview, Tag.exchange_writing]
    split
    · exact .inr rfl
    · exact .inl rfl
  · exact .inl (congrArg Tag.memory hview)

/-- What holds while an operation is carried out: the keys are in their places, and every block is as it was or as
the operation leaves it. -/
structure Advancing (a b : KeyEntry) (op : Operation) (memory : UInt8 → Block) (card : Card)
    (now : UInt8 → Block) : Prop where
  keyed : Keyed a b card now
  blocks : ∀ address, now address = memory address ∨ now address = op.writtenTo memory address

theorem writtenTo_of_writes {op : Operation} {address : UInt8} {page : Bytes} (h : op.Writes address page)
    (memory : UInt8 → Block) : (op.writtenTo memory address).bytes = page := by
  cases op with
  | writeBlock block data =>
    rcases h with ⟨haddress, rfl⟩
    simp only [Operation.writtenTo, if_pos haddress]
  | writeLinear start data =>
    rcases h with ⟨i, piece, hpiece, haddress, rfl⟩
    have hstored := congrFun (Tag.storePieces_pieces memory start.toNat data) address
    have hindex : address.toNat - start.toNat = i := by omega
    simp only [Tag.storePieces, hindex, hpiece, if_pos (show start.toNat ≤ address.toNat by omega)] at hstored
    simp only [Operation.writtenTo, hindex, ← hstored]
    rfl
  | _ => exact h.elim

/-- Every step of an operation that spares the trailers advances it, or is refused and changes nothing. -/
theorem stepsKeep_advancing (hfronts : t.Fronts shown view) {op : Operation} (hop : op.sparesTrailers = true)
    (memory : UInt8 → Block) (card₀ : Card) :
    StepsKeep t (fun c => Advancing a b op memory c.state (view c.world).memory) (op.Accesses card₀) where
  authorize sector selector := by
    intro c hc
    have hsound := (soundSteps t).authorize sector selector c hc.keyed.sound
    have hstored := ensures_authorize_of_withstands (withstands_memory hfronts (view c.world).memory) (c := c) rfl
      sector selector
    refine ((hsound.and (authorize_setup sector selector)).and hstored).mono ?_
    rintro x c' ⟨⟨hsound', hsetup, -⟩, hsame⟩
    have hsame : (view c'.world).memory = (view c.world).memory := hsame
    rw [hsame]
    exact ⟨hc.keyed.congr hsound' hsetup.geometry hsetup.keys fun _ _ => rfl, hc.blocks⟩
  access := by
    intro c sector selector address command other hc hauth hA
    have hsound := (soundSteps t).access c sector selector address command other hc.keyed.sound hauth trivial
    -- What the access stores is seen at the tag: nothing, or the block that the operation writes.
    have hstored : Ensures t.responder (Coupler.access address command other) c.below fun _ d =>
        (view d.world).memory = (view c.world).memory ∨
          ∃ block : Block, op.Writes address block.bytes ∧ isTrailer address = false ∧
            (view d.world).memory = update (view c.world).memory address block := by
      refine Coupler.ensures_access_of_withstands (withstands_memory hfronts (view c.world).memory) rfl
        (fun _ _ hd => .inl hd) (fun d hd => ?_)
      rw [← hd]
      cases hA with
      | reading =>
        have hsame := memory_reading hfronts address d.world
        exact Coupler.ensures_transfer_of_demand (fun _ _ => .inl hsame) (fun _ _ _ => .inl hsame)
      | @writing _ _ _ _ page hwrites _ haddress hpage =>
        have hdata := Tag.not_isTrailer haddress
        have hend : ∀ d' : Situation Link Coupler ω, d'.world = (t.exchange (.writing address page) d.world).2 →
            (view d'.world).memory = (view d.world).memory ∨
              ∃ block : Block, op.Writes address block.bytes ∧ isTrailer address = false ∧
                (view d'.world).memory = update (view d.world).memory address block := by
          intro d' hd'
          rw [hd']
          rcases memory_writing hfronts address ⟨page, hpage⟩ d.world with hsame | hnew
          · exact .inl hsame
          · exact .inr ⟨⟨page, hpage⟩, hwrites, hdata, hnew⟩
        exact Coupler.ensures_transfer_of_demand (fun _ _ => hend _ rfl) (fun _ _ _ => hend _ rfl)
      -- Operations that rewrite trailers are excluded.
      | changing => cases hop
      | applying => cases hop
      | restoring => cases hop
    refine (hsound.and hstored).mono ?_
    rintro x d ⟨hsound', hsame | ⟨block, hwrites, hdata, hnew⟩⟩
    · change Advancing a b op memory (c.resume d).state (view d.world).memory
      rw [hsame]
      exact ⟨hc.keyed.congr hsound' rfl rfl fun _ _ => rfl, hc.blocks⟩
    · change Advancing a b op memory (c.resume d).state (view d.world).memory
      rw [hnew]
      refine ⟨(hc.keyed.stored hdata block).congr hsound' rfl rfl fun _ _ => rfl, fun other => ?_⟩
      -- The written block is as the operation leaves it; every other one is as it was found.
      by_cases hother : other = address
      · subst hother
        rw [Tag.update_self]
        exact .inr (Block.ext (writtenTo_of_writes hwrites memory).symm)
      · rw [Tag.update_of_ne hother]
        exact hc.blocks other
  forget c sector hc := ⟨hc.keyed.congr (hc.keyed.sound.invalidate sector) rfl rfl fun _ _ => rfl, hc.blocks⟩

/-- An operation that spares the trailers leaves the keys in their places, whatever is refused. -/
theorem perform_advancing (hfronts : t.Fronts shown view) {op : Operation} (hop : op.sparesTrailers = true)
    {c : Situation Link Card ω} (hc : Keyed a b c.state (view c.world).memory) :
    Ensures t.responder (perform op) c fun _ c' =>
      Advancing a b op (view c.world).memory c'.state (view c'.world).memory := by
  refine (stepsKeep_advancing hfronts hop (view c.world).memory c.state).perform ⟨hc, fun _ => .inl rfl⟩ ?_ ?_
  · rintro selector key store slot card rfl _
    cases hop
  · rintro sector policy card rfl hset
    rcases setup_setPolicy hset with ⟨hgeometry, hkeys, -⟩
    exact ⟨hc.congr (hc.sound.setPolicy hset) hgeometry hkeys fun _ _ => rfl, fun _ => .inl rfl⟩

theorem keyed_after (hfronts : t.Fronts shown view) {ops : List Operation}
    (hops : ∀ op ∈ ops, op.sparesTrailers = true) {c : Situation Link Card ω}
    (hc : Keyed a b c.state (view c.world).memory) :
    Keyed a b (after t ops c).state (view (after t ops c).world).memory := by
  have hkeeps : Keeps t.responder (fun c => Keyed a b c.state (view c.world).memory) (performAll ops) := by
    refine keeps_performAll fun op hop c hc => ?_
    exact (perform_advancing hfronts (hops op hop) hc).mono fun _ _ h => h.keyed
  exact hkeeps c hc

/-- None of the requests of a procedure is refused: each has the reply of the tag. -/
def Unrefused {α : Type} (t : Transport ω) (shown : UInt8 → Block → Bytes) (view : ω → Tag) (p : CardM α)
    (c : Situation Link Card ω) : Prop :=
  (p c.state).Follows t.responder (Tag.transport shown).responder view c.world

/-- In every run over a card whose trailers hold the configured keys, an operation none of whose commands is
refused works as on an array of blocks, whatever was refused before.  An operation of which some command is refused
leaves every block as it was or as it would have written it. -/
theorem perform_on_array (hfronts : t.Fronts shown view)
    (hshown : ∀ address block, isTrailer address = false → shown address block = block.bytes)
    {keys ops : List Operation} (hkeys : ∀ op ∈ keys, op.setsKey = true)
    (hops : ∀ op ∈ ops, op.sparesTrailers = true) {g : Geometry} {w : ω}
    (hA : (after t keys (start g w)).state.findKey .a = .ok a)
    (hB : (after t keys (start g w)).state.findKey .b = .ok b)
    (hheld : ∀ sector < g.sectorCount, storedKey (view w).memory sector 0x60 = a.key.bytes ∧
      storedKey (view w).memory sector 0x61 = b.key.bytes)
    {op : Operation} (hop : op.sparesTrailers = true) :
    let c := after t ops (after t keys (start g w))
    let run := exec t.responder (perform op) c
    let memory := (view c.world).memory
    (∀ address, (view run.2.world).memory address = memory address ∨
        (view run.2.world).memory address = op.writtenTo memory address) ∧
      ∀ access, op.access? = some access → (∀ block, op.Covers block → Usable c.state access block) →
        Unrefused t shown view (perform op) c →
        run.1 = .ok (op.readFrom memory) ∧ (view run.2.world).memory = op.writtenTo memory := by
  intro c run memory
  rcases configured_after t hkeys g w with ⟨hworld, hgeometry, -⟩
  have hstart : Keyed a b (after t keys (start g w)).state (view (after t keys (start g w)).world).memory := by
    rw [hworld]
    refine ⟨sound_after t keys g w, hA, hB, fun sector hsector => ?_⟩
    rw [hgeometry] at hsector
    rcases hheld sector.toNat hsector with ⟨hheldA, hheldB⟩
    exact ⟨⟨0x60, rfl, hheldA⟩, ⟨0x61, rfl, hheldB⟩⟩
  have hc : Keyed a b c.state memory := keyed_after hfronts hops hstart
  refine ⟨(perform_advancing hfronts hop hc).blocks, fun access haccess husable hunrefused => ?_⟩
  rcases exec_of_follows hunrefused with ⟨hvalue, hview⟩
  have hstands : Stands c.state memory ⟨c.state, view c.world, c.history⟩ := hc.stands rfl c.history
  have hdone := ensures_perform_data hshown hc hstands haccess husable
  exact ⟨hvalue.trans hdone.1, (congrArg Tag.memory hview).trans hdone.2⟩

end Fronts

/-- Once a plan of refusals is used up, nothing is refused. -/
theorem follows_refusing (shown : UInt8 → Block → Bytes) {α : Type} (d : Dialogue Link α) (tag : Tag) :
    d.Follows (Tag.transport shown).refusing.responder (Tag.transport shown).responder Prod.snd ([], tag) := by
  induction d generalizing tag with
  | done a => trivial
  | ask q next ih =>
    cases q with
    | isConnected => exact ⟨rfl, rfl, ih _ tag⟩
    | transmit command => exact ⟨rfl, rfl, ih _ _⟩

/-- A card with key A all ones and key B all zeros in every trailer. -/
def twoKeys : Tag :=
  { Tag.delivered with memory := fun a => Block.fit (if isTrailer a then List.replicate 10 0xff else []) }

/-- Both keys are configured for the same slot, and the reader will refuse the sixth command. -/
def sharedSlot : Situation Link Card (List Bool × Tag) :=
  after (Tag.transport Tag.hideKeyA).refusing
    [.setKey .a .transport .nonVolatile 0, .setKey .b ⟨List.replicate 6 0, rfl⟩ .nonVolatile 0]
    (start .small ([false, false, false, false, false, true], twoKeys))

/-- Sector 1 was read under key A, and then a write to sector 2 under key B was refused. -/
def staleCache : Situation Link Card (List Bool × Tag) :=
  after (Tag.transport Tag.hideKeyA).refusing [.readBlock 4, .writeBlock 8 (Block.fit [1])] sharedSlot

theorem usable_staleCache {block : Nat} (h : Operation.Covers (.writeLinear 4 (List.replicate 40 7)) block) :
    Usable staleCache.state .write block := by
  rcases h with ⟨hstart, hlength⟩
  have hblock : block = 4 ∨ block = 5 ∨ block = 6 := by
    change 4 ≤ block at hstart
    change 16 * (block - 4) < 40 at hlength
    omega
  have hgeometry : staleCache.state.geometry = .small := by decide +kernel
  have hpermitted : staleCache.state.chooseKey 1 .write = .ok .b := by decide +kernel
  rcases hblock with rfl | rfl | rfl
  · exact ⟨by rw [hgeometry]; decide, by decide, by decide, .b, hpermitted⟩
  · exact ⟨by rw [hgeometry]; decide, by decide, by decide, .b, hpermitted⟩
  · exact ⟨by rw [hgeometry]; decide, by decide, by decide, .b, hpermitted⟩

/-- A write that follows a refusal, on a sector that the cache records and the card has given up, stores its data. -/
theorem perform_on_array_staleCache :
    let op : Operation := .writeLinear 4 (List.replicate 40 7)
    let run := exec (Tag.transport Tag.hideKeyA).refusing.responder (perform op) staleCache
    run.1 = .ok none ∧ run.2.world.2.memory = op.writtenTo staleCache.world.2.memory ∧
      (run.2.world.2.memory 6).bytes = List.replicate 8 7 ++ List.replicate 8 0 := by
  intro op run
  have hshown : ∀ address block, isTrailer address = false → Tag.hideKeyA address block = block.bytes := by
    intro address block h
    simp [Tag.hideKeyA, h]
  have hkeys : ∀ o ∈ [Operation.setKey .a .transport .nonVolatile 0,
      .setKey .b ⟨List.replicate 6 0, rfl⟩ .nonVolatile 0], o.setsKey = true := by decide
  have hops : ∀ o ∈ [Operation.readBlock 4, .writeBlock 8 (Block.fit [1])], o.sparesTrailers = true := by decide
  have hA : sharedSlot.state.findKey .a = .ok ⟨.transport, .nonVolatile, 0⟩ := by decide +kernel
  have hB : sharedSlot.state.findKey .b = .ok ⟨⟨List.replicate 6 0, rfl⟩, .nonVolatile, 0⟩ := by decide +kernel
  have hheld : ∀ sector < Geometry.small.sectorCount,
      storedKey twoKeys.memory sector 0x60 = Key.transport.bytes ∧
        storedKey twoKeys.memory sector 0x61 = List.replicate 6 0 := by
    decide +kernel
  have hunrefused : Unrefused (Tag.transport Tag.hideKeyA).refusing Tag.hideKeyA Prod.snd (perform op) staleCache := by
    have hplan : staleCache.world = ([], staleCache.world.2) := Prod.ext (by decide +kernel) rfl
    unfold Unrefused
    rw [hplan]
    exact follows_refusing Tag.hideKeyA _ _
  have hop : op.sparesTrailers = true := rfl
  have harray := perform_on_array (Tag.fronts_refusing Tag.hideKeyA) hshown hkeys hops hA hB hheld hop
  have hdone := harray.2 .write rfl (fun _ h => usable_staleCache h) hunrefused
  have hblock : (op.writtenTo staleCache.world.2.memory 6).bytes = List.replicate 8 7 ++ List.replicate 8 0 := by
    decide +kernel
  exact ⟨hdone.1, hdone.2, (congrArg (fun memory => (memory 6).bytes) hdone.2).trans hblock⟩

end Card
end SectorCard
