import SectorCard.Proofs.CardSteps

/-!
# Statements kept by operations

A statement about situations is *kept* by a procedure if it holds after the procedure whenever it held
before, however the procedure ends.  Single reads and single writes under a key are what the operations on
data are made of; a statement that they keep is kept by reading and writing blocks one by one or in runs, and
by reading trailers.

What is known of an access when it is made, that the block exists, lies in the sector and is no trailer, and
that the key is the one the policy calls for, is handed to the statement about the single access.
-/

namespace SectorCard.Card

open Procedure

variable {ω : Type} {t : Transport ω} {I : Situation Link Card ω → Prop}

theorem keeps_performAll {ops : List Operation} (h : ∀ op ∈ ops, Keeps t.responder I (perform op)) :
    Keeps t.responder I (performAll ops) := by
  induction ops with
  | nil => exact keeps_pure []
  | cons op rest ih =>
    have hop : Keeps t.responder I (perform op) := h op List.mem_cons_self
    have hrest : Keeps t.responder I (performAll rest) := ih fun o ho => h o (List.mem_cons_of_mem _ ho)
    unfold performAll
    exact hop.attempt.bind fun result => hrest.bind fun results => keeps_pure _

/-! ## Where data may be accessed -/

structure InSector (g : Geometry) (sector address : UInt8) : Prop where
  exists_block : address.toNat < g.blockCount
  toNat_sector : sector.toNat = Geometry.sectorIndex address.toNat

/-- The block at an address is a data block of a sector that may be accessed.  The manufacturer's block may only be
read. -/
structure DataBlock (g : Geometry) (access : Access) (sector address : UInt8) : Prop
    extends InSector g sector address where
  no_trailer : Geometry.trailerIndex sector.toNat ≠ address.toNat
  no_manufacturer : access = .write → address.toNat ≠ 0

theorem InSector.sector_lt {g : Geometry} {sector address : UInt8} (h : InSector g sector address) :
    sector.toNat < g.sectorCount := by
  rw [h.toNat_sector]
  exact Geometry.sectorIndex_lt h.exists_block

theorem dataBlock_of_dataSector {card : Card} {block : UInt16} {access : Access} {sector : UInt8}
    (h : card.dataSector block access = .ok sector) :
    ∃ address : UInt8, Checked.narrow block = .ok address ∧ address.toNat = block.toNat ∧
      DataBlock card.geometry access sector address := by
  unfold dataSector at h
  cases hs : card.geometry.sectorOf block with
  | error e => rw [hs] at h; cases h
  | ok found =>
    rw [hs] at h
    simp only at h
    -- The rest of the check rules out trailers, and the manufacturer's block for a write.
    split at h
    · cases h
    · rename_i hplain
      cases h
      rcases Geometry.toNat_of_sectorOf hs with ⟨hblock, hsector⟩
      have h256 := card.geometry.blockCount_le
      -- No card has more blocks than there are page addresses.
      rcases Checked.narrow_eq_ok (n := block) (by omega) with ⟨address, hnarrow, haddress⟩
      refine ⟨address, hnarrow, haddress, ⟨by omega, by rw [haddress, hsector]⟩, ?_, ?_⟩
      · intro htrailer
        refine hplain ?_
        simp [Geometry.isTrailer, hblock, ← hsector, htrailer, haddress]
      · rintro rfl hzero
        have : block = 0 := UInt16.toNat_inj.1 (by rw [← haddress, hzero]; rfl)
        refine hplain ?_
        simp [Geometry.isManufacturer, this]

/-- Only an existing block that is no trailer may be accessed as data, and the manufacturer's block only for reading. -/
theorem dataSector_eq_ok {card : Card} {block : UInt16} {access : Access}
    (hblock : block.toNat < card.geometry.blockCount)
    (htrailer : Geometry.trailerIndex (Geometry.sectorIndex block.toNat) ≠ block.toNat)
    (hmanufacturer : access = .write → block.toNat ≠ 0) :
    card.dataSector block access = .ok (UInt8.ofNat (Geometry.sectorIndex block.toNat)) := by
  have hsector : card.geometry.sectorOf block = .ok (UInt8.ofNat (Geometry.sectorIndex block.toNat)) := if_pos hblock
  have hno : card.geometry.isTrailer block = false := by simp [Geometry.isTrailer, htrailer]
  have hfree : (access == .write && card.geometry.isManufacturer block) = false := by
    cases access with
    | read => rfl
    | write =>
      have hne : block ≠ 0 := by
        rintro rfl
        exact hmanufacturer rfl rfl
      simp [Geometry.isManufacturer, hne]
  rw [dataSector, hsector]
  simp [hno, hfree]

theorem dataSector_eq_error {card : Card} {block : UInt16} {access : Access} {e : CardError}
    (h : card.dataSector block access = .error e) : e = .invalidBlock block := by
  unfold dataSector at h
  split at h
  · rename_i hsector
    cases h
    unfold Geometry.sectorOf at hsector
    split at hsector
    · cases hsector
    · exact (Except.error.inj hsector).symm
  · split at h
    · exact (Except.error.inj h).symm
    · cases h

theorem inSector_of_trailerAddress {card : Card} {sector address : UInt8}
    (h : card.trailerAddress sector = .ok address) :
    address.toNat = Geometry.trailerIndex sector.toNat ∧ InSector card.geometry sector address := by
  unfold trailerAddress at h
  cases hb : card.geometry.trailerBlock sector with
  | error e => rw [hb] at h; cases h
  | ok block =>
    rw [hb] at h
    rcases Geometry.toNat_of_trailerBlock hb with ⟨hs, hblock⟩
    have hlt := Geometry.trailerIndex_lt hs
    have h256 := card.geometry.blockCount_le
    rcases Checked.narrow_eq_ok (n := block) (by omega) with ⟨found, hnarrow, hfound⟩
    have hsame : address = found := Except.ok.inj (h.symm.trans hnarrow)
    subst hsame
    refine ⟨by omega, by omega, ?_⟩
    rw [hfound, hblock, Geometry.sectorIndex_trailerIndex]

theorem toNat_of_next {block next : UInt16} (hblock : block.toNat < 256) (h : Checked.next block = .ok next) :
    next.toNat = block.toNat + 1 := by
  rcases Checked.next_eq_ok (n := block) (by omega) with ⟨hok, hto⟩
  rw [hok] at h
  cases h
  exact hto

/-! ## Reading -/

/-- Single reads under the key that the policy calls for keep `I`, as far as `W` permits the address. -/
def ReadsKeep (t : Transport ω) (I : Situation Link Card ω → Prop) (W : UInt8 → Prop) : Prop :=
  ∀ c sector selector address, I c → c.state.chooseKey sector .read = .ok selector →
    InSector c.state.geometry sector address → W address →
    Ensures t.responder (withAuthRetry sector selector (Coupler.readPage address blockLength)) c
      fun _ c' => I c'

section Reads

variable {c : Situation Link Card ω} {W : UInt8 → Prop}

theorem ReadsKeep.readAuthorized (h : ReadsKeep t I W) {sector address : UInt8} {block : UInt16} (hc : I c)
    (hnarrow : Checked.narrow block = .ok address) (haddress : InSector c.state.geometry sector address)
    (hW : W address) : Ensures t.responder (readAuthorized sector block) c fun _ c' => I c' := by
  unfold Card.readAuthorized
  refine ensures_inspect_bind (fun selector hselector => ?_) (fun _ _ => hc)
  rw [hnarrow, ofExcept_ok, pure_bind]
  refine (h c sector selector address hc hselector haddress hW).bind (fun data c' hc' => ?_) (fun _ _ hc' => hc')
  split
  · exact ensures_throw hc'
  · exact ensures_pure hc'

theorem ReadsKeep.readBlock (h : ReadsKeep t I W) {block : UInt16}
    (hW : ∀ address : UInt8, address.toNat = block.toNat → W address) : Keeps t.responder I (readBlock block) := by
  intro c hc
  refine ensures_inspect_lift_bind (fun sector hsector => ?_) (fun _ _ => hc)
  rcases dataBlock_of_dataSector hsector with ⟨address, hnarrow, heq, haddress⟩
  exact h.readAuthorized hc hnarrow haddress.toInSector (hW address heq)

theorem ReadsKeep.readRun (h : ReadsKeep t I W) {block : UInt16} {lengths : List Nat}
    (hW : ∀ i < lengths.length, ∀ address : UInt8, address.toNat = block.toNat + i → W address) :
    Keeps t.responder I (readRun block lengths) := by
  induction lengths generalizing block with
  | nil => exact keeps_pure []
  | cons take rest ih =>
    -- By induction on the cut: the first block is dealt with here, and the tail starts one block later.
    intro c hc
    refine ensures_inspect_lift_bind (fun sector hsector => ?_) (fun _ _ => hc)
    rcases dataBlock_of_dataSector hsector with ⟨address, hnarrow, heq, haddress⟩
    have hhead : W address := hW 0 (by simp) address heq
    refine (h.readAuthorized hc hnarrow haddress.toInSector hhead).bind (fun data c' hc' => ?_) (fun _ _ hc' => hc')
    have htail : Keeps t.responder I (Procedure.ofExcept (Checked.front take data) >>= fun part =>
        Procedure.ofExcept (Checked.next block) >>= fun next =>
          Card.readRun next rest >>= fun others => pure (part ++ others)) := by
      refine keeps_ofExcept_bind fun part _ => keeps_ofExcept_bind fun next hnext => ?_
      refine Keeps.bind (ih fun i hi a ha => ?_) fun others => keeps_pure _
      -- The next number does not wrap around, because the number of this block is an address.
      have hlt : address.toNat < 256 := address.toNat_lt
      exact hW (i + 1) (by simpa using hi) a (by have := toNat_of_next (by omega) hnext; omega)
    exact htail c' hc'

end Reads

variable {c : Situation Link Card ω}

def trailerFrom (data : Bytes) : Except Failure SectorTrailer :=
  if data.length < blockSize then .error (.error .size)
  else Failure.lift (SectorTrailer.ofBytes (data.take blockSize))

theorem toBytes_of_trailerFrom {data : Bytes} {trailer : SectorTrailer} (h : trailerFrom data = .ok trailer) :
    trailer.toBytes = data.take blockSize := by
  unfold trailerFrom at h
  split at h
  · cases h
  · exact SectorTrailer.toBytes_of_ofBytes (Failure.lift_eq_ok_iff.1 h)

/-- A trailer is read like a data block, under the key for reading. -/
theorem ensures_readTrailer {sector : UInt8} {Q : Except Failure SectorTrailer → Situation Link Card ω → Prop}
    (off : ∀ e, c.state.trailerAddress sector = .error e → Q (.error e) c)
    (unusable : ∀ e, c.state.chooseKey sector .read = .error e → Q (.error e) c)
    (read : ∀ address selector, c.state.trailerAddress sector = .ok address →
      c.state.chooseKey sector .read = .ok selector →
      Ensures t.responder (withAuthRetry sector selector (Coupler.readPage address blockLength)) c
        fun x c' => match x with
          | .ok data => Q (trailerFrom data) c'
          | .error e => Q (.error e) c') :
    Ensures t.responder (readTrailer sector) c Q := by
  unfold readTrailer
  refine ensures_inspect_bind (fun address haddress => ?_) off
  refine ensures_inspect_bind (fun selector hselector => ?_) unusable
  refine (read address selector haddress hselector).bind (fun data c' h => ?_) (fun _ _ h => h)
  have hQ : Q (trailerFrom data) c' := h
  unfold trailerFrom at hQ
  split at hQ
  · rename_i hshort
    rw [if_pos hshort]
    exact ensures_throw hQ
  · rename_i hlong
    have hfront : Checked.front blockSize data = .ok (data.take blockSize) := if_pos (Nat.le_of_not_lt hlong)
    rw [if_neg hlong, hfront, ofExcept_ok, pure_bind]
    simpa [Ensures] using hQ

/-! ## Writing -/

/-- Single writes under the key that the policy calls for keep `I`, as far as `W` permits the address and
the page. -/
def WritesKeep (t : Transport ω) (I : Situation Link Card ω → Prop) (W : UInt8 → Bytes → Prop) : Prop :=
  ∀ c sector selector address page, I c → c.state.chooseKey sector .write = .ok selector →
    DataBlock c.state.geometry .write sector address → page.length = blockSize → W address page →
    Ensures t.responder (withAuthRetry sector selector (Coupler.writePage address page)) c fun _ c' => I c'

variable {W : UInt8 → Bytes → Prop}

theorem WritesKeep.writeAuthorized (h : WritesKeep t I W) {sector address : UInt8} {block : UInt16}
    {page : Bytes} (hc : I c) (hnarrow : Checked.narrow block = .ok address)
    (haddress : DataBlock c.state.geometry .write sector address) (hpage : page.length = blockSize)
    (hW : W address page) : Ensures t.responder (writeAuthorized sector block page) c fun _ c' => I c' := by
  unfold Card.writeAuthorized
  refine ensures_inspect_bind (fun selector hselector => ?_) (fun _ _ => hc)
  rw [hnarrow, ofExcept_ok, pure_bind]
  exact h c sector selector address page hc hselector haddress hpage hW

theorem WritesKeep.writeBlock (h : WritesKeep t I W) {block : UInt16} {data : Block}
    (hW : ∀ address : UInt8, address.toNat = block.toNat → W address data.bytes) :
    Keeps t.responder I (writeBlock block data) := by
  intro c hc
  refine ensures_inspect_lift_bind (fun sector hsector => ?_) (fun _ _ => hc)
  rcases dataBlock_of_dataSector hsector with ⟨address, hnarrow, heq, haddress⟩
  exact h.writeAuthorized hc hnarrow haddress data.length_bytes (hW address heq)

theorem page_eq_ok {piece : Bytes} (h : piece.length ≤ blockSize) :
    Checked.page blockSize piece = .ok (Bytes.fit blockSize piece) := by
  simp [Checked.page, h]

theorem WritesKeep.writeRun (h : WritesKeep t I W) {block : UInt16} {pieces : List Bytes}
    (hsize : ∀ piece ∈ pieces, piece.length ≤ blockSize)
    (hW : ∀ i piece, pieces[i]? = some piece → ∀ address : UInt8, address.toNat = block.toNat + i →
      W address (Bytes.fit blockSize piece)) :
    Keeps t.responder I (writeRun block pieces) := by
  induction pieces generalizing block with
  | nil => exact keeps_pure ()
  | cons piece rest ih =>
    intro c hc
    refine ensures_inspect_lift_bind (fun sector hsector => ?_) (fun _ _ => hc)
    rcases dataBlock_of_dataSector hsector with ⟨address, hnarrow, heq, haddress⟩
    -- A piece fits its page, so the page is filled without a defect.
    rw [page_eq_ok (hsize piece List.mem_cons_self), ofExcept_ok, pure_bind]
    have hhead : W address (Bytes.fit blockSize piece) := hW 0 piece rfl address heq
    refine (h.writeAuthorized hc hnarrow haddress (Bytes.length_fit _ _) hhead).bind
      (fun _ c' hc' => ?_) (fun _ _ hc' => hc')
    have htail : Keeps t.responder I (Procedure.ofExcept (Checked.next block) >>= fun next => Card.writeRun next rest) := by
      refine keeps_ofExcept_bind fun next hnext => ?_
      refine ih (fun p hp => hsize p (List.mem_cons_of_mem _ hp)) ?_
      intro i p hp a ha
      refine hW (i + 1) p (by simpa using hp) a ?_
      have hlt : address.toNat < 256 := address.toNat_lt
      have := toNat_of_next (by omega) hnext
      omega
    exact htail c' hc'

end SectorCard.Card
