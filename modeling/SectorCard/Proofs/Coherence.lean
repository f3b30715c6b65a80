import SectorCard.Proofs.Reachability
import SectorCard.Proofs.Tag

/-!
# Caches that agree with the stored keys

A cache is *coherent* with the blocks of a card if every key that it records for a sector is the one in the
trailer of that sector.  Whether the sector is still authenticated is another matter: a card has one
authenticated sector, while the cache may record many.

Coherence is lost only when a trailer is rewritten, and only for its own sector; it is enough to forget that
sector (`Coherent.rewritten`).
-/

namespace SectorCard

open Simulation.Chip (sectorOf trailerOf isTrailer)

namespace Tag

/-! ## Keys in trailers -/

/-- The trailer of a sector holds the key of an entry in the place that a selector stands for. -/
def Holds (memory : UInt8 → Block) (sector : UInt8) (selector : KeySelector) (entry : KeyEntry) : Prop :=
  ∃ code, selector.code? = some code ∧ storedKey memory sector.toNat code = entry.key.bytes

theorem holds_iff {memory : UInt8 → Block} {sector code : UInt8} {selector : KeySelector} {entry : KeyEntry}
    (hcode : selector.code? = some code) :
    Holds memory sector selector entry ↔ storedKey memory sector.toNat code = entry.key.bytes := by
  constructor
  · rintro ⟨found, hfound, hstored⟩
    have hsame : found = code := Option.some.inj (hfound.symm.trans hcode)
    rw [← hsame]
    exact hstored
  · intro hstored
    exact ⟨code, hcode, hstored⟩

theorem storedKey_congr {memory memory' : UInt8 → Block} {sector : Nat}
    (h : memory' (trailerOf sector) = memory (trailerOf sector)) (code : UInt8) :
    storedKey memory' sector code = storedKey memory sector code := by
  simp only [storedKey, h]

theorem Holds.congr {memory memory' : UInt8 → Block} {sector : UInt8} {selector : KeySelector} {entry : KeyEntry}
    (hholds : Holds memory sector selector entry)
    (h : memory' (trailerOf sector.toNat) = memory (trailerOf sector.toNat)) :
    Holds memory' sector selector entry := by
  rcases hholds with ⟨code, hcode, hstored⟩
  exact ⟨code, hcode, (storedKey_congr h code).trans hstored⟩

/-! ## Where trailers are -/

theorem toNat_trailerOf {g : Geometry} {sector : Nat} (h : sector < g.sectorCount) :
    (trailerOf sector).toNat = Geometry.trailerIndex sector := by
  have hlt : Geometry.trailerIndex sector < 256 := by
    have h1 := Geometry.trailerIndex_lt h
    have h2 := g.blockCount_le
    omega
  rw [trailerOf, UInt8.toNat_ofNat']
  exact Nat.mod_eq_of_lt hlt

theorem sectorOf_trailerOf {g : Geometry} {sector : Nat} (h : sector < g.sectorCount) :
    sectorOf (trailerOf sector) = sector := by
  simp only [sectorOf, toNat_trailerOf h, Geometry.sectorIndex_trailerIndex]

theorem trailerOf_ne {g : Geometry} {sector : Nat} {address : UInt8} (hsector : sector < g.sectorCount)
    (h : isTrailer address = false) : trailerOf sector ≠ address := by
  rintro rfl
  simp [isTrailer, sectorOf_trailerOf hsector] at h

theorem trailerOf_injective {g : Geometry} {sector sector' : UInt8} (hsector : sector.toNat < g.sectorCount)
    (hsector' : sector'.toNat < g.sectorCount) (h : trailerOf sector.toNat = trailerOf sector'.toNat) :
    sector = sector' := by
  have hsame := congrArg sectorOf h
  rw [sectorOf_trailerOf hsector, sectorOf_trailerOf hsector'] at hsame
  exact UInt8.toNat_inj.1 hsame

theorem not_isTrailer {g : Geometry} {access : Card.Access} {sector address : UInt8}
    (h : Card.DataBlock g access sector address) : isTrailer address = false := by
  have hne : trailerOf sector.toNat ≠ address := by
    intro hsame
    exact h.no_trailer (by rw [← toNat_trailerOf h.toInSector.sector_lt, hsame])
  simpa [isTrailer, sectorOf_eq h.toInSector] using hne

end Tag

namespace Card

open Procedure
open Tag (Holds update)

/-! ## Coherence -/

/-- A sound card that records only keys which the trailers hold. -/
structure Coherent (card : Card) (memory : UInt8 → Block) : Prop where
  sound : Sound card
  held : ∀ sector auth entry, card.cachedAuth sector = some auth → card.findKey auth.selector = .ok entry →
    Holds memory sector auth.selector entry

namespace Coherent

variable {card : Card} {memory memory' : UInt8 → Block}

theorem of_empty (hsound : Sound card) (hempty : ∀ sector, card.cachedAuth sector = none) : Coherent card memory where
  sound := hsound
  held sector auth entry hcached := by
    rw [hempty] at hcached
    cases hcached

theorem of_authorized (h : Coherent card memory) {sector : UInt8} {selector : KeySelector} {entry : KeyEntry}
    (hauth : Authorized sector selector card) (hkey : card.findKey selector = .ok entry) :
    Holds memory sector selector entry := by
  rcases hauth with ⟨found, -, hcached⟩
  exact h.held sector _ entry hcached hkey

theorem invalidate (h : Coherent card memory) (sector : UInt8) : Coherent (card.invalidate sector) memory where
  sound := h.sound.invalidate sector
  held other auth entry hcached hkey := by
    rw [cachedAuth_invalidate] at hcached
    split at hcached
    · cases hcached
    · exact h.held other auth entry hcached hkey

theorem congr (h : Coherent card memory)
    (hsame : ∀ sector : UInt8, sector.toNat < card.geometry.sectorCount →
      memory' (trailerOf sector.toNat) = memory (trailerOf sector.toNat)) : Coherent card memory' where
  sound := h.sound
  held sector auth entry hcached hkey :=
    (h.held sector auth entry hcached hkey).congr (hsame sector (h.sound.recorded sector auth hcached).1)

theorem stored (h : Coherent card memory) {address : UInt8} (haddress : isTrailer address = false) (block : Block) :
    Coherent card (update memory address block) :=
  h.congr fun _ hsector => Tag.update_of_ne (Tag.trailerOf_ne hsector haddress) block

/-- After a trailer was rewritten, forgetting its sector makes a card coherent again. -/
theorem rewritten (h : Coherent card memory) {sector address : UInt8} (haddress : card.trailerAddress sector = .ok address)
    (block : Block) : Coherent (card.invalidate sector) (update memory address block) where
  sound := h.sound.invalidate sector
  held other auth entry hcached hkey := by
    rw [cachedAuth_invalidate] at hcached
    split at hcached
    · cases hcached
    · rename_i hother
      have hon := (h.sound.recorded other auth hcached).1
      refine (h.held other auth entry hcached hkey).congr (Tag.update_of_ne ?_ block)
      rw [← Tag.trailerOf_eq haddress]
      intro hsame
      exact hother (Tag.trailerOf_injective hon (inSector_of_trailerAddress haddress).2.sector_lt hsame)

theorem setPolicy (h : Coherent card memory) {sector : UInt8} {policy : AccessPolicy} {card' : Card}
    (hset : setPolicy sector policy card = .ok card') : Coherent card' memory where
  sound := h.sound.setPolicy hset
  held := by
    have hheld := h.held
    unfold Card.setPolicy at hset
    split at hset
    · cases hset
      exact hheld
    · cases hset

end Coherent

end Card
end SectorCard
