import SectorCard.Proofs.StoredBlocks

/-!
# Rolling back a trailer

When a new trailer is refused, the trailer that was read before is written back.  A card that keeps key A to
itself shows zeros in its place, and zeros are what is written back.  So the stored trailer comes back with
key A erased, whatever key the card held (`stored_of_rolledBack`): the roll-back restores the trailer exactly
if key A was all zeros.

Nothing is assumed about which commands the card serves, only that its blocks change by acknowledged writes
alone.
-/

namespace SectorCard

open Tag (hideKeyA update)

/-- Cards whose blocks change only by acknowledged writes, and which show zeros in place of key A. -/
structure Transport.HidesKeyA {ω : Type} (t : Transport ω) (stored : ω → UInt8 → Block) : Prop where
  refused : ∀ (command : Command) w, command.Issued →
    Link.acknowledged? (t.transmit command.encode w).1 = none → stored (t.transmit command.encode w).2 = stored w
  reading : ∀ address w data,
    Link.acknowledged? (t.transmit (Command.reading address 16).encode w).1 = some data →
      data = hideKeyA address (stored w address) ∧
        stored (t.transmit (Command.reading address 16).encode w).2 = stored w
  writing : ∀ address (block : Block) w data,
    Link.acknowledged? (t.transmit (Command.writing address block.bytes).encode w).1 = some data →
      stored (t.transmit (Command.writing address block.bytes).encode w).2 = update (stored w) address block
  loading : ∀ entry w data, Link.acknowledged? (t.transmit (Command.loading entry).encode w).1 = some data →
    stored (t.transmit (Command.loading entry).encode w).2 = stored w
  authenticating : ∀ address code slot w data,
    Link.acknowledged? (t.transmit (Command.authenticating address code slot).encode w).1 = some data →
      stored (t.transmit (Command.authenticating address code slot).encode w).2 = stored w

namespace Transport.HidesKeyA

variable {ω : Type} {t : Transport ω} {stored : ω → UInt8 → Block} (card : t.HidesKeyA stored)
include card

/-- A card that hides its keys changes by writes alone. -/
theorem storesWrites : t.StoresWrites stored where
  kept command w hissued h := by
    cases hr : Link.acknowledged? (t.transmit command.encode w).1 with
    | none => exact card.refused command w hissued hr
    | some data =>
      have hcommand : command.instruction ≠ .updateBinary := h.resolve_right (by simp [hr])
      cases hissued with
      | reading address => exact (card.reading address w data hr).2
      | writing address block => exact absurd rfl hcommand
      | loading entry => exact card.loading entry w data hr
      | authenticating address code slot => exact card.authenticating address code slot w data hr
  written := card.writing

theorem shown_reading {address : UInt8} {refusal : StatusWord → CardError} {w : ω} {data : Bytes}
    (h : t.demand (.reading address 16) refusal w = .ok data) : data = hideKeyA address (stored w address) :=
  (card.reading address w data (Transport.demand_eq_ok_iff.1 h).2).1

end Transport.HidesKeyA

theorem Transport.Fronts.hidesKeyA {ω : Type} {t : Transport ω} {view : ω → Tag} (h : t.Fronts hideKeyA view) :
    t.HidesKeyA fun w => (view w).memory where
  refused command w hissued hnone := by
    rcases h command w hissued with ⟨hreply, hview⟩ | ⟨-, hview⟩
    · rw [hreply] at hnone
      rw [hview]
      cases hissued with
      | reading address =>
        rw [Tag.answer_reading]
        split <;> rfl
      | writing address block =>
        rw [Tag.answer_writing] at hnone ⊢
        split
        · rename_i hserved
          rw [if_pos hserved] at hnone
          cases hnone
        · rfl
      | loading entry => rfl
      | authenticating address code slot =>
        rw [Tag.answer_authenticating]
        split <;> rfl
    · rw [hview]
  -- A command that is acknowledged has been answered by the tag itself.
  reading address w data hdata := by
    rcases h.answers (.reading address) hdata with ⟨hreply, hview⟩
    rw [hreply] at hdata
    rw [hview]
    rw [Tag.answer_reading] at hdata ⊢
    split at hdata
    · rename_i hserved
      rw [if_pos hserved]
      refine ⟨?_, rfl⟩
      rw [Tag.acknowledged?_accepted] at hdata
      rw [← Option.some.inj hdata]
      exact List.take_of_length_le (by rw [Tag.length_hideKeyA]; decide)
    · cases hdata
  writing address block w data hdata := by
    rcases h.answers (.writing address block) hdata with ⟨hreply, hview⟩
    rw [hreply] at hdata
    rw [hview]
    rw [Tag.answer_writing] at hdata ⊢
    split at hdata
    · rename_i hserved
      rw [if_pos hserved]
    · cases hdata
  loading entry w data hdata := by
    rcases h.answers (.loading entry) hdata with ⟨-, hview⟩
    rw [hview]
    rfl
  authenticating address code slot w data hdata := by
    rcases h.answers (.authenticating address code slot) hdata with ⟨-, hview⟩
    rw [hview, Tag.answer_authenticating]
    split <;> rfl

namespace Card

open Procedure

variable {ω : Type} {t : Transport ω} {stored : ω → UInt8 → Block} {c : Situation Link Card ω}

/-! ## The whole operation -/

section Unstored

variable {card₀ : Card} {memory : UInt8 → Block}

theorem ensures_readPage_stored (card : t.HidesKeyA stored) (c : Situation Link Coupler ω) (address : UInt8) :
    Ensures t.responder (Coupler.readPage address blockLength) c fun x d =>
      stored d.world = stored c.world ∧ ∀ data, x = .ok data → data = hideKeyA address (stored c.world address) := by
  rw [Coupler.readPage_eq]
  refine Coupler.ensures_access_of_withstands (card.storesWrites.withstands (stored c.world)) rfl ?_ ?_
  · intro e d hd
    exact ⟨hd, fun _ h => nomatch h⟩
  · intro d hsame
    have hstored : stored (t.exchange (.reading address blockLength) d.world).2 = stored c.world :=
      (card.storesWrites.stored_of_ne (.reading address) nofun d.world).trans hsame
    refine Coupler.ensures_transfer_of_demand ?_ ?_
    · rintro data hdata
      refine ⟨hstored, ?_⟩
      rintro _ ⟨⟩
      rw [← hsame]
      exact card.shown_reading hdata
    · intro e pending he
      exact ⟨hstored, fun _ h => nomatch h⟩

theorem ensures_readTrailer_stored (card : t.HidesKeyA stored) (hc : Unstored stored card₀ memory c) (sector : UInt8) :
    Ensures t.responder (readTrailer sector) c fun x c' => Unstored stored card₀ memory c' ∧
      ∀ previous, x = .ok previous → ∀ address, c.state.trailerAddress sector = .ok address →
        previous.toBytes = hideKeyA address (memory address) := by
  refine ensures_readTrailer (fun _ _ => ⟨hc, fun _ h => nomatch h⟩) (fun _ _ => ⟨hc, fun _ h => nomatch h⟩) ?_
  intro found selector hfound _
  refine (ensures_withAuthRetry_of_keeps (I := Unstored stored card₀ memory)
    (Q := fun x c' => Unstored stored card₀ memory c' ∧ ∀ data, x = .ok data → data = hideKeyA found (memory found))
    hc (keeps_unstored_authorize card.storesWrites sector selector) (fun _ hc => hc.invalidate sector)
    (fun _ _ hc => ⟨hc, fun _ h => nomatch h⟩) (fun _ _ hc => hc.1) ?_).mono ?_
  · -- Each try shows the stored block, and neither stores anything.
    intro c hc _
    refine (ensures_readPage_stored card c.below found).mono ?_
    rintro x d ⟨hsame, hshown⟩
    refine ⟨⟨hc.setup.trans ⟨rfl, rfl, rfl⟩, hsame.trans hc.same⟩, fun data hdata => ?_⟩
    rw [hshown data hdata, ← hc.same]
    rfl
  · rintro x c' ⟨hc', hshown⟩
    cases x with
    | error e => exact ⟨hc', fun _ h => nomatch h⟩
    | ok data =>
      refine ⟨hc', fun previous hprevious address haddress => ?_⟩
      have hsame : found = address := Except.ok.inj (hfound.symm.trans haddress)
      subst hsame
      have hdata := hshown data rfl
      have hlength : data.length = blockSize := by rw [hdata, Tag.length_hideKeyA]
      rw [toBytes_of_trailerFrom hprevious, List.take_of_length_le (Nat.le_of_eq hlength), hdata]

/-- Rolling back stores the previous trailer, unless the last thing that was said is a refusal. -/
theorem ensures_rollBack_stored (card : t.HidesKeyA stored) (hc : Unstored stored card₀ memory c)
    {sector address : UInt8} {selector : KeySelector} {entry : KeyEntry} (previous : SectorTrailer)
    (hready : c.state.authorizable sector selector = .ok entry) :
    Ensures t.responder (rollBack sector address selector previous) c fun _ c' =>
      stored c'.world = update memory address previous.toBlock ∨ LastFailed c' := by
  refine ensures_rollBack ?_
  refine (ensures_authorize_stored card.storesWrites sector selector c).bind ?_ ?_
  · -- The sector is authorized, so the only thing left that can be refused is the write.
    rintro _ c' ⟨hsame, hidle⟩
    refine ensures_onCoupler ((ensures_writePage_lastFailed card.storesWrites (c := c'.below) hidle address
      previous.toBlock).mono ?_)
    rintro x d (hstored | hlast)
    · left
      calc
        stored d.world
            = update (stored c'.world) address previous.toBlock := hstored
        _ = update memory address previous.toBlock := by rw [hsame, hc.same]
    · exact .inr hlast
  · -- The key is there and the sector exists, so a failure is one of the card.
    rintro e c' ⟨-, hlast | ⟨e', he'⟩⟩
    · exact .inr hlast
    · rw [hready] at he'
      cases he'

end Unstored

def NoWrite (event : Event Link) : Prop :=
  ∀ address page, event.request ≠ .transmit (Command.writing address page).encode

theorem noWrite_asked (connected : Bool) : NoWrite ⟨.isConnected, connected⟩ := by
  intro address page h
  cases h

theorem noWrite_loading (entry : KeyEntry) (reply : Except CardError Bytes) :
    NoWrite ⟨.transmit (Command.loading entry).encode, reply⟩ := by
  intro address page h
  simp [Command.encode, Instruction.code] at h

theorem noWrite_authenticating (address code slot : UInt8) (reply : Except CardError Bytes) :
    NoWrite ⟨.transmit (Command.authenticating address code slot).encode, reply⟩ := by
  intro address' page h
  simp [Command.encode, Instruction.code] at h

theorem noWrite_reading (address length : UInt8) (reply : Except CardError Bytes) :
    NoWrite ⟨.transmit (Command.reading address length).encode, reply⟩ := by
  intro address' page h
  simp [Command.encode, Instruction.code] at h

section NoWrite

variable {Q : Event Link → Prop}

/-- What only writing can rule out is neither said by loading keys nor by authenticating. -/
theorem permitsKeys_of_noWrite (hQ : ∀ event, NoWrite event → Q event) (g : Geometry) : PermitsKeys g Q where
  asked connected := hQ _ (noWrite_asked connected)
  loaded entry reply _ := hQ _ (noWrite_loading entry reply)
  authenticated address _ code slot reply _ _ := hQ _ (noWrite_authenticating address code slot reply)

theorem withstands_of_noWrite (hQ : ∀ event, NoWrite event → Q event) (before : List (Event Link)) :
    Coupler.Withstands t fun d : Situation Link Coupler ω => SaidSince before Q d where
  loading _ entry h := h.exchanged (fun connected => hQ _ (noWrite_asked connected)) fun reply =>
    hQ _ (noWrite_loading entry reply)
  authenticating _ address code slot h := h.exchanged (fun connected => hQ _ (noWrite_asked connected)) fun reply =>
    hQ _ (noWrite_authenticating address code slot reply)
  state _ _ h := h

end NoWrite

theorem ensures_readTrailer_noWrite (sector : UInt8) (c : Situation Link Card ω) :
    Ensures t.responder (readTrailer sector) c fun _ c' =>
      c'.state.geometry = c.state.geometry ∧ SaidSince c.history NoWrite c' := by
  have hsteps : StepsKeep t (fun c' => c'.state.geometry = c.state.geometry ∧ SaidSince c.history NoWrite c')
      fun _ _ address command => address.toNat < c.state.geometry.blockCount ∧ command = .reading address blockLength := by
    refine stepsKeep_saidSince (permitsKeys_of_noWrite (fun _ h => h) _) ?_
    rintro sector' selector' address' command ⟨haddress, rfl⟩
    exact ⟨haddress, noWrite_reading address' blockLength⟩
  refine hsteps.everywhere.readTrailer trivial ?_ c ⟨rfl, saidSince_history _ _⟩
  rintro c' _ address ⟨hg, -⟩ - haddress
  exact ⟨hg ▸ haddress.exists_block, rfl⟩

/-- A failed update with a roll-back has stored what the card showed of the previous trailer, unless it ended
with a refusal or never wrote. -/
theorem ensures_applyPolicy_stored (card : t.HidesKeyA stored) (hc : Legal c.state) {sector address : UInt8}
    (selector : KeySelector) (haddress : c.state.trailerAddress sector = .ok address) :
    Ensures t.responder (applyPolicy sector selector true) c fun x c' => x = .ok () ∨
      (∃ block : Block, block.bytes = hideKeyA address (stored c.world address) ∧
        stored c'.world = update (stored c.world) address block) ∨
      LastFailed c' ∨ SaidSince c.history NoWrite c' := by
  have hstart : Unstored stored c.state (stored c.world) c := ⟨.refl _, rfl⟩
  have hsector : sector.toNat < c.state.geometry.sectorCount :=
    (inSector_of_trailerAddress haddress).2.sector_lt
  refine ensures_applyPolicy (R := fun previous c' => Unstored stored c.state (stored c.world) c' ∧
      ∃ p, previous = some p ∧ p.toBytes = hideKeyA address (stored c.world address)) ?_ ?_ ?_ (fun h => nomatch h) ?_
  · intro e _
    exact .inr (.inr (.inr (saidSince_history _ _)))
  · intro e _
    exact .inr (.inr (.inr (saidSince_history _ _)))
  · intro _
    refine ((ensures_readTrailer_stored card hstart sector).and (ensures_readTrailer_noWrite sector c)).mono ?_
    rintro x c' ⟨⟨hc', hshown⟩, -, hsaid⟩
    cases x with
    | ok previous => exact ⟨hc', previous, rfl, hshown previous rfl address haddress⟩
    | error e => exact .inr (.inr (.inr hsaid))
  · rintro found trailer _ c' hfound hplan ⟨hc', previous, rfl, hprevious⟩
    have hsame : found = address := Except.ok.inj (hfound.symm.trans haddress)
    subst hsame
    rcases plannedTrailer_eq_ok hplan with ⟨-, -, -, entry, -, -, -, -, hkey, -⟩
    have hwrite := ensures_withAuthRetry_writePage_stored card.storesWrites hc' sector found selector trailer.toBlock
    refine ensures_writeOrRollBack (hwrite.mono fun x c'' hwritten => ?_)
    -- After the write has failed, the rollback decides what is stored.
    match x with
    | .ok () => exact .inl rfl
    | .error (.defect _) => exact hwritten.elim
    | .error (.error e) =>
      have hsector' : sector.toNat < c''.state.geometry.sectorCount := hwritten.setup.geometry ▸ hsector
      have hkey' : c''.state.findKey selector = .ok entry := (hwritten.setup.findKey selector).trans hkey
      have hready := (hc.of_setup hwritten.setup).authorizable hsector' hkey'
      simp only [AfterWrite]
      refine (ensures_rollBack_stored card hwritten previous hready).mono ?_
      intro y c₃ hend
      have hresult : (∃ block : Block, block.bytes = hideKeyA found (stored c.world found) ∧
          stored c₃.world = update (stored c.world) found block) ∨ LastFailed c₃ ∨ SaidSince c.history NoWrite c₃ := by
        rcases hend with hstored | hlast
        · exact .inl ⟨previous.toBlock, hprevious, hstored⟩
        · exact .inr (.inl hlast)
      cases y <;> exact .inr hresult

/-! ## The stored trailer after a roll-back -/

/-- After `before`, a command was refused, something else was said after it, and all of that went well. -/
def RefusedThenServed (command : Command) (before after : List (Event Link)) : Prop :=
  ∃ earlier refusal later, after = before ++ earlier ++ ⟨.transmit command.encode, refusal⟩ :: later ∧
    Link.acknowledged? refusal = none ∧ later ≠ [] ∧ ∀ event ∈ later, event.succeeded = true

theorem RefusedThenServed.not_lastFailed {command : Command} {before : List (Event Link)}
    (h : RefusedThenServed command before c.history) : ¬ LastFailed c := by
  rintro ⟨event, hlast, hfailed⟩
  rcases h with ⟨earlier, refusal, later, hhistory, -, hne, hserved⟩
  have hmem : event ∈ later := by
    rw [hhistory, List.getLast?_append, List.getLast?_cons, List.getLast?_eq_some_getLast hne] at hlast
    cases hlast
    exact List.getLast_mem hne
  rw [hserved event hmem] at hfailed
  cases hfailed

theorem RefusedThenServed.not_noWrite {address : UInt8} {page : Bytes} {before : List (Event Link)}
    (h : RefusedThenServed (.writing address page) before c.history) : ¬ SaidSince before NoWrite c := by
  rintro ⟨said, hsaid, hquiet⟩
  rcases h with ⟨earlier, refusal, later, hhistory, -⟩
  have hsame : said = earlier ++ ⟨.transmit (Command.writing address page).encode, refusal⟩ :: later := by
    rw [hhistory, List.append_assoc] at hsaid
    exact (List.append_cancel_left hsaid).symm
  exact hquiet ⟨.transmit (Command.writing address page).encode, refusal⟩ (by simp [hsame]) address page rfl

/-- When the new trailer was refused and the roll-back went through, the stored trailer is the one from before
with key A erased, and every other block is as before.  So it is the one from before exactly if key A was all
zeros. -/
theorem stored_of_rolledBack (card : t.HidesKeyA stored) (hc : Reachable t c) {sector address : UInt8}
    {selector : KeySelector} {trailer : SectorTrailer} {e : Failure}
    (haddress : c.state.trailerAddress sector = .ok address)
    (hrun : (exec t.responder (applyPolicy sector selector true) c).1 = .error e)
    (hsaid : RefusedThenServed (.writing address trailer.toBytes) c.history
      (exec t.responder (applyPolicy sector selector true) c).2.history) :
    let after := stored (exec t.responder (applyPolicy sector selector true) c).2.world
    (∀ a, a ≠ address → after a = stored c.world a) ∧
      (after address).bytes = List.replicate 6 0 ++ (stored c.world address).bytes.drop 6 ∧
      (after address = stored c.world address ↔ (stored c.world address).bytes.take 6 = List.replicate 6 0) := by
  intro after
  have hend := ensures_applyPolicy_stored card hc.legal selector haddress
  unfold Ensures at hend
  rcases hend with hok | ⟨block, hblock, hstored⟩ | hlast | hquiet
  · rw [hrun] at hok
    cases hok
  · have hbytes : (after address).bytes = List.replicate 6 0 ++ (stored c.world address).bytes.drop 6 := by
      calc
        (after address).bytes
            = (update (stored c.world) address block address).bytes := by rw [← hstored]
        _ = hideKeyA address (stored c.world address) := by rw [Tag.update_self, hblock]
        _ = List.replicate 6 0 ++ (stored c.world address).bytes.drop 6 := by
              rw [hideKeyA, if_pos (Tag.isTrailer_of_trailerAddress haddress)]
    refine ⟨fun a ha => ?_, hbytes, ?_, ?_⟩
    · show stored _ a = _
      rw [hstored, Tag.update_of_ne ha]
    · -- If the trailer is the one from before, then its first six bytes are the zeros.
      intro hsame
      rw [hsame] at hbytes
      rw [hbytes]
      simp
    · intro hzero
      refine Block.ext ?_
      rw [hbytes, ← hzero, List.take_append_drop]
  · exact absurd hlast hsaid.not_lastFailed
  · exact absurd hquiet hsaid.not_noWrite

/-- A delivered card with both keys configured, and a reader that will refuse the sixth command. -/
def beforeRefusal : Situation Link Card (List Bool × Tag) :=
  after (Tag.transport hideKeyA).refusing
    [.setKey .a .transport .nonVolatile 0, .setKey .b .transport .nonVolatile 1]
    (start .small ([false, false, false, false, false, true], .delivered))

/-- The sixth command is the write of the new trailer.  After the roll-back, key A of sector 1 is gone. -/
theorem stored_of_rolledBack_delivered :
    let run := exec (Tag.transport hideKeyA).refusing.responder (applyPolicy 1 .b true) beforeRefusal
    run.1 = .error (.error (.writeFailed ⟨0x6f, 0x00⟩)) ∧
      RefusedThenServed (.writing 7 (SectorTrailer.toBytes ⟨.transport, ⟨0x8f, 0x07, 0x0f, 0x00⟩, .transport⟩))
        beforeRefusal.history run.2.history ∧
      (run.2.world.2.memory 7).bytes =
        List.replicate 6 0 ++ [0xff, 0x07, 0x80, 0x69, 0xff, 0xff, 0xff, 0xff, 0xff, 0xff] ∧
      run.2.world.2.memory 7 ≠ beforeRefusal.world.2.memory 7 := by
  intro run
  have hrun : run.1 = .error (.error (.writeFailed ⟨0x6f, 0x00⟩)) := rfl
  have hsaid : RefusedThenServed
      (.writing 7 (SectorTrailer.toBytes ⟨.transport, ⟨0x8f, 0x07, 0x0f, 0x00⟩, .transport⟩))
      beforeRefusal.history run.2.history :=
    ⟨run.2.history.take 11, .ok [0x6f, 0x00], run.2.history.drop 12, rfl, rfl, by decide +kernel, by decide +kernel⟩
  have hreachable : Reachable (Tag.transport hideKeyA).refusing beforeRefusal := (Reachable.start .small _).after _
  have haddress : beforeRefusal.state.trailerAddress 1 = .ok 7 := rfl
  have hstored := stored_of_rolledBack (Tag.fronts_refusing hideKeyA).hidesKeyA hreachable haddress hrun hsaid
  refine ⟨hrun, hsaid, hstored.2.1, fun hsame => ?_⟩
  have hzero := hstored.2.2.1 hsame
  revert hzero
  decide

end Card
end SectorCard
