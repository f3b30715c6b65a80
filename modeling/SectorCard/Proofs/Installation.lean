import SectorCard.Proofs.BlockArray
import SectorCard.Proofs.Rollback

/-!
# Installing a policy

When applying a policy to a sector succeeds, its trailer is made of the two configured keys and the access bits of
the policy, no other block has changed, and nothing is recorded for the sector (`ensures_applyPolicy_installed`).
So the sector is not locked out: both keys open it, and its trailer, read back, tells the policy
(`opens_of_applyPolicy`).

The cache need not be coherent, neither before nor after: what it records about the other sectors is their own
affair, and this sector it has forgotten.
-/

namespace SectorCard

open Simulation.Chip (isTrailer trailerOf)
open Tag (Holds hideKeyA storedKey update)

/-! ## Trailers that are read back -/

namespace SectorTrailer

def withoutKeyA (trailer : SectorTrailer) : SectorTrailer := { trailer with keyA := .zero }

theorem hideKeyA_toBlock {address : UInt8} (haddress : isTrailer address = true) (trailer : SectorTrailer) :
    hideKeyA address trailer.toBlock = trailer.withoutKeyA.toBytes := by
  calc
    hideKeyA address trailer.toBlock
        = List.replicate 6 0 ++ trailer.toBytes.drop 6 := if_pos haddress
    _ = List.replicate 6 0 ++ (trailer.access.toBytes ++ trailer.keyB.bytes) := by rw [trailer.drop_six_toBytes]
    _ = trailer.withoutKeyA.toBytes := (List.append_assoc _ _ _).symm

/-- What a card shows of a trailer reads as the trailer without its key A. -/
theorem trailerFrom_hideKeyA {address : UInt8} (haddress : isTrailer address = true) (trailer : SectorTrailer) :
    Card.trailerFrom ((hideKeyA address trailer.toBlock).take blockSize) = .ok trailer.withoutKeyA := by
  have hlength : trailer.withoutKeyA.toBytes.length = blockSize := trailer.withoutKeyA.length_toBytes
  have htake : trailer.withoutKeyA.toBytes.take blockSize = trailer.withoutKeyA.toBytes :=
    List.take_of_length_le (Nat.le_of_eq hlength)
  rw [hideKeyA_toBlock haddress, htake, Card.trailerFrom, if_neg (by omega), htake, ofBytes_toBytes]
  rfl

section Holds

variable {memory : UInt8 → Block} {sector : UInt8} {trailer : SectorTrailer} {entry : KeyEntry}

theorem holds_keyA (h : memory (trailerOf sector.toNat) = trailer.toBlock) (hkey : trailer.keyA = entry.key) :
    Holds memory sector .a entry := by
  refine ⟨0x60, rfl, ?_⟩
  rw [storedKey, if_pos rfl, h, ← hkey]
  exact trailer.take_six_toBytes

theorem holds_keyB (h : memory (trailerOf sector.toNat) = trailer.toBlock) (hkey : trailer.keyB = entry.key) :
    Holds memory sector .b entry := by
  refine ⟨0x61, rfl, ?_⟩
  rw [storedKey, if_neg (by decide), h, ← hkey]
  exact trailer.drop_ten_toBytes

end Holds

end SectorTrailer

namespace Card

open Procedure

/-! ## What a success leaves behind -/

section Success

variable {ω : Type} {t : Transport ω} {stored : ω → UInt8 → Block}

/-- If applying a policy succeeds, the planned trailer is stored, nothing else has changed, and the sector is
forgotten. -/
theorem ensures_applyPolicy_installed (card : t.HidesKeyA stored) (sector : UInt8) (selector : KeySelector)
    (keepPrevious : Bool) (c : Situation Link Card ω) :
    Ensures t.responder (applyPolicy sector selector keepPrevious) c fun x c' => x = .ok () →
      ∃ address trailer, c.state.trailerAddress sector = .ok address ∧
        c.state.plannedTrailer sector selector = .ok trailer ∧ SameSetup c.state c'.state ∧
        c'.state.cachedAuth sector = none ∧ stored c'.world = update (stored c.world) address trailer.toBlock := by
  have hstart : Unstored stored c.state (stored c.world) c := ⟨.refl _, rfl⟩
  refine ensures_applyPolicy (R := fun _ c' => Unstored stored c.state (stored c.world) c')
    (fun _ _ h => nomatch h) (fun _ _ h => nomatch h) (fun _ => ?_) (fun _ => hstart) ?_
  · -- Reading the present trailer stores nothing, and neither it nor a refusal counts as a success.
    refine (ensures_readTrailer_stored card hstart sector).mono ?_
    rintro x c' ⟨hc', -⟩
    cases x with
    | ok previous => exact hc'
    | error e => exact fun h => nomatch h
  · -- The write of the new trailer is the only step that stores anything on the way to a success.
    intro address trailer previous c' haddress hplan hc'
    have hwrite := ensures_withAuthRetry_writePage_stored card.storesWrites hc' sector address selector trailer.toBlock
    refine ensures_writeOrRollBack (hwrite.mono fun x c'' hwritten => ?_)
    rcases x with (e | d) | ⟨⟩
    · -- A failed write is reported, with or without a roll-back.
      cases previous with
      | none => exact fun h => nomatch h
      | some previous =>
        simp only [AfterWrite]
        have hrolled : Ensures t.responder (rollBack sector address selector previous) c'' fun _ _ => True := trivial
        refine hrolled.mono fun y _ _ => ?_
        cases y <;> exact fun h => nomatch h
    · exact hwritten.elim
    · intro _
      refine ⟨address, trailer, haddress, hplan, hwritten.1.trans ⟨rfl, rfl, rfl⟩, ?_, hwritten.2⟩
      rw [cachedAuth_invalidate, if_pos rfl]

end Success

/-! ## Opening a sector -/

section Opening

variable {shown : UInt8 → Block → Bytes} {c : Situation Link Card Tag} {sector : UInt8} {selector : KeySelector}
  {entry : KeyEntry} {memory' : UInt8 → Block}

/-- A sector about which nothing is recorded is authorized anew, and then an access to it is carried out at once. -/
theorem withAuthRetry_of_forgotten {α : Type} {op : CouplerM α} {a : α}
    (hop : Coupler.Carries shown op sector c.world.memory a memory') (hforgotten : c.state.cachedAuth sector = none)
    (hentry : c.state.authorizable sector selector = .ok entry) (hholds : Holds c.world.memory sector selector entry) :
    Ensures (Tag.transport shown).responder (withAuthRetry sector selector op) c fun x c' =>
      x = .ok a ∧ c'.world.memory = memory' := by
  have hkey : c.state.findKey selector = .ok entry := (authorizable_eq_ok hentry).1
  rcases code?_of_findKey hkey with ⟨code, hcode⟩
  refine ensures_withAuthRetry (R := fun c' => c'.state = c.state.afterAuthorize sector selector entry ∧
    c'.world.memory = c.world.memory ∧ c'.world.authed = some sector.toNat) ?_ ?_ ?_
  · intro e he
    cases hkey.symm.trans he
  · intro found hfound
    cases hkey.symm.trans hfound
    -- Nothing is recorded, so there is no hit, and the sector is authorized.
    refine ensures_ensureAuthorized hkey ?_ ?_
    · intro hit
      cases hforgotten.symm.trans hit
    · intro _
      refine (ensures_authorize_tag hentry hholds).mono ?_
      rintro x c' ⟨rfl, hstate, hsame, hauthed⟩
      refine ⟨?_, hstate, hsame, hauthed⟩
      rw [hstate]
      exact hkey
  · rintro c' ⟨hstate, hsame, hauthed⟩
    have hequipped : c'.below.state.Equipped := by
      change c'.state.coupler.Equipped
      rw [hstate]
      exact equipped_afterAuthorize hcode sector entry c.state
    have hidle : c'.below.state.authPending = false := by
      change c'.state.coupler.authPending = false
      rw [hstate]
      rfl
    refine (hop.served c'.below hequipped hsame hidle hauthed).mono ?_
    rintro x d ⟨-, rfl, hstored⟩
    exact ⟨rfl, hstored⟩

theorem ensures_ensureAuthorized_of_forgotten (hforgotten : c.state.cachedAuth sector = none)
    (hentry : c.state.authorizable sector selector = .ok entry) (hholds : Holds c.world.memory sector selector entry) :
    Ensures (Tag.transport shown).responder (ensureAuthorized sector selector entry.slot) c fun x c' =>
      x = .ok () ∧ c'.world.authed = some sector.toNat := by
  refine ensures_ensureAuthorized (authorizable_eq_ok hentry).1 ?_ ?_
  · intro hit
    cases hforgotten.symm.trans hit
  · intro _
    exact (ensures_authorize_tag hentry hholds).mono fun _ _ h => ⟨h.1, h.2.2.2⟩

/-- A trailer is read back without its key A from a sector that the key for reading opens. -/
theorem ensures_readTrailer_of_forgotten {address : UInt8} {trailer : SectorTrailer}
    (haddress : c.state.trailerAddress sector = .ok address) (hstored : c.world.memory address = trailer.toBlock)
    (hchosen : c.state.chooseKey sector .read = .ok selector) (hforgotten : c.state.cachedAuth sector = none)
    (hentry : c.state.authorizable sector selector = .ok entry) (hholds : Holds c.world.memory sector selector entry) :
    Ensures (Tag.transport hideKeyA).responder (readTrailer sector) c fun x _ => x = .ok trailer.withoutKeyA := by
  refine ensures_readTrailer ?_ ?_ ?_
  · intro e he
    cases haddress.symm.trans he
  · intro e he
    cases hchosen.symm.trans he
  · intro found key hfound hkey
    cases haddress.symm.trans hfound
    cases hchosen.symm.trans hkey
    have hsector := (inSector_of_trailerAddress haddress).2
    have hread := Coupler.carries_readPage hideKeyA hsector c.world.memory
    refine (withAuthRetry_of_forgotten hread hforgotten hentry hholds).mono ?_
    rintro x c' ⟨rfl, -⟩
    rw [hstored]
    exact SectorTrailer.trailerFrom_hideKeyA (Tag.isTrailer_of_trailerAddress haddress) trailer

end Opening

/-! ## The installed policy -/

section Installed

variable {ω : Type} {t : Transport ω} {view : ω → Tag} {c : Situation Link Card ω}

/-- A planned trailer holds every configured key. -/
theorem holds_of_plannedTrailer {card : Card} {sector : UInt8} {selector key : KeySelector} {trailer : SectorTrailer}
    {memory : UInt8 → Block} {entry : KeyEntry} (hplan : card.plannedTrailer sector selector = .ok trailer)
    (hstored : memory (trailerOf sector.toNat) = trailer.toBlock) (hkey : card.findKey key = .ok entry) :
    Holds memory sector key entry := by
  rcases plannedTrailer_eq_ok hplan with ⟨_, a, b, _, _, -, ha, hb, -, -, -, rfl⟩
  cases key with
  | a =>
    cases ha.symm.trans hkey
    exact SectorTrailer.holds_keyA hstored rfl
  | b =>
    cases hb.symm.trans hkey
    exact SectorTrailer.holds_keyB hstored rfl
  | access | both | all => cases findKey_eq_ok_iff.1 hkey

theorem chooseKey_read_of_make {card : Card} {sector : UInt8} {policy : AccessPolicy} {access : AccessBits}
    (hpolicy : card.policy sector = .ok policy) (hmake : AccessBits.make policy = .ok access) :
    card.chooseKey sector .read = .ok .a := by
  rcases AccessBits.condition_of_make hmake with ⟨data, hdata, -⟩
  simp [chooseKey, hpolicy, preferredKey?, AccessPolicy.aReads_of_condition hdata]

/-- After a policy was applied with success, the trailer of the sector consists of the configured keys and the
access bits of the policy, and no other block has changed.  Nothing is recorded for the sector, both keys open it,
and the trailer that is read back is valid, shows key B and tells the policy. -/
theorem opens_of_applyPolicy (hfronts : t.Fronts hideKeyA view) (hc : Reachable t c) {sector : UInt8}
    {selector : KeySelector} {keepPrevious : Bool}
    (hrun : (exec t.responder (applyPolicy sector selector keepPrevious) c).1 = .ok ()) :
    let applied := (exec t.responder (applyPolicy sector selector keepPrevious) c).2
    ∃ address policy a b access,
      c.state.trailerAddress sector = .ok address ∧ c.state.policy sector = .ok policy ∧
      c.state.findKey .a = .ok a ∧ c.state.findKey .b = .ok b ∧ AccessBits.make policy = .ok access ∧
      ((view applied.world).memory address).bytes = a.key.bytes ++ access.toBytes ++ b.key.bytes ∧
      (∀ other, other ≠ address → (view applied.world).memory other = (view c.world).memory other) ∧
      applied.state.cachedAuth sector = none ∧
      (∀ key entry, c.state.findKey key = .ok entry →
        Unrefused t hideKeyA view (ensureAuthorized sector key entry.slot) applied →
        let run := exec t.responder (ensureAuthorized sector key entry.slot) applied
        run.1 = .ok () ∧ (view run.2.world).authed = some sector.toNat) ∧
      (Unrefused t hideKeyA view (readTrailer sector) applied →
        ∃ trailer conditions, (exec t.responder (readTrailer sector) applied).1 = .ok trailer ∧
          trailer.validate = .ok () ∧ trailer.keyB = b.key ∧ trailer.access.decode = .ok conditions ∧
          conditions.policy? = some policy ∧ conditions.trailer = .trailer) := by
  intro applied
  have hinstalled := ensures_applyPolicy_installed hfronts.hidesKeyA sector selector keepPrevious c
  unfold Ensures at hinstalled
  rcases hinstalled hrun with ⟨address, trailer, haddress, hplan, hsetup, hforgotten, hstored⟩
  change SameSetup c.state applied.state at hsetup
  change applied.state.cachedAuth sector = none at hforgotten
  change (view applied.world).memory = update (view c.world).memory address trailer.toBlock at hstored
  have hblock : (view applied.world).memory address = trailer.toBlock := by
    rw [hstored, Tag.update_self]
  -- The planned trailer consists of the configured keys, so after the write they open the sector.
  have hholds : ∀ {key entry}, c.state.findKey key = .ok entry → Holds (view applied.world).memory sector key entry :=
    holds_of_plannedTrailer hplan (by rw [Tag.trailerOf_eq haddress, hblock])
  have hsector : sector.toNat < applied.state.geometry.sectorCount :=
    hsetup.geometry ▸ (inSector_of_trailerAddress haddress).2.sector_lt
  have hready : ∀ {key entry}, c.state.findKey key = .ok entry → applied.state.authorizable sector key = .ok entry :=
    fun hkey => (hc.legal.of_setup hsetup).authorizable hsector ((hsetup.findKey _).trans hkey)
  rcases plannedTrailer_eq_ok hplan with ⟨policy, a, b, _, access, hpolicy, ha, hb, -, hmake, hvalid, rfl⟩
  refine ⟨address, policy, a, b, access, haddress, hpolicy, ha, hb, hmake, congrArg Block.bytes hblock, ?_,
    hforgotten, ?_, ?_⟩
  · intro other hother
    rw [hstored, Tag.update_of_ne hother]
  · -- As long as nothing is refused, the card is the tag, and what follows is shown there.
    intro key entry hkey hunrefused
    rcases exec_of_follows hunrefused with ⟨hvalue, hview⟩
    have hopened : Ensures (Tag.transport hideKeyA).responder (ensureAuthorized sector key entry.slot)
        ⟨applied.state, view applied.world, applied.history⟩
        fun x c' => x = .ok () ∧ c'.world.authed = some sector.toNat :=
      ensures_ensureAuthorized_of_forgotten hforgotten (hready hkey) (hholds hkey)
    exact ⟨hvalue.trans hopened.1, (congrArg Tag.authed hview).trans hopened.2⟩
  · intro hunrefused
    rcases AccessBits.decode_of_make hmake with ⟨conditions, hdecode, htold, hcondition⟩
    have hchosen : applied.state.chooseKey sector .read = .ok .a :=
      (hsetup.chooseKey sector .read).trans (chooseKey_read_of_make hpolicy hmake)
    have hread := ensures_readTrailer_of_forgotten (c := ⟨applied.state, view applied.world, applied.history⟩)
      ((hsetup.trailerAddress sector).trans haddress) hblock hchosen hforgotten (hready ha) (hholds ha)
    exact ⟨_, conditions, (exec_of_follows hunrefused).1.trans hread, hvalid, rfl, hdecode, htold, hcondition⟩

/-- A policy applied over a cache that records what the card has given up, with both keys in one slot. -/
theorem opens_of_applyPolicy_staleCache :
    let applied := (exec (Tag.transport hideKeyA).refusing.responder (applyPolicy 1 .b true) staleCache).2
    (applied.world.2.memory 7).bytes = List.replicate 6 0xff ++ [0x8f, 0x07, 0x0f, 0x00] ++ List.replicate 6 0 ∧
      (exec (Tag.transport hideKeyA).refusing.responder (ensureAuthorized 1 .b 0) applied).1 = .ok () ∧
      ∃ trailer conditions,
        (exec (Tag.transport hideKeyA).refusing.responder (readTrailer 1) applied).1 = .ok trailer ∧
          trailer.access.decode = .ok conditions ∧ conditions.policy? = some .standard := by
  intro applied
  have hreachable : Reachable (Tag.transport hideKeyA).refusing staleCache := ((Reachable.start .small _).after _).after _
  have hrun : (exec (Tag.transport hideKeyA).refusing.responder (applyPolicy 1 .b true) staleCache).1 = .ok () := rfl
  have hunrefused : ∀ {α : Type} (p : CardM α), Unrefused (Tag.transport hideKeyA).refusing hideKeyA Prod.snd p applied := by
    intro α p
    have hplan : applied.world = ([], applied.world.2) := Prod.ext (by decide +kernel) rfl
    unfold Unrefused
    rw [hplan]
    exact follows_refusing hideKeyA _ _
  have hB : staleCache.state.findKey .b = .ok ⟨⟨List.replicate 6 0, rfl⟩, .nonVolatile, 0⟩ := by decide +kernel
  rcases opens_of_applyPolicy (Tag.fronts_refusing hideKeyA) hreachable hrun with
    ⟨address, policy, a, b, access, haddress, hpolicy, ha, hb, hmake, hbytes, -, -, hopens, hreads⟩
  rcases hreads (hunrefused _) with ⟨trailer, conditions, hread, -, -, hdecode, htold, -⟩
  have hstandard : policy = .standard := Except.ok.inj (hpolicy.symm.trans rfl)
  subst hstandard
  have haddress : address = 7 := Except.ok.inj (haddress.symm.trans rfl)
  subst haddress
  cases hmake
  cases ha
  cases hb
  exact ⟨hbytes, (hopens .b _ hB (hunrefused _)).1, trailer, conditions, hread, hdecode, htold⟩

end Installed

end Card
end SectorCard
