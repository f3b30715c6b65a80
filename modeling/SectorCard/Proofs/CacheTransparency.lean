import SectorCard.Proofs.TagSteps

/-!
# The cache only saves commands

In front of a tag, with nothing refused, forgetting what the cache records changes neither the result of an
operation nor what it stores, only how many commands it sends.  So a run of operations, with the keys
configured beforehand, can be told from its setup and the stored blocks alone: a run that forgets the whole
cache before every operation agrees with it (`outcomes_forgetAll`).

The keys in the trailers may be any, also wrong ones, and trailers may be rewritten along the way.
-/

namespace SectorCard.Card

open Procedure
open Tag (Holds keyDenied update)

variable {shown : UInt8 → Block → Bytes} {card : Card} {memory : UInt8 → Block} {c : Situation Link Card Tag}
  {α β : Type}

/-! ## Determined procedures -/

/-- What a procedure comes to, and what it stores, depends on nothing but the setup of the card and the stored
blocks. -/
def Determined (shown : UInt8 → Block → Bytes) (p : CardM α) (card : Card) (memory : UInt8 → Block) : Prop :=
  ∃ x memory', ∀ c, Stands card memory c →
    Ensures (Tag.transport shown).responder p c fun y c' => y = x ∧ Stands card memory' c'

theorem determined_pure (a : α) : Determined shown (pure a) card memory :=
  ⟨.ok a, memory, fun _ hc => ensures_pure ⟨rfl, hc⟩⟩

theorem determined_throw (e : Failure) : Determined shown (throw e : CardM α) card memory :=
  ⟨.error e, memory, fun _ hc => ensures_throw ⟨rfl, hc⟩⟩

theorem determined_ofExcept (x : Except Failure α) : Determined shown (Procedure.ofExcept x) card memory := by
  cases x with
  | ok a => exact determined_pure a
  | error e => exact determined_throw e

theorem Determined.bind {p : CardM α} {f : α → CardM β} (hp : Determined shown p card memory)
    (hf : ∀ a memory', Determined shown (f a) card memory') : Determined shown (p >>= f) card memory := by
  rcases hp with ⟨x, memory', hp⟩
  cases x with
  | error e => exact ⟨.error e, memory', fun c hc => (hp c hc).bind_of_error fun c' hc' => ⟨rfl, hc'⟩⟩
  | ok a =>
    rcases hf a memory' with ⟨y, memory'', hf⟩
    exact ⟨y, memory'', fun c hc => (hp c hc).bind_of_ok hf⟩

theorem Determined.map {p : CardM α} (hp : Determined shown p card memory) (f : α → β) :
    Determined shown (f <$> p) card memory := by
  rw [← bind_pure_comp]
  exact hp.bind fun _ _ => determined_pure _

theorem determined_inspect_bind {question : Card → Except Failure α} {f : α → CardM β}
    (hquestion : ∀ card', SameSetup card card' → question card' = question card)
    (ok : ∀ a, question card = .ok a → Determined shown (f a) card memory) :
    Determined shown (inspect question >>= f) card memory := by
  -- Every situation with this setup answers the question alike, so either all of them go on or none does.
  cases hx : question card with
  | error e =>
    refine ⟨.error e, memory, fun c hc => ensures_inspect_bind ?_ ?_⟩
    · intro a ha
      rw [hquestion _ hc.setup, hx] at ha
      cases ha
    · intro d hd
      rw [hquestion _ hc.setup, hx] at hd
      cases hd
      exact ⟨rfl, hc⟩
  | ok a =>
    rcases ok a hx with ⟨y, memory', hf⟩
    refine ⟨y, memory', fun c hc => ensures_inspect_bind ?_ ?_⟩
    · intro b hb
      rw [hquestion _ hc.setup, hx] at hb
      cases hb
      exact hf c hc
    · intro d hd
      rw [hquestion _ hc.setup, hx] at hd
      cases hd

theorem determined_inspect_lift_bind {question : Card → Except CardError α} {f : α → CardM β}
    (hquestion : ∀ card', SameSetup card card' → question card' = question card)
    (ok : ∀ a, question card = .ok a → Determined shown (f a) card memory) :
    Determined shown (inspect (fun card => Failure.lift (question card)) >>= f) card memory := by
  refine determined_inspect_bind (fun _ h => by rw [hquestion _ h]) (fun a ha => ?_)
  cases hx : question card with
  | error e =>
    rw [hx] at ha
    cases ha
  | ok b =>
    rw [hx] at ha
    cases ha
    exact ok _ hx

/-! ## Data -/

section Data

variable {sector address : UInt8} {selector : KeySelector}

theorem determined_withAuthRetry {op : CouplerM α} {a : α} {memory' : UInt8 → Block}
    (hop : Coupler.Carries shown op sector memory a memory') (hsector : sector.toNat < card.geometry.sectorCount)
    (hkept : ∀ card', Coherent card' memory → Coherent card' memory') :
    Determined shown (withAuthRetry sector selector op) card memory := by
  cases hkey : card.findKey selector with
  | error e => exact ⟨.error (.error e), memory, fun c hc => withAuthRetry_of_unknown hc hkey⟩
  | ok entry =>
    by_cases hholds : Holds memory sector selector entry
    · refine ⟨.ok a, memory', fun c hc => (withAuthRetry_of_holds hop hc hsector hkey hholds).mono ?_⟩
      rintro x c' ⟨hx, hsetup, hcoherent, hstored⟩
      exact ⟨hx, hsetup, hstored, hkept _ hcoherent⟩
    · exact ⟨.error keyDenied, memory, fun c hc => withAuthRetry_of_not_holds hc hsector hkey hholds⟩

theorem determined_readPage (haddress : InSector card.geometry sector address) :
    Determined shown (withAuthRetry sector selector (Coupler.readPage address blockLength)) card memory :=
  determined_withAuthRetry (Coupler.carries_readPage shown haddress memory) haddress.sector_lt fun _ h => h

theorem determined_readAuthorized {block : UInt16} (hnarrow : Checked.narrow block = .ok address)
    (haddress : InSector card.geometry sector address) :
    Determined shown (readAuthorized sector block) card memory := by
  refine determined_inspect_bind (fun _ h => h.chooseKey sector .read) (fun selector _ => ?_)
  rw [hnarrow, ofExcept_ok, pure_bind]
  refine (determined_readPage haddress).bind fun data memory' => ?_
  split
  · exact determined_throw _
  · exact determined_pure data

theorem determined_writeAuthorized {block : UInt16} {page : Bytes} (hnarrow : Checked.narrow block = .ok address)
    (haddress : DataBlock card.geometry .write sector address) (hpage : page.length = blockSize) :
    Determined shown (writeAuthorized sector block page) card memory := by
  refine determined_inspect_bind (fun _ h => h.chooseKey sector .write) (fun selector _ => ?_)
  rw [hnarrow, ofExcept_ok, pure_bind]
  exact determined_withAuthRetry (Coupler.carries_writePage shown haddress.toInSector memory ⟨page, hpage⟩)
    haddress.toInSector.sector_lt fun _ h => h.stored (Tag.not_isTrailer haddress) _

theorem determined_dataSector_bind {block : UInt16} {access : Access} {f : UInt8 → CardM β}
    (h : ∀ sector address, Checked.narrow block = .ok address → DataBlock card.geometry access sector address →
      Determined shown (f sector) card memory) :
    Determined shown (inspect (fun card => Failure.lift (card.dataSector block access)) >>= f) card memory := by
  refine determined_inspect_lift_bind (fun _ h => h.dataSector block access) (fun sector hsector => ?_)
  rcases dataBlock_of_dataSector hsector with ⟨address, hnarrow, -, haddress⟩
  exact h sector address hnarrow haddress

theorem determined_readBlock (block : UInt16) : Determined shown (readBlock block) card memory :=
  determined_dataSector_bind fun _ _ hnarrow haddress => determined_readAuthorized hnarrow haddress.toInSector

theorem determined_writeBlock (block : UInt16) (data : Block) : Determined shown (writeBlock block data) card memory :=
  determined_dataSector_bind fun _ _ hnarrow haddress =>
    determined_writeAuthorized hnarrow haddress data.length_bytes

theorem determined_readRun (block : UInt16) (lengths : List Nat) :
    Determined shown (readRun block lengths) card memory := by
  induction lengths generalizing block card memory with
  | nil => exact determined_pure []
  | cons take rest ih =>
    refine determined_dataSector_bind fun sector address hnarrow haddress => ?_
    refine (determined_readAuthorized hnarrow haddress.toInSector).bind fun data memory₁ => ?_
    refine (determined_ofExcept (Checked.front take data)).bind fun part memory₂ => ?_
    refine (determined_ofExcept (Checked.next block)).bind fun next memory₃ => ?_
    exact (ih next).bind fun others _ => determined_pure _

theorem determined_writeRun (block : UInt16) (pieces : List Bytes) :
    Determined shown (writeRun block pieces) card memory := by
  -- The induction is for every card and memory, since each block written changes what the next one starts from.
  induction pieces generalizing block card memory with
  | nil => exact determined_pure ()
  | cons piece rest ih =>
    refine determined_dataSector_bind fun sector address hnarrow haddress => ?_
    cases hpage : Checked.page blockSize piece with
    | error e => exact determined_throw e
    | ok page =>
      have hlength : page.length = blockSize := by
        unfold Checked.page at hpage
        split at hpage
        · cases hpage
          exact Bytes.length_fit _ _
        · cases hpage
      refine (determined_writeAuthorized hnarrow haddress hlength).bind fun _ memory₁ => ?_
      exact (determined_ofExcept (Checked.next block)).bind fun next memory₂ => ih next

end Data

/-! ## Trailers -/

theorem determined_readTrailer (sector : UInt8) : Determined shown (readTrailer sector) card memory := by
  refine determined_inspect_bind (fun _ h => h.trailerAddress sector) (fun address haddress => ?_)
  refine determined_inspect_bind (fun _ h => h.chooseKey sector .read) (fun selector _ => ?_)
  refine (determined_readPage (inSector_of_trailerAddress haddress).2).bind fun data memory₁ => ?_
  split
  · exact determined_throw _
  · refine (determined_ofExcept (Checked.front blockSize data)).bind fun bytes memory₂ => ?_
    exact determined_ofExcept _

/-- Writing a trailer works from everywhere or from nowhere.  Where it does not work, the sector cannot be
authorized either. -/
theorem trailer_written_or_refused (shown : UInt8 → Block → Bytes) {card : Card} {sector address : UInt8}
    (haddress : card.trailerAddress sector = .ok address) (selector : KeySelector) (memory : UInt8 → Block) (block : Block) :
    (∀ c, Stands card memory c →
      Ensures (Tag.transport shown).responder (withAuthRetry sector selector (Coupler.writePage address block.bytes)) c
        fun x c' => x = .ok () ∧
          Stands card (update memory address block) { c' with state := c'.state.invalidate sector }) ∨
    ∃ e, (∀ c, Stands card memory c →
      Ensures (Tag.transport shown).responder (withAuthRetry sector selector (Coupler.writePage address block.bytes)) c
        fun x c' => x = .error (.error e) ∧ Stands card memory c') ∧
      ∀ c, Stands card memory c → Ensures (Tag.transport shown).responder (authorize sector selector) c
        fun x c' => (∃ d, x = .error (.error d)) ∧ Stands card memory c' := by
  have hin := (inSector_of_trailerAddress haddress).2
  cases hkey : card.findKey selector with
  | error e =>
    have hrejected : card.authorizable sector selector = .error e := by simp [authorizable, hkey]
    refine .inr ⟨e, fun c hc => withAuthRetry_of_unknown hc hkey, fun c hc => ?_⟩
    refine (ensures_authorize_of_rejected hc hrejected).mono ?_
    rintro x c' ⟨hx, hc'⟩
    exact ⟨⟨e, hx⟩, hc'⟩
  | ok entry =>
    -- With a key configured, it is the key in the trailer that decides, wherever the card and its cache stand.
    by_cases hholds : Holds memory sector selector entry
    · refine .inl fun c hc => ?_
      have hop := Coupler.carries_writePage shown hin memory block
      refine (withAuthRetry_of_holds hop hc hin.sector_lt hkey hholds).mono ?_
      rintro x c' ⟨hx, hsetup, hcoherent, hstored⟩
      have haddress' : c'.state.trailerAddress sector = .ok address := (hsetup.trailerAddress sector).trans haddress
      exact ⟨hx, hsetup.trans ⟨rfl, rfl, rfl⟩, hstored, hcoherent.rewritten haddress' block⟩
    · refine .inr ⟨.authFailed ⟨0x63, 0x00⟩, fun c hc => ?_, fun c hc => ?_⟩
      · exact withAuthRetry_of_not_holds hc hin.sector_lt hkey hholds
      · -- The sector cannot be authorized with a key that the trailer does not hold.
        refine (ensures_authorize_of_not_holds hc (hc.legal.authorizable hin.sector_lt hkey) hholds).mono ?_
        rintro x c' ⟨hx, hc'⟩
        exact ⟨⟨_, hx⟩, hc'⟩

theorem determined_changeTrailer (sector : UInt8) (trailer : SectorTrailer) :
    Determined shown (changeTrailer sector trailer) card memory := by
  refine determined_inspect_bind (fun _ h => h.trailerAddress sector) (fun address haddress => ?_)
  refine (determined_ofExcept (Failure.lift trailer.validate)).bind fun _ memory => ?_
  rcases trailer_written_or_refused shown haddress .b memory trailer.toBlock with hwritten | ⟨e, hrefused, -⟩
  · refine ⟨.ok (), update memory address trailer.toBlock, fun c hc => (hwritten c hc).bind_of_ok fun c' hc' => ?_⟩
    simpa [Ensures] using hc'
  · exact ⟨.error (.error e), memory, fun c hc => (hrefused c hc).bind_of_error fun c' hc' => ⟨rfl, hc'⟩⟩

theorem ensures_rollBack_of_refused {sector address : UInt8} {selector : KeySelector} {previous : SectorTrailer}
    (hrefused : Ensures (Tag.transport shown).responder (authorize sector selector) c
      fun x c' => (∃ d, x = .error (.error d)) ∧ Stands card memory c') :
    Ensures (Tag.transport shown).responder (rollBack sector address selector previous) c
      fun x c' => x = .ok () ∧ Stands card memory c' := by
  refine ensures_rollBack (hrefused.bind ?_ ?_)
  · rintro _ c' ⟨⟨d, hx⟩, -⟩
    cases hx
  · rintro e c' ⟨⟨d, hx⟩, hc'⟩
    cases hx
    exact ⟨rfl, hc'⟩

theorem determined_writeOrRollBack {sector address : UInt8} (haddress : card.trailerAddress sector = .ok address)
    (selector : KeySelector) (trailer : SectorTrailer) (previous : Option SectorTrailer) :
    Determined shown (writeOrRollBack sector address selector trailer previous) card memory := by
  rcases trailer_written_or_refused shown haddress selector memory trailer.toBlock with hwritten | ⟨e, hrefused, hclosed⟩
  · refine ⟨.ok (), update memory address trailer.toBlock, fun c hc => (hwritten c hc).attempt_bind fun c' hc' => ?_⟩
    simpa [Ensures] using hc'
  · refine ⟨.error (.error e), memory, fun c hc => (hrefused c hc).attempt_bind fun c' hc' => ?_⟩
    cases previous with
    | none => exact ensures_throw ⟨rfl, hc'⟩
    | some previous =>
      refine (ensures_rollBack_of_refused (hclosed c' hc')).bind_of_ok fun c'' hc'' => ?_
      exact ensures_throw ⟨rfl, hc''⟩

theorem determined_applyPolicy (sector : UInt8) (selector : KeySelector) (keepPrevious : Bool) :
    Determined shown (applyPolicy sector selector keepPrevious) card memory := by
  rw [applyPolicy_eq]
  refine determined_inspect_bind (fun _ h => h.trailerAddress sector) (fun address haddress => ?_)
  refine determined_inspect_bind (fun _ h => h.plannedTrailer sector selector) (fun trailer _ => ?_)
  have hprevious : Determined shown (previousTrailer sector keepPrevious) card memory := by
    cases keepPrevious with
    | true => exact (determined_readTrailer sector).map some
    | false => exact determined_pure none
  exact hprevious.bind fun previous memory => determined_writeOrRollBack haddress selector trailer previous

/-! ## Authorization and policies -/

theorem determined_ensureAuthorized (sector : UInt8) (selector : KeySelector) (slot : UInt8) :
    Determined shown (ensureAuthorized sector selector slot) card memory := by
  refine determined_inspect_lift_bind (fun _ h => h.findKey selector) (fun entry hkey => ?_)
  by_cases hslot : entry.slot = slot
  · rw [if_pos hslot]
    cases hentry : card.authorizable sector selector with
    | error e =>
      refine ⟨.error (.error e), memory, fun c hc => ensures_get_bind ?_⟩
      split
      · -- Only sectors that could be authorized are ever recorded.
        rename_i hcached
        have hsector := (hc.coherent.sound.recorded sector _ hcached).1
        rw [hc.setup.geometry] at hsector
        rw [hc.legal.authorizable hsector hkey] at hentry
        cases hentry
      · exact ensures_authorize_of_rejected hc hentry
    | ok found =>
      cases hkey.symm.trans (authorizable_eq_ok hentry).1
      -- A hit and an authorization come to the same, since recorded keys are those that the trailers hold.
      by_cases hholds : Holds memory sector selector entry
      · refine ⟨.ok (), memory, fun c hc => ensures_get_bind ?_⟩
        split
        · exact ensures_pure ⟨rfl, hc⟩
        · refine (ensures_authorize_of_holds hc hentry hholds).mono ?_
          rintro x c' ⟨hx, hc', -⟩
          exact ⟨hx, hc'⟩
      · refine ⟨.error keyDenied, memory, fun c hc => ensures_get_bind ?_⟩
        split
        · rename_i hcached
          have hkey' : c.state.findKey selector = .ok entry := (hc.setup.findKey selector).trans hkey
          exact absurd (hc.coherent.held sector _ entry hcached hkey') hholds
        · exact ensures_authorize_of_not_holds hc hentry hholds
  · rw [if_neg hslot]
    exact determined_throw _

theorem SameSetup.setPolicy_error {card card' : Card} (h : SameSetup card card') {sector : UInt8}
    {policy : AccessPolicy} {e : CardError} (hset : setPolicy sector policy card = .error e) :
    setPolicy sector policy card' = .error e := by
  unfold Card.setPolicy at *
  split at hset
  · cases hset
  · rename_i hoff
    rw [if_neg (by rw [h.geometry]; exact hoff)]
    exact hset

theorem SameSetup.setPolicy_ok {card card' next : Card} (h : SameSetup card card') {sector : UInt8}
    {policy : AccessPolicy} (hset : setPolicy sector policy card = .ok next) :
    ∃ next', setPolicy sector policy card' = .ok next' ∧ SameSetup next next' := by
  unfold Card.setPolicy at *
  split at hset
  · rename_i hon
    cases hset
    rw [if_pos (by rw [h.geometry]; exact hon)]
    exact ⟨_, rfl, h.geometry, h.keys, by simp only [h.policies]⟩
  · cases hset

/-! ## Operations -/

/-- What an operation comes to, and where it leaves the setup and the stored blocks, depends on nothing but the
setup and the stored blocks. -/
theorem perform_determined (shown : UInt8 → Block → Bytes) {op : Operation} (hop : op.setsKey = false) (card : Card)
    (memory : UInt8 → Block) :
    ∃ x card' memory', ∀ c, Stands card memory c →
      Ensures (Tag.transport shown).responder (perform op) c fun y c' => y = x ∧ Stands card' memory' c' := by
  -- All operations but the setting of policies leave the card in its setup.
  have hkept : ∀ {p : CardM Operation.Result}, Determined shown p card memory →
      ∃ x card' memory', ∀ c, Stands card memory c →
        Ensures (Tag.transport shown).responder p c fun y c' => y = x ∧ Stands card' memory' c' := by
    rintro p ⟨x, memory', h⟩
    exact ⟨x, card, memory', h⟩
  cases op with
  | setKey selector key store slot => cases hop
  | setPolicy sector policy =>
    cases hset : setPolicy sector policy card with
    | error e =>
      refine ⟨.error (.error e), card, memory, fun c hc => ?_⟩
      refine Ensures.bind_of_error (e := .error e) (P := Stands card memory) ?_ (fun _ hc' => ⟨rfl, hc'⟩)
      refine ensures_change (fun next hnext => ?_) (fun d hd => ?_)
      · cases hnext.symm.trans (hc.setup.setPolicy_error hset)
      · cases hd.symm.trans (hc.setup.setPolicy_error hset)
        exact ⟨rfl, hc⟩
    | ok next =>
      refine ⟨.ok none, next, memory, fun c hc => ?_⟩
      rcases hc.setup.setPolicy_ok hset with ⟨next', hset', hsetup⟩
      refine Ensures.bind_of_ok (a := ()) (P := Stands next memory) ?_ (fun _ hc' => ensures_pure ⟨rfl, hc'⟩)
      refine ensures_change (fun found hfound => ?_) (fun d hd => ?_)
      · cases hset'.symm.trans hfound
        exact ⟨rfl, hsetup, hc.same, hc.coherent.setPolicy hset'⟩
      · cases hset'.symm.trans hd
  | ensureAuthorized sector selector slot =>
    exact hkept ((determined_ensureAuthorized sector selector slot).bind fun _ _ => determined_pure none)
  | invalidate sector =>
    refine ⟨.ok none, card, memory, fun c hc => ensures_modify_bind ?_⟩
    exact ensures_pure ⟨rfl, hc.invalidate sector⟩
  | readBlock block => exact hkept ((determined_readBlock block).map some)
  | writeBlock block data => exact hkept ((determined_writeBlock block data).bind fun _ _ => determined_pure none)
  | readLinear start length => exact hkept ((determined_readRun start _).map some)
  | writeLinear start data => exact hkept ((determined_writeRun start _).bind fun _ _ => determined_pure none)
  | readTrailer sector => exact hkept ((determined_readTrailer sector).bind fun _ _ => determined_pure _)
  | changeTrailer sector trailer =>
    exact hkept ((determined_changeTrailer sector trailer).bind fun _ _ => determined_pure none)
  | applyPolicy sector selector keepPrevious =>
    exact hkept ((determined_applyPolicy sector selector keepPrevious).bind fun _ _ => determined_pure none)

/-! ## Runs that forget -/

def sectors (card : Card) : List UInt8 := (List.range card.geometry.sectorCount).map UInt8.ofNat

/-- Forgets of every sector that it is authenticated. -/
def forgetAll (card : Card) : Card := card.sectors.foldl (fun card sector => card.invalidate sector) card

theorem cachedAuth_foldl_invalidate (sectors : List UInt8) (card : Card) (sector : UInt8) :
    (sectors.foldl (fun card sector => card.invalidate sector) card).cachedAuth sector =
      if sector ∈ sectors then none else card.cachedAuth sector := by
  induction sectors generalizing card with
  | nil => simp
  | cons first rest ih =>
    rw [List.foldl_cons, ih, cachedAuth_invalidate]
    by_cases hfirst : sector = first <;> simp [hfirst]

theorem cachedAuth_forgetAll {card : Card} (h : Sound card) (sector : UInt8) : card.forgetAll.cachedAuth sector = none := by
  rw [forgetAll, cachedAuth_foldl_invalidate]
  split
  · rfl
  · rename_i hoff
    cases hcached : card.cachedAuth sector with
    | none => rfl
    | some auth =>
      have hon : sector ∈ card.sectors :=
        List.mem_map.2 ⟨sector.toNat, List.mem_range.2 (h.recorded sector auth hcached).1, UInt8.ofNat_toNat⟩
      exact absurd hon hoff

/-- A change of the state that leaves the setup alone and keeps the cache coherent. -/
def Forgets (prepare : Card → Card) : Prop :=
  ∀ card memory, Coherent card memory → SameSetup card (prepare card) ∧ Coherent (prepare card) memory

theorem forgets_id : Forgets id :=
  fun card _ h => ⟨.refl card, h⟩

theorem forgets_forgetAll : Forgets forgetAll := by
  intro card memory h
  unfold forgetAll
  generalize card.sectors = sectors
  induction sectors generalizing card with
  | nil => exact ⟨.refl card, h⟩
  | cons first rest ih =>
    rcases ih (card.invalidate first) (h.invalidate first) with ⟨hsetup, hcoherent⟩
    have hfirst : SameSetup card (card.invalidate first) := ⟨rfl, rfl, rfl⟩
    exact ⟨hfirst.trans hsetup, hcoherent⟩

theorem Stands.prepared {prepare : Card → Card} (hprepare : Forgets prepare) (hc : Stands card memory c) :
    Stands card memory { c with state := prepare c.state } := by
  rcases hprepare c.state memory hc.coherent with ⟨hsetup, hcoherent⟩
  exact ⟨hc.setup.trans hsetup, hc.same, hcoherent⟩

/-- The results of a run of operations and the blocks that are stored after each.  Before every operation, the
state of the card is changed by `prepare`. -/
def outcomes (shown : UInt8 → Block → Bytes) (prepare : Card → Card) :
    List Operation → Situation Link Card Tag → List (Except Failure Operation.Result × (UInt8 → Block))
  | [], _ => []
  | op :: rest, c =>
    let (x, c') := exec (Tag.transport shown).responder (perform op) { c with state := prepare c.state }
    (x, c'.world.memory) :: outcomes shown prepare rest c'

theorem performAll_eq_outcomes (ops : List Operation) (c : Situation Link Card Tag) :
    (exec (Tag.transport shown).responder (performAll ops) c).1 = .ok ((outcomes shown id ops c).map Prod.fst) := by
  induction ops generalizing c with
  | nil => simp [performAll, outcomes]
  | cons op rest ih =>
    rw [exec_performAll_cons, exec_map, ih]
    rfl

/-- From alike situations, two runs that forget at different times come to the same. -/
theorem outcomes_congr {prepare prepare' : Card → Card} (hprepare : Forgets prepare) (hprepare' : Forgets prepare')
    {ops : List Operation} (hops : ∀ op ∈ ops, op.setsKey = false) {c c' : Situation Link Card Tag}
    (hc : Stands card memory c) (hc' : Stands card memory c') :
    outcomes shown prepare ops c = outcomes shown prepare' ops c' := by
  induction ops generalizing card memory c c' with
  | nil => rfl
  | cons op rest ih =>
    rcases perform_determined shown (hops op List.mem_cons_self) card memory with ⟨x, card₁, memory₁, hdetermined⟩
    rcases hdetermined _ (hc.prepared hprepare) with ⟨hx, hnext⟩
    rcases hdetermined _ (hc'.prepared hprepare') with ⟨hx', hnext'⟩
    have htail := ih (fun o ho => hops o (List.mem_cons_of_mem _ ho)) hnext hnext'
    simp only [outcomes, hx, hx', hnext.same, hnext'.same, htail]

/-- In every run with keys that were configured before, forgetting the whole cache before each operation changes
neither the results nor what is stored. -/
theorem outcomes_forgetAll (shown : UInt8 → Block → Bytes) {keys ops : List Operation}
    (hkeys : ∀ op ∈ keys, op.setsKey = true) (hops : ∀ op ∈ ops, op.setsKey = false) (g : Geometry) (tag : Tag) :
    outcomes shown forgetAll ops (after (Tag.transport shown) keys (start g tag)) =
      outcomes shown id ops (after (Tag.transport shown) keys (start g tag)) := by
  rcases configured_after (Tag.transport shown) hkeys g tag with ⟨hworld, -, hcache⟩
  have hempty : ∀ sector, (after (Tag.transport shown) keys (start g tag)).state.cachedAuth sector = none := by
    intro sector
    rw [cachedAuth, hcache]
    exact AuthCache.find?_empty sector
  have hstands : Stands (after (Tag.transport shown) keys (start g tag)).state tag.memory
      (after (Tag.transport shown) keys (start g tag)) :=
    ⟨.refl _, congrArg Tag.memory hworld, .of_empty (sound_after _ keys g tag) hempty⟩
  exact outcomes_congr forgets_forgetAll forgets_id hops hstands hstands

/-- Sector 1 is read twice with a read of sector 2 in between, sector 3 turns out to hold another key, and sector 1
is closed to the configured keys before it is read again. -/
theorem outcomes_forgetAll_delivered :
    let keys : List Operation := [.setKey .a .transport .nonVolatile 0, .setKey .b .transport .nonVolatile 1]
    let closed : SectorTrailer := ⟨⟨List.replicate 6 0, rfl⟩, ⟨0x8f, 0x07, 0x0f, 0x00⟩, ⟨List.replicate 6 0, rfl⟩⟩
    let ops : List Operation := [.readBlock 4, .readBlock 8, .readBlock 4, .writeBlock 12 (Block.fit []),
      .changeTrailer 1 closed, .readBlock 4]
    let tag : Tag := { Tag.delivered with memory := update Tag.delivered.memory 15 closed.toBlock }
    let c := after (Tag.transport Tag.hideKeyA) keys (start .small tag)
    outcomes Tag.hideKeyA forgetAll ops c = outcomes Tag.hideKeyA id ops c ∧
      (outcomes Tag.hideKeyA id ops c).map Prod.fst = [.ok (some (List.replicate 16 0)),
        .ok (some (List.replicate 16 0)), .ok (some (List.replicate 16 0)), .error keyDenied, .ok none,
        .error keyDenied] := by
  intro keys closed ops tag c
  refine ⟨outcomes_forgetAll Tag.hideKeyA ?_ ?_ .small tag, ?_⟩
  · decide
  · decide
  · decide +kernel

end SectorCard.Card
