import SectorCard.Proofs.Coherence

/-!
# Steps in front of a tag

With a tag on the other side of the link and a coherent cache, an access under a key succeeds exactly if the
trailer holds that key (`Carries.withAuthRetry_of_holds`, `withAuthRetry_of_not_holds`).  What the coupler
remembers, which sector happens to be authenticated and whether the cache already records the sector decide
only how many commands it takes.
-/

namespace SectorCard

open Simulation.Chip (sectorOf)

/-! ## What a tag makes of demands -/

namespace Tag

section Demands

variable {shown : UInt8 → Block → Bytes}

theorem demand_loading (entry : KeyEntry) (refusal : StatusWord → CardError) (tag : Tag) :
    (transport shown).demand (.loading entry) refusal tag = .ok [] := by
  rw [Transport.demand, exchange_loading]
  rfl

theorem demand_authenticating (address code slot : UInt8) (refusal : StatusWord → CardError) (tag : Tag) :
    (transport shown).demand (.authenticating address code slot) refusal tag =
      if tag.slots slot = some (storedKey tag.memory (sectorOf address) code) then .ok []
      else .error (refusal ⟨0x63, 0x00⟩) := by
  rw [Transport.demand, exchange_authenticating]
  by_cases hmatch : tag.slots slot = some (storedKey tag.memory (sectorOf address) code)
  · rw [if_pos hmatch, if_pos hmatch]
    rfl
  · rw [if_neg hmatch, if_neg hmatch]
    rfl

@[simp] theorem memory_loading (entry : KeyEntry) (tag : Tag) :
    ((transport shown).exchange (.loading entry) tag).2.memory = tag.memory := rfl

@[simp] theorem memory_authenticating (address code slot : UInt8) (tag : Tag) :
    ((transport shown).exchange (.authenticating address code slot) tag).2.memory = tag.memory := by
  rw [exchange_authenticating]
  split <;> rfl

theorem authed_of_demand {address code slot : UInt8} {refusal : StatusWord → CardError} {tag : Tag} {data : Bytes}
    (h : (transport shown).demand (.authenticating address code slot) refusal tag = .ok data) :
    ((transport shown).exchange (.authenticating address code slot) tag).2.authed = some (sectorOf address) := by
  rw [demand_authenticating] at h
  rw [exchange_authenticating]
  split at h
  · rename_i hmatch
    rw [if_pos hmatch]
  · cases h

/-- With the key just loaded, only the trailer decides about an authentication. -/
theorem demand_loaded {g : Geometry} {sector code : UInt8} (hsector : sector.toNat < g.sectorCount)
    (entry : KeyEntry) (refusal : StatusWord → CardError) (tag : Tag) :
    (transport shown).demand (.authenticating (Card.firstAddress sector) code entry.slot) refusal
        ((transport shown).exchange (.loading entry) tag).2 =
      if storedKey tag.memory sector.toNat code = entry.key.bytes then .ok [] else .error (refusal ⟨0x63, 0x00⟩) := by
  have hslot : ((transport shown).exchange (.loading entry) tag).2.slots entry.slot = some entry.key.bytes := by
    rw [exchange_loading]
    simp
  rw [demand_authenticating, hslot, memory_loading, sectorOf_firstAddress hsector]
  simp only [Option.some.injEq, eq_comm (a := entry.key.bytes)]

end Demands

def keyDenied : Failure := .error (.authFailed ⟨0x63, 0x00⟩)

end Tag

/-! ## Access to a page -/

namespace Coupler

open Procedure
open Tag (keyDenied success denial)

/-- A coupler that remembers a key with which it can authenticate. -/
def Equipped (coupler : Coupler) : Prop :=
  ∃ entry code, coupler.key = some entry ∧ coupler.keyLoaded = true ∧ coupler.selector.code? = some code

/-- A tag carries out an operation on a sector whenever the sector is authenticated: it gives `a` and changes
the stored blocks from `memory` to `memory'`.  Otherwise it denies the operation, and nothing is stored. -/
structure Carries {α : Type} (shown : UInt8 → Block → Bytes) (op : CouplerM α) (sector : UInt8)
    (memory : UInt8 → Block) (a : α) (memory' : UInt8 → Block) : Prop where
  tried : ∀ d : Situation Link Coupler Tag, d.state.Equipped → d.world.memory = memory →
    Ensures (Tag.transport shown).responder op d fun x d' => d'.state.Equipped ∧
      ((x = .ok a ∧ d'.world.memory = memory') ∨ (x = .error keyDenied ∧ d'.world.memory = memory))
  served : ∀ d : Situation Link Coupler Tag, d.state.Equipped → d.world.memory = memory →
    d.state.authPending = false → d.world.authed = some sector.toNat →
    Ensures (Tag.transport shown).responder op d fun x d' =>
      d'.state.Equipped ∧ x = .ok a ∧ d'.world.memory = memory'

section Access

variable {shown : UInt8 → Block → Bytes} {sector address : UInt8} {memory memory' : UInt8 → Block} {data : Bytes}
  {command : Command} {other : StatusWord → CardError}

/-- The command of an access gives data if its sector is authenticated, and is denied otherwise. -/
theorem ensures_transfer_tag {d : Situation Link Coupler Tag} (hd : d.state.Equipped) (hsame : d.world.memory = memory)
    (hgrants : ∀ tag : Tag, tag.memory = memory → (Tag.transport shown).exchange command tag =
      if tag.authed = some sector.toNat then (success data, { tag with memory := memory' }) else (denial, tag)) :
    Ensures (Tag.transport shown).responder (transfer command other) d fun x d' => d'.state.Equipped ∧
      ((x = .ok data ∧ d'.world.memory = memory') ∨
        (x = .error keyDenied ∧ d'.world.memory = memory ∧ d.world.authed ≠ some sector.toNat)) := by
  have hexchange := hgrants d.world hsame
  by_cases hauthed : d.world.authed = some sector.toNat
  · rw [if_pos hauthed] at hexchange
    have hdemand : (Tag.transport shown).demand command (accessError other) d.world = .ok data := by
      rw [Transport.demand, hexchange]
      rfl
    refine ensures_transfer_of_demand ?_ ?_
    · intro found hfound
      have hfound : found = data := Except.ok.inj (hfound.symm.trans hdemand)
      exact ⟨hd, .inl ⟨by rw [hfound], congrArg (fun o => o.2.memory) hexchange⟩⟩
    · intro e pending he
      rw [hdemand] at he
      cases he
  · rw [if_neg hauthed] at hexchange
    have hdemand : (Tag.transport shown).demand command (accessError other) d.world =
        .error (.authFailed ⟨0x63, 0x00⟩) := by
      rw [Transport.demand, hexchange]
      rfl
    refine ensures_transfer_of_demand ?_ ?_
    · intro found hfound
      rw [hdemand] at hfound
      cases hfound
    · intro e pending he
      have he : e = .authFailed ⟨0x63, 0x00⟩ := Except.error.inj (he.symm.trans hdemand)
      exact ⟨hd, .inr ⟨by rw [he]; rfl, (congrArg (fun o => o.2.memory) hexchange).trans hsame, hauthed⟩⟩

theorem carries_access
    (hgrants : ∀ tag : Tag, tag.memory = memory → (Tag.transport shown).exchange command tag =
      if tag.authed = some sector.toNat then (success data, { tag with memory := memory' }) else (denial, tag)) :
    Carries shown (access address command other) sector memory data memory' where
  tried d hd hsame := by
    rcases hd with ⟨entry, code, hkey, hloaded, hcode⟩
    have hd : d.state.Equipped := ⟨entry, code, hkey, hloaded, hcode⟩
    refine ensures_access hkey hloaded hcode ?_ ?_
    · intro _ e he
      -- The tag does not hold the remembered key, and has nothing else to say.
      rw [Tag.demand_authenticating] at he
      split at he
      · cases he
      · cases he
        exact ⟨hd, .inr ⟨rfl, (Tag.memory_authenticating _ _ _ _).trans hsame⟩⟩
    · intro d' hreached
      have hready : d'.state.Equipped ∧ d'.world.memory = memory := by
        cases hreached with
        | idle _ => exact ⟨hd, hsame⟩
        | renewed _ _ => exact ⟨hd, (Tag.memory_authenticating _ _ _ _).trans hsame⟩
      refine (ensures_transfer_tag hready.1 hready.2 hgrants).mono ?_
      rintro x d'' ⟨hd'', hdone | ⟨hx, hstored, -⟩⟩
      · exact ⟨hd'', .inl hdone⟩
      · exact ⟨hd'', .inr ⟨hx, hstored⟩⟩
  served d hd hsame hidle hauthed := by
    refine ensures_access_of_idle hidle ((ensures_transfer_tag hd hsame hgrants).mono ?_)
    -- The sector is authenticated, so the tag cannot have denied it.
    rintro x d' ⟨hd', hdone | ⟨-, -, hother⟩⟩
    · exact ⟨hd', hdone⟩
    · exact absurd hauthed hother

theorem Carries.replace {α β : Type} {op : CouplerM α} {a : α} (h : Carries shown op sector memory a memory') (b : β) :
    Carries shown (op >>= fun _ => pure b) sector memory b memory' where
  tried d hd hsame := by
    refine (h.tried d hd hsame).bind ?_ ?_
    · rintro _ d' ⟨hd', ⟨-, hstored⟩ | ⟨hx, -⟩⟩
      · exact ensures_pure ⟨hd', .inl ⟨rfl, hstored⟩⟩
      · cases hx
    · rintro e d' ⟨hd', ⟨hx, -⟩ | ⟨hx, hstored⟩⟩
      · cases hx
      · cases hx
        exact ⟨hd', .inr ⟨rfl, hstored⟩⟩
  served d hd hsame hidle hauthed := by
    refine (h.served d hd hsame hidle hauthed).bind ?_ ?_
    · rintro _ d' ⟨hd', -, hstored⟩
      exact ensures_pure ⟨hd', rfl, hstored⟩
    · rintro e d' ⟨-, hx, -⟩
      cases hx

variable {g : Geometry}

theorem carries_readPage (shown : UInt8 → Block → Bytes) (haddress : Card.InSector g sector address)
    (memory : UInt8 → Block) :
    Carries shown (readPage address Card.blockLength) sector memory ((shown address (memory address)).take blockSize)
      memory := by
  rw [readPage_eq]
  refine carries_access ?_
  rintro tag rfl
  rw [Tag.exchange_reading, Tag.sectorOf_eq haddress]
  rfl

theorem carries_writePage (shown : UInt8 → Block → Bytes) (haddress : Card.InSector g sector address)
    (memory : UInt8 → Block) (block : Block) :
    Carries shown (writePage address block.bytes) sector memory () (Tag.update memory address block) := by
  rw [writePage_eq address (by rw [block.length_bytes]; decide)]
  refine Carries.replace (a := []) (carries_access ?_) ()
  rintro tag rfl
  rw [Tag.exchange_writing, Tag.sectorOf_eq haddress]

end Access

end Coupler

namespace Card

open Procedure
open Tag (Holds keyDenied storedKey)

variable {shown : UInt8 → Block → Bytes} {card : Card} {memory memory' : UInt8 → Block} {c : Situation Link Card Tag}
  {sector : UInt8} {selector : KeySelector} {entry : KeyEntry}

/-! ## Authorizing -/

/-- The card has a certain setup, certain blocks are stored, and the cache is coherent with them. -/
structure Stands (card : Card) (memory : UInt8 → Block) (c : Situation Link Card Tag) : Prop where
  setup : SameSetup card c.state
  same : c.world.memory = memory
  coherent : Coherent c.state memory

theorem Stands.invalidate (hc : Stands card memory c) (sector : UInt8) :
    Stands card memory { c with state := c.state.invalidate sector } :=
  ⟨hc.setup.trans ⟨rfl, rfl, rfl⟩, hc.same, hc.coherent.invalidate sector⟩

theorem Coherent.resume (hc : Coherent c.state memory) {d : Situation Link Coupler Tag} (hd : d.state.Equipped) :
    Coherent (c.resume d).state memory where
  sound := by
    rcases hd with ⟨key, code, hkey, hloaded, hcode⟩
    refine ⟨hc.sound.legal, fun _ => hloaded, ⟨code, hcode⟩, fun hnone => ?_, hc.sound.recorded⟩
    rw [Situation.resume, hkey] at hnone
    cases hnone
  held := hc.held

theorem Stands.resume (hc : Stands card memory c) {d : Situation Link Coupler Tag} (hd : d.state.Equipped)
    (hsame : d.world.memory = memory) : Stands card memory (c.resume d) :=
  ⟨hc.setup.trans ⟨rfl, rfl, rfl⟩, hsame, hc.coherent.resume hd⟩

theorem Stands.legal (hc : Stands card memory c) : Legal card :=
  hc.coherent.sound.legal.of_setup hc.setup.symm

theorem ensures_authorize_of_rejected (hc : Stands card memory c) {e : CardError}
    (he : card.authorizable sector selector = .error e) :
    Ensures (Tag.transport shown).responder (authorize sector selector) c fun x c' =>
      x = .error (.error e) ∧ Stands card memory c' := by
  have he' : c.state.authorizable sector selector = .error e := (hc.setup.authorizable _ _).trans he
  refine (authorize_outcome _ sector selector c).mono ?_
  intro x c' h
  cases h with
  | rejected hd =>
    cases he'.symm.trans hd
    exact ⟨rfl, hc⟩
  | notLoaded hentry _ => cases he'.symm.trans hentry
  | notAccepted hentry _ _ _ => cases he'.symm.trans hentry
  | authorized hentry _ _ _ => cases he'.symm.trans hentry

theorem equipped_afterAuthorize {code : UInt8} (hcode : selector.code? = some code) (sector : UInt8) (entry : KeyEntry)
    (card : Card) : (card.afterAuthorize sector selector entry).coupler.Equipped :=
  ⟨entry, code, rfl, rfl, hcode⟩

/-- A sector whose trailer holds the key is authorized, whatever the card remembers. -/
theorem ensures_authorize_tag (hentry : c.state.authorizable sector selector = .ok entry)
    (hholds : Holds c.world.memory sector selector entry) :
    Ensures (Tag.transport shown).responder (authorize sector selector) c fun x c' =>
      x = .ok () ∧ c'.state = c.state.afterAuthorize sector selector entry ∧
        c'.world.memory = c.world.memory ∧ c'.world.authed = some sector.toNat := by
  rcases authorizable_eq_ok hentry with ⟨-, hsector, -⟩
  refine (authorize_outcome _ sector selector c).mono ?_
  intro x c' h
  cases h with
  | rejected hd => cases hentry.symm.trans hd
  | notLoaded _ he =>
    rw [Tag.demand_loading] at he
    cases he
  | notAccepted hfound hcode _ he =>
    cases hentry.symm.trans hfound
    rw [Tag.demand_loaded hsector, if_pos ((Tag.holds_iff hcode).1 hholds)] at he
    cases he
  | authorized hfound _ _ hauth =>
    cases hentry.symm.trans hfound
    exact ⟨rfl, rfl, by simp,
      (Tag.authed_of_demand hauth).trans (congrArg some (Tag.sectorOf_firstAddress hsector))⟩

theorem ensures_authorize_of_holds (hc : Stands card memory c)
    (hentry : card.authorizable sector selector = .ok entry) (hholds : Holds memory sector selector entry) :
    Ensures (Tag.transport shown).responder (authorize sector selector) c fun x c' =>
      x = .ok () ∧ Stands card memory c' ∧ c'.state.coupler.Equipped ∧ c'.state.coupler.authPending = false ∧
        c'.world.authed = some sector.toNat := by
  have hentry' : c.state.authorizable sector selector = .ok entry := (hc.setup.authorizable _ _).trans hentry
  rcases authorizable_eq_ok hentry' with ⟨hkey, -, -⟩
  rcases code?_of_findKey hkey with ⟨code, hcode⟩
  have hsound := (soundSteps (Tag.transport shown)).authorize sector selector c hc.coherent.sound
  refine (hsound.and (ensures_authorize_tag hentry' (hc.same ▸ hholds))).mono ?_
  rintro x c' ⟨hsound', rfl, hstate, hsame, hauthed⟩
  refine ⟨rfl, ⟨hc.setup.trans ?_, hsame.trans hc.same, hsound', ?_⟩, ?_, ?_, hauthed⟩
  · rw [hstate]
    exact ⟨rfl, rfl, rfl⟩
  · rw [hstate]
    -- The new record is of a key that the trailer holds; the others were coherent before.
    intro other auth found hcached hfound
    rw [cachedAuth_afterAuthorize] at hcached
    split at hcached
    · rename_i hsame
      cases hcached
      cases hkey.symm.trans hfound
      rw [hsame]
      exact hholds
    · exact hc.coherent.held other auth found hcached hfound
  · rw [hstate]
    exact equipped_afterAuthorize hcode sector entry c.state
  · rw [hstate]
    rfl

theorem ensures_authorize_of_not_holds (hc : Stands card memory c)
    (hentry : card.authorizable sector selector = .ok entry) (hnot : ¬ Holds memory sector selector entry) :
    Ensures (Tag.transport shown).responder (authorize sector selector) c fun x c' =>
      x = .error keyDenied ∧ Stands card memory c' := by
  have hentry' : c.state.authorizable sector selector = .ok entry := (hc.setup.authorizable _ _).trans hentry
  rcases authorizable_eq_ok hentry' with ⟨hkey, hsector, -⟩
  have hsound := (soundSteps (Tag.transport shown)).authorize sector selector c hc.coherent.sound
  refine (hsound.and (authorize_outcome _ sector selector c)).mono ?_
  rintro x c' ⟨hsound', h⟩
  -- What the tag compares is the stored key, and it is not this one.
  have hdenied : ∀ {code : UInt8}, selector.code? = some code → ¬ storedKey memory sector.toNat code = entry.key.bytes :=
    fun hcode hstored => hnot ((Tag.holds_iff hcode).2 hstored)
  cases h with
  | rejected hd => cases hentry'.symm.trans hd
  | notLoaded _ he =>
    rw [Tag.demand_loading] at he
    cases he
  | notAccepted hfound hcode _ he =>
    cases hentry'.symm.trans hfound
    rw [Tag.demand_loaded hsector, hc.same, if_neg (hdenied hcode)] at he
    cases he
    exact ⟨rfl, hc.setup.trans ⟨rfl, rfl, rfl⟩, by simpa using hc.same, hsound', hc.coherent.held⟩
  | authorized hfound hcode _ hauth =>
    cases hentry'.symm.trans hfound
    rw [Tag.demand_loaded hsector, hc.same, if_neg (hdenied hcode)] at hauth
    cases hauth

/-! ## One more try -/

theorem unlessAuthFailed_keyDenied {α : Type} {Q : Except Failure α → Situation Link Card Tag → Prop}
    {again : Situation Link Card Tag → Prop} (h : again c) : UnlessAuthFailed Q again (.error keyDenied) c := h

theorem withAuthRetry_of_unknown {α : Type} {op : CouplerM α} (hc : Stands card memory c) {e : CardError}
    (he : card.findKey selector = .error e) :
    Ensures (Tag.transport shown).responder (withAuthRetry sector selector op) c fun x c' =>
      x = .error (.error e) ∧ Stands card memory c' := by
  have he' : c.state.findKey selector = .error e := (hc.setup.findKey _).trans he
  refine ensures_withAuthRetry (R := fun _ => False) ?_ ?_ (fun _ h => h.elim)
  · intro d hd
    cases he'.symm.trans hd
    exact ⟨rfl, hc⟩
  · intro entry hentry
    cases he'.symm.trans hentry

/-- An access under a key that the trailer does not hold is denied, whatever the cache records. -/
theorem withAuthRetry_of_not_holds {α : Type} {op : CouplerM α} (hc : Stands card memory c)
    (hsector : sector.toNat < card.geometry.sectorCount) (hkey : card.findKey selector = .ok entry)
    (hnot : ¬ Holds memory sector selector entry) :
    Ensures (Tag.transport shown).responder (withAuthRetry sector selector op) c fun x c' =>
      x = .error keyDenied ∧ Stands card memory c' := by
  have hkey' : c.state.findKey selector = .ok entry := (hc.setup.findKey _).trans hkey
  refine ensures_withAuthRetry (R := fun _ => False) ?_ ?_ (fun _ h => h.elim)
  · intro e he
    cases hkey'.symm.trans he
  · intro found hfound
    cases hkey'.symm.trans hfound
    refine ensures_ensureAuthorized hkey' ?_ ?_
    · intro hit
      exact absurd (hc.coherent.of_authorized ⟨entry, hkey', hit⟩ hkey') hnot
    · intro _
      refine (ensures_authorize_of_not_holds hc (hc.legal.authorizable hsector hkey) hnot).mono ?_
      rintro x c' ⟨rfl, hc'⟩
      exact ⟨rfl, hc'⟩

/-- An access under a key that the trailer holds is carried out, whatever the cache records. -/
theorem withAuthRetry_of_holds {α : Type} {op : CouplerM α} {a : α}
    (hop : Coupler.Carries shown op sector memory a memory') (hc : Stands card memory c)
    (hsector : sector.toNat < card.geometry.sectorCount) (hkey : card.findKey selector = .ok entry)
    (hholds : Holds memory sector selector entry) :
    Ensures (Tag.transport shown).responder (withAuthRetry sector selector op) c fun x c' =>
      x = .ok a ∧ SameSetup card c'.state ∧ Coherent c'.state memory ∧ c'.world.memory = memory' := by
  have hkey' : c.state.findKey selector = .ok entry := (hc.setup.findKey _).trans hkey
  have hentry : card.authorizable sector selector = .ok entry := hc.legal.authorizable hsector hkey
  refine ensures_withAuthRetry (R := fun c' => Stands card memory c' ∧ c'.state.coupler.Equipped) ?_ ?_ ?_
  · intro e he
    cases hkey'.symm.trans he
  · -- A hit and an authorization both leave a coupler that can authenticate again.
    intro found hfound
    cases hkey'.symm.trans hfound
    refine ensures_ensureAuthorized hkey' ?_ ?_
    · intro hit
      exact ⟨hkey', hc, hc.coherent.sound.remembered ⟨entry, hkey', hit⟩⟩
    · intro _
      refine (ensures_authorize_of_holds hc hentry hholds).mono ?_
      rintro x c' ⟨rfl, hc', hequipped, -, -⟩
      exact ⟨(hc'.setup.findKey _).trans hkey, hc', hequipped⟩
  · rintro c' ⟨hc', hequipped⟩
    refine (hop.tried c'.below hequipped hc'.same).mono ?_
    rintro x d ⟨hd, ⟨rfl, hstored⟩ | ⟨rfl, hsame⟩⟩
    · exact ⟨rfl, hc'.setup.trans ⟨rfl, rfl, rfl⟩, hc'.coherent.resume hd, hstored⟩
    · -- The sector was not the one that is authenticated, so it is authorized anew.
      have hretry := (hc'.resume hd hsame).invalidate sector
      refine unlessAuthFailed_keyDenied (ensures_modify_bind ?_)
      refine (ensures_authorize_of_holds hretry hentry hholds).bind ?_ ?_
      · rintro _ c'' ⟨-, hc'', hequipped'', hidle, hauthed⟩
        refine ensures_onCoupler ((hop.served c''.below hequipped'' hc''.same hidle hauthed).mono ?_)
        rintro x d' ⟨hd', rfl, hstored⟩
        exact ⟨rfl, hc''.setup.trans ⟨rfl, rfl, rfl⟩, hc''.coherent.resume hd', hstored⟩
      · rintro e c'' ⟨hx, -⟩
        cases hx

end Card
end SectorCard
