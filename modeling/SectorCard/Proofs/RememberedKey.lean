import SectorCard.Proofs.Reachability

/-!
# The key that a coupler remembers

A coupler that has to authenticate before an access does so with the key that it remembers.  Whoever uses it, that
key fits its slot and the remembered selector can authenticate; and as soon as a card records an authentication,
there is such a key (`Card.Reachable.primed`).

This holds also if the coupler is used behind the back of the card.  Whether the key is still in its slot is another
question, and not answered here.
-/

namespace SectorCard

namespace Coupler

open Procedure

variable {ω : Type} {t : Transport ω}

/-! ## Runs of pages -/

/-- Access to single pages keeps `I`. -/
structure PagesKeep (t : Transport ω) (I : Situation Link Coupler ω → Prop) : Prop where
  read : ∀ address length, Keeps t.responder I (readPage address length)
  write : ∀ address data, Keeps t.responder I (writePage address data)

namespace PagesKeep

variable {I : Situation Link Coupler ω → Prop}

theorem readWholePage (h : PagesKeep t I) (address : UInt8) : Keeps t.responder I (readWholePage address) :=
  keeps_get.bind fun c => h.read address c.pageLength

theorem scan (h : PagesKeep t I) (addresses : List UInt8) : Keeps t.responder I (scan addresses) := by
  induction addresses with
  | nil => exact keeps_pure []
  | cons address rest ih =>
    refine (h.readWholePage address).attempt.bind fun result => ?_
    split
    · exact keeps_pure []
    · exact ih.bind fun _ => keeps_pure _
    · exact keeps_pure []
    · exact keeps_throw _

theorem gather (h : PagesKeep t I) (addresses : List UInt8) (wanted : Nat) :
    Keeps t.responder I (gather addresses wanted) := by
  induction addresses generalizing wanted with
  | nil =>
    cases wanted with
    | zero => exact keeps_pure []
    | succ wanted => exact keeps_throw _
  | cons address rest ih =>
    cases wanted with
    | zero => exact keeps_pure []
    | succ wanted =>
      refine (h.readWholePage address).bind fun page => ?_
      split
      · exact keeps_throw _
      · exact (ih _).bind fun _ => keeps_pure _

theorem readData (h : PagesKeep t I) (start : UInt8) (length : Nat) : Keeps t.responder I (readData start length) :=
  (h.gather _ _).bind fun _ => keeps_pure _

theorem writePieces (h : PagesKeep t I) (start : UInt8) (size i : Nat) (pieces : List Bytes) :
    Keeps t.responder I (writePieces start size i pieces) := by
  induction pieces generalizing i with
  | nil => exact keeps_pure ()
  | cons piece rest ih =>
    refine keeps_ofExcept_bind fun page _ => keeps_ofExcept_bind fun address _ => ?_
    exact (h.write address page).bind fun _ => ih (i + 1)

theorem writeData (h : PagesKeep t I) (start : UInt8) (data : Bytes) : Keeps t.responder I (writeData start data) := by
  refine keeps_get.bind fun c => ?_
  intro d hd
  simp only
  split
  · exact h.writePieces _ _ _ _ d hd
  · exact keeps_throw _ d hd

end PagesKeep

/-! ## Every operation -/

/-- The steps of which the operations of a coupler are made keep `I`. -/
structure OperationsKeep (t : Transport ω) (I : Situation Link Coupler ω → Prop) : Prop where
  setAuth : ∀ c selector entry coupler, I c → setAuth selector entry c.state = .ok coupler →
    I { c with state := coupler }
  setPageLength : ∀ c length coupler, I c → setPageLength length c.state = .ok coupler →
    I { c with state := coupler }
  requestAuth : ∀ c, I c → I { c with state := requestAuth c.state }
  loadKey : ∀ entry, Keeps t.responder I (loadKey entry)
  authenticate : ∀ address selector slot, Keeps t.responder I (authenticate address selector slot)
  performAuth : ∀ address, Keeps t.responder I (performAuth address)
  transfer : ∀ (command : Command) other,
    command.instruction = .readBinary ∨ command.instruction = .updateBinary → Keeps t.responder I (transfer command other)

theorem keeps_change {I : Situation Link Coupler ω → Prop} {f : Coupler → Except CardError Coupler}
    (hf : ∀ c coupler, I c → f c.state = .ok coupler → I { c with state := coupler }) :
    Keeps t.responder I (Procedure.change f : CouplerM Unit) := by
  intro d hd
  unfold Ensures exec
  cases hx : f d.state with
  | ok coupler => simpa [Procedure.change_of_ok hx] using hf d coupler hd hx
  | error e => simpa [Procedure.change_of_error hx] using hd

theorem keeps_access {I : Situation Link Coupler ω → Prop} {address : UInt8} {command : Command}
    {other : StatusWord → CardError} (hauth : Keeps t.responder I (performAuth address))
    (htransfer : Keeps t.responder I (transfer command other)) :
    Keeps t.responder I (access address command other) := by
  refine Keeps.bind ?_ fun _ => htransfer
  refine keeps_get.bind fun c => ?_
  split
  · exact hauth
  · exact keeps_pure ()

namespace OperationsKeep

variable {I : Situation Link Coupler ω → Prop}

theorem pagesKeep (h : OperationsKeep t I) : PagesKeep t I where
  read address length := by
    rw [readPage_eq]
    exact keeps_access (h.performAuth address) (h.transfer _ _ (.inl rfl))
  write address data := by
    by_cases hsize : data.length ≤ Defect.maxData
    · rw [writePage_eq address hsize]
      exact (keeps_access (h.performAuth address) (h.transfer _ _ (.inr rfl))).bind fun _ => keeps_pure ()
    · simp only [writePage, if_neg hsize]
      exact keeps_throw _

theorem perform (h : OperationsKeep t I) (op : Operation) : Keeps t.responder I (perform op) := by
  -- All accesses to pages come down to reading and writing single ones.
  have hpages := h.pagesKeep
  cases op with
  | setAuth selector entry =>
    exact (keeps_change fun c coupler hc hset => h.setAuth c selector entry coupler hc hset).bind fun _ => keeps_pure none
  | setPageLength length =>
    exact (keeps_change fun c coupler hc hset => h.setPageLength c length coupler hc hset).bind fun _ => keeps_pure none
  | requestAuth => exact Keeps.bind (keeps_modify h.requestAuth) fun _ => keeps_pure none
  | loadKey entry => exact (h.loadKey entry).bind fun _ => keeps_pure none
  | authenticate address selector slot => exact (h.authenticate address selector slot).bind fun _ => keeps_pure none
  | performAuth address => exact (h.performAuth address).bind fun _ => keeps_pure none
  | readPage address length => exact (hpages.read address length).map some
  | writePage address data => exact (hpages.write address data).bind fun _ => keeps_pure none
  | readAll start => exact (hpages.scan _).map some
  | readData start length => exact (hpages.readData start length).map some
  | writeData start data => exact (hpages.writeData start data).bind fun _ => keeps_pure none
  | writeEncrypted start data mode =>
    refine Keeps.bind ?_ fun _ => keeps_pure none
    exact (keeps_require _).bind fun ciphertext => hpages.writeData start ciphertext
  | readDecrypted start length mode =>
    refine Keeps.map ?_ some
    refine (keeps_require _).bind fun sample => (hpages.readData start _).bind fun ciphertext => ?_
    exact (keeps_require _).bind fun plaintext => keeps_pure _

theorem performAll (h : OperationsKeep t I) (ops : List Operation) : Keeps t.responder I (performAll ops) := by
  induction ops with
  | nil => exact keeps_pure []
  | cons op rest ih => exact (h.perform op).attempt.bind fun result => ih.bind fun results => keeps_pure _

end OperationsKeep

/-! ## What a coupler relies on -/

/-- What a coupler can rely on about the key with which it authenticates.  If `keyed`, there is one. -/
structure Primed (keyed : Prop) (coupler : Coupler) : Prop where
  legal : ∀ entry, coupler.key = some entry → entry.store.HasSlot entry.slot
  code : ∃ code, coupler.selector.code? = some code
  key : keyed → coupler.key ≠ none

variable {keyed : Prop}

theorem keeps_primed_loadKey (entry : KeyEntry) :
    Keeps t.responder (fun d => Primed keyed d.state) (loadKey entry) := by
  intro d hd
  refine ensures_loadKey (fun _ => hd) ?_ (fun _ _ _ => hd)
  intro legal data hdata
  refine ⟨?_, hd.code, fun _ h => nomatch h⟩
  intro found hfound
  cases hfound
  exact legal

theorem keeps_primed_authenticate (address : UInt8) (selector : KeySelector) (slot : UInt8) :
    Keeps t.responder (fun d => Primed keyed d.state) (authenticate address selector slot) := by
  intro d hd
  cases hcode : selector.code? with
  | some code =>
    have hselected : Primed keyed { d.state with selector := selector } := ⟨hd.legal, ⟨code, hcode⟩, hd.key⟩
    exact ensures_authenticate hcode (fun _ _ => ⟨hd.legal, ⟨code, hcode⟩, hd.key⟩) (fun _ _ => hselected)
  | none =>
    refine ensures_require_bind (fun code hok => ?_) (fun _ _ => hd)
    simp [authCode, hcode] at hok

theorem keeps_primed_performAuth (address : UInt8) :
    Keeps t.responder (fun d => Primed keyed d.state) (performAuth address) := by
  intro d hd
  refine (performAuth_outcome t address d).mono fun x d' h => ?_
  cases h with
  | keyless _ | codeless _ _ | denied _ _ _ _ | homeless _ _ | notLoaded _ _ _ => exact hd
  | accepted _ _ _ | deniedAgain _ _ _ _ | acceptedAgain _ _ _ _ => exact ⟨hd.legal, hd.code, hd.key⟩

theorem keeps_primed_transfer (command : Command) (other : StatusWord → CardError) :
    Keeps t.responder (fun d => Primed keyed d.state) (transfer command other) := by
  intro d hd
  exact ensures_transfer_of_demand (fun _ _ => ⟨hd.legal, hd.code, hd.key⟩) (fun _ _ _ => ⟨hd.legal, hd.code, hd.key⟩)

theorem keeps_primed_access (address : UInt8) (command : Command) (other : StatusWord → CardError) :
    Keeps t.responder (fun d => Primed keyed d.state) (access address command other) :=
  keeps_access (keeps_primed_performAuth address) (keeps_primed_transfer command other)

theorem Primed.setAuth {coupler coupler' : Coupler} {selector : KeySelector} {entry : KeyEntry}
    (hset : setAuth selector entry coupler = .ok coupler') : Primed keyed coupler' := by
  unfold Coupler.setAuth at hset
  split at hset
  · cases hset
  · rename_i hselector
    split at hset
    · rename_i legal
      cases hset
      refine ⟨?_, ?_, fun _ h => by cases h⟩
      · intro found hfound
        cases hfound
        exact legal
      · simpa [KeySelector.authenticates_eq, ← Option.ne_none_iff_exists'] using hselector
    · cases hset

theorem Primed.setPageLength {coupler coupler' : Coupler} {length : UInt8} (h : Primed keyed coupler)
    (hset : setPageLength length coupler = .ok coupler') : Primed keyed coupler' := by
  unfold Coupler.setPageLength at hset
  split at hset
  · cases hset
    exact ⟨h.legal, h.code, h.key⟩
  · cases hset

theorem operationsKeep_primed : OperationsKeep t fun d => Primed keyed d.state where
  setAuth _ _ _ _ _ hset := Primed.setAuth hset
  setPageLength _ _ _ hd hset := hd.setPageLength hset
  requestAuth _ hd := ⟨hd.legal, hd.code, hd.key⟩
  loadKey := keeps_primed_loadKey
  authenticate := keeps_primed_authenticate
  performAuth := keeps_primed_performAuth
  transfer command other _ := keeps_primed_transfer command other

end Coupler

namespace Card

open Procedure

variable {ω : Type} {t : Transport ω} {c : Situation Link Card ω}

def Recorded (card : Card) : Prop := ∃ sector auth, card.cachedAuth sector = some auth

/-- What a card can rely on, also if its coupler is used behind its back: if an authentication is recorded, its
coupler has a key to authenticate with. -/
structure Primed (card : Card) : Prop where
  legal : Legal card
  coupler : Coupler.Primed (Recorded card) card.coupler

theorem primed_fresh (g : Geometry) : Primed (fresh .fresh g) where
  legal := legal_fresh _ g
  coupler :=
    { legal := fun _ h => nomatch h
      code := ⟨_, rfl⟩
      key := fun ⟨_, _, h⟩ => nomatch h }

theorem Primed.configured {card card' : Card} (h : Primed card) (hlegal : Legal card')
    (hcoupler : card'.coupler = card.coupler) (hcache : card'.cache = card.cache) : Primed card' where
  legal := hlegal
  coupler := by
    have hrecorded : Recorded card' ↔ Recorded card := by simp only [Recorded, cachedAuth, hcache]
    rw [hcoupler, hrecorded]
    exact h.coupler

theorem stepsKeep_primed (A : UInt8 → KeySelector → UInt8 → Command → Prop) :
    StepsKeep t (fun c => Primed c.state) A where
  authorize sector selector := by
    intro c hc
    refine (authorize_outcome t sector selector c).mono ?_
    intro x c' h
    -- The key that was tried is remembered, and it fits its slot.
    have hattempted : ∀ {entry : KeyEntry}, c.state.authorizable sector selector = .ok entry →
        ∀ found, some entry = some found → found.store.HasSlot found.slot := by
      intro entry hentry found hfound
      cases hfound
      exact (authorizable_eq_ok hentry).2.2
    cases h with
    | rejected he => exact hc
    | notLoaded hentry he => exact hc
    | notAccepted hentry hcode hload he =>
      exact ⟨hc.legal, hattempted hentry, ⟨_, hcode⟩, fun _ h => nomatch h⟩
    | authorized hentry hcode hload hauth =>
      exact ⟨hc.legal, hattempted hentry, ⟨_, hcode⟩, fun _ h => nomatch h⟩
  access := by
    intro c sector selector address command other hc _ _
    refine (Coupler.keeps_primed_access address command other c.below hc.coupler).mono ?_
    intro x d hd
    exact ⟨hc.legal, hd⟩
  forget := by
    intro c sector hc
    refine ⟨hc.legal, hc.coupler.legal, hc.coupler.code, ?_⟩
    rintro ⟨other, auth, hcached⟩
    rw [cachedAuth_invalidate] at hcached
    split at hcached
    · cases hcached
    · exact hc.coupler.key ⟨other, auth, hcached⟩

theorem ensures_readTrailer_primed (hc : Primed c.state) (sector : UInt8) :
    Ensures t.responder (readTrailer sector) c fun _ c' => Primed c'.state ∧ SameSetup c.state c'.state := by
  have hsteps := (stepsKeep_primed (t := t) fun _ _ _ _ => True).everywhere.andSetup c.state
  exact hsteps.readTrailer trivial (fun _ _ _ _ _ _ => trivial) c ⟨hc, .refl _⟩

theorem keeps_primed (op : Operation) : Keeps t.responder (fun c => Primed c.state) (perform op) := by
  intro c hc
  refine (stepsKeep_primed _).perform hc ?_ ?_
  · intro selector key store slot card _ hset
    exact hc.configured (hc.legal.setKey hset) (setup_setKey hset).2.1 (setup_setKey hset).2.2
  · intro sector policy card _ hset
    rcases setup_setPolicy hset with ⟨-, -, hcoupler, hcache⟩
    exact hc.configured (hc.legal.setPolicy hset) hcoupler hcache

theorem Reachable.primed (h : Reachable t c) : Primed c.state := by
  induction h with
  | start g w => exact primed_fresh g
  | perform op _ ih => exact keeps_primed op _ ih
  | @onCoupler c op _ ih =>
    have hkept := Coupler.operationsKeep_primed.perform (t := t) op c.below ih.coupler
    unfold Card.onCoupler
    rw [exec_focus]
    exact ⟨ih.legal, hkept⟩

end Card
end SectorCard
