import SectorCard.Proofs.CouplerSteps
import SectorCard.Card.Operation

/-!
# Steps of a card

The outcomes of the functions that every operation of a card is built from: authorizing a sector, making sure
that it is authorized, and running an access with one more try.  The transport is arbitrary.

`AuthorizeOutcome` lists all that authorizing can do.  The rules for the other functions refer to it, so that
nothing below has to open the functions again.
-/

namespace SectorCard

/-! ## Between the card and its coupler -/

def Situation.below {ω : Type} (c : Situation Link Card ω) : Situation Link Coupler ω :=
  ⟨c.state.coupler, c.world, c.history⟩

/-- The situation of a card after its coupler has come to `d`. -/
def Situation.resume {ω : Type} (c : Situation Link Card ω) (d : Situation Link Coupler ω) :
    Situation Link Card ω :=
  ⟨{ c.state with coupler := d.state }, d.world, d.history⟩

namespace Card

open Procedure

variable {ω : Type} {t : Transport ω} {c : Situation Link Card ω}

theorem ensures_onCoupler {α : Type} {op : CouplerM α} {Q : Except Failure α → Situation Link Card ω → Prop}
    (h : Ensures t.responder op c.below fun x d => Q x (c.resume d)) :
    Ensures t.responder (onCoupler op) c Q := by
  unfold Ensures onCoupler at *
  rw [exec_focus]
  exact h

section Rules

variable {α β : Type}

theorem ensures_inspect_bind {question : Card → Except Failure α} {f : α → CardM β}
    {Q : Except Failure β → Situation Link Card ω → Prop}
    (ok : ∀ a, question c.state = .ok a → Ensures t.responder (f a) c Q)
    (error : ∀ e, question c.state = .error e → Q (.error e) c) :
    Ensures t.responder (inspect question >>= f) c Q := by
  unfold inspect
  rw [bind_assoc]
  exact ensures_get_bind (ensures_ofExcept_bind ok error)

theorem ensures_inspect_lift_bind {question : Card → Except CardError α} {f : α → CardM β}
    {Q : Except Failure β → Situation Link Card ω → Prop}
    (ok : ∀ a, question c.state = .ok a → Ensures t.responder (f a) c Q)
    (error : ∀ e, question c.state = .error e → Q (.error (.error e)) c) :
    Ensures t.responder (inspect (fun card => Failure.lift (question card)) >>= f) c Q := by
  refine ensures_inspect_bind ?_ ?_
  · intro a ha
    cases hq : question c.state with
    | ok b => rw [hq] at ha; cases ha; exact ok _ hq
    | error e => rw [hq] at ha; cases ha
  · intro f hf
    cases hq : question c.state with
    | ok b => rw [hq] at hf; cases hf
    | error e => rw [hq] at hf; cases hf; exact error e hq

theorem ensures_inspect_bind_of_ok {question : Card → Except Failure α} {a : α} {f : α → CardM β}
    {Q : Except Failure β → Situation Link Card ω → Prop} (ha : question c.state = .ok a)
    (h : Ensures t.responder (f a) c Q) : Ensures t.responder (inspect question >>= f) c Q := by
  refine ensures_inspect_bind (fun b hb => ?_) (fun e he => ?_)
  · cases ha.symm.trans hb
    exact h
  · cases ha.symm.trans he

theorem ensures_inspect_lift_bind_of_ok {question : Card → Except CardError α} {a : α} {f : α → CardM β}
    {Q : Except Failure β → Situation Link Card ω → Prop} (ha : question c.state = .ok a)
    (h : Ensures t.responder (f a) c Q) :
    Ensures t.responder (inspect (fun card => Failure.lift (question card)) >>= f) c Q :=
  ensures_inspect_bind_of_ok (congrArg Failure.lift ha) h

end Rules

/-! ## Authorizing -/

def firstAddress (sector : UInt8) : UInt8 := UInt8.ofNat (Geometry.firstIndex sector.toNat)

/-- What has to be in order before anything is sent to authorize a sector; the entry that will be loaded. -/
def authorizable (card : Card) (sector : UInt8) (selector : KeySelector) : Except CardError KeyEntry :=
  match card.findKey selector with
  | .error e => .error e
  | .ok entry =>
    match card.geometry.firstBlock sector with
    | .error e => .error e
    | .ok _ =>
      match entry.store.checkSlot entry.slot with
      | .error e => .error e
      | .ok () => .ok entry

def afterAttempt (selector : KeySelector) (entry : KeyEntry) (card : Card) : Card :=
  { card with coupler :=
    { card.coupler with key := some entry, keyLoaded := true, selector := selector } }

def afterAuthorize (sector : UInt8) (selector : KeySelector) (entry : KeyEntry) (card : Card) : Card :=
  { card with
    coupler :=
      { card.coupler with key := some entry, keyLoaded := true, selector := selector, authPending := false }
    cache := card.cache.insert sector ⟨selector, entry.slot⟩ }

/-- All that authorizing a sector can come to: something was not in order and nothing was sent, the reader did not take
the key, the card did not accept it, or the sector is authenticated. -/
inductive AuthorizeOutcome (t : Transport ω) (sector : UInt8) (selector : KeySelector)
    (c : Situation Link Card ω) : Except Failure Unit → Situation Link Card ω → Prop where
  | rejected {e : CardError} (he : c.state.authorizable sector selector = .error e) :
      AuthorizeOutcome t sector selector c (.error (.error e)) c
  | notLoaded {entry : KeyEntry} {e : CardError} (hentry : c.state.authorizable sector selector = .ok entry)
      (he : t.demand (.loading entry) .loadKeyFailed c.world = .error e) :
      AuthorizeOutcome t sector selector c (.error (.error e)) (c.exchanged t (.loading entry))
  | notAccepted {entry : KeyEntry} {code : UInt8} {data : Bytes} {e : CardError}
      (hentry : c.state.authorizable sector selector = .ok entry) (hcode : selector.code? = some code)
      (hload : t.demand (.loading entry) .loadKeyFailed c.world = .ok data)
      (he : t.demand (.authenticating (firstAddress sector) code entry.slot) .authFailed
        (t.exchange (.loading entry) c.world).2 = .error e) :
      AuthorizeOutcome t sector selector c (.error (.error e))
        { (c.exchanged t (.loading entry)).exchanged t
            (.authenticating (firstAddress sector) code entry.slot) with
          state := c.state.afterAttempt selector entry }
  | authorized {entry : KeyEntry} {code : UInt8} {data answer : Bytes}
      (hentry : c.state.authorizable sector selector = .ok entry) (hcode : selector.code? = some code)
      (hload : t.demand (.loading entry) .loadKeyFailed c.world = .ok data)
      (hauth : t.demand (.authenticating (firstAddress sector) code entry.slot) .authFailed
        (t.exchange (.loading entry) c.world).2 = .ok answer) :
      AuthorizeOutcome t sector selector c (.ok ())
        { (c.exchanged t (.loading entry)).exchanged t
            (.authenticating (firstAddress sector) code entry.slot) with
          state := c.state.afterAuthorize sector selector entry }

theorem findKey_eq_ok_iff {card : Card} {selector : KeySelector} {entry : KeyEntry} :
    card.findKey selector = .ok entry ↔ card.keys.find? selector = some entry := by
  unfold findKey
  cases card.keys.find? selector <;> simp

theorem code?_of_findKey {card : Card} {selector : KeySelector} {entry : KeyEntry}
    (h : card.findKey selector = .ok entry) : ∃ code, selector.code? = some code := by
  have hfound := findKey_eq_ok_iff.1 h
  cases selector with
  | a => exact ⟨_, rfl⟩
  | b => exact ⟨_, rfl⟩
  | access => cases hfound
  | both => cases hfound
  | all => cases hfound

theorem narrow_firstBlock {g : Geometry} {sector : UInt8} {first : UInt16}
    (h : g.firstBlock sector = .ok first) : Checked.narrow first = .ok (firstAddress sector) := by
  rcases Geometry.toNat_of_firstBlock h with ⟨hs, hfirst⟩
  have hlt : first.toNat < 256 := by
    have h1 := Geometry.trailerIndex_lt hs
    have h2 := Geometry.firstIndex_le_trailerIndex sector.toNat
    have h3 := g.blockCount_le
    omega
  rw [Checked.narrow, if_pos hlt, firstAddress, hfirst]

theorem authorize_outcome (t : Transport ω) (sector : UInt8) (selector : KeySelector)
    (c : Situation Link Card ω) :
    Ensures t.responder (authorize sector selector) c (AuthorizeOutcome t sector selector c) := by
  unfold authorize
  refine ensures_inspect_lift_bind (fun entry hkey => ?_) (fun e he => ?_)
  · refine ensures_inspect_lift_bind (fun first hfirst => ?_) (fun e he => ?_)
    · rcases code?_of_findKey hkey with ⟨code, hcode⟩
      rw [narrow_firstBlock hfirst, ofExcept_ok, pure_bind]
      -- The slot is checked by the coupler, after the sector; together the checks are those of `authorizable`.
      have hentry : entry.store.HasSlot entry.slot → c.state.authorizable sector selector = .ok entry := by
        intro legal
        have hslot := (KeyStore.checkSlot_eq_ok_iff _ _).2 legal
        simp [authorizable, hkey, hfirst, hslot]
      refine Ensures.bind (R := fun x c' => match x with
          | .ok () => entry.store.HasSlot entry.slot ∧
              (∃ data, t.demand (.loading entry) .loadKeyFailed c.world = .ok data) ∧
              c' = c.resume { c.below.exchanged t (.loading entry) with
                state := { c.state.coupler with key := some entry, keyLoaded := true } }
          | .error e => AuthorizeOutcome t sector selector c (.error e) c') ?_ ?_ ?_
      · refine ensures_onCoupler (Coupler.ensures_loadKey ?_ ?_ ?_)
        · intro illegal
          refine .rejected ?_
          simp [authorizable, hkey, hfirst, KeyStore.checkSlot, illegal]
        · intro legal data hdata
          exact ⟨legal, ⟨data, hdata⟩, rfl⟩
        · intro legal e he
          exact .notLoaded (hentry legal) he
      · -- The reader has taken the key, and the card is asked to accept it.
        rintro _ c' ⟨legal, ⟨data, hload⟩, rfl⟩
        refine Ensures.bind (R := fun x c' => match x with
            | .ok () => AuthorizeOutcome t sector selector c (.ok ())
                { c' with state := { c'.state with
                    cache := c'.state.cache.insert sector ⟨selector, entry.slot⟩ } }
            | .error e => AuthorizeOutcome t sector selector c (.error e) c') ?_ ?_ ?_
        · refine ensures_onCoupler (Coupler.ensures_authenticate hcode ?_ ?_)
          · intro answer hauth
            exact .authorized (hentry legal) hcode hload hauth
          · intro e he
            exact .notAccepted (hentry legal) hcode hload he
        · intro _ c' h
          simpa [Ensures] using h
        · intro e c' h
          exact h
      · intro e c' h
        exact h
    · refine .rejected ?_
      simp [authorizable, hkey, he]
  · refine .rejected ?_
    simp [authorizable, he]

/-! ## Making sure of an authorization -/

/-- With the slot that is configured for the key, only the cache decides whether the sector is authorized
again. -/
theorem ensures_ensureAuthorized {sector : UInt8} {selector : KeySelector} {entry : KeyEntry}
    {Q : Except Failure Unit → Situation Link Card ω → Prop} (hkey : c.state.findKey selector = .ok entry)
    (hit : c.state.cachedAuth sector = some ⟨selector, entry.slot⟩ → Q (.ok ()) c)
    (miss : c.state.cachedAuth sector ≠ some ⟨selector, entry.slot⟩ →
      Ensures t.responder (authorize sector selector) c Q) :
    Ensures t.responder (ensureAuthorized sector selector entry.slot) c Q := by
  unfold ensureAuthorized
  refine ensures_inspect_lift_bind_of_ok hkey ?_
  rw [if_pos rfl]
  refine ensures_get_bind ?_
  by_cases hcached : c.state.cachedAuth sector = some ⟨selector, entry.slot⟩
  · rw [if_pos hcached]
    exact ensures_pure (hit hcached)
  · rw [if_neg hcached]
    exact miss hcached

theorem exec_ensureAuthorized_of_miss {sector : UInt8} {selector : KeySelector} {entry : KeyEntry}
    (hkey : c.state.findKey selector = .ok entry)
    (miss : c.state.cachedAuth sector ≠ some ⟨selector, entry.slot⟩) :
    exec t.responder (ensureAuthorized sector selector entry.slot) c =
      exec t.responder (authorize sector selector) c :=
  ensures_ensureAuthorized (Q := fun x c' => (x, c') = exec t.responder (authorize sector selector) c) hkey
    (fun hit => absurd hit miss) (fun _ => rfl)

theorem ensures_ensureAuthorized_at {sector slot : UInt8} {selector : KeySelector}
    {Q : Except Failure Unit → Situation Link Card ω → Prop}
    (unknown : ∀ e, c.state.findKey selector = .error e → Q (.error (.error e)) c)
    (elsewhere : ∀ entry, c.state.findKey selector = .ok entry → entry.slot ≠ slot →
      Q (.error (.error (.invalidKeySlot slot))) c)
    (here : ∀ entry, c.state.findKey selector = .ok entry → entry.slot = slot →
      Ensures t.responder (ensureAuthorized sector selector entry.slot) c Q) :
    Ensures t.responder (ensureAuthorized sector selector slot) c Q := by
  cases hkey : c.state.findKey selector with
  | error e =>
    unfold ensureAuthorized
    refine ensures_inspect_lift_bind (fun found hfound => ?_) (fun d hd => ?_)
    · rw [hkey] at hfound
      cases hfound
    · rw [hkey] at hd
      cases hd
      exact unknown e hkey
  | ok entry =>
    by_cases hslot : entry.slot = slot
    · subst hslot
      exact here entry hkey rfl
    · unfold ensureAuthorized
      refine ensures_inspect_lift_bind_of_ok hkey ?_
      rw [if_neg hslot]
      exact ensures_throw (elsewhere entry hkey hslot)

/-! ## One more try -/

/-- What follows an access that failed to authenticate: the cache entry is dropped, so the sector is always
authorized again. -/
def tryAgain {α : Type} (sector : UInt8) (selector : KeySelector) (op : CouplerM α) : CardM α := do
  modify (invalidate sector)
  authorize sector selector
  onCoupler op

theorem cachedAuth_of_cache_eq {card card' : Card} (h : card'.cache = card.cache) (other : UInt8) :
    card'.cachedAuth other = card.cachedAuth other := by
  unfold cachedAuth
  rw [h]

theorem cachedAuth_of_cache_insert {card card' : Card} {sector : UInt8} {auth : CachedAuth}
    (h : card'.cache = card.cache.insert sector auth) (other : UInt8) :
    card'.cachedAuth other = if other = sector then some auth else card.cachedAuth other := by
  unfold cachedAuth
  rw [h, AuthCache.find?_insert]

theorem cachedAuth_invalidate (card : Card) (sector other : UInt8) :
    (card.invalidate sector).cachedAuth other = if other = sector then none else card.cachedAuth other :=
  AuthCache.find?_erase _ _ _

/-- The statement `again` after a failed authentication, and `Q` after any other result. -/
def UnlessAuthFailed {α : Type} (Q : Except Failure α → Situation Link Card ω → Prop)
    (again : Situation Link Card ω → Prop) : Except Failure α → Situation Link Card ω → Prop
  | .error (.error (.authFailed _)), c => again c
  | x, c => Q x c

/-- An access is tried a second time exactly if the first try failed to authenticate.  `R` is what holds once
the sector counts as authorized. -/
theorem ensures_withAuthRetry {α : Type} {sector : UInt8} {selector : KeySelector} {op : CouplerM α}
    {Q : Except Failure α → Situation Link Card ω → Prop} {R : Situation Link Card ω → Prop}
    (unknown : ∀ e, c.state.findKey selector = .error e → Q (.error (.error e)) c)
    (ensured : ∀ entry, c.state.findKey selector = .ok entry →
      Ensures t.responder (ensureAuthorized sector selector entry.slot) c fun x c' => match x with
        | .ok () => c'.state.findKey selector = .ok entry ∧ R c'
        | .error e => Q (.error e) c')
    (first : ∀ c', R c' → Ensures t.responder op c'.below fun x d =>
      UnlessAuthFailed Q (fun c'' => Ensures t.responder (tryAgain sector selector op) c'' Q) x
        (c'.resume d)) :
    Ensures t.responder (withAuthRetry sector selector op) c Q := by
  unfold withAuthRetry
  refine ensures_inspect_lift_bind (fun entry hkey => ?_) unknown
  refine Ensures.bind (ensured entry hkey) ?_ (fun _ _ h => h)
  rintro _ c' ⟨hkey', hR⟩
  -- The configured key is carried along, since a second try looks it up again.
  have htried : Ensures t.responder (onCoupler op) c' fun x c'' => c''.state.findKey selector = .ok entry ∧
      UnlessAuthFailed Q (fun c'' => Ensures t.responder (tryAgain sector selector op) c'' Q) x c'' :=
    ensures_onCoupler ((first c' hR).mono fun _ _ h => ⟨hkey', h⟩)
  refine htried.bind_attempt ?_
  rintro x c'' ⟨hkey'', h⟩
  split
  · exact ensures_pure h
  · -- Once the entry is dropped, making sure of the sector and authorizing it are the same.
    refine ensures_modify_bind ?_
    have hmiss : cachedAuth (invalidate sector c''.state) sector ≠ some ⟨selector, entry.slot⟩ := by
      simp [cachedAuth_invalidate]
    have hsame := exec_ensureAuthorized_of_miss (t := t)
      (c := { c'' with state := invalidate sector c''.state }) hkey'' hmiss
    have hagain : Ensures t.responder (tryAgain sector selector op) c'' Q := h
    unfold tryAgain Ensures at hagain
    rw [exec_bind, exec_modify] at hagain
    unfold Ensures
    rw [exec_bind, hsame, ← exec_bind]
    exact hagain
  · rename_i hother
    unfold UnlessAuthFailed at h
    split at h
    · rename_i he
      cases he
      exact absurd rfl (hother _)
    · exact ensures_throw h

end Card
end SectorCard
