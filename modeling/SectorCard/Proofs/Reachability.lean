import SectorCard.Proofs.OperationSteps
import SectorCard.Coupler.Operation

/-!
# Reachable states

`Sound` is what the library can rely on about its own state, wherever a run has led it and whatever the
transport did.  Every step keeps it, so it holds in every situation that a run can reach.
-/

namespace SectorCard.Card

open Procedure

variable {ω : Type} {t : Transport ω} {c : Situation Link Card ω}

/-! ## What the library can rely on -/

def Legal (card : Card) : Prop :=
  ∀ selector entry, card.findKey selector = .ok entry → entry.store.HasSlot entry.slot

/-- The facts about a card's own state that hold wherever a run has led it.  As long as no key was loaded, nothing is
recorded and nothing is pending. -/
structure Sound (card : Card) : Prop where
  legal : Legal card
  loaded : card.coupler.key ≠ none → card.coupler.keyLoaded = true
  code : ∃ code, card.coupler.selector.code? = some code
  keyless : card.coupler.key = none →
    card.coupler.authPending = false ∧ ∀ sector, card.cachedAuth sector = none
  recorded : ∀ sector auth, card.cachedAuth sector = some auth →
    sector.toNat < card.geometry.sectorCount ∧ ∃ entry, card.findKey auth.selector = .ok entry

theorem legal_fresh (coupler : Coupler) (g : Geometry) : Legal (fresh coupler g) := by
  intro selector entry h
  have hfound := findKey_eq_ok_iff.1 h
  cases selector <;> cases hfound

theorem Legal.authorizable {card : Card} (h : Legal card) {sector : UInt8} {selector : KeySelector}
    {entry : KeyEntry} (hsector : sector.toNat < card.geometry.sectorCount)
    (hkey : card.findKey selector = .ok entry) : card.authorizable sector selector = .ok entry := by
  have hfirst : card.geometry.firstBlock sector = .ok (UInt16.ofNat (Geometry.firstIndex sector.toNat)) :=
    if_pos hsector
  have hslot := (KeyStore.checkSlot_eq_ok_iff _ _).2 (h selector entry hkey)
  simp [Card.authorizable, hkey, hfirst, hslot]

theorem Legal.of_setup {card card' : Card} (h : Legal card) (hsetup : SameSetup card card') : Legal card' := by
  intro selector entry hkey
  exact h selector entry (hsetup.findKey selector ▸ hkey)

theorem Legal.setKey {card card' : Card} (h : Legal card) {selector : KeySelector} {key : Key}
    {store : KeyStore} {slot : UInt8} (hset : setKey selector key store slot card = .ok card') :
    Legal card' := by
  unfold Card.setKey at hset
  split at hset
  · cases hset
  · rename_i hselector
    split at hset
    · cases hset
    · rename_i entry hentry
      cases hset
      intro other found hfound
      have hfound := findKey_eq_ok_iff.1 hfound
      rw [KeyRing.find?_insert _ (by simpa using hselector)] at hfound
      split at hfound
      · cases hfound
        rcases KeyEntry.make_eq_ok_iff.1 hentry with ⟨hslot, rfl⟩
        exact hslot
      · exact h other found (findKey_eq_ok_iff.2 hfound)

theorem Legal.setPolicy {card card' : Card} (h : Legal card) {sector : UInt8} {policy : AccessPolicy}
    (hset : setPolicy sector policy card = .ok card') : Legal card' := by
  unfold Card.setPolicy at hset
  split at hset
  · cases hset
    exact h
  · cases hset

/-! ## What configuring leaves alone -/

theorem setup_setKey {card card' : Card} {selector : KeySelector} {key : Key} {store : KeyStore} {slot : UInt8}
    (h : setKey selector key store slot card = .ok card') :
    card'.geometry = card.geometry ∧ card'.coupler = card.coupler ∧ card'.cache = card.cache := by
  unfold setKey at h
  split at h
  · cases h
  · split at h
    · cases h
    · cases h
      exact ⟨rfl, rfl, rfl⟩

theorem setup_setPolicy {card card' : Card} {sector : UInt8} {policy : AccessPolicy}
    (h : setPolicy sector policy card = .ok card') :
    card'.geometry = card.geometry ∧ card'.keys = card.keys ∧ card'.coupler = card.coupler ∧ card'.cache = card.cache := by
  unfold setPolicy at h
  split at h
  · cases h
    exact ⟨rfl, rfl, rfl, rfl⟩
  · cases h

/-! ## Soundness is kept -/

theorem sound_fresh (g : Geometry) : Sound (fresh .fresh g) where
  legal := legal_fresh _ g
  loaded h := absurd rfl h
  code := ⟨_, rfl⟩
  keyless _ := ⟨rfl, fun _ => rfl⟩
  recorded _ _ h := nomatch h

theorem Sound.key_ne_none {card : Card} (h : Sound card) {sector : UInt8} {selector : KeySelector}
    (hauth : Authorized sector selector card) : card.coupler.key ≠ none := by
  intro hnone
  rcases hauth with ⟨entry, -, hcached⟩
  rw [(h.keyless hnone).2 sector] at hcached
  cases hcached

theorem Sound.invalidate {card : Card} (h : Sound card) (sector : UInt8) :
    Sound (card.invalidate sector) where
  legal := h.legal
  loaded := h.loaded
  code := h.code
  keyless hnone := by
    refine ⟨(h.keyless hnone).1, fun other => ?_⟩
    rw [cachedAuth_invalidate, (h.keyless hnone).2]
    exact ite_self _
  recorded other auth hcached := by
    rw [cachedAuth_invalidate] at hcached
    split at hcached
    · cases hcached
    · exact h.recorded other auth hcached

theorem Sound.pending {card : Card} (h : Sound card) (hkey : card.coupler.key ≠ none) (pending : Bool) :
    Sound { card with coupler := { card.coupler with authPending := pending } } where
  legal := h.legal
  loaded := h.loaded
  code := h.code
  keyless hnone := absurd hnone hkey
  recorded := h.recorded

/-- The remembered key of a sound card in which a sector counts as authorized. -/
theorem Sound.remembered {card : Card} (h : Sound card) {sector : UInt8} {selector : KeySelector}
    (hauth : Authorized sector selector card) :
    ∃ entry code, card.coupler.key = some entry ∧ card.coupler.keyLoaded = true ∧
      card.coupler.selector.code? = some code := by
  have hkey := h.key_ne_none hauth
  rcases h.code with ⟨code, hcode⟩
  cases he : card.coupler.key with
  | none => exact absurd he hkey
  | some entry => exact ⟨entry, code, rfl, h.loaded hkey, hcode⟩

theorem stepsKeep_sound (A : UInt8 → KeySelector → UInt8 → Command → Prop) :
    StepsKeep t (fun c => Sound c.state) A where
  authorize sector selector := by
    intro c hc
    refine (authorize_outcome t sector selector c).mono ?_
    intro x c' h
    cases h with
    | rejected he => exact hc
    | notLoaded hentry he => exact hc
    | notAccepted hentry hcode hload he =>
      exact ⟨hc.legal, fun _ => rfl, ⟨_, hcode⟩, fun h => (nomatch h), hc.recorded⟩
    | @authorized entry _ _ _ hentry hcode hload hauth =>
      rcases authorizable_eq_ok hentry with ⟨hkey, hsector, -⟩
      refine ⟨hc.legal, fun _ => rfl, ⟨_, hcode⟩, fun h => (nomatch h), ?_⟩
      intro other auth hcached
      -- Only the sector itself has a new record, and that is under the key that was found for it.
      rw [cachedAuth_afterAuthorize] at hcached
      split at hcached
      · rename_i hsame
        cases hcached
        exact ⟨hsame ▸ hsector, entry, hkey⟩
      · exact hc.recorded other auth hcached
  access := by
    intro c sector selector address command other hc hauth _
    -- A sector that counts as authorized was opened with a key, so the coupler remembers one.
    have hkey := hc.key_ne_none hauth
    rcases hc.remembered hauth with ⟨entry, code, hentry, hloaded, hcode⟩
    refine Coupler.ensures_access (c := c.below) hentry hloaded hcode (fun _ _ _ => hc) ?_
    intro d hd
    cases hd with
    | idle hidle =>
      exact Coupler.ensures_transfer (fun _ _ _ => hc.pending hkey _) (fun _ _ _ => hc.pending hkey _)
        (fun _ _ => hc)
    | renewed hpending hauth =>
      exact Coupler.ensures_transfer (fun _ _ _ => hc.pending hkey _) (fun _ _ _ => hc.pending hkey _)
        (fun _ _ => hc.pending hkey _)
  forget c sector hc := hc.invalidate sector

theorem soundSteps (t : Transport ω) : StepsKeep t (fun c => Sound c.state) fun _ _ _ _ => True :=
  stepsKeep_sound _

theorem Sound.setKey {card card' : Card} (h : Sound card) {selector : KeySelector} {key : Key}
    {store : KeyStore} {slot : UInt8} (hset : setKey selector key store slot card = .ok card') :
    Sound card' := by
  have hlegal := h.legal.setKey hset
  unfold Card.setKey at hset
  split at hset
  · cases hset
  · rename_i hselector
    split at hset
    · cases hset
    · rename_i entry _
      cases hset
      refine ⟨hlegal, h.loaded, h.code, h.keyless, fun sector auth hcached => ?_⟩
      rcases h.recorded sector auth hcached with ⟨hsector, found, hfound⟩
      refine ⟨hsector, ?_⟩
      -- A configured key may be replaced, but it is never taken away.
      by_cases hsame : auth.selector = selector
      · refine ⟨entry, findKey_eq_ok_iff.2 ?_⟩
        rw [KeyRing.find?_insert _ (by simpa using hselector), if_pos hsame]
      · refine ⟨found, findKey_eq_ok_iff.2 ?_⟩
        rw [KeyRing.find?_insert _ (by simpa using hselector), if_neg hsame]
        exact findKey_eq_ok_iff.1 hfound

theorem Sound.setPolicy {card card' : Card} (h : Sound card) {sector : UInt8} {policy : AccessPolicy}
    (hset : setPolicy sector policy card = .ok card') : Sound card' := by
  have hlegal := h.legal.setPolicy hset
  unfold Card.setPolicy at hset
  split at hset
  · cases hset
    exact ⟨hlegal, h.loaded, h.code, h.keyless, h.recorded⟩
  · cases hset

theorem keeps_sound (op : Operation) : Keeps t.responder (fun c => Sound c.state) (perform op) := by
  intro c hc
  exact (stepsKeep_sound _).perform hc (fun _ _ _ _ _ _ hset => hc.setKey hset)
    (fun _ _ _ _ hset => hc.setPolicy hset)

/-! ## What is said along the way -/

section Said

variable {before : List (Event Link)} {P : Event Link → Prop}

/-- What `P` rules out is said neither by loading keys nor by authenticating, on a card of a certain geometry. -/
structure PermitsKeys (g : Geometry) (P : Event Link → Prop) : Prop where
  asked : ∀ connected, P ⟨.isConnected, connected⟩
  loaded : ∀ (entry : KeyEntry) reply, entry.store.HasSlot entry.slot →
    P ⟨.transmit (Command.loading entry).encode, reply⟩
  authenticated : ∀ (address : UInt8) (selector : KeySelector) (code slot : UInt8) reply,
    address.toNat < g.blockCount → selector.code? = some code →
      P ⟨.transmit (Command.authenticating address code slot).encode, reply⟩

variable {g : Geometry}

theorem PermitsKeys.withstandsAt (h : PermitsKeys g P) {address : UInt8} (haddress : address.toNat < g.blockCount) :
    Coupler.WithstandsAt t address (SaidSince before P) where
  loading _ entry legal hsaid := hsaid.exchanged h.asked fun reply => h.loaded entry reply legal
  authenticating _ selector code slot hcode hsaid :=
    hsaid.exchanged h.asked fun reply => h.authenticated address selector code slot reply haddress hcode
  state _ _ hsaid := hsaid

theorem toNat_firstAddress_lt {sector : UInt8} (h : sector.toNat < g.sectorCount) :
    (firstAddress sector).toNat < g.blockCount := by
  have h1 := Geometry.firstIndex_le_trailerIndex sector.toNat
  have h2 := Geometry.trailerIndex_lt h
  rw [firstAddress, UInt8.toNat_ofNat']
  exact Nat.lt_of_le_of_lt (Nat.mod_le _ _) (Nat.lt_of_le_of_lt h1 h2)

/-- If no access is ruled out by `P` either, then `P` holds of everything that is said, whatever the coupler
remembers. -/
theorem stepsKeep_saidSince {A : UInt8 → KeySelector → UInt8 → Command → Prop} (h : PermitsKeys g P)
    (accessed : ∀ sector selector address (command : Command), A sector selector address command →
      address.toNat < g.blockCount ∧ ∀ reply, P ⟨.transmit command.encode, reply⟩) :
    StepsKeep t (fun c => c.state.geometry = g ∧ SaidSince before P c) A where
  authorize sector selector := by
    rintro c ⟨hg, hsaid⟩
    have hfirst : sector.toNat < c.state.geometry.sectorCount →
        Coupler.WithstandsAt t (firstAddress sector) (SaidSince before P) :=
      fun hsector => h.withstandsAt (toNat_firstAddress_lt (hg ▸ hsector))
    refine ((authorize_setup sector selector).and (ensures_authorize_of_withstandsAt hfirst hsaid selector)).mono ?_
    rintro x c' ⟨⟨hsetup, -⟩, hsaid'⟩
    exact ⟨hsetup.geometry.trans hg, hsaid'⟩
  access := by
    rintro c sector selector address command other ⟨hg, hsaid⟩ hauth hA
    rcases accessed sector selector address command hA with ⟨haddress, hP⟩
    refine Ensures.mono (R := fun _ d => SaidSince before P d) ?_ (fun _ _ hd => ⟨hg, hd⟩)
    refine Coupler.ensures_access_of_withstandsAt (h.withstandsAt haddress) (c := c.below) hsaid (fun _ _ hd => hd) ?_
    intro d hd
    have hsent : SaidSince before P (d.exchanged t command) := hd.exchanged h.asked hP
    exact Coupler.ensures_transfer_of_demand (fun _ _ => hsent) (fun _ _ _ => hsent)
  forget c sector hc := hc

end Said

/-! ## Reachable situations -/

def start (g : Geometry) (w : ω) : Situation Link Card ω := ⟨fresh .fresh g, w, []⟩

def after (t : Transport ω) (ops : List Operation) (c : Situation Link Card ω) : Situation Link Card ω :=
  (exec t.responder (performAll ops) c).2

theorem sound_after (t : Transport ω) (ops : List Operation) (g : Geometry) (w : ω) :
    Sound (after t ops (start g w)).state :=
  keeps_performAll (I := fun c => Sound c.state) (fun op _ => keeps_sound op) (start g w) (sound_fresh g)

def Operation.setsKey : Operation → Bool
  | .setKey _ _ _ _ => true
  | _ => false

/-- Configuring keys sends nothing and records nothing. -/
theorem configured_after (t : Transport ω) {keys : List Operation} (hkeys : ∀ op ∈ keys, op.setsKey = true)
    (g : Geometry) (w : ω) :
    let c := after t keys (start g w)
    c.world = w ∧ c.state.geometry = g ∧ c.state.cache = .empty := by
  have hkeeps : Keeps t.responder (fun c => c.world = w ∧ c.state.geometry = g ∧ c.state.cache = .empty)
      (performAll keys) := by
    refine keeps_performAll fun op hop c hc => ?_
    cases op with
    | setKey selector key store slot =>
      refine ensures_change_pure none hc fun card hset => ?_
      rcases setup_setKey hset with ⟨hgeometry, -, hcache⟩
      exact ⟨hc.1, hgeometry.trans hc.2.1, hcache.trans hc.2.2⟩
    | _ => exact absurd (hkeys _ hop) (by simp [Operation.setsKey])
  exact hkeeps (start g w) ⟨rfl, rfl, rfl⟩

/-- The situations to which operations of the card and operations on its coupler can lead, in any order. -/
inductive Reachable (t : Transport ω) : Situation Link Card ω → Prop where
  | start (g : Geometry) (w : ω) : Reachable t (start g w)
  | perform {c : Situation Link Card ω} (op : Operation) (h : Reachable t c) :
      Reachable t (exec t.responder (perform op) c).2
  | onCoupler {c : Situation Link Card ω} (op : Coupler.Operation) (h : Reachable t c) :
      Reachable t (exec t.responder (onCoupler (Coupler.perform op)) c).2

theorem setup_onCoupler {α : Type} (op : CouplerM α) (c : Situation Link Card ω) :
    SameSetup c.state (exec t.responder (onCoupler op) c).2.state := by
  unfold onCoupler
  rw [exec_focus]
  exact ⟨rfl, rfl, rfl⟩

theorem keeps_legal (op : Operation) : Keeps t.responder (fun c => Legal c.state) (perform op) := by
  intro c hc
  have hsteps : StepsKeep t (fun c => Legal c.state) (op.Accesses c.state) :=
    { authorize := fun sector selector c hc =>
        (authorize_setup sector selector).mono fun _ _ h => hc.of_setup h.1
      access := fun _ _ _ _ _ _ hc _ _ => hc
      forget := fun _ _ hc => hc }
  refine hsteps.perform hc ?_ ?_
  · intro selector key store slot card _ hset
    exact hc.setKey hset
  · intro sector policy card _ hset
    exact hc.setPolicy hset

theorem Reachable.legal (h : Reachable t c) : Legal c.state := by
  induction h with
  | start g w => exact legal_fresh _ g
  | perform op _ ih => exact keeps_legal op _ ih
  | onCoupler op _ ih => exact ih.of_setup (setup_onCoupler (Coupler.perform op) _)

theorem exec_performAll_cons (t : Transport ω) (op : Operation) (rest : List Operation) (c : Situation Link Card ω) :
    exec t.responder (performAll (op :: rest)) c =
      exec t.responder ((fun results => (exec t.responder (perform op) c).1 :: results) <$> performAll rest)
        (exec t.responder (perform op) c).2 := by
  simp only [performAll, exec_bind, exec_attempt, ← bind_pure_comp]

@[simp] theorem after_nil (t : Transport ω) (c : Situation Link Card ω) : after t [] c = c := by
  simp [after, performAll]

theorem after_cons (t : Transport ω) (op : Operation) (rest : List Operation) (c : Situation Link Card ω) :
    after t (op :: rest) c = after t rest (exec t.responder (perform op) c).2 := by
  unfold after
  rw [exec_performAll_cons, exec_map]

theorem after_append (t : Transport ω) (ops rest : List Operation) (c : Situation Link Card ω) :
    after t (ops ++ rest) c = after t rest (after t ops c) := by
  induction ops generalizing c with
  | nil => simp
  | cons op ops ih => rw [List.cons_append, after_cons, after_cons, ih]

theorem after_snoc (t : Transport ω) (ops : List Operation) (op : Operation) (c : Situation Link Card ω) :
    after t (ops ++ [op]) c = (exec t.responder (perform op) (after t ops c)).2 := by
  rw [after_append, after_cons, after_nil]

theorem Reachable.after (h : Reachable t c) (ops : List Operation) : Reachable t (after t ops c) := by
  induction ops generalizing c with
  | nil =>
    rw [after_nil]
    exact h
  | cons op rest ih =>
    rw [after_cons]
    exact ih (h.perform op)

end SectorCard.Card
