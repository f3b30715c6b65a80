import SectorCard.Proofs.RememberedKey

/-!
# The key that is known to be loaded

A coupler loads the key that it remembers at most once, and from then on relies on the reader to have it.  It is right
to do so: as long as the key counts as loaded, it is the last key that the reader has taken, in the same slot and with
the same bytes, whatever was asked of the coupler and whatever has failed (`lastLoaded_of_keyLoaded`).

A key is loaded only into a slot that exists.
-/

namespace SectorCard

open Procedure

variable {σ ω : Type} {t : Transport ω} {history : List (Event Link)}

/-! ## What the reader has taken -/

/-- The reader takes a key. -/
def Event.Loads (event : Event Link) : Prop := event.succeeded = true ∧ event.Carries .loadKey

/-- A key is the last one that the reader has taken. -/
def LastLoaded (entry : KeyEntry) (history : List (Event Link)) : Prop :=
  ∃ first reply later, history = first ++ ⟨.transmit (Command.loading entry).encode, reply⟩ :: later ∧
    (Link.acknowledged? reply).isSome = true ∧ ∀ event ∈ later, ¬ event.Loads

/-- Keys are loaded only into slots that exist. -/
def LoadsLegally (history : List (Event Link)) : Prop :=
  ∀ event ∈ history, event.Carries .loadKey →
    ∃ entry : KeyEntry, entry.store.HasSlot entry.slot ∧ event.request = .transmit (Command.loading entry).encode

variable {entry : KeyEntry} {c : Situation Link σ ω} {command : Command}

theorem LastLoaded.append (h : LastLoaded entry history) {events : List (Event Link)}
    (hevents : ∀ event ∈ events, ¬ event.Loads) : LastLoaded entry (history ++ events) := by
  rcases h with ⟨first, reply, later, rfl, hreply, hlater⟩
  refine ⟨first, reply, later ++ events, by simp, hreply, fun event hevent => ?_⟩
  rcases List.mem_append.1 hevent with hold | hnew
  · exact hlater event hold
  · exact hevents event hnew

theorem LastLoaded.exchanged (h : LastLoaded entry c.history)
    (hsent : t.isConnected c.world = true →
      ¬ Event.Loads ⟨.transmit command.encode, (t.transmit command.encode c.world).1⟩) :
    LastLoaded entry (c.exchanged t command).history := by
  refine h.append fun event hevent => ?_
  rcases mem_exchangeEvents hevent with rfl | ⟨hconnected, rfl⟩
  · exact fun hloads => not_carries_asked _ _ hloads.2
  · exact hsent hconnected

theorem lastLoaded_exchanged {refusal : StatusWord → CardError} {data : Bytes}
    (hload : t.demand (.loading entry) refusal c.world = .ok data) :
    LastLoaded entry (c.exchanged t (.loading entry)).history := by
  refine ⟨c.history ++ [⟨.isConnected, true⟩], _, [], ?_, Transport.succeeded_of_demand hload, fun _ h => nomatch h⟩
  simp [Situation.exchanged, Transport.exchangeEvents_of_ok hload]

theorem LoadsLegally.exchanged (h : LoadsLegally c.history)
    (hsent : ∀ reply, Event.Carries .loadKey ⟨.transmit command.encode, reply⟩ →
      ∃ entry : KeyEntry, entry.store.HasSlot entry.slot ∧ command = .loading entry) :
    LoadsLegally (c.exchanged t command).history := by
  intro event hevent hcarries
  rcases List.mem_append.1 hevent with hold | hnew
  · exact h event hold hcarries
  · rcases mem_exchangeEvents hnew with rfl | ⟨-, rfl⟩
    · exact absurd hcarries (not_carries_asked _ _)
    · rcases hsent _ hcarries with ⟨entry, legal, rfl⟩
      exact ⟨entry, legal, rfl⟩

theorem not_carries_loadKey (h : command.instruction.code ≠ Instruction.loadKey.code) (reply : Except CardError Bytes) :
    ¬ Event.Carries .loadKey ⟨.transmit command.encode, reply⟩ :=
  fun hcarries => h (code_of_carries hcarries)

namespace Coupler

/-! ## What a coupler knows -/

/-- What a coupler remembers of its key is true of the reader. -/
structure Faithful (d : Situation Link Coupler ω) : Prop where
  legal : ∀ entry, d.state.key = some entry → entry.store.HasSlot entry.slot
  loads : LoadsLegally d.history
  loaded : d.state.keyLoaded = true → ∃ entry, d.state.key = some entry ∧ LastLoaded entry d.history

variable {d : Situation Link Coupler ω}

/-- A command that loads no key changes nothing about it. -/
theorem Faithful.exchanged (h : Faithful d) (hcode : command.instruction.code ≠ Instruction.loadKey.code) :
    Faithful (d.exchanged t command) where
  legal := h.legal
  loads := h.loads.exchanged fun reply hcarries => absurd hcarries (not_carries_loadKey hcode reply)
  loaded hloaded := by
    rcases h.loaded hloaded with ⟨entry, hkey, hlast⟩
    exact ⟨entry, hkey, hlast.exchanged fun _ hloads => not_carries_loadKey hcode _ hloads.2⟩

theorem Faithful.authenticating (h : Faithful d) (address code slot : UInt8) :
    Faithful (d.exchanged t (.authenticating address code slot)) :=
  h.exchanged (by simp [Instruction.code])

/-- A key that the reader does not take displaces none. -/
theorem Faithful.notLoaded (h : Faithful d) (legal : entry.store.HasSlot entry.slot) {refusal : StatusWord → CardError}
    {e : CardError} (he : t.demand (.loading entry) refusal d.world = .error e) :
    Faithful (d.exchanged t (.loading entry)) where
  legal := h.legal
  loads := h.loads.exchanged fun _ _ => ⟨entry, legal, rfl⟩
  loaded hloaded := by
    rcases h.loaded hloaded with ⟨found, hkey, hlast⟩
    refine ⟨found, hkey, hlast.exchanged fun hconnected hloads => ?_⟩
    exact Transport.not_succeeded_of_demand hconnected he hloads.1

theorem Faithful.reloaded (h : Faithful d) (legal : entry.store.HasSlot entry.slot) {refusal : StatusWord → CardError}
    {data : Bytes} (hload : t.demand (.loading entry) refusal d.world = .ok data) (coupler : Coupler)
    (hkey : coupler.key = some entry) : Faithful { d.exchanged t (.loading entry) with state := coupler } where
  legal found hfound := by
    rw [hkey] at hfound
    cases hfound
    exact legal
  loads := h.loads.exchanged fun _ _ => ⟨entry, legal, rfl⟩
  loaded _ := ⟨entry, hkey, lastLoaded_exchanged hload⟩

/-- What does not concern the key can be forgotten. -/
theorem Faithful.become (h : Faithful d) {coupler : Coupler} (hkey : coupler.key = d.state.key)
    (hloaded : coupler.keyLoaded = d.state.keyLoaded) : Faithful { d with state := coupler } where
  legal := by
    rw [hkey]
    exact h.legal
  loads := h.loads
  loaded := by
    rw [hkey, hloaded]
    exact h.loaded

theorem Faithful.setAuth (h : Faithful d) {selector : KeySelector} {coupler : Coupler}
    (hset : setAuth selector entry d.state = .ok coupler) : Faithful { d with state := coupler } := by
  unfold Coupler.setAuth at hset
  split at hset
  · cases hset
  · split at hset
    · rename_i legal
      cases hset
      refine ⟨?_, h.loads, ?_⟩
      · rintro found ⟨⟩
        exact legal
      · intro hloaded
        cases hloaded
    · cases hset

theorem keeps_faithful_loadKey (entry : KeyEntry) : Keeps t.responder Faithful (loadKey entry) := by
  intro d hd
  refine ensures_loadKey (fun _ => hd) ?_ ?_
  · intro legal data hload
    exact hd.reloaded legal hload _ rfl
  · intro legal e he
    exact hd.notLoaded legal he

theorem keeps_faithful_authenticate (address : UInt8) (selector : KeySelector) (slot : UInt8) :
    Keeps t.responder Faithful (authenticate address selector slot) := by
  intro d hd
  cases hcode : selector.code? with
  | some code =>
    have hsent := hd.authenticating (t := t) address code slot
    exact ensures_authenticate hcode (fun _ _ => hsent.become rfl rfl) (fun _ _ => hsent.become rfl rfl)
  | none =>
    refine ensures_require_bind (fun code hok => ?_) (fun _ _ => hd)
    simp [authCode, hcode] at hok

theorem keeps_faithful_performAuth (address : UInt8) : Keeps t.responder Faithful (performAuth address) := by
  intro d hd
  refine (performAuth_outcome t address d).mono fun x d' h => ?_
  have htried : ∀ code slot, Faithful (d.exchanged t (.authenticating address code slot)) := hd.authenticating address
  cases h with
  | keyless _ => exact hd
  | codeless _ _ => exact hd
  | accepted _ _ _ => exact (htried _ _).become rfl rfl
  | denied _ _ _ _ => exact htried _ _
  | homeless _ _ => exact htried _ _
  | notLoaded _ legal he => exact (htried _ _).notLoaded legal he
  -- The key was loaded again meanwhile, and authenticating after that fills no slot.
  | deniedAgain h legal hload _ =>
    have hloaded := (htried _ _).reloaded legal hload { d.state with keyLoaded := true } h.key
    exact hloaded.authenticating address _ _
  | acceptedAgain h legal hload _ =>
    have hloaded := (htried _ _).reloaded legal hload { d.state with keyLoaded := true } h.key
    exact (hloaded.authenticating address _ _).become rfl rfl

theorem operationsKeep_faithful : OperationsKeep t Faithful where
  setAuth _ _ _ _ hd hset := hd.setAuth hset
  setPageLength d length coupler hd hset := by
    unfold Coupler.setPageLength at hset
    split at hset
    · cases hset
      exact hd.become rfl rfl
    · cases hset
  requestAuth _ hd := hd.become rfl rfl
  loadKey := keeps_faithful_loadKey
  authenticate := keeps_faithful_authenticate
  performAuth := keeps_faithful_performAuth
  transfer command other hinstruction d hd := by
    -- Neither reading nor writing a page loads a key.
    have hcode : command.instruction.code ≠ Instruction.loadKey.code := by
      rcases hinstruction with h | h <;> simp [h, Instruction.code]
    have hsent := hd.exchanged (t := t) hcode
    exact ensures_transfer_of_demand (fun _ _ => hsent.become rfl rfl) (fun _ _ _ => hsent.become rfl rfl)

theorem faithful_fresh (w : ω) : Faithful ⟨fresh, w, []⟩ where
  legal _ h := nomatch h
  loads _ h := nomatch h
  loaded h := nomatch h

/-- Whatever was asked of a coupler and whatever the reader has replied: the remembered key fits its slot, keys were
loaded only into slots that exist, and if the remembered key counts as loaded, it is the last one that the reader has
taken. -/
theorem lastLoaded_of_keyLoaded (t : Transport ω) (ops : List Operation) (w : ω) :
    let d := (exec t.responder (performAll ops) ⟨fresh, w, []⟩).2
    (∀ entry, d.state.key = some entry → entry.store.HasSlot entry.slot) ∧
      (∀ event ∈ d.history, event.Carries .loadKey → ∃ entry : KeyEntry,
        entry.store.HasSlot entry.slot ∧ event.request = .transmit (Command.loading entry).encode) ∧
      (d.state.keyLoaded = true → ∃ entry, d.state.key = some entry ∧ LastLoaded entry d.history) := by
  have h := operationsKeep_faithful.performAll (t := t) ops _ (faithful_fresh w)
  exact ⟨h.legal, h.loads, h.loaded⟩

end Coupler
end SectorCard
