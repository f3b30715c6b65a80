import SectorCard.Proofs.KeySlots

/-!
# The keys behind recorded authentications

A sector is opened when the reader takes a key and the card then accepts it.  The cache records under which selector
and from which slot this was done, but not with which key.  If the cache records what is asked for, nothing is sent.

What the record stands for is the key that was configured when the sector was last opened.  That is the key configured
now, unless the key was replaced in the same slot (`lastOpened_of_hit`): the cache then goes on to vouch for a key that
the caller has put away.
-/

namespace SectorCard

open Procedure

variable {σ ω : Type} {t : Transport ω} {history : List (Event Link)}

/-! ## Opening a sector -/

/-- A card has accepted a key for the first block of a sector. -/
def Event.Admits (sector : UInt8) (event : Event Link) : Prop :=
  event.succeeded = true ∧ ∃ code slot,
    event.request = .transmit (WireCommand.authenticate (Card.firstAddress sector) code slot).bytes

/-- What is said when a sector is opened: the reader takes a key, and the card accepts it. -/
def opening (sector code : UInt8) (entry : KeyEntry) (loaded accepted : Except CardError Bytes) : List (Event Link) :=
  [⟨.isConnected, true⟩, ⟨.transmit (Command.loading entry).encode, loaded⟩, ⟨.isConnected, true⟩,
    ⟨.transmit (Command.authenticating (Card.firstAddress sector) code entry.slot).encode, accepted⟩]

/-- When `first` had been said, a sector was opened with a key. -/
def OpenedAt (first : List (Event Link)) (sector code : UInt8) (entry : KeyEntry) (history : List (Event Link)) : Prop :=
  ∃ loaded accepted, (Link.acknowledged? loaded).isSome = true ∧ (Link.acknowledged? accepted).isSome = true ∧
    first ++ opening sector code entry loaded accepted <+: history

/-- When `first` had been said, a sector was opened with a key, and it has not been opened since. -/
structure LastOpenedAt (first : List (Event Link)) (sector code : UInt8) (entry : KeyEntry)
    (history : List (Event Link)) : Prop where
  opened : OpenedAt first sector code entry history
  last : ∀ first' code' entry', OpenedAt first' sector code' entry' history → first'.length ≤ first.length

/-- The last thing that was said is not that the reader has taken a key. -/
def Settled (history : List (Event Link)) : Prop :=
  ∀ earlier event slot, history = earlier ++ [event] → ¬ event.Fills slot

section Opening

variable {first : List (Event Link)} {sector code : UInt8} {entry : KeyEntry} {event : Event Link}

theorem OpenedAt.length_le (h : OpenedAt first sector code entry history) : first.length + 4 ≤ history.length := by
  rcases h with ⟨loaded, accepted, -, -, hfront⟩
  simpa [opening] using hfront.length_le

/-- What is said at one time opens a sector with one key at most. -/
theorem OpenedAt.unique (h : OpenedAt first sector code entry history) {code' : UInt8} {entry' : KeyEntry}
    (h' : OpenedAt first sector code' entry' history) : code = code' ∧ entry = entry' := by
  rcases h with ⟨loaded, accepted, -, -, later, hhistory⟩
  rcases h' with ⟨loaded', accepted', -, -, later', hhistory'⟩
  have hsame := hhistory.trans hhistory'.symm
  simp only [List.append_assoc, List.append_cancel_left_eq, opening, List.cons_append, List.nil_append, List.cons.injEq,
    Event.mk.injEq, Link.Request.transmit.injEq, WireCommand.encode_loading, WireCommand.encode_authenticating,
    true_and] at hsame
  rcases hsame with ⟨⟨hload, -⟩, ⟨hauth, -⟩, -⟩
  have hload := WireCommand.bytes_injective hload
  have hauth := WireCommand.bytes_injective hauth
  cases entry
  cases entry'
  cases hload
  cases hauth
  exact ⟨rfl, rfl⟩

theorem LastOpenedAt.unique (h : LastOpenedAt first sector code entry history) {first' : List (Event Link)}
    {code' : UInt8} {entry' : KeyEntry} (h' : LastOpenedAt first' sector code' entry' history) :
    first = first' ∧ code = code' ∧ entry = entry' := by
  have hlength : first.length = first'.length :=
    Nat.le_antisymm (h'.last _ _ _ h.opened) (h.last _ _ _ h'.opened)
  have hfirst : first = first' := by
    rcases h.opened with ⟨_, _, -, -, later, hhistory⟩
    rcases h'.opened with ⟨_, _, -, -, later', hhistory'⟩
    simp only [List.append_assoc] at hhistory hhistory'
    exact (List.append_inj (hhistory.trans hhistory'.symm) hlength).1
  subst hfirst
  exact ⟨rfl, h.opened.unique h'.opened⟩

/-- One more event completes an opening only if it is the card's acceptance and follows the loading of the key. -/
theorem OpenedAt.of_snoc (h : OpenedAt first sector code entry (history ++ [event])) :
    OpenedAt first sector code entry history ∨ (event.Admits sector ∧ ∃ loading : Event Link,
      loading.Fills entry.slot ∧ history = first ++ [⟨.isConnected, true⟩, loading] ++ [⟨.isConnected, true⟩]) := by
  rcases h with ⟨loaded, accepted, hloaded, haccepted, hfront⟩
  rcases List.prefix_concat_iff.1 hfront with hwhole | hold
  · right
    have hsplit : history ++ [event] = (first ++ [⟨.isConnected, true⟩,
        ⟨.transmit (Command.loading entry).encode, loaded⟩] ++ [⟨.isConnected, true⟩]) ++
        [⟨.transmit (Command.authenticating (Card.firstAddress sector) code entry.slot).encode, accepted⟩] := by
      rw [← hwhole]
      simp [opening]
    rcases List.append_inj' hsplit rfl with ⟨hhistory, hevent⟩
    cases hevent
    have hfills : Event.Fills entry.slot ⟨.transmit (Command.loading entry).encode, loaded⟩ :=
      ⟨hloaded, entry.store, entry.key, congrArg Link.Request.transmit (WireCommand.encode_loading entry)⟩
    exact ⟨⟨haccepted, code, entry.slot, rfl⟩, _, hfills, hhistory⟩
  · exact .inl ⟨loaded, accepted, hloaded, haccepted, hold⟩

theorem LastOpenedAt.snoc (h : LastOpenedAt first sector code entry history)
    (hevent : ∀ earlier, event.Admits sector → history = earlier ++ [⟨.isConnected, true⟩] → Settled earlier) :
    LastOpenedAt first sector code entry (history ++ [event]) where
  opened := by
    rcases h.opened with ⟨loaded, accepted, hloaded, haccepted, hfront⟩
    exact ⟨loaded, accepted, hloaded, haccepted, hfront.trans (List.prefix_append _ _)⟩
  last first' code' entry' h' := by
    rcases h'.of_snoc with hold | ⟨hadmits, loading, hfills, hhistory⟩
    · exact h.last _ _ _ hold
    · refine absurd hfills (hevent _ hadmits hhistory (first' ++ [⟨.isConnected, true⟩]) loading _ ?_)
      simp

theorem lastOpenedAt_opening {loaded accepted : Except CardError Bytes}
    (hloaded : (Link.acknowledged? loaded).isSome = true) (haccepted : (Link.acknowledged? accepted).isSome = true) :
    LastOpenedAt history sector code entry (history ++ opening sector code entry loaded accepted) where
  opened := ⟨loaded, accepted, hloaded, haccepted, List.prefix_rfl⟩
  last first' code' entry' h' := by
    have hlength := h'.length_le
    simpa [opening] using hlength

/-! ## Exchanges -/

variable {c : Situation Link σ ω} {command : Command}

theorem Settled.exchanged (hsent : t.isConnected c.world = true →
    ∀ slot, ¬ Event.Fills slot ⟨.transmit command.encode, (t.transmit command.encode c.world).1⟩) :
    Settled (c.exchanged t command).history := by
  intro earlier event slot hsaid
  unfold Situation.exchanged Transport.exchangeEvents at hsaid
  -- The last event is the answer to the command, or to the question whether a card is there.
  cases hconnected : t.isConnected c.world with
  | false =>
    simp only [hconnected] at hsaid
    rcases List.append_inj' hsaid rfl with ⟨-, hevent⟩
    cases hevent
    exact not_fills_asked false
  | true =>
    have hsplit : (c.history ++ [⟨.isConnected, true⟩]) ++
        [⟨.transmit command.encode, (t.transmit command.encode c.world).1⟩] = earlier ++ [event] := by
      simpa [hconnected] using hsaid
    rcases List.append_inj' hsplit rfl with ⟨-, hevent⟩
    cases hevent
    exact hsent hconnected slot

theorem LastOpenedAt.exchanged (h : LastOpenedAt first sector code entry c.history)
    (hsent : t.isConnected c.world = true →
      Event.Admits sector ⟨.transmit command.encode, (t.transmit command.encode c.world).1⟩ → Settled c.history) :
    LastOpenedAt first sector code entry (c.exchanged t command).history := by
  -- The question whether a card is there opens nothing.
  have hasked : ∀ connected, LastOpenedAt first sector code entry (c.history ++ [⟨.isConnected, connected⟩]) := by
    intro connected
    refine h.snoc ?_
    rintro _ ⟨-, _, _, hrequest⟩
    cases hrequest
  unfold Situation.exchanged Transport.exchangeEvents
  cases hconnected : t.isConnected c.world with
  | false => exact hasked false
  | true =>
    have hboth : LastOpenedAt first sector code entry ((c.history ++ [⟨.isConnected, true⟩]) ++
        [⟨.transmit command.encode, (t.transmit command.encode c.world).1⟩]) := by
      refine (hasked true).snoc fun earlier hadmits hearlier => ?_
      rw [← (List.append_inj' hearlier rfl).1]
      exact hsent hconnected hadmits
    simpa using hboth

/-- What is said when a key is loaded and accepted. -/
theorem exchanged_opening {refusal refusal' : StatusWord → CardError} {data answer : Bytes}
    (hload : t.demand (.loading entry) refusal c.world = .ok data)
    (hauth : t.demand (.authenticating (Card.firstAddress sector) code entry.slot) refusal'
      (t.exchange (.loading entry) c.world).2 = .ok answer) :
    ∃ loaded accepted, (Link.acknowledged? loaded).isSome = true ∧ (Link.acknowledged? accepted).isSome = true ∧
      ((c.exchanged t (.loading entry)).exchanged t
        (.authenticating (Card.firstAddress sector) code entry.slot)).history =
          c.history ++ opening sector code entry loaded accepted := by
  refine ⟨_, _, Transport.succeeded_of_demand hload, Transport.succeeded_of_demand hauth, ?_⟩
  unfold Situation.exchanged
  rw [Transport.exchangeEvents_of_ok hload, Transport.exchangeEvents_of_ok hauth, List.append_assoc]
  rfl

theorem lastOpenedAt_exchanged {refusal refusal' : StatusWord → CardError} {data answer : Bytes}
    (hload : t.demand (.loading entry) refusal c.world = .ok data)
    (hauth : t.demand (.authenticating (Card.firstAddress sector) code entry.slot) refusal'
      (t.exchange (.loading entry) c.world).2 = .ok answer) :
    LastOpenedAt c.history sector code entry ((c.exchanged t (.loading entry)).exchanged t
      (.authenticating (Card.firstAddress sector) code entry.slot)).history := by
  rcases exchanged_opening hload hauth with ⟨loaded, accepted, hloaded, haccepted, hsaid⟩
  rw [hsaid]
  exact lastOpenedAt_opening hloaded haccepted

end Opening

namespace Card

/-! ## What is said between openings -/

variable {P : List (Event Link) → KeySelector → KeyEntry → Prop} {card₀ : Card} {before : List (Event Link)}

/-- Since `before`, no sector was opened, and no key has just been loaded. -/
structure Unopened (before history : List (Event Link)) : Prop where
  settled : Settled history
  lasting : ∀ first sector code entry, LastOpenedAt first sector code entry before →
    LastOpenedAt first sector code entry history

theorem Unopened.exchanged {c : Situation Link σ ω} {command : Command} (h : Unopened before c.history)
    (hsent : t.isConnected c.world = true →
      ∀ slot, ¬ Event.Fills slot ⟨.transmit command.encode, (t.transmit command.encode c.world).1⟩) :
    Unopened before (c.exchanged t command).history where
  settled := Settled.exchanged hsent
  lasting first sector code entry hlast := (h.lasting first sector code entry hlast).exchanged fun _ _ => h.settled

theorem Unopened.authenticating {c : Situation Link σ ω} (h : Unopened before c.history) (address code slot : UInt8) :
    Unopened before (c.exchanged t (.authenticating address code slot)).history :=
  h.exchanged fun _ _ => not_fills_authenticating address code slot _

theorem Unopened.access {c : Situation Link σ ω} {address : UInt8} {command : Command} (h : Unopened before c.history)
    (hcommand : command = .reading address blockLength ∨
      ∃ page, page.length = blockSize ∧ command = .writing address page) :
    Unopened before (c.exchanged t command).history := by
  refine h.exchanged fun _ slot => ?_
  rcases hcommand with rfl | ⟨page, hpage, rfl⟩
  · rw [WireCommand.encode_reading]
    refine not_fills_sent ?_ _
    exact fun _ _ h => nomatch h
  · rw [WireCommand.encode_writing address ⟨page, hpage⟩]
    refine not_fills_sent ?_ _
    exact fun _ _ h => nomatch h

/-! ## Recorded authentications -/

/-- Every recorded authentication was made when the sector was last opened, with a key that satisfies `P`. -/
structure Vouched (P : List (Event Link) → KeySelector → KeyEntry → Prop) (c : Situation Link Card ω) : Prop where
  settled : Settled c.history
  recorded : ∀ sector auth, c.state.cachedAuth sector = some auth → ∃ first code entry,
    auth.selector.code? = some code ∧ entry.slot = auth.slot ∧ LastOpenedAt first sector code entry c.history ∧
      P first auth.selector entry

theorem Vouched.mono {Q : List (Event Link) → KeySelector → KeyEntry → Prop} {c : Situation Link Card ω} (h : Vouched P c)
    (hPQ : ∀ first selector entry, first.length < c.history.length → P first selector entry → Q first selector entry) :
    Vouched Q c where
  settled := h.settled
  recorded sector auth hcached := by
    rcases h.recorded sector auth hcached with ⟨first, code, entry, hcode, hslot, hlast, hP⟩
    have hlength := hlast.opened.length_le
    exact ⟨first, code, entry, hcode, hslot, hlast, hPQ first _ _ (by omega) hP⟩

theorem Vouched.of_unopened {c c' : Situation Link Card ω} (h : Vouched P c) (hsaid : Unopened c.history c'.history)
    (hcache : ∀ sector auth, c'.state.cachedAuth sector = some auth → c.state.cachedAuth sector = some auth) :
    Vouched P c' where
  settled := hsaid.settled
  recorded sector auth hcached := by
    rcases h.recorded sector auth (hcache sector auth hcached) with ⟨first, code, entry, hcode, hslot, hlast, hP⟩
    exact ⟨first, code, entry, hcode, hslot, hsaid.lasting _ _ _ _ hlast, hP⟩

theorem Vouched.unopened {c : Situation Link Card ω} (h : Vouched P c) : Unopened c.history c.history :=
  ⟨h.settled, fun _ _ _ _ hlast => hlast⟩

/-- What holds while an operation is carried out that found the card as `card₀`, when `before` had been said. -/
structure VouchedSince (P : List (Event Link) → KeySelector → KeyEntry → Prop) (card₀ : Card)
    (before : List (Event Link)) (c : Situation Link Card ω) : Prop where
  sound : Sound c.state
  setup : SameSetup card₀ c.state
  later : before <+: c.history
  vouched : Vouched P c

theorem eq_of_firstAddress_eq {g : Geometry} {sector other : UInt8} (hsector : sector.toNat < g.sectorCount)
    (hother : other.toNat < g.sectorCount) (h : firstAddress other = firstAddress sector) : other = sector := by
  have hsame := congrArg Simulation.Chip.sectorOf h
  rw [Tag.sectorOf_firstAddress hsector, Tag.sectorOf_firstAddress hother] at hsame
  exact UInt8.toNat_inj.1 hsame

/-- Only authorizing opens a sector.  It records what it has done, and tells nothing new of the other sectors. -/
theorem keeps_vouched_authorize
    (hP : ∀ first selector entry, before <+: first → card₀.findKey selector = .ok entry → P first selector entry)
    (sector : UInt8) (selector : KeySelector) :
    Keeps t.responder (VouchedSince P card₀ before) (authorize sector selector) := by
  intro c hc
  have hsound := (soundSteps t).authorize sector selector c hc.sound
  have hsetup := authorize_setup (t := t) (c := c) sector selector
  refine ((hsound.and hsetup).and (authorize_outcome t sector selector c)).mono ?_
  rintro x c' ⟨⟨hsound', hsetup', -⟩, h⟩
  -- Whatever comes of it, no key was loaded just before, so loading one reopens no sector.
  have hlater : ∀ (entry : KeyEntry) (command : Command),
      before <+: ((c.exchanged t (.loading entry)).exchanged t command).history :=
    fun _ _ => hc.later.trans ((List.prefix_append _ _).trans (List.prefix_append _ _))
  have hloading : ∀ (entry : KeyEntry) first other code key, LastOpenedAt first other code key c.history →
      LastOpenedAt first other code key (c.exchanged t (.loading entry)).history :=
    fun _ _ _ _ _ hlast => hlast.exchanged fun _ _ => hc.vouched.settled
  cases h with
  | rejected he => exact hc
  | @notLoaded entry _ hentry he =>
    refine ⟨hsound', hc.setup.trans hsetup', hc.later.trans (List.prefix_append _ _), ?_⟩
    refine hc.vouched.of_unopened ⟨?_, hloading entry⟩ (fun _ _ h => h)
    exact Settled.exchanged fun hconnected _ hfills => Transport.not_succeeded_of_demand hconnected he hfills.1
  | @notAccepted entry code _ _ hentry hcode hload he =>
    refine ⟨hsound', hc.setup.trans hsetup', hlater _ _, ?_⟩
    refine hc.vouched.of_unopened ⟨?_, fun first other code' key hlast => ?_⟩ (fun _ _ h => h)
    · exact Settled.exchanged (c := c.exchanged t (.loading entry)) fun _ _ => not_fills_authenticating _ _ _ _
    · refine (hloading entry first other code' key hlast).exchanged (c := c.exchanged t (.loading entry)) ?_
      exact fun hconnected hadmits => absurd hadmits.1 (Transport.not_succeeded_of_demand hconnected he)
  | @authorized entry code _ _ hentry hcode hload hauth =>
    rcases authorizable_eq_ok hentry with ⟨hkey, hsector, -⟩
    refine ⟨hsound', hc.setup.trans hsetup', hlater _ _, ?_, fun other auth hcached => ?_⟩
    · exact Settled.exchanged (c := c.exchanged t (.loading entry)) fun _ _ => not_fills_authenticating _ _ _ _
    · rw [cachedAuth_afterAuthorize] at hcached
      split at hcached
      · -- The sector was opened just now, with the key that is configured.
        rename_i hsame
        cases hcached
        rw [hsame]
        exact ⟨c.history, code, entry, hcode, rfl, lastOpenedAt_exchanged hload hauth,
          hP _ _ _ hc.later ((hc.setup.symm.findKey selector).trans hkey)⟩
      · rename_i hother
        rcases hc.vouched.recorded other auth hcached with ⟨first, code', key, hcode', hslot, hlast, hfirst⟩
        refine ⟨first, code', key, hcode', hslot, ?_, hfirst⟩
        refine (hloading entry first other code' key hlast).exchanged (c := c.exchanged t (.loading entry)) ?_
        -- Only its own sector is opened: the command names the first block, and two sectors have different ones.
        rintro - ⟨-, code'', slot, hrequest⟩
        rw [WireCommand.encode_authenticating] at hrequest
        have hsent := WireCommand.bytes_injective (Link.Request.transmit.inj hrequest)
        have hrecorded := (hc.sound.recorded other auth hcached).1
        exact absurd (eq_of_firstAddress_eq hsector hrecorded (WireCommand.authenticate.inj hsent).1.symm) hother

theorem stepsKeep_vouched {op : Operation}
    (hP : ∀ first selector entry, before <+: first → card₀.findKey selector = .ok entry → P first selector entry) :
    StepsKeep t (VouchedSince P card₀ before) (op.Accesses card₀) where
  authorize := keeps_vouched_authorize hP
  access := by
    intro c sector selector address command other hc hauth hA
    have hsound := (soundSteps t).access c sector selector address command other hc.sound hauth trivial
    -- The remembered key counts as loaded, so an access loads no key, and without that no sector is opened.
    rcases hc.sound.remembered hauth with ⟨entry, code, hkey, hloaded, hcode⟩
    have haccess : Ensures t.responder (Coupler.access address command other) c.below fun _ d =>
        before <+: d.history ∧ Unopened c.history d.history := by
      refine Coupler.ensures_access (c := c.below) hkey hloaded hcode ?_ ?_
      · intro _ e _
        exact ⟨hc.later.trans (List.prefix_append _ _), hc.vouched.unopened.authenticating _ _ _⟩
      · intro d hd
        have hready : before <+: d.history ∧ Unopened c.history d.history := by
          cases hd with
          | idle _ => exact ⟨hc.later, hc.vouched.unopened⟩
          | renewed _ _ => exact ⟨hc.later.trans (List.prefix_append _ _), hc.vouched.unopened.authenticating _ _ _⟩
        have hsent : before <+: (d.exchanged t command).history ∧ Unopened c.history (d.exchanged t command).history :=
          ⟨hready.1.trans (List.prefix_append _ _), hready.2.access hA.command_eq⟩
        exact Coupler.ensures_transfer_of_demand (fun _ _ => hsent) (fun _ _ _ => hsent)
    refine (hsound.and haccess).mono ?_
    rintro x d ⟨hsound', hlater, hunopened⟩
    exact ⟨hsound', hc.setup.trans ⟨rfl, rfl, rfl⟩, hlater, hc.vouched.of_unopened hunopened fun _ _ h => h⟩
  forget c sector hc := by
    refine ⟨hc.sound.invalidate sector, hc.setup.trans ⟨rfl, rfl, rfl⟩, hc.later, ?_⟩
    -- Forgetting only takes records away.
    refine hc.vouched.of_unopened hc.vouched.unopened fun other auth hcached => ?_
    rw [cachedAuth_invalidate] at hcached
    split at hcached
    · cases hcached
    · exact hcached

/-! ## Every run -/

variable {c : Situation Link Card ω}

theorem perform_vouched (op : Operation) (hsound : Sound c.state) (hvouched : Vouched P c)
    (hP : ∀ first selector entry, c.history <+: first → c.state.findKey selector = .ok entry → P first selector entry) :
    Ensures t.responder (perform op) c fun _ c' => Vouched P c' := by
  have hconfigured : ∀ card : Card, card.cache = c.state.cache → Vouched P { c with state := card } := by
    intro card hcache
    refine hvouched.of_unopened hvouched.unopened fun sector auth hcached => ?_
    exact (cachedAuth_of_cache_eq hcache sector).symm.trans hcached
  cases op with
  | setKey selector key store slot =>
    exact ensures_change_pure none hvouched fun card hset => hconfigured card (setup_setKey hset).2.2
  | setPolicy sector policy =>
    exact ensures_change_pure none hvouched fun card hset => hconfigured card (setup_setPolicy hset).2.2.2
  | _ =>
    refine ((stepsKeep_vouched hP).perform ⟨hsound, .refl _, List.prefix_rfl, hvouched⟩ ?_ ?_).mono
      fun _ _ h => h.vouched
    · exact fun _ _ _ _ _ h => nomatch h
    · exact fun _ _ _ h => nomatch h

theorem vouched_after (ops : List Operation) (g : Geometry) (w : ω) :
    Vouched (ConfiguredWhen t ops (start g w)) (after t ops (start g w)) := by
  refine after_of_configuredWhen (K := Vouched) (fun _ _ _ hPQ h => h.mono hPQ)
    (fun _ op _ hsound hvouched hP => perform_vouched op hsound hvouched hP) g w (List.nil_append ops).symm ⟨?_, ?_⟩
  · intro earlier event slot hsaid
    exact absurd (congrArg List.length hsaid) (by simp [after, performAll, start])
  · intro sector auth hcached
    cases hcached

/-! ## Keys that are replaced -/

theorem findKey_setKey {card card' : Card} {selector other : KeySelector} {key : Key} {store : KeyStore} {slot : UInt8}
    {entry : KeyEntry} (hset : setKey selector key store slot card = .ok card') (hkey : card'.findKey other = .ok entry) :
    card.findKey other = .ok entry ∨ (other = selector ∧ entry = ⟨key, store, slot⟩) := by
  unfold setKey at hset
  split at hset
  · cases hset
  · rename_i hselector
    split at hset
    · cases hset
    · rename_i made hmade
      cases hset
      have hfound := findKey_eq_ok_iff.1 hkey
      rw [KeyRing.find?_insert _ (by simpa using hselector)] at hfound
      split at hfound
      · rename_i hsame
        cases hfound
        exact .inr ⟨hsame, (KeyEntry.make_eq_ok_iff.1 hmade).2⟩
      · exact .inl (findKey_eq_ok_iff.2 hfound)

/-- A key that is found after an operation was found before, or it was just configured. -/
theorem ensures_perform_findKey (op : Operation) (c : Situation Link Card ω) :
    Ensures t.responder (perform op) c fun _ c' => ∀ selector entry, c'.state.findKey selector = .ok entry →
      c.state.findKey selector = .ok entry ∨ op = .setKey selector entry.key entry.store entry.slot := by
  have hsteps : StepsKeep t (fun c' => ∀ selector entry, c'.state.findKey selector = .ok entry →
      c.state.findKey selector = .ok entry ∨ op = .setKey selector entry.key entry.store entry.slot)
      (op.Accesses c.state) :=
    { authorize := fun sector selector c' hc' =>
        (authorize_setup sector selector).mono fun _ _ h other entry hkey =>
          hc' other entry ((h.1.symm.findKey other).trans hkey)
      access := fun _ _ _ _ _ _ hc' _ _ => hc'
      forget := fun _ _ hc' => hc' }
  refine hsteps.perform (fun _ _ hkey => .inl hkey) ?_ ?_
  · rintro selector key store slot card rfl hset other entry hkey
    rcases findKey_setKey hset hkey with hold | ⟨rfl, rfl⟩
    · exact .inl hold
    · exact .inr rfl
  · intro sector policy card _ hset other entry hkey
    refine .inl ?_
    rw [findKey_eq_ok_iff] at hkey ⊢
    rwa [← (setup_setPolicy hset).2.1]

theorem findKey_after (ops : List Operation) (c : Situation Link Card ω) {selector : KeySelector} {entry : KeyEntry}
    (hkey : (after t ops c).state.findKey selector = .ok entry) :
    c.state.findKey selector = .ok entry ∨ .setKey selector entry.key entry.store entry.slot ∈ ops := by
  induction ops generalizing c with
  | nil =>
    left
    simpa [after, performAll] using hkey
  | cons op rest ih =>
    rw [after_cons] at hkey
    rcases ih _ hkey with hold | hset
    · rcases ensures_perform_findKey op c selector entry hold with hbefore | hop
      · exact .inl hbefore
      · exact .inr (by simp [hop])
    · exact .inr (List.mem_cons_of_mem _ hset)

/-! ## Cache hits -/

theorem exec_ensureAuthorized_of_hit {sector slot : UInt8} {selector : KeySelector} {entry : KeyEntry}
    (hkey : c.state.findKey selector = .ok entry) (hslot : entry.slot = slot)
    (hcached : c.state.cachedAuth sector = some ⟨selector, slot⟩) :
    exec t.responder (perform (.ensureAuthorized sector selector slot)) c = (.ok none, c) := by
  subst hslot
  have hhit : exec t.responder (ensureAuthorized sector selector entry.slot) c = (.ok (), c) :=
    ensures_ensureAuthorized (Q := fun x c' => (x, c') = (.ok (), c)) hkey (fun _ => rfl)
      (fun hmiss => absurd hcached hmiss)
  unfold perform
  rw [exec_bind, hhit]
  exact exec_pure none c

/-- Configuring a key takes a legal slot, and nothing else changes. -/
theorem exec_perform_setKey {selector : KeySelector} (hselector : selector.authenticates = true) (key : Key)
    {store : KeyStore} {slot : UInt8} (legal : store.HasSlot slot) (c : Situation Link Card ω) :
    (exec t.responder (perform (.setKey selector key store slot)) c).2 =
      { c with state := { c.state with keys := c.state.keys.insert selector ⟨key, store, slot⟩ } } := by
  have hset : setKey selector key store slot c.state =
      .ok { c.state with keys := c.state.keys.insert selector ⟨key, store, slot⟩ } := by
    simp [setKey, hselector, KeyEntry.make_eq_ok_iff.2 ⟨legal, rfl⟩]
  have hrun : Ensures t.responder (perform (.setKey selector key store slot)) c fun _ c' =>
      c' = { c with state := { c.state with keys := c.state.keys.insert selector ⟨key, store, slot⟩ } } := by
    refine ensures_bind_pure (ensures_change ?_ ?_) fun _ => ⟨none, rfl⟩
    · intro card hcard
      rw [hset] at hcard
      cases hcard
      rfl
    · intro e he
      rw [hset] at he
      cases he
  exact hrun

theorem history_perform_setKey (selector : KeySelector) (key : Key) (store : KeyStore) (slot : UInt8)
    (c : Situation Link Card ω) :
    (exec t.responder (perform (.setKey selector key store slot)) c).2.history = c.history :=
  ensures_change_pure (I := fun c' => c'.history = c.history) none rfl fun _ _ => rfl

/-- If the cache records what is asked for, nothing is sent.  The record stands for the key with which the sector was
last opened, and that was the configured one at that time.  It is the configured one now, or it was replaced in the
meantime by a key for the same slot.  Whatever key it is replaced by, the record goes on to stand for it. -/
theorem lastOpened_of_hit (ops : List Operation) (g : Geometry) (w : ω) {sector : UInt8} {selector : KeySelector}
    {entry : KeyEntry} (hkey : (after t ops (start g w)).state.findKey selector = .ok entry)
    (hcached : (after t ops (start g w)).state.cachedAuth sector = some ⟨selector, entry.slot⟩) :
    let c := after t ops (start g w)
    exec t.responder (perform (.ensureAuthorized sector selector entry.slot)) c = (.ok none, c) ∧
      (∃ first code loaded done op todo, ops = done ++ op :: todo ∧ selector.code? = some code ∧
        LastOpenedAt first sector code loaded c.history ∧ loaded.slot = entry.slot ∧
        (after t done (start g w)).history <+: first ∧
        first.length < (after t (done ++ [op]) (start g w)).history.length ∧
        (after t done (start g w)).state.findKey selector = .ok loaded ∧
        (loaded = entry ∨ .setKey selector entry.key entry.store entry.slot ∈ todo)) ∧
      ∀ key store, store.HasSlot entry.slot →
        let c' := (exec t.responder (perform (.setKey selector key store entry.slot)) c).2
        c'.state.findKey selector = .ok ⟨key, store, entry.slot⟩ ∧ c'.history = c.history ∧
          exec t.responder (perform (.ensureAuthorized sector selector entry.slot)) c' = (.ok none, c') := by
  intro c
  refine ⟨exec_ensureAuthorized_of_hit hkey rfl hcached, ?_, ?_⟩
  · rcases (vouched_after (t := t) ops g w).recorded sector _ hcached with
      ⟨first, code, loaded, hcode, hslot, hlast, done, op, todo, hops, hfirst, hlength, hloaded⟩
    refine ⟨first, code, loaded, done, op, todo, hops, hcode, hlast, hslot, hfirst, hlength, hloaded, ?_⟩
    -- The record was made in the middle of the run; the key may have been replaced between then and now.
    rw [hops, after_append] at hkey
    rcases findKey_after _ _ hkey with hold | hset
    · exact .inl (Except.ok.inj (hloaded.symm.trans hold))
    · rcases List.mem_cons.1 hset with hop | hlater
      · -- The sector was opened while `op` went on, so `op` has sent something.
        rw [after_snoc, ← hop, history_perform_setKey] at hlength
        exact absurd hfirst.length_le (Nat.not_le.2 hlength)
      · exact .inr hlater
  · -- Configuring a key for the same slot leaves the record, and the record is compared by selector and slot alone.
    intro key store legal c'
    have hselector : selector.authenticates = true := by
      rcases code?_of_findKey hkey with ⟨code, hcode⟩
      rw [KeySelector.authenticates_eq, hcode]
      rfl
    have hc' := exec_perform_setKey (t := t) hselector key legal c
    have hkey' : c'.state.findKey selector = .ok ⟨key, store, entry.slot⟩ := by
      rw [findKey_eq_ok_iff, show c' = _ from hc']
      simp [KeyRing.find?_insert _ hselector]
    have hcached' : c'.state.cachedAuth sector = some ⟨selector, entry.slot⟩ := by
      rw [show c' = _ from hc']
      exact hcached
    exact ⟨hkey', history_perform_setKey selector key store entry.slot c, exec_ensureAuthorized_of_hit hkey' rfl hcached'⟩

/-- Key A is replaced by one that the card does not hold, after sector 1 was opened. -/
def replacingKey : List Operation :=
  [.setKey .a .transport .nonVolatile 0, .ensureAuthorized 1 .a 0, .setKey .a .zero .nonVolatile 0]

/-- Making sure of sector 1 sends nothing, although the key that is configured now has never left the caller. -/
theorem lastOpened_of_hit_replaced :
    let t := Tag.transport Tag.hideKeyA
    let c := after t replacingKey (start .small Tag.delivered)
    exec t.responder (perform (.ensureAuthorized 1 .a 0)) c = (.ok none, c) ∧
      c.state.findKey .a = .ok ⟨.zero, .nonVolatile, 0⟩ ∧
      LastOpenedAt [] 1 0x60 ⟨.transport, .nonVolatile, 0⟩ c.history := by
  intro t c
  have hkey : c.state.findKey .a = .ok ⟨.zero, .nonVolatile, 0⟩ := rfl
  have hcached : c.state.cachedAuth 1 = some ⟨.a, 0⟩ := rfl
  have hopened : OpenedAt [] 1 0x60 ⟨.transport, .nonVolatile, 0⟩ c.history :=
    ⟨Tag.accepted [], Tag.accepted [], rfl, rfl, [], rfl⟩
  rcases lastOpened_of_hit replacingKey .small Tag.delivered hkey hcached with
    ⟨hsilent, ⟨first, code, loaded, -, -, -, -, -, hlast, -⟩, -⟩
  have hfirst : first = [] := by
    have hlength := hlast.opened.length_le
    have hhistory : c.history.length = 4 := rfl
    change first.length + 4 ≤ c.history.length at hlength
    exact List.eq_nil_of_length_eq_zero (by omega)
  subst hfirst
  rcases hlast.opened.unique hopened with ⟨rfl, rfl⟩
  exact ⟨hsilent, hkey, hlast⟩

end Card
end SectorCard
