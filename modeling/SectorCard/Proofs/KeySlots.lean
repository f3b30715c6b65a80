import SectorCard.Proofs.WireContract

/-!
# Keys in the slots of a reader

A reader authenticates with whatever key is in a slot.  Key A and key B may be configured for the same slot, so the
key that is tried is the intended one only if the right key was loaded last.  It always was: whenever a card sends an
authentication under key A or key B, the last key that the reader has accepted for the slot was configured as that
key when it was loaded (`lastFilled_of_authenticate`).

It makes no difference whether an authentication follows the loading of its key or renews an earlier attempt, and
what was refused in between.
-/

namespace SectorCard

open Procedure

variable {σ ω : Type} {t : Transport ω} {slot : UInt8} {history : List (Event Link)}

/-! ## What is in a slot -/

/-- The reader has accepted a key for a slot. -/
def Event.Fills (slot : UInt8) (event : Event Link) : Prop :=
  event.succeeded = true ∧ ∃ store key, event.request = .transmit (WireCommand.load store slot key).bytes

/-- The last key that the reader has accepted for a slot.  What was said before it was loaded, the store and the key
satisfy `P`. -/
def LastFilled (P : List (Event Link) → KeyEntry → Prop) (slot : UInt8) (history : List (Event Link)) : Prop :=
  ∃ first store key reply later,
    history = first ++ ⟨.transmit (WireCommand.load store slot key).bytes, reply⟩ :: later ∧
      (Link.acknowledged? reply).isSome = true ∧ (∀ event ∈ later, ¬ event.Fills slot) ∧ P first ⟨key, store, slot⟩

variable {P : List (Event Link) → KeyEntry → Prop}

theorem LastFilled.append (h : LastFilled P slot history) {events : List (Event Link)}
    (hevents : ∀ event ∈ events, ¬ event.Fills slot) : LastFilled P slot (history ++ events) := by
  rcases h with ⟨first, store, key, reply, later, rfl, hreply, hlater, hP⟩
  refine ⟨first, store, key, reply, later ++ events, by simp, hreply, fun event hevent => ?_, hP⟩
  rcases List.mem_append.1 hevent with hold | hnew
  · exact hlater event hold
  · exact hevents event hnew

theorem LastFilled.mono {Q : List (Event Link) → KeyEntry → Prop} (h : LastFilled P slot history)
    (hPQ : ∀ first entry, first.length < history.length → P first entry → Q first entry) : LastFilled Q slot history := by
  rcases h with ⟨first, store, key, reply, later, rfl, hreply, hlater, hP⟩
  exact ⟨first, store, key, reply, later, rfl, hreply, hlater, hPQ first _ (by simp) hP⟩

theorem lastFilled_of_loading {entry : KeyEntry} {reply : Except CardError Bytes}
    (hreply : (Link.acknowledged? reply).isSome = true) (hP : P history entry) :
    LastFilled P entry.slot (history ++ [⟨.transmit (Command.loading entry).encode, reply⟩]) :=
  ⟨history, entry.store, entry.key, reply, [], by rw [WireCommand.encode_loading], hreply, (fun _ h => nomatch h), hP⟩

theorem not_fills_asked (connected : Bool) : ¬ Event.Fills slot ⟨.isConnected, connected⟩ := by
  rintro ⟨-, store, key, h⟩
  cases h

theorem not_fills_sent {sent : WireCommand} (h : ∀ store key, sent ≠ .load store slot key)
    (reply : Except CardError Bytes) : ¬ Event.Fills slot ⟨.transmit sent.bytes, reply⟩ := by
  rintro ⟨-, store, key, hsent⟩
  exact h store key (WireCommand.bytes_injective (Link.Request.transmit.inj hsent))

theorem not_fills_authenticating (address code slot' : UInt8) (reply : Except CardError Bytes) :
    ¬ Event.Fills slot ⟨.transmit (Command.authenticating address code slot').encode, reply⟩ := by
  rw [WireCommand.encode_authenticating]
  refine not_fills_sent ?_ reply
  exact fun _ _ h => nomatch h

section Exchanges

variable {c : Situation Link σ ω} {command : Command}

theorem LastFilled.exchanged (h : LastFilled P slot c.history)
    (hsent : t.isConnected c.world = true →
      ¬ Event.Fills slot ⟨.transmit command.encode, (t.transmit command.encode c.world).1⟩) :
    LastFilled P slot (c.exchanged t command).history := by
  refine h.append fun event hevent => ?_
  rcases mem_exchangeEvents hevent with rfl | ⟨hconnected, rfl⟩
  · exact not_fills_asked _
  · exact hsent hconnected

/-- A key that the reader refuses fills no slot. -/
theorem LastFilled.refused {entry : KeyEntry} {refusal : StatusWord → CardError} {e : CardError}
    (h : LastFilled P slot c.history) (he : t.demand (.loading entry) refusal c.world = .error e) :
    LastFilled P slot (c.exchanged t (.loading entry)).history :=
  h.exchanged fun hconnected hfills => Transport.not_succeeded_of_demand hconnected he hfills.1

theorem lastFilled_exchanged {entry : KeyEntry} {refusal : StatusWord → CardError} {data : Bytes}
    (hload : t.demand (.loading entry) refusal c.world = .ok data) (hP : P (c.history ++ [⟨.isConnected, true⟩]) entry) :
    LastFilled P entry.slot (c.exchanged t (.loading entry)).history := by
  have hreply : (Link.acknowledged? (t.transmit (Command.loading entry).encode c.world).1).isSome = true := by
    rw [(Transport.demand_eq_ok_iff.1 hload).2]
    rfl
  have hfilled := lastFilled_of_loading hreply hP
  rwa [List.append_assoc, List.singleton_append, ← Transport.exchangeEvents_of_ok hload] at hfilled

end Exchanges

/-! ## Authentications with the intended key -/

/-- An authentication under the code of a selector is sent when the last key that the reader has accepted for the
slot satisfied `P` for that selector. -/
def Intended (P : List (Event Link) → KeySelector → KeyEntry → Prop) (earlier : List (Event Link))
    (event : Event Link) : Prop :=
  ∀ block code slot, event.request = .transmit (WireCommand.authenticate block code slot).bytes →
    ∃ selector, selector.code? = some code ∧ LastFilled (fun first entry => P first selector entry) slot earlier

namespace Coupler

variable {P : List (Event Link) → KeySelector → KeyEntry → Prop} {d : Situation Link Coupler ω}

/-- The slot of the remembered key holds a key for the remembered selector, and every authentication was tried with
the intended key. -/
structure Stocked (P : List (Event Link) → KeySelector → KeyEntry → Prop) (d : Situation Link Coupler ω) : Prop where
  remembered : ∀ entry, d.state.key = some entry →
    LastFilled (fun first entry => P first d.state.selector entry) entry.slot d.history
  intended : EachSince [] (Intended P) d.history

theorem intended_asked (earlier : List (Event Link)) (connected : Bool) : Intended P earlier ⟨.isConnected, connected⟩ :=
  fun _ _ _ h => nomatch h

theorem intended_sent {sent : WireCommand} (h : ∀ block code slot, sent ≠ .authenticate block code slot)
    (earlier : List (Event Link)) (reply : Except CardError Bytes) : Intended P earlier ⟨.transmit sent.bytes, reply⟩ := by
  intro block code slot hsent
  exact absurd (WireCommand.bytes_injective (Link.Request.transmit.inj hsent)) (h block code slot)

/-- With the intended key in the slot, an authentication is as intended. -/
theorem eachSince_authenticating {selector : KeySelector} {address code slot : UInt8} {c : Situation Link σ ω}
    (h : EachSince [] (Intended P) c.history) (hcode : selector.code? = some code)
    (hfilled : LastFilled (fun first entry => P first selector entry) slot c.history) :
    EachSince [] (Intended P) (c.exchanged t (.authenticating address code slot)).history := by
  refine h.exchanged List.nil_prefix (fun _ => intended_asked _ _) ?_
  intro block code' slot' hsent
  rw [WireCommand.encode_authenticating] at hsent
  have hsame := WireCommand.bytes_injective (Link.Request.transmit.inj hsent)
  cases hsame
  exact ⟨selector, hcode, hfilled.append fun event hevent => by
    rcases List.mem_singleton.1 hevent with rfl
    exact not_fills_asked _⟩

theorem Stocked.authenticating (h : Stocked P d) {entry : KeyEntry} {address code : UInt8}
    (hkey : d.state.key = some entry) (hcode : d.state.selector.code? = some code) :
    Stocked P (d.exchanged t (.authenticating address code entry.slot)) where
  remembered found hfound := by
    exact (h.remembered found hfound).exchanged fun _ => not_fills_authenticating address code entry.slot _
  intended := eachSince_authenticating h.intended hcode (h.remembered entry hkey)

/-- A command that neither loads a key nor authenticates changes nothing. -/
theorem Stocked.exchanged (h : Stocked P d) {command : Command} {sent : WireCommand}
    (hcommand : command.encode = sent.bytes) (hload : ∀ store slot key, sent ≠ .load store slot key)
    (hauth : ∀ block code slot, sent ≠ .authenticate block code slot) : Stocked P (d.exchanged t command) where
  remembered found hfound := by
    refine (h.remembered found hfound).exchanged fun _ => ?_
    rw [hcommand]
    exact not_fills_sent (fun store key => hload store _ key) _
  intended := by
    refine h.intended.exchanged List.nil_prefix (fun _ => intended_asked _ _) ?_
    rw [hcommand]
    exact intended_sent hauth _ _

theorem Stocked.access (h : Stocked P d) {address : UInt8} {command : Command}
    (hcommand : command = .reading address Card.blockLength ∨
      ∃ page, page.length = blockSize ∧ command = .writing address page) : Stocked P (d.exchanged t command) := by
  rcases hcommand with rfl | ⟨page, hpage, rfl⟩
  · exact h.exchanged (WireCommand.encode_reading address) (fun _ _ _ h => nomatch h) (fun _ _ _ h => nomatch h)
  · exact h.exchanged (WireCommand.encode_writing address ⟨page, hpage⟩) (fun _ _ _ h => nomatch h)
      (fun _ _ _ h => nomatch h)

theorem Stocked.mono {Q : List (Event Link) → KeySelector → KeyEntry → Prop} (h : Stocked P d)
    (hPQ : ∀ first selector entry, first.length < d.history.length → P first selector entry → Q first selector entry) :
    Stocked Q d where
  remembered entry hentry := (h.remembered entry hentry).mono fun first _ hfirst => hPQ first _ _ hfirst
  intended earlier event later hsaid block code slot hevent := by
    rcases h.intended earlier event later hsaid block code slot hevent with ⟨selector, hcode, hfilled⟩
    refine ⟨selector, hcode, hfilled.mono fun first _ hfirst => hPQ first _ _ (Nat.lt_trans hfirst ?_)⟩
    simp [hsaid]

theorem Stocked.pending (h : Stocked P d) (pending : Bool) :
    Stocked P { d with state := { d.state with authPending := pending } } :=
  ⟨h.remembered, h.intended⟩

end Coupler

namespace Card

/-! ## Every step -/

variable {P : List (Event Link) → KeySelector → KeyEntry → Prop} {card₀ : Card} {before : List (Event Link)}

/-- What holds while an operation is carried out that found the card as `card₀`, when `before` had been said. -/
structure Stocked (P : List (Event Link) → KeySelector → KeyEntry → Prop) (card₀ : Card) (before : List (Event Link))
    (c : Situation Link Card ω) : Prop where
  sound : Sound c.state
  setup : SameSetup card₀ c.state
  later : before <+: c.history
  coupler : Coupler.Stocked P c.below

/-- Authorizing loads the key that is configured, and authenticates with it. -/
theorem keeps_stocked_authorize
    (hP : ∀ first selector entry, before <+: first → card₀.findKey selector = .ok entry → P first selector entry)
    (sector : UInt8) (selector : KeySelector) :
    Keeps t.responder (Stocked P card₀ before) (authorize sector selector) := by
  intro c hc
  have hsound := (soundSteps t).authorize sector selector c hc.sound
  have hsetup := authorize_setup (t := t) (c := c) sector selector
  refine ((hsound.and hsetup).and (authorize_outcome t sector selector c)).mono ?_
  rintro x c' ⟨⟨hsound', hsetup', -⟩, h⟩
  have hsetup'' := hc.setup.trans hsetup'
  -- The key that was just loaded is the one that is configured.
  have hloaded : ∀ {entry data}, c.state.authorizable sector selector = .ok entry →
      t.demand (.loading entry) .loadKeyFailed c.world = .ok data →
      LastFilled (fun first entry => P first selector entry) entry.slot (c.exchanged t (.loading entry)).history := by
    intro entry data hentry hload
    have hkey := (hc.setup.symm.findKey selector).trans (authorizable_eq_ok hentry).1
    exact lastFilled_exchanged hload (hP _ _ _ (hc.later.trans (List.prefix_append _ _)) hkey)
  have hquiet : ∀ entry, EachSince [] (Intended P) (c.exchanged t (.loading entry)).history := by
    intro entry
    refine hc.coupler.intended.exchanged (c := c) List.nil_prefix (fun _ => Coupler.intended_asked _ _) ?_
    rw [WireCommand.encode_loading]
    refine Coupler.intended_sent ?_ _ _
    exact fun _ _ _ h => nomatch h
  -- After the load, authenticating is tried with the key that has just come into the slot.
  have hattempted : ∀ {entry code data}, c.state.authorizable sector selector = .ok entry →
      selector.code? = some code → t.demand (.loading entry) .loadKeyFailed c.world = .ok data →
      let d := (c.exchanged t (.loading entry)).exchanged t (.authenticating (firstAddress sector) code entry.slot)
      before <+: d.history ∧ LastFilled (fun first entry => P first selector entry) entry.slot d.history ∧
        EachSince [] (Intended P) d.history := by
    intro entry code data hentry hcode hload d
    refine ⟨hc.later.trans ((List.prefix_append _ _).trans (List.prefix_append _ _)), ?_, ?_⟩
    · exact (hloaded hentry hload).exchanged fun _ => not_fills_authenticating _ _ _ _
    · exact Coupler.eachSince_authenticating (hquiet entry) hcode (hloaded hentry hload)
  cases h with
  | rejected he => exact hc
  | notLoaded hentry he =>
    refine ⟨hsound', hsetup'', hc.later.trans (List.prefix_append _ _), fun found hfound => ?_, hquiet _⟩
    exact (hc.coupler.remembered found hfound).refused (c := c) he
  | notAccepted hentry hcode hload he =>
    rcases hattempted hentry hcode hload with ⟨hlater, hfilled, hintended⟩
    refine ⟨hsound', hsetup'', hlater, ?_, hintended⟩
    rintro _ ⟨⟩
    exact hfilled
  | authorized hentry hcode hload hauth =>
    rcases hattempted hentry hcode hload with ⟨hlater, hfilled, hintended⟩
    refine ⟨hsound', hsetup'', hlater, ?_, hintended⟩
    rintro _ ⟨⟩
    exact hfilled

theorem stepsKeep_stocked {op : Operation}
    (hP : ∀ first selector entry, before <+: first → card₀.findKey selector = .ok entry → P first selector entry) :
    StepsKeep t (Stocked P card₀ before) (op.Accesses card₀) where
  authorize := keeps_stocked_authorize hP
  access := by
    intro c sector selector address command other hc hauth hA
    have hsound := (soundSteps t).access c sector selector address command other hc.sound hauth trivial
    -- The remembered key counts as loaded, so its slot is not filled again during an access.
    rcases hc.sound.remembered hauth with ⟨entry, code, hkey, hloaded, hcode⟩
    have haccess : Ensures t.responder (Coupler.access address command other) c.below fun _ d =>
        before <+: d.history ∧ Coupler.Stocked P d := by
      refine Coupler.ensures_access (c := c.below) hkey hloaded hcode ?_ ?_
      · intro _ e _
        exact ⟨hc.later.trans (List.prefix_append _ _), hc.coupler.authenticating hkey hcode⟩
      · intro d hd
        have hready : before <+: d.history ∧ Coupler.Stocked P d := by
          cases hd with
          | idle _ => exact ⟨hc.later, hc.coupler⟩
          | renewed _ _ =>
            exact ⟨hc.later.trans (List.prefix_append _ _), (hc.coupler.authenticating hkey hcode).pending false⟩
        have hsent := hready.2.access (t := t) hA.command_eq
        have hlater : before <+: (d.exchanged t command).history := hready.1.trans (List.prefix_append _ _)
        exact Coupler.ensures_transfer_of_demand (fun _ _ => ⟨hlater, hsent.pending false⟩)
          (fun _ pending _ => ⟨hlater, hsent.pending pending⟩)
    refine (hsound.and haccess).mono ?_
    rintro x d ⟨hsound', hlater, hstocked⟩
    exact ⟨hsound', hc.setup.trans ⟨rfl, rfl, rfl⟩, hlater, hstocked⟩
  forget c sector hc := ⟨hc.sound.invalidate sector, hc.setup.trans ⟨rfl, rfl, rfl⟩, hc.later, hc.coupler⟩

/-! ## Every run -/

variable {c : Situation Link Card ω}

theorem perform_stocked (hsound : Sound c.state) (hstocked : Coupler.Stocked P c.below) (op : Operation)
    (hP : ∀ first selector entry, c.history <+: first → c.state.findKey selector = .ok entry → P first selector entry) :
    Ensures t.responder (perform op) c fun _ c' => Sound c'.state ∧ Coupler.Stocked P c'.below := by
  -- Configuring sends nothing and leaves the coupler as it is.
  have hconfigured : ∀ card : Card, card.coupler = c.state.coupler → Sound card →
      Sound card ∧ Coupler.Stocked P (Situation.below { c with state := card }) := by
    intro card hcoupler hsound'
    refine ⟨hsound', ?_⟩
    unfold Situation.below
    rw [hcoupler]
    exact hstocked
  cases op with
  | setKey selector key store slot =>
    exact ensures_change_pure none ⟨hsound, hstocked⟩ fun card hset =>
      hconfigured card (setup_setKey hset).2.1 (hsound.setKey hset)
  | setPolicy sector policy =>
    exact ensures_change_pure none ⟨hsound, hstocked⟩ fun card hset =>
      hconfigured card (setup_setPolicy hset).2.2.1 (hsound.setPolicy hset)
  | _ =>
    refine ((stepsKeep_stocked hP).perform ⟨hsound, .refl _, List.prefix_rfl, hstocked⟩ ?_ ?_).mono
      fun _ _ h => ⟨h.sound, h.coupler⟩
    · exact fun _ _ _ _ _ h => nomatch h
    · exact fun _ _ _ h => nomatch h

/-- When `first` had been said in a run, an operation was going on that had found a key configured. -/
def ConfiguredWhen (t : Transport ω) (ops : List Operation) (c : Situation Link Card ω) (first : List (Event Link))
    (selector : KeySelector) (entry : KeyEntry) : Prop :=
  ∃ done op todo, ops = done ++ op :: todo ∧ (after t done c).history <+: first ∧
    first.length < (after t (done ++ [op]) c).history.length ∧ (after t done c).state.findKey selector = .ok entry

/-- What operations keep, as long as the keys that they have found count as configured, holds after a run. -/
theorem after_of_configuredWhen
    {K : (List (Event Link) → KeySelector → KeyEntry → Prop) → Situation Link Card ω → Prop}
    (mono : ∀ P Q c, (∀ first selector entry, first.length < c.history.length → P first selector entry →
      Q first selector entry) → K P c → K Q c)
    (step : ∀ P op c, Sound c.state → K P c →
      (∀ first selector entry, c.history <+: first → c.state.findKey selector = .ok entry → P first selector entry) →
      Ensures t.responder (perform op) c fun _ c' => K P c')
    (g : Geometry) (w : ω) {ops done todo : List Operation} (hops : ops = done ++ todo)
    (hdone : K (ConfiguredWhen t ops (start g w)) (after t done (start g w))) :
    K (ConfiguredWhen t ops (start g w)) (after t ops (start g w)) := by
  -- By induction on what is still to be done; what was done keeps the same notion of being configured.
  induction todo generalizing done with
  | nil =>
    rw [List.append_nil] at hops
    rw [hops] at hdone ⊢
    exact hdone
  | cons op todo ih =>
    have hnext : ops = (done ++ [op]) ++ todo := by rw [hops, List.append_assoc, List.singleton_append]
    refine ih hnext ?_
    -- While the operation goes on, the keys that it has found count as configured.
    have hstep := step
      (fun first selector entry => ConfiguredWhen t ops (start g w) first selector entry ∨
        (after t done (start g w)).history <+: first ∧ (after t done (start g w)).state.findKey selector = .ok entry)
      op _ (sound_after t done g w) (mono _ _ _ (fun _ _ _ _ h => .inl h) hdone)
      (fun _ _ _ hfirst hkey => .inr ⟨hfirst, hkey⟩)
    rw [after_snoc]
    refine mono _ _ _ ?_ hstep
    rintro first selector entry hlength (hbefore | ⟨hfirst, hkey⟩)
    · exact hbefore
    · refine ⟨done, op, todo, hops, hfirst, ?_, hkey⟩
      rw [after_snoc]
      exact hlength

theorem stocked_after_append (g : Geometry) (w : ω) {ops done todo : List Operation} (hops : ops = done ++ todo)
    (hdone : Coupler.Stocked (ConfiguredWhen t ops (start g w)) (after t done (start g w)).below) :
    Coupler.Stocked (ConfiguredWhen t ops (start g w)) (after t ops (start g w)).below := by
  refine after_of_configuredWhen (K := fun P c => Coupler.Stocked P c.below) ?_ ?_ g w hops hdone
  · intro P Q c hPQ hstocked
    exact hstocked.mono hPQ
  · intro P op c hsound hstocked hP
    exact (perform_stocked hsound hstocked op hP).mono fun _ _ h => h.2

/-- Whenever an authentication is sent in a run, the last key that the reader has accepted for the slot was configured,
when it was loaded, under the selector whose code is sent. -/
theorem lastFilled_of_authenticate (ops : List Operation) (g : Geometry) (w : ω) {block code slot : UInt8}
    {reply : Except CardError Bytes} {earlier later : List (Event Link)}
    (hsaid : (after t ops (start g w)).history =
      earlier ++ ⟨.transmit (WireCommand.authenticate block code slot).bytes, reply⟩ :: later) :
    ∃ selector, selector.code? = some code ∧
      LastFilled (fun first entry => ConfiguredWhen t ops (start g w) first selector entry) slot earlier := by
  have hstart : Coupler.Stocked (ConfiguredWhen t ops (start g w)) (after t [] (start g w)).below := by
    refine ⟨?_, ?_⟩
    · intro entry hentry
      cases hentry
    · exact eachSince_self
  have hdone := stocked_after_append g w (List.nil_append ops).symm hstart
  exact hdone.intended earlier _ later (by rw [List.nil_append]; exact hsaid) block code slot rfl

/-- Both keys are configured for one slot, but the card holds another key B.  The reader will refuse the third
command. -/
def sharingSlot : List Operation :=
  [.setKey .a .transport .nonVolatile 0, .setKey .b .zero .nonVolatile 0,
    .readBlock 4, .writeBlock 8 (Block.fit []), .readBlock 4]

/-- Sector 1 was read under key A, key B was loaded into the same slot and denied, and sector 1 is read again: the
authentication that is renewed is the one under key B, and key B is in the slot. -/
theorem lastFilled_of_authenticate_renewed :
    let t := (Tag.transport Tag.hideKeyA).refusing
    let c := start .small ([false, false, true], Tag.delivered)
    let history := (after t sharingSlot c).history
    history = history.take 11 ++ ⟨.transmit (WireCommand.authenticate 4 0x61 0).bytes, Tag.denied⟩ :: history.drop 12 ∧
      LastFilled (fun first entry => ConfiguredWhen t sharingSlot c first .b entry) 0 (history.take 11) := by
  intro t c history
  have hsaid : history = history.take 11 ++
      ⟨.transmit (WireCommand.authenticate 4 0x61 0).bytes, Tag.denied⟩ :: history.drop 12 := by
    decide +kernel
  rcases lastFilled_of_authenticate sharingSlot .small _ hsaid with ⟨selector, hcode, hfilled⟩
  cases selector with
  | b => exact ⟨hsaid, hfilled⟩
  | _ => cases hcode

end Card
end SectorCard
