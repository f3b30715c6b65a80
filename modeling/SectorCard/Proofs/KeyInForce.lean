import SectorCard.Proofs.Reachability
import SectorCard.Proofs.Tag

/-!
# The key in force

Two mechanisms authenticate: the card loads a key and authenticates a sector, and the coupler renews an
authentication that is pending, with whatever key was attempted last.  The second does not tell the cache of
the first.  So an access can be served under another key than its operation calls for, and it can be served so
long after the renewal.

This module keeps watch over everything that is said and finds out exactly when that happens.  Every access
that a card acknowledges is made in the sector that is authenticated.  The key in force is the one that the
operation calls for if it was loaded for the authentication, and otherwise just in case the attempt that was
renewed was under that key (`underKey_of_acknowledged`).
-/

namespace SectorCard

open Simulation.Chip (sectorOf)

/-! ## Keeping watch -/

/-- An authentication that a card has accepted, with the code of the key.  If no key was loaded right before it, it has
renewed an earlier attempt; `attempt` is the code of the last one whose key was loaded right before it. -/
structure Authentication where
  sector : Nat
  code : UInt8
  loaded : Bool
  attempt : Option UInt8
  deriving DecidableEq

/-- What the events so far say about authentication: the last one that was accepted, the code of the last attempt whose
key was loaded right before it, and whether a key was loaded just now. -/
structure Watch where
  inForce : Option Authentication
  attempt : Option UInt8
  justLoaded : Bool
  deriving DecidableEq

namespace Watch

def initial : Watch := ⟨none, none, false⟩

def transmitted (w : Watch) (command : Bytes) (acknowledged : Bool) : Watch :=
  match command with
  | 0xff :: 0x82 :: _ => { w with justLoaded := acknowledged }
  | [0xff, 0x88, _, address, code, _] =>
    let attempt := if w.justLoaded then some code else w.attempt
    { inForce := if acknowledged then some ⟨sectorOf address, code, w.justLoaded, attempt⟩ else w.inForce
      attempt := attempt
      justLoaded := false }
  | _ => { w with justLoaded := false }

theorem settle {w : Watch} (hsettled : w.justLoaded = false) : ⟨w.inForce, w.attempt, false⟩ = w := by
  cases w
  cases hsettled
  rfl

/-- An authentication without a key that was loaded just now renews an earlier attempt. -/
theorem transmitted_authenticating {w : Watch} (hsettled : w.justLoaded = false) (address code slot : UInt8)
    (acknowledged : Bool) :
    w.transmitted (Command.authenticating address code slot).encode acknowledged =
      ⟨if acknowledged then some ⟨sectorOf address, code, false, w.attempt⟩ else w.inForce, w.attempt, false⟩ := by
  cases w with
  | mk inForce attempt justLoaded =>
    cases hsettled
    rfl

def step (w : Watch) : Event Link → Watch
  | ⟨.isConnected, _⟩ => w
  | ⟨.transmit command, reply⟩ => w.transmitted command (Link.acknowledged? reply).isSome

def of (history : List (Event Link)) : Watch := history.foldl step initial

theorem of_snoc (history : List (Event Link)) (event : Event Link) :
    of (history ++ [event]) = (of history).step event := by
  simp [of]

end Watch

def Command.accessed? : Bytes → Option (UInt8 × Card.Access)
  | 0xff :: 0xb0 :: _ :: address :: _ => some (address, .read)
  | 0xff :: 0xd6 :: _ :: address :: _ => some (address, .write)
  | _ => none

/-- The access that an event shows to have been acknowledged. -/
def Event.access? : Event Link → Option (UInt8 × Card.Access)
  | ⟨.isConnected, _⟩ => none
  | ⟨.transmit command, reply⟩ =>
    if (Link.acknowledged? reply).isSome then Command.accessed? command else none

/-! ## Guarded cards -/

/-- Connected cards that serve only the sector of the last authentication they accepted. -/
structure Transport.GuardsSectors {ω : Type} (t : Transport ω) (authed : ω → Option Nat) : Prop where
  connected : ∀ w, t.isConnected w = true
  reading : ∀ address w data, Link.acknowledged? (t.transmit (Command.reading address 16).encode w).1 = some data →
    authed w = some (sectorOf address)
  writing : ∀ address (block : Block) w data,
    Link.acknowledged? (t.transmit (Command.writing address block.bytes).encode w).1 = some data →
      authed w = some (sectorOf address)
  authenticating : ∀ address code slot w data,
    Link.acknowledged? (t.transmit (Command.authenticating address code slot).encode w).1 = some data →
      authed (t.transmit (Command.authenticating address code slot).encode w).2 = some (sectorOf address)
  kept : ∀ (command : Command) w sector, command.Issued →
    (∀ address code slot, command = .authenticating address code slot →
      Link.acknowledged? (t.transmit command.encode w).1 = none) →
    authed (t.transmit command.encode w).2 = some sector → authed w = some sector

namespace Transport.GuardsSectors

variable {σ ω : Type} {t : Transport ω} {authed : ω → Option Nat} (card : t.GuardsSectors authed)
  {command : Command} {refusal : StatusWord → CardError} {w : ω} {e : CardError} {data : Bytes} {sector : Nat}
include card

theorem exchange_world (command : Command) (w : ω) :
    (t.exchange command w).2 = (t.transmit command.encode w).2 := by
  simp [Transport.exchange_world, card.connected w]

theorem acknowledged_of_error (h : t.demand command refusal w = .error e) :
    Link.acknowledged? (t.transmit command.encode w).1 = none := by
  cases hr : Link.acknowledged? (t.transmit command.encode w).1 with
  | none => rfl
  | some data =>
    have hok : t.demand command refusal w = .ok data := Transport.demand_eq_ok_iff.2 ⟨card.connected w, hr⟩
    rw [h] at hok
    cases hok

theorem authed_of_error (hissued : command.Issued) (h : t.demand command refusal w = .error e)
    (hauthed : authed (t.exchange command w).2 = some sector) : authed w = some sector := by
  rw [card.exchange_world] at hauthed
  exact card.kept command w sector hissued (fun _ _ _ _ => card.acknowledged_of_error h) hauthed

theorem authed_of_loading {entry : KeyEntry} (hauthed : authed (t.exchange (.loading entry) w).2 = some sector) :
    authed w = some sector := by
  rw [card.exchange_world] at hauthed
  exact card.kept _ w sector (.loading entry) (fun _ _ _ h => nomatch h) hauthed

theorem authed_of_authenticating {address code slot : UInt8}
    (h : t.demand (.authenticating address code slot) refusal w = .ok data) :
    authed (t.exchange (.authenticating address code slot) w).2 = some (sectorOf address) := by
  rw [card.exchange_world]
  exact card.authenticating address code slot w data (Transport.demand_eq_ok_iff.1 h).2

theorem history_exchanged (command : Command) (c : Situation Link σ ω) :
    (c.exchanged t command).history = c.history ++ [⟨.isConnected, true⟩] ++
      [⟨.transmit command.encode, (t.transmit command.encode c.world).1⟩] := by
  simp [Situation.exchanged, Transport.exchangeEvents, card.connected c.world]

theorem watch_exchanged (command : Command) (c : Situation Link σ ω) :
    Watch.of (c.exchanged t command).history = (Watch.of c.history).transmitted command.encode
      (Link.acknowledged? (t.transmit command.encode c.world).1).isSome := by
  rw [card.history_exchanged, Watch.of_snoc, Watch.of_snoc]
  rfl

theorem watch_of_ok {c : Situation Link σ ω} (h : t.demand command refusal c.world = .ok data) :
    Watch.of (c.exchanged t command).history = (Watch.of c.history).transmitted command.encode true := by
  rw [card.watch_exchanged, (Transport.demand_eq_ok_iff.1 h).2]
  rfl

theorem watch_of_error {c : Situation Link σ ω} (h : t.demand command refusal c.world = .error e) :
    Watch.of (c.exchanged t command).history = (Watch.of c.history).transmitted command.encode false := by
  rw [card.watch_exchanged, card.acknowledged_of_error h]
  rfl

end Transport.GuardsSectors

theorem Transport.Fronts.guardsSectors {ω : Type} {t : Transport ω} {shown : UInt8 → Block → Bytes}
    {view : ω → Tag} (h : t.Fronts shown view) (hconnected : ∀ w, t.isConnected w = true) :
    t.GuardsSectors fun w => (view w).authed where
  connected := hconnected
  reading address w data hdata := by
    rcases h.answers (.reading address) hdata with ⟨hreply, -⟩
    rw [hreply, Tag.answer_reading] at hdata
    split at hdata
    · assumption
    · cases hdata
  writing address block w data hdata := by
    rcases h.answers (.writing address block) hdata with ⟨hreply, -⟩
    rw [hreply, Tag.answer_writing] at hdata
    split at hdata
    · assumption
    · cases hdata
  authenticating address code slot w data hdata := by
    rcases h.answers (.authenticating address code slot) hdata with ⟨hreply, hview⟩
    rw [hreply, Tag.answer_authenticating] at hdata
    show (view _).authed = _
    rw [hview, Tag.answer_authenticating]
    split at hdata
    · rename_i hkey
      rw [if_pos hkey]
    · cases hdata
  -- A command that is passed on leaves the sector or gives it up; one that is refused changes nothing at all.
  kept command w sector hissued hnone hauthed := by
    change (view _).authed = _ at hauthed
    rcases h command w hissued with ⟨hreply, hview⟩ | ⟨-, hview⟩
    · rw [hview] at hauthed
      cases hissued with
      | reading address =>
        rw [Tag.answer_reading] at hauthed
        split at hauthed <;> exact hauthed
      | writing address block =>
        rw [Tag.answer_writing] at hauthed
        split at hauthed <;> exact hauthed
      | loading entry => exact hauthed
      | authenticating address code slot =>
        have hdenied := hnone address code slot rfl
        rw [hreply, Tag.answer_authenticating] at hdenied
        rw [Tag.answer_authenticating] at hauthed
        split at hauthed
        · rename_i hkey
          rw [if_pos hkey] at hdenied
          cases hdenied
        · cases hauthed
    · rw [hview] at hauthed
      exact hauthed

namespace Card

open Procedure

/-! ## What the card and the watch agree on -/

/-- What holds between a card's state, the watch over everything that was said, and the sector that is authenticated.
That sector is the one in force.  If the key in force was loaded for it, the cache records no other, and the coupler
remembers the key that was attempted last. -/
structure Agrees (card : Card) (w : Watch) (authed : Option Nat) : Prop where
  sector : ∀ s, authed = some s → ∃ auth, w.inForce = some auth ∧ auth.sector = s
  cached : ∀ sector selector slot auth, card.cachedAuth sector = some ⟨selector, slot⟩ →
    w.inForce = some auth → auth.sector = sector.toNat → auth.loaded = true → selector.code? = some auth.code
  remembered : card.coupler.key ≠ none → w.attempt = card.coupler.selector.code?
  renewed : ∀ auth, w.inForce = some auth → auth.loaded = false → auth.attempt = some auth.code
  settled : w.justLoaded = false

namespace Agrees

variable {card : Card} {w : Watch} {authed authed' : Option Nat}

theorem lost (h : Agrees card w authed) (hlost : ∀ s, authed' = some s → authed = some s) :
    Agrees card w authed' where
  sector s hs := h.sector s (hlost s hs)
  cached := h.cached
  remembered := h.remembered
  renewed := h.renewed
  settled := h.settled

theorem pending (h : Agrees card w authed) (pending : Bool) :
    Agrees { card with coupler := { card.coupler with authPending := pending } } w authed where
  sector := h.sector
  cached := h.cached
  remembered := h.remembered
  renewed := h.renewed
  settled := h.settled

theorem invalidate (h : Agrees card w authed) (sector : UInt8) : Agrees (card.invalidate sector) w authed where
  sector := h.sector
  cached other selector slot auth hcached := by
    rw [cachedAuth_invalidate] at hcached
    split at hcached
    · cases hcached
    · exact h.cached other selector slot auth hcached
  remembered := h.remembered
  renewed := h.renewed
  settled := h.settled

theorem attempted (h : Agrees card w authed) {selector : KeySelector} {code : UInt8}
    (hcode : selector.code? = some code) (entry : KeyEntry) :
    Agrees (card.afterAttempt selector entry) ⟨w.inForce, some code, false⟩ authed where
  sector := h.sector
  cached := h.cached
  remembered _ := hcode.symm
  renewed := h.renewed
  settled := rfl

theorem authorized (card : Card) (sector : UInt8) {selector : KeySelector} {code : UInt8}
    (hcode : selector.code? = some code) (entry : KeyEntry) :
    Agrees (card.afterAuthorize sector selector entry) ⟨some ⟨sector.toNat, code, true, some code⟩, some code, false⟩
      (some sector.toNat) where
  sector s hs := ⟨_, rfl, Option.some.inj hs⟩
  cached other found slot auth hcached hforce hsector _ := by
    cases hforce
    have hsame : other = sector := UInt8.toNat_inj.1 hsector.symm
    rw [cachedAuth_afterAuthorize, if_pos hsame] at hcached
    cases hcached
    exact hcode
  remembered _ := hcode.symm
  renewed auth hforce hloaded := by
    cases hforce
    cases hloaded
  settled := rfl

theorem renews (h : Agrees card w authed) (hkey : card.coupler.key ≠ none) {code : UInt8}
    (hcode : card.coupler.selector.code? = some code) (s : Nat) :
    Agrees { card with coupler := { card.coupler with authPending := false } }
      ⟨some ⟨s, code, false, w.attempt⟩, w.attempt, false⟩ (some s) where
  sector s' hs := ⟨_, rfl, Option.some.inj hs⟩
  cached _ _ _ auth _ hforce _ hloaded := by
    cases hforce
    cases hloaded
  remembered _ := h.remembered hkey
  renewed auth hforce _ := by
    cases hforce
    exact (h.remembered hkey).trans hcode
  settled := rfl

end Agrees

/-! ## The key that an operation calls for -/

def Operation.demandedKey (card : Card) (sector : UInt8) : Operation → Access → Except Failure KeySelector
  | .changeTrailer _ _, .write => .ok .b
  | .applyPolicy _ selector _, .write => .ok selector
  | _, access => card.chooseKey sector access

theorem Operation.Accesses.demandedKey {card : Card} {op : Operation} {sector address : UInt8}
    {selector : KeySelector} {command : Command} (h : op.Accesses card sector selector address command) :
    ∃ access, Command.accessed? command.encode = some (address, access) ∧
      op.demandedKey card sector access = .ok selector := by
  cases h with
  | reading _ hkey _ =>
    refine ⟨.read, rfl, ?_⟩
    cases op <;> exact hkey
  | writing hwrites hkey _ _ =>
    refine ⟨.write, rfl, ?_⟩
    cases op with
    | changeTrailer => cases hwrites
    | applyPolicy => cases hwrites
    | _ => exact hkey
  | changing => exact ⟨.write, rfl, rfl⟩
  | applying => exact ⟨.write, rfl, rfl⟩
  | restoring => exact ⟨.write, rfl, rfl⟩

/-- An acknowledged access is made in the sector that is authenticated.  The key in force is the one that the
operation calls for if it was loaded for the authentication, and otherwise just in case the attempt that was
renewed was under that key. -/
def UnderKey (card : Card) (op : Operation) (earlier : List (Event Link)) (event : Event Link) : Prop :=
  ∀ address access, event.access? = some (address, access) → ∃ auth sector selector code,
    (Watch.of earlier).inForce = some auth ∧ auth.sector = sectorOf address ∧ sector.toNat = sectorOf address ∧
      op.demandedKey card sector access = .ok selector ∧ selector.code? = some code ∧
      (auth.code = code ↔ auth.loaded = true ∨ auth.attempt = some code)

section Steps

variable {ω : Type} {t : Transport ω} {authed : ω → Option Nat} {c : Situation Link Card ω}

def SaidUnderKey (card₀ : Card) (op : Operation) (before history : List (Event Link)) : Prop :=
  before <+: history ∧ EachSince before (UnderKey card₀ op) history

structure Watched (authed : ω → Option Nat) (card₀ : Card) (op : Operation) (before : List (Event Link))
    (c : Situation Link Card ω) : Prop where
  sound : Sound c.state
  agrees : Agrees c.state (Watch.of c.history) (authed c.world)
  said : SaidUnderKey card₀ op before c.history

variable {card₀ : Card} {op : Operation} {before : List (Event Link)}

theorem SaidUnderKey.exchanged {σ : Type} (card : t.GuardsSectors authed) {d : Situation Link σ ω}
    (h : SaidUnderKey card₀ op before d.history) {command : Command}
    (hevent : UnderKey card₀ op d.history ⟨.transmit command.encode, (t.transmit command.encode d.world).1⟩) :
    SaidUnderKey card₀ op before (d.exchanged t command).history := by
  rcases h with ⟨hbefore, hsaid⟩
  have hasked : EachSince before (UnderKey card₀ op) (d.history ++ [⟨.isConnected, true⟩]) :=
    hsaid.snoc hbefore fun _ _ h => nomatch h
  have hbefore' : before <+: d.history ++ [⟨.isConnected, true⟩] := hbefore.trans (List.prefix_append _ _)
  rw [card.history_exchanged]
  refine ⟨hbefore'.trans (List.prefix_append _ _), hasked.snoc hbefore' ?_⟩
  intro address access haccess
  rw [Watch.of_snoc]
  exact hevent address access haccess

theorem underKey_of_no_access {command : Bytes} (h : Command.accessed? command = none)
    (history : List (Event Link)) (reply : Except CardError Bytes) :
    UnderKey card₀ op history ⟨.transmit command, reply⟩ := by
  intro address access haccess
  simp only [Event.access?, h] at haccess
  split at haccess <;> cases haccess

theorem SaidUnderKey.loading {σ : Type} (card : t.GuardsSectors authed) {d : Situation Link σ ω}
    (h : SaidUnderKey card₀ op before d.history) (entry : KeyEntry) :
    SaidUnderKey card₀ op before (d.exchanged t (.loading entry)).history :=
  h.exchanged card (underKey_of_no_access rfl _ _)

theorem SaidUnderKey.authenticating {σ : Type} (card : t.GuardsSectors authed) {d : Situation Link σ ω}
    (h : SaidUnderKey card₀ op before d.history) (address code slot : UInt8) :
    SaidUnderKey card₀ op before (d.exchanged t (.authenticating address code slot)).history :=
  h.exchanged card (underKey_of_no_access rfl _ _)

/-! ## Every step -/

theorem keeps_watched_authorize (card : t.GuardsSectors authed) (sector : UInt8) (selector : KeySelector) :
    Keeps t.responder (Watched authed card₀ op before) (authorize sector selector) := by
  intro c hc
  have hsound := (soundSteps t).authorize sector selector c hc.sound
  refine (hsound.and (authorize_outcome t sector selector c)).mono ?_
  rintro x c' ⟨hsound', h⟩
  have hsettled := hc.agrees.settled
  cases h with
  | rejected he => exact hc
  | @notLoaded entry _ hentry he =>
    refine ⟨hsound', ?_, hc.said.loading card entry⟩
    -- A key that was not taken is no attempt, so the watch sees nothing new.
    have hwatch : Watch.of (c.exchanged t (.loading entry)).history = Watch.of c.history := by
      rw [card.watch_of_error he]
      exact Watch.settle hsettled
    rw [hwatch]
    exact hc.agrees.lost fun s hs => card.authed_of_loading hs
  | @notAccepted entry code data _ hentry hcode hload he =>
    refine ⟨hsound', ?_, (hc.said.loading card entry).authenticating card _ _ _⟩
    -- The attempt is seen, with the key that was loaded right before it, but what was in force stays in force.
    have hwatch : Watch.of ((c.exchanged t (.loading entry)).exchanged t
        (.authenticating (firstAddress sector) code entry.slot)).history =
          ⟨(Watch.of c.history).inForce, some code, false⟩ := by
      rw [card.watch_of_error (c := c.exchanged t (.loading entry)) he, card.watch_of_ok hload]
      rfl
    show Agrees _ (Watch.of (Situation.exchanged t _ _).history) _
    rw [hwatch]
    refine (hc.agrees.attempted hcode entry).lost fun s hs => ?_
    exact card.authed_of_loading (card.authed_of_error (.authenticating _ code entry.slot) he hs)
  | @authorized entry code data answer hentry hcode hload hauth =>
    refine ⟨hsound', ?_, (hc.said.loading card entry).authenticating card _ _ _⟩
    have hsector := Tag.sectorOf_firstAddress (authorizable_eq_ok hentry).2.1
    have hwatch : Watch.of ((c.exchanged t (.loading entry)).exchanged t
        (.authenticating (firstAddress sector) code entry.slot)).history =
          ⟨some ⟨sector.toNat, code, true, some code⟩, some code, false⟩ := by
      rw [card.watch_of_ok (c := c.exchanged t (.loading entry)) hauth, card.watch_of_ok hload, ← hsector]
      rfl
    show Agrees _ (Watch.of (Situation.exchanged t _ _).history) _
    rw [hwatch]
    refine (Agrees.authorized c.state sector hcode entry).lost fun s hs => ?_
    -- What is in force now is what the card has moved to.
    have hmoved := card.authed_of_authenticating hauth
    rw [hsector] at hmoved
    exact hmoved ▸ hs

theorem Operation.Accesses.issued {sector address : UInt8} {selector : KeySelector} {command : Command}
    (h : op.Accesses card₀ sector selector address command) : command.Issued := by
  rcases h.command_eq with rfl | ⟨page, hpage, rfl⟩
  · exact .reading address
  · exact .writing address ⟨page, hpage⟩

theorem authed_of_access (card : t.GuardsSectors authed) {sector address : UInt8} {selector : KeySelector}
    {command : Command} (hA : op.Accesses card₀ sector selector address command) {w : ω} {data : Bytes}
    (hdata : Link.acknowledged? (t.transmit command.encode w).1 = some data) :
    authed w = some (sectorOf address) := by
  rcases hA.command_eq with rfl | ⟨page, hpage, rfl⟩
  · exact card.reading address w data hdata
  · exact card.writing address ⟨page, hpage⟩ w data hdata

theorem authed_after_access (card : t.GuardsSectors authed) {sector address : UInt8} {selector : KeySelector}
    {command : Command} (hA : op.Accesses card₀ sector selector address command) {w : ω} {s : Nat}
    (hs : authed (t.exchange command w).2 = some s) : authed w = some s := by
  rw [card.exchange_world] at hs
  refine card.kept command w s hA.issued ?_ hs
  rcases hA.command_eq with rfl | ⟨page, -, rfl⟩
  · exact fun _ _ _ h => nomatch h
  · exact fun _ _ _ h => nomatch h

theorem watch_after_access (card : t.GuardsSectors authed) {sector address : UInt8} {selector : KeySelector}
    {command : Command} (hA : op.Accesses card₀ sector selector address command) {d : Situation Link Coupler ω}
    (hsettled : (Watch.of d.history).justLoaded = false) :
    Watch.of (d.exchanged t command).history = Watch.of d.history := by
  rw [card.watch_exchanged]
  rcases hA.command_eq with rfl | ⟨page, -, rfl⟩
  · exact Watch.settle hsettled
  · exact Watch.settle hsettled

/-- An access in a sector that counts as authorized is under its key. -/
theorem underKey_of_access (card : t.GuardsSectors authed) {d : Situation Link Card ω} {sector address : UInt8}
    {selector : KeySelector} {command : Command} (hA : op.Accesses card₀ sector selector address command)
    (hauth : Authorized sector selector d.state) (hd : Agrees d.state (Watch.of d.history) (authed d.world)) :
    UnderKey card₀ op d.history ⟨.transmit command.encode, (t.transmit command.encode d.world).1⟩ := by
  rintro address' access haccess
  rcases hauth with ⟨entry, hkey, hcached⟩
  rcases code?_of_findKey hkey with ⟨code, hcode⟩
  rcases hA.demandedKey with ⟨access', hcommand, hdemanded⟩
  simp only [Event.access?, hcommand] at haccess
  split at haccess
  · rename_i hserved
    cases haccess
    rcases Option.isSome_iff_exists.1 hserved with ⟨data, hdata⟩
    rcases hd.sector _ (authed_of_access card hA hdata) with ⟨auth, hforce, hsector⟩
    have hin : sector.toNat = sectorOf address := hA.inSector.toNat_sector
    -- A key that was loaded for the authentication is the one that the cache records.
    have hloaded : auth.loaded = true → auth.code = code := by
      intro hl
      have hsame := hd.cached sector selector entry.slot auth hcached hforce (hsector.trans hin.symm) hl
      rw [hcode] at hsame
      exact (Option.some.inj hsame).symm
    refine ⟨auth, sector, selector, code, hforce, hsector, hin, hdemanded, hcode, ?_, ?_⟩
    · rintro rfl
      cases hl : auth.loaded with
      | true => exact .inl rfl
      | false => exact .inr (hd.renewed auth hforce hl)
    · -- In the other direction: a key that was loaded, or the last attempt, is in either case what is in force.
      rintro (hl | hattempt)
      · exact hloaded hl
      · cases hl : auth.loaded with
        | true => exact hloaded hl
        | false => exact Option.some.inj ((hd.renewed auth hforce hl).symm.trans hattempt)
  · cases haccess

/-- Every step of an operation keeps the card and the watch in agreement, and makes its accesses under the
right key. -/
theorem stepsKeep_watched (card : t.GuardsSectors authed) :
    StepsKeep t (Watched authed card₀ op before) (op.Accesses card₀) where
  authorize := keeps_watched_authorize card
  access := by
    intro c sector selector address command other hc hauth hA
    have hsound := (soundSteps t).access c sector selector address command other hc.sound hauth trivial
    -- The remembered key counts as loaded, so no key is loaded here, and an attempt renews an earlier one.
    rcases hc.sound.remembered hauth with ⟨entry, code, hentry, hloaded, hcode⟩
    have hkey : c.state.coupler.key ≠ none := hc.sound.key_ne_none hauth
    have hsettled := hc.agrees.settled
    have haccess : Ensures t.responder (Coupler.access address command other) c.below fun _ d =>
        Agrees (c.resume d).state (Watch.of d.history) (authed d.world) ∧ SaidUnderKey card₀ op before d.history := by
      refine Coupler.ensures_access (c := c.below) hentry hloaded hcode ?_ ?_
      · intro _ e he
        -- A renewal that fails leaves what is in force, as far as the watch can see; the card may have given it up.
        have hwatch : Watch.of (c.below.exchanged t (.authenticating address code entry.slot)).history =
            Watch.of c.history := by
          rw [card.watch_of_error (c := c.below) he]
          exact (Watch.transmitted_authenticating hsettled _ _ _ _).trans (Watch.settle hsettled)
        refine ⟨?_, hc.said.authenticating card (d := c.below) _ _ _⟩
        rw [hwatch]
        exact hc.agrees.lost fun s hs => card.authed_of_error (.authenticating address code entry.slot) he hs
      · intro d hd
        have hready : Agrees (c.resume d).state (Watch.of d.history) (authed d.world) ∧
            SaidUnderKey card₀ op before d.history := by
          cases hd with
          | idle _ => exact ⟨hc.agrees, hc.said⟩
          | @renewed _ data hrenewed =>
            have hwatch : Watch.of (c.below.exchanged t (.authenticating address code entry.slot)).history =
                ⟨some ⟨sectorOf address, code, false, (Watch.of c.history).attempt⟩,
                  (Watch.of c.history).attempt, false⟩ := by
              rw [card.watch_of_ok (c := c.below) hrenewed]
              exact Watch.transmitted_authenticating hsettled address code entry.slot true
            refine ⟨?_, hc.said.authenticating card (d := c.below) _ _ _⟩
            show Agrees _ (Watch.of (Situation.exchanged t _ _).history) _
            rw [hwatch]
            refine (hc.agrees.renews hkey hcode (sectorOf address)).lost fun s hs => ?_
            exact card.authed_of_authenticating hrenewed ▸ hs
        -- The command itself is said under the key in force, and authenticates nothing.
        have hevent := underKey_of_access card (d := c.resume d) hA hauth hready.1
        have hsaid := hready.2.exchanged card hevent
        have hwatch := watch_after_access card hA hready.1.settled
        have hlost : ∀ s, authed (t.exchange command d.world).2 = some s → authed d.world = some s :=
          fun s hs => authed_after_access card hA hs
        refine Coupler.ensures_transfer_of_demand ?_ ?_
        · intro _ _
          refine ⟨?_, hsaid⟩
          show Agrees _ (Watch.of (Situation.exchanged t _ _).history) _
          rw [hwatch]
          exact (hready.1.pending false).lost hlost
        · intro _ pending _
          refine ⟨?_, hsaid⟩
          show Agrees _ (Watch.of (Situation.exchanged t _ _).history) _
          rw [hwatch]
          exact (hready.1.pending pending).lost hlost
    refine (hsound.and haccess).mono ?_
    rintro x d ⟨hsound', hagrees, hsaid⟩
    exact ⟨hsound', hagrees, hsaid⟩
  forget c sector hc := ⟨hc.sound.invalidate sector, hc.agrees.invalidate sector, hc.said⟩

/-! ## Every run -/

theorem Agrees.configured {card card' : Card} {w : Watch} {s : Option Nat} (h : Agrees card w s)
    (hcoupler : card'.coupler = card.coupler) (hcache : card'.cache = card.cache) : Agrees card' w s where
  sector := h.sector
  cached sector selector slot auth hcached := by
    have hcached' : card.cachedAuth sector = some ⟨selector, slot⟩ := by
      simpa only [Card.cachedAuth, hcache] using hcached
    exact h.cached sector selector slot auth hcached'
  remembered := by
    rw [hcoupler]
    exact h.remembered
  renewed := h.renewed
  settled := h.settled

/-- An operation on a card that agrees with the watch ends in agreement, and makes its accesses under the right
key. -/
theorem perform_watched (card : t.GuardsSectors authed) (hsound : Sound c.state)
    (hagrees : Agrees c.state (Watch.of c.history) (authed c.world)) (op : Operation) :
    Ensures t.responder (perform op) c fun _ c' => Watched authed c.state op c.history c' := by
  have hc : Watched authed c.state op c.history c := ⟨hsound, hagrees, List.prefix_rfl, eachSince_self⟩
  refine (stepsKeep_watched card).perform hc ?_ ?_
  · intro selector key store slot card' _ hset
    rcases setup_setKey hset with ⟨-, hcoupler, hcache⟩
    exact ⟨hsound.setKey hset, hagrees.configured hcoupler hcache, hc.said⟩
  · intro sector policy card' _ hset
    rcases setup_setPolicy hset with ⟨-, -, hcoupler, hcache⟩
    exact ⟨hsound.setPolicy hset, hagrees.configured hcoupler hcache, hc.said⟩

/-- Whatever a run has led to, the card and the watch agree. -/
theorem agrees_after (card : t.GuardsSectors authed) {g : Geometry} {w : ω} (hstart : authed w = none)
    (ops : List Operation) : Agrees (after t ops (start g w)).state (Watch.of (after t ops (start g w)).history)
      (authed (after t ops (start g w)).world) := by
  -- Soundness is kept along, since an access relies on what the coupler remembers.
  have hkeeps : Keeps t.responder
      (fun c => Sound c.state ∧ Agrees c.state (Watch.of c.history) (authed c.world)) (performAll ops) := by
    refine keeps_performAll fun op _ c hc => ?_
    refine (perform_watched card hc.1 hc.2 op).mono ?_
    intro _ c' hc'
    exact ⟨hc'.sound, hc'.agrees⟩
  have hfresh : Agrees (start g w).state (Watch.of (start g w).history) (authed (start g w).world) :=
    { sector := fun s hs => by
        change authed w = some s at hs
        rw [hstart] at hs
        cases hs
      cached := fun _ _ _ _ _ hforce => nomatch hforce
      remembered := fun h => absurd rfl h
      renewed := fun _ hforce => nomatch hforce
      settled := rfl }
  exact (hkeeps (start g w) ⟨sound_fresh g, hfresh⟩).2

/-- In every run over a card that guards its sectors, an access that is acknowledged is made in the sector that
is authenticated, and under the key that its operation calls for unless the authentication renewed an attempt
under another key. -/
theorem underKey_of_acknowledged (card : t.GuardsSectors authed) {g : Geometry} {w : ω} (hstart : authed w = none)
    (ops : List Operation) (op : Operation) {earlier later : List (Event Link)} {event : Event Link}
    (hsaid : (exec t.responder (perform op) (after t ops (start g w))).2.history =
      (after t ops (start g w)).history ++ earlier ++ event :: later) :
    UnderKey (after t ops (start g w)).state op ((after t ops (start g w)).history ++ earlier) event := by
  have hagrees : Agrees (after t ops (start g w)).state _ _ := agrees_after card hstart ops
  have hdone := perform_watched card (sound_after t ops g w) hagrees op
  exact hdone.said.2 earlier event later hsaid

end Steps

/-- Sector 1 is read under key A, a write to sector 2 under key B is refused, and sector 1 is read again: the
card is asked to renew key B, and the read is acknowledged under it although it calls for key A. -/
theorem underKey_of_acknowledged_renewed :
    let t := (Tag.transport Tag.hideKeyA).refusing
    let ops : List Operation := [.setKey .a .transport .nonVolatile 0, .setKey .b .transport .nonVolatile 1,
      .readBlock 4, .writeBlock 8 (Block.fit [])]
    let c := after t ops (start .small ([false, false, false, false, false, true], .delivered))
    let earlier : List (Event Link) := [⟨.isConnected, true⟩,
      ⟨.transmit (Command.authenticating 4 0x61 1).encode, Tag.accepted []⟩, ⟨.isConnected, true⟩]
    let event : Event Link :=
      ⟨.transmit (Command.reading 4 16).encode, Tag.accepted (List.replicate 16 0)⟩
    (exec t.responder (perform (.readBlock 4)) c).2.history = c.history ++ earlier ++ [event] ∧
      UnderKey c.state (.readBlock 4) (c.history ++ earlier) event ∧
      (Watch.of (c.history ++ earlier)).inForce = some ⟨1, 0x61, false, some 0x61⟩ ∧
      (Operation.readBlock 4).demandedKey c.state 1 .read = .ok .a := by
  intro t ops c earlier event
  have hguards : t.GuardsSectors fun w => w.2.authed := (Tag.fronts_refusing Tag.hideKeyA).guardsSectors fun _ => rfl
  have hsaid : (exec t.responder (perform (.readBlock 4)) c).2.history = c.history ++ earlier ++ [event] := by
    decide +kernel
  exact ⟨hsaid, underKey_of_acknowledged hguards rfl ops (.readBlock 4) hsaid, by decide +kernel, by decide +kernel⟩

end Card
end SectorCard
