import SectorCard.Proofs.Reachability
import SectorCard.Proofs.Tag

/-!
# Blocks that change only by writes

Behind a transport there may be blocks that change only when a write to them is acknowledged.  What such a card stores
can be followed through every step: authorizing stores nothing, and writing a page, with one more try or not, stores the
page if it succeeds and nothing otherwise.
-/

namespace SectorCard

open Tag (update)

/-- Cards whose blocks change only by acknowledged writes. -/
structure Transport.StoresWrites {ω : Type} (t : Transport ω) (stored : ω → UInt8 → Block) : Prop where
  kept : ∀ (command : Command) w, command.Issued →
    command.instruction ≠ .updateBinary ∨ Link.acknowledged? (t.transmit command.encode w).1 = none →
      stored (t.transmit command.encode w).2 = stored w
  written : ∀ address (block : Block) w data,
    Link.acknowledged? (t.transmit (Command.writing address block.bytes).encode w).1 = some data →
      stored (t.transmit (Command.writing address block.bytes).encode w).2 = update (stored w) address block

namespace Transport.StoresWrites

variable {ω : Type} {t : Transport ω} {stored : ω → UInt8 → Block} (card : t.StoresWrites stored)
include card

/-! ## Exchanges -/

theorem stored_of_ne {command : Command} (hissued : command.Issued) (h : command.instruction ≠ .updateBinary) (w : ω) :
    stored (t.exchange command w).2 = stored w := by
  rw [Transport.exchange_world]
  split
  · exact card.kept command w hissued (.inl h)
  · rfl

theorem stored_of_error {command : Command} {refusal : StatusWord → CardError} {w : ω} {e : CardError}
    (hissued : command.Issued) (h : t.demand command refusal w = .error e) : stored (t.exchange command w).2 = stored w := by
  cases hc : t.isConnected w with
  | false => simp [Transport.exchange, hc]
  | true =>
    rw [Transport.exchange_world, if_pos hc]
    cases hr : Link.acknowledged? (t.transmit command.encode w).1 with
    | none => exact card.kept command w hissued (.inr hr)
    | some data =>
      have hok : t.demand command refusal w = .ok data := Transport.demand_eq_ok_iff.2 ⟨hc, hr⟩
      rw [h] at hok
      cases hok

theorem stored_loading (entry : KeyEntry) (w : ω) : stored (t.exchange (.loading entry) w).2 = stored w :=
  card.stored_of_ne (.loading entry) nofun w

theorem stored_authenticating (address code slot : UInt8) (w : ω) :
    stored (t.exchange (.authenticating address code slot) w).2 = stored w :=
  card.stored_of_ne (.authenticating address code slot) nofun w

theorem stored_writing {address : UInt8} {block : Block} {refusal : StatusWord → CardError} {w : ω} {data : Bytes}
    (h : t.demand (.writing address block.bytes) refusal w = .ok data) :
    stored (t.exchange (.writing address block.bytes) w).2 = update (stored w) address block := by
  rcases Transport.demand_eq_ok_iff.1 h with ⟨hc, hr⟩
  rw [Transport.exchange_world, if_pos hc]
  exact card.written address block w data hr

theorem withstands (memory : UInt8 → Block) : Coupler.Withstands t fun c => stored c.world = memory where
  loading c entry h := (card.stored_loading entry c.world).trans h
  authenticating c address code slot h := (card.stored_authenticating address code slot c.world).trans h
  state _ _ h := h

end Transport.StoresWrites

namespace Card

open Procedure

variable {ω : Type} {t : Transport ω} {stored : ω → UInt8 → Block} {c : Situation Link Card ω}

/-! ## Steps -/

section Steps

/-- Authorizing stores nothing.  If it succeeds, no authentication is pending; if it does not, it ends with a
refusal, unless something was not in order from the start. -/
theorem ensures_authorize_stored (card : t.StoresWrites stored) (sector : UInt8) (selector : KeySelector)
    (c : Situation Link Card ω) :
    Ensures t.responder (authorize sector selector) c fun x c' => stored c'.world = stored c.world ∧
      match x with
      | .ok () => c'.state.coupler.authPending = false
      | .error _ => LastFailed c' ∨ ∃ e, c.state.authorizable sector selector = .error e := by
  refine (authorize_outcome t sector selector c).mono ?_
  intro x c' h
  cases h with
  | rejected he => exact ⟨rfl, .inr ⟨_, he⟩⟩
  | notLoaded hentry he => exact ⟨card.stored_loading _ _, .inl (lastFailed_exchanged he)⟩
  | @notAccepted entry code _ _ hentry hcode hload he =>
    refine ⟨(card.stored_authenticating _ _ _ _).trans (card.stored_loading _ _), .inl ?_⟩
    exact lastFailed_exchanged (c := c.exchanged t (.loading entry)) he
  | authorized hentry hcode hload hauth =>
    exact ⟨(card.stored_authenticating _ _ _ _).trans (card.stored_loading _ _), rfl⟩

/-- Whatever the coupler remembers, writing a page stores it or stores nothing. -/
theorem ensures_writePage_stored (card : t.StoresWrites stored) (c : Situation Link Coupler ω) (address : UInt8)
    (block : Block) :
    Ensures t.responder (Coupler.writePage address block.bytes) c fun x d => match x with
      | .ok () => stored d.world = update (stored c.world) address block
      | .error (.error _) => stored d.world = stored c.world
      | .error (.defect _) => False := by
  rw [Coupler.writePage_eq address (by rw [block.length_bytes]; decide)]
  refine Ensures.bind (R := fun x d => match x with
      | .ok _ => stored d.world = update (stored c.world) address block
      | .error (.error _) => stored d.world = stored c.world
      | .error (.defect _) => False) ?_ (fun _ d hd => ensures_pure hd) (fun e _ hd => by cases e <;> exact hd)
  -- The way to the page stores nothing, and the write stores the page exactly if it is acknowledged.
  refine Coupler.ensures_access_of_withstands (card.withstands (stored c.world)) rfl (fun _ _ hd => hd) ?_
  intro d hsame
  refine Coupler.ensures_transfer_of_demand ?_ ?_
  · intro data hdata
    calc
      stored (t.exchange (.writing address block.bytes) d.world).2
          = update (stored d.world) address block := card.stored_writing hdata
      _ = update (stored c.world) address block := by rw [hsame]
  · intro e pending he
    exact (card.stored_of_error (.writing _ block) he).trans hsame

/-- A coupler that has just authenticated stores the page, or ends with a refusal. -/
theorem ensures_writePage_lastFailed (card : t.StoresWrites stored) {c : Situation Link Coupler ω}
    (hidle : c.state.authPending = false) (address : UInt8) (block : Block) :
    Ensures t.responder (Coupler.writePage address block.bytes) c fun _ d =>
      stored d.world = update (stored c.world) address block ∨ LastFailed d := by
  rw [Coupler.writePage_eq address (by rw [block.length_bytes]; decide)]
  refine Ensures.bind (R := fun _ d => stored d.world = update (stored c.world) address block ∨ LastFailed d) ?_
    (fun _ d hd => ensures_pure hd) (fun _ _ hd => hd)
  refine Coupler.ensures_access_of_idle hidle (Coupler.ensures_transfer_of_demand ?_ ?_)
  · intro data hdata
    exact .inl (card.stored_writing hdata)
  · intro e pending he
    exact .inr (lastFailed_exchanged he)

end Steps

/-! ## Writing with one more try -/

/-- What holds as long as nothing is stored: the setup is that of `card₀`, and the stored blocks are those of
`memory`. -/
structure Unstored (stored : ω → UInt8 → Block) (card₀ : Card) (memory : UInt8 → Block)
    (c : Situation Link Card ω) : Prop where
  setup : SameSetup card₀ c.state
  same : stored c.world = memory

section Unstored

variable {card₀ : Card} {memory : UInt8 → Block}

theorem keeps_unstored_authorize (card : t.StoresWrites stored) (sector : UInt8) (selector : KeySelector) :
    Keeps t.responder (Unstored stored card₀ memory) (authorize sector selector) := by
  intro c hc
  refine ((ensures_authorize_stored card sector selector c).and (authorize_setup sector selector)).mono ?_
  rintro x c' ⟨⟨hsame, -⟩, hsetup, -⟩
  exact ⟨hc.setup.trans hsetup, hsame.trans hc.same⟩

theorem Unstored.invalidate (hc : Unstored stored card₀ memory c) (sector : UInt8) :
    Unstored stored card₀ memory { c with state := c.state.invalidate sector } :=
  ⟨hc.setup.trans ⟨rfl, rfl, rfl⟩, hc.same⟩

/-- Writing under a key stores the block, or stores nothing. -/
theorem ensures_withAuthRetry_writePage_stored (card : t.StoresWrites stored)
    (hc : Unstored stored card₀ memory c) (sector address : UInt8) (selector : KeySelector) (block : Block) :
    Ensures t.responder (withAuthRetry sector selector (Coupler.writePage address block.bytes)) c
      fun x c' => match x with
        | .ok () => SameSetup card₀ c'.state ∧ stored c'.world = update memory address block
        | .error (.error _) => Unstored stored card₀ memory c'
        | .error (.defect _) => False := by
  refine ensures_withAuthRetry_of_keeps (I := Unstored stored card₀ memory) hc
    (keeps_unstored_authorize card sector selector) (fun _ hc => hc.invalidate sector)
    (fun _ _ hc => hc) (fun _ _ hc => hc) ?_
  intro c hc _
  refine (ensures_writePage_stored card c.below address block).mono ?_
  intro x d hwritten
  match x with
  | .ok () => exact ⟨hc.setup.trans ⟨rfl, rfl, rfl⟩, hwritten.trans (by rw [← hc.same]; rfl)⟩
  | .error (.error _) => exact ⟨hc.setup.trans ⟨rfl, rfl, rfl⟩, hwritten.trans hc.same⟩
  | .error (.defect _) => exact hwritten

end Unstored

end Card
end SectorCard
