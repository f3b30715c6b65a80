import SectorCard.Proofs.OperationSteps

/-!
# No broken rules

A procedure that breaks a rule of the library stops with a defect: a command was put together wrongly, a block
number does not fit a page address, a page has the wrong size.  No operation of a card comes to that, whatever the
state of the card and whatever is on the other side of the link (`faultless_perform`).
-/

namespace SectorCard

namespace Procedure

variable {S : Signature} {σ ω α β : Type} {r : Responder S ω}

/-! ## Procedures without defects -/

/-- A procedure that never stops because of a broken rule. -/
def Faultless (r : Responder S ω) (p : Procedure S σ Failure α) : Prop :=
  ∀ c, Ensures r p c fun x _ => NoDefect x

theorem NoDefect.cast {e : Failure} (h : NoDefect (.error e : Except Failure α)) :
    NoDefect (.error e : Except Failure β) := by
  cases e with
  | error e => trivial
  | defect d => exact h.elim

theorem NoDefect.of_eq {x : Except Failure α} {e : Failure} (h : NoDefect x) (he : x = .error e) :
    NoDefect (.error e : Except Failure β) := by
  rw [he] at h
  exact h.cast

theorem noDefect_lift (x : Except CardError α) : NoDefect (Failure.lift x) := by
  cases x <;> trivial

theorem faultless_pure (a : α) : Faultless r (pure a : Procedure S σ Failure α) :=
  fun _ => ensures_pure trivial

theorem Faultless.bind {p : Procedure S σ Failure α} {f : α → Procedure S σ Failure β} (h : Faultless r p)
    (h' : ∀ a, Faultless r (f a)) : Faultless r (p >>= f) := by
  intro c
  exact (h c).bind (fun a c' _ => h' a c') (fun _ _ hx => hx.cast)

theorem Faultless.map {p : Procedure S σ Failure α} (h : Faultless r p) (f : α → β) : Faultless r (f <$> p) := by
  intro c
  refine Ensures.map ((h c).mono ?_)
  rintro (e | a) _ hx
  · exact hx.cast
  · trivial

theorem faultless_ofExcept_bind {x : Except Failure α} {f : α → Procedure S σ Failure β} (hx : NoDefect x)
    (hf : ∀ a, x = .ok a → Faultless r (f a)) : Faultless r (ofExcept x >>= f) := by
  intro c
  exact ensures_ofExcept_bind (fun a ha => hf a ha c) (fun _ he => hx.of_eq he)

theorem faultless_require (x : Except CardError α) : Faultless r (require x : Procedure S σ Failure α) := by
  intro c
  simpa only [Ensures, exec_require] using noDefect_lift x

theorem faultless_modify (f : σ → σ) : Faultless r (modify f : Procedure S σ Failure PUnit) := by
  intro c
  simp [Ensures, NoDefect]

theorem faultless_throw (e : CardError) : Faultless r (throw (.error e) : Procedure S σ Failure α) :=
  fun _ => ensures_throw trivial

theorem faultless_get_bind {f : σ → Procedure S σ Failure α} (h : ∀ s, Faultless r (f s)) :
    Faultless r (get >>= f) :=
  fun c => ensures_get_bind (h c.state c)

/-- What is done after an attempt may rely on it having broken no rule. -/
theorem Faultless.attempt_bind {p : Procedure S σ Failure α} {f : Except Failure α → Procedure S σ Failure β}
    (h : Faultless r p) (hf : ∀ x, NoDefect x → Faultless r (f x)) : Faultless r (Procedure.attempt p >>= f) := by
  intro c
  refine (h c).bind_attempt ?_
  intro x c' hx
  exact hf x hx c'

theorem faultless_change (f : σ → Except CardError σ) : Faultless r (Procedure.change f) := by
  intro c
  cases hf : f c.state with
  | ok s => simp [Ensures, exec, change_of_ok hf, NoDefect]
  | error e => simp [Ensures, exec, change_of_error hf, NoDefect]

end Procedure

open Procedure

variable {ω : Type} {t : Transport ω}

/-! ## Access to pages -/

namespace Coupler

theorem withstands_true : Withstands t fun _ => True :=
  ⟨fun _ _ h => h, fun _ _ _ _ h => h, fun _ _ h => h⟩

theorem faultless_access (address : UInt8) (command : Command) (other : StatusWord → CardError) :
    Faultless t.responder (access address command other) := by
  intro c
  refine ensures_access_of_withstands withstands_true trivial (fun _ _ _ => trivial) (fun d _ => ?_)
  exact ensures_transfer_of_demand (fun _ _ => trivial) (fun _ _ _ => trivial)

theorem faultless_readPage (address length : UInt8) : Faultless t.responder (readPage address length) := by
  rw [readPage_eq]
  exact faultless_access _ _ _

theorem faultless_writePage (address : UInt8) {page : Bytes} (hpage : page.length = blockSize) :
    Faultless t.responder (writePage address page) := by
  rw [writePage_eq address (by rw [hpage]; decide)]
  exact (faultless_access _ _ _).bind fun _ => faultless_pure ()

end Coupler

namespace Card

/-! ## What the card is asked about itself -/

theorem noDefect_policy (card : Card) (sector : UInt8) : NoDefect (card.policy sector) := by
  unfold policy
  split
  · rename_i hsector
    rw [Checked.item_eq_ok (by rw [card.length_policies]; exact hsector)]
    trivial
  · trivial

theorem noDefect_chooseKey (card : Card) (sector : UInt8) (access : Access) :
    NoDefect (card.chooseKey sector access) := by
  unfold chooseKey
  split
  · rename_i e he
    exact (card.noDefect_policy sector).of_eq he
  · split <;> trivial

theorem noDefect_trailerAddress (card : Card) (sector : UInt8) : NoDefect (card.trailerAddress sector) := by
  unfold trailerAddress
  cases hblock : card.geometry.trailerBlock sector with
  | error e => trivial
  | ok block =>
    rcases Geometry.toNat_of_trailerBlock hblock with ⟨hsector, htoNat⟩
    have hlt := Geometry.trailerIndex_lt hsector
    have hcount := card.geometry.blockCount_le
    rcases Checked.narrow_eq_ok (n := block) (by omega) with ⟨address, hnarrow, -⟩
    simp only [hnarrow]
    trivial

theorem noDefect_bind {α β : Type} {x : Except Failure α} {f : α → Except Failure β} (hx : NoDefect x)
    (hf : ∀ a, NoDefect (f a)) : NoDefect (x >>= f) := by
  cases x with
  | ok a => exact hf a
  | error e => exact hx.cast

theorem noDefect_plannedTrailer (card : Card) (sector : UInt8) (selector : KeySelector) :
    NoDefect (card.plannedTrailer sector selector) :=
  noDefect_bind (card.noDefect_policy sector) fun _ =>
    noDefect_bind (noDefect_lift _) fun _ => noDefect_bind (noDefect_lift _) fun _ =>
      noDefect_bind (noDefect_lift _) fun _ => noDefect_bind (noDefect_lift _) fun _ =>
        noDefect_bind (noDefect_lift _) fun _ => noDefect_bind (noDefect_lift _) fun _ => trivial

theorem faultless_inspect_bind {α β : Type} {question : Card → Except Failure α} {f : α → CardM β}
    (hquestion : ∀ card, NoDefect (question card))
    (hf : ∀ card a, question card = .ok a → Faultless t.responder (f a)) :
    Faultless t.responder (inspect question >>= f) := by
  intro c
  exact ensures_inspect_bind (fun a ha => hf c.state a ha c) (fun _ he => (hquestion c.state).of_eq he)

theorem faultless_inspect_lift_bind {α β : Type} {question : Card → Except CardError α} {f : α → CardM β}
    (hf : ∀ card a, question card = .ok a → Faultless t.responder (f a)) :
    Faultless t.responder (inspect (fun card => Failure.lift (question card)) >>= f) :=
  fun c => ensures_inspect_lift_bind (fun a ha => hf c.state a ha c) (fun _ _ => trivial)

theorem faultless_onCoupler {α : Type} {op : CouplerM α} (h : Faultless t.responder op) :
    Faultless t.responder (onCoupler op) :=
  fun c => ensures_onCoupler (h c.below)

/-! ## Authorization -/

theorem faultless_authorize (sector : UInt8) (selector : KeySelector) :
    Faultless t.responder (authorize sector selector) :=
  fun _ => (authorize_setup sector selector).mono fun _ _ h => h.2.1

theorem faultless_ensureAuthorized (sector : UInt8) (selector : KeySelector) (slot : UInt8) :
    Faultless t.responder (ensureAuthorized sector selector slot) := by
  intro c
  refine ensures_ensureAuthorized_at (fun _ _ => trivial) (fun _ _ _ => trivial) ?_
  rintro entry hkey rfl
  exact (ensureAuthorized_setup sector selector hkey).mono fun _ _ h => h.2.1

theorem faultless_withAuthRetry {α : Type} (sector : UInt8) (selector : KeySelector) {op : CouplerM α}
    (hop : Faultless t.responder op) : Faultless t.responder (withAuthRetry sector selector op) :=
  fun _ => ensures_withAuthRetry_of_keeps (I := fun _ => True) trivial (fun _ _ => trivial) (fun _ _ => trivial)
    (fun _ _ _ => trivial) (fun _ _ _ => trivial) (fun c _ _ => hop c.below)

/-! ## Data -/

theorem ensures_readAuthorized_length {sector address : UInt8} {block : UInt16}
    (hnarrow : Checked.narrow block = .ok address) (c : Situation Link Card ω) :
    Ensures t.responder (readAuthorized sector block) c fun x _ =>
      NoDefect x ∧ ∀ data, x = .ok data → blockSize ≤ data.length := by
  unfold readAuthorized
  refine ensures_inspect_bind (fun selector _ => ?_) (fun e he => ?_)
  · rw [hnarrow, ofExcept_ok, pure_bind]
    refine (faultless_withAuthRetry sector selector (Coupler.faultless_readPage address blockLength) c).bind ?_ ?_
    · intro data c' _
      split
      · exact ensures_throw ⟨trivial, fun _ h => nomatch h⟩
      · rename_i hlong
        refine ensures_pure ⟨trivial, ?_⟩
        rintro _ ⟨⟩
        exact Nat.le_of_not_lt hlong
    · intro e _ he
      exact ⟨he.cast, fun _ h => nomatch h⟩
  · exact ⟨(c.state.noDefect_chooseKey sector .read).of_eq he, fun _ h => nomatch h⟩

theorem faultless_writeAuthorized {sector address : UInt8} {block : UInt16} {page : Bytes}
    (hnarrow : Checked.narrow block = .ok address) (hpage : page.length = blockSize) :
    Faultless t.responder (writeAuthorized sector block page) := by
  refine faultless_inspect_bind (fun card => card.noDefect_chooseKey sector .write) fun _ selector _ => ?_
  rw [hnarrow, ofExcept_ok, pure_bind]
  exact faultless_withAuthRetry sector selector (Coupler.faultless_writePage address hpage)

/-- A block that may be accessed as data has a page address, and the block after it a number. -/
theorem fits_of_dataSector {card : Card} {block : UInt16} {access : Access} {sector : UInt8}
    (h : card.dataSector block access = .ok sector) :
    (∃ address, Checked.narrow block = .ok address) ∧ NoDefect (Checked.next block) := by
  rcases dataBlock_of_dataSector h with ⟨address, hnarrow, htoNat, -⟩
  have hlt := address.toNat_lt
  refine ⟨⟨address, hnarrow⟩, ?_⟩
  rw [(Checked.next_eq_ok (n := block) (by omega)).1]
  trivial

theorem faultless_readBlock (block : UInt16) : Faultless t.responder (readBlock block) := by
  refine faultless_inspect_lift_bind fun _ sector hsector => ?_
  rcases (fits_of_dataSector hsector).1 with ⟨address, hnarrow⟩
  exact fun c => (ensures_readAuthorized_length hnarrow c).mono fun _ _ h => h.1

theorem faultless_writeBlock (block : UInt16) (data : Block) : Faultless t.responder (writeBlock block data) := by
  refine faultless_inspect_lift_bind fun _ sector hsector => ?_
  rcases (fits_of_dataSector hsector).1 with ⟨address, hnarrow⟩
  exact faultless_writeAuthorized hnarrow data.length_bytes

theorem faultless_readRun (block : UInt16) {lengths : List Nat} (hsize : ∀ n ∈ lengths, n ≤ blockSize) :
    Faultless t.responder (readRun block lengths) := by
  induction lengths generalizing block with
  | nil => exact faultless_pure []
  | cons take rest ih =>
    refine faultless_inspect_lift_bind fun _ sector hsector c => ?_
    rcases fits_of_dataSector hsector with ⟨⟨address, hnarrow⟩, hnext⟩
    refine (ensures_readAuthorized_length hnarrow c).bind (fun data c' hdata => ?_) (fun _ _ h => h.1.cast)
    -- The reply is long enough for what is taken from it.
    have hlong : take ≤ data.length := Nat.le_trans (hsize take List.mem_cons_self) (hdata.2 data rfl)
    have hfront : Checked.front take data = .ok (data.take take) := if_pos hlong
    rw [hfront, ofExcept_ok, pure_bind]
    have htail : Faultless t.responder (Procedure.ofExcept (Checked.next block) >>= fun next =>
        readRun next rest >>= fun others => pure (data.take take ++ others)) :=
      faultless_ofExcept_bind hnext fun next _ =>
        (ih next fun n hn => hsize n (List.mem_cons_of_mem _ hn)).bind fun others => faultless_pure _
    exact htail c'

theorem faultless_writeRun (block : UInt16) {pieces : List Bytes}
    (hsize : ∀ piece ∈ pieces, piece.length ≤ blockSize) : Faultless t.responder (writeRun block pieces) := by
  induction pieces generalizing block with
  | nil => exact faultless_pure ()
  | cons piece rest ih =>
    refine faultless_inspect_lift_bind fun _ sector hsector => ?_
    rcases fits_of_dataSector hsector with ⟨⟨address, hnarrow⟩, hnext⟩
    rw [page_eq_ok (hsize piece List.mem_cons_self), ofExcept_ok, pure_bind]
    refine (faultless_writeAuthorized hnarrow (Bytes.length_fit _ _)).bind fun _ => ?_
    exact faultless_ofExcept_bind hnext fun next _ => ih next fun p hp => hsize p (List.mem_cons_of_mem _ hp)

/-! ## Trailers -/

theorem faultless_readTrailer (sector : UInt8) : Faultless t.responder (readTrailer sector) := by
  refine fun c => ensures_readTrailer ?_ ?_ ?_
  · intro e he
    exact (c.state.noDefect_trailerAddress sector).of_eq he
  · intro e he
    exact (c.state.noDefect_chooseKey sector .read).of_eq he
  · intro address selector _ _
    refine (faultless_withAuthRetry sector selector (Coupler.faultless_readPage address blockLength) c).mono ?_
    rintro (e | data) c' hx
    · exact hx.cast
    · show NoDefect (trailerFrom data)
      unfold trailerFrom
      split
      · trivial
      · exact noDefect_lift _

theorem faultless_writeTrailer (sector address : UInt8) (selector : KeySelector) (trailer : SectorTrailer) :
    Faultless t.responder (withAuthRetry sector selector (Coupler.writePage address trailer.toBytes)) :=
  faultless_withAuthRetry sector selector (Coupler.faultless_writePage address (by simp [blockSize]))

theorem faultless_changeTrailer (sector : UInt8) (trailer : SectorTrailer) :
    Faultless t.responder (changeTrailer sector trailer) := by
  refine faultless_inspect_bind (fun card => card.noDefect_trailerAddress sector) fun _ address _ => ?_
  refine (faultless_require _).bind fun _ => ?_
  exact (faultless_writeTrailer sector address .b trailer).bind fun _ => faultless_modify _

/-- Whatever goes wrong while a trailer is written back, nothing comes of it. -/
theorem ensures_rollBack_ok (sector address : UInt8) (selector : KeySelector) (previous : SectorTrailer)
    (c : Situation Link Card ω) :
    Ensures t.responder (rollBack sector address selector previous) c fun x _ => x = .ok () := by
  have hwrite : Faultless t.responder (authorize sector selector >>= fun _ =>
      onCoupler (Coupler.writePage address previous.toBytes)) :=
    (faultless_authorize sector selector).bind fun _ =>
      faultless_onCoupler (Coupler.faultless_writePage address (by simp [blockSize]))
  refine ensures_rollBack ((hwrite c).mono ?_)
  rintro ((e | d) | ⟨⟩) _ hx
  · rfl
  · exact hx.elim
  · rfl

theorem faultless_rollBack (sector address : UInt8) (selector : KeySelector) (previous : SectorTrailer) :
    Faultless t.responder (rollBack sector address selector previous) := by
  refine fun c => (ensures_rollBack_ok sector address selector previous c).mono ?_
  rintro _ _ rfl
  trivial

theorem faultless_applyPolicy (sector : UInt8) (selector : KeySelector) (keepPrevious : Bool) :
    Faultless t.responder (applyPolicy sector selector keepPrevious) := by
  rw [applyPolicy_eq]
  refine faultless_inspect_bind (fun card => card.noDefect_trailerAddress sector) fun _ address _ => ?_
  refine faultless_inspect_bind (fun card => card.noDefect_plannedTrailer sector selector) fun _ trailer _ => ?_
  refine Faultless.bind ?_ fun previous c => ?_
  · cases keepPrevious with
    | true => exact (faultless_readTrailer sector).map some
    | false => exact faultless_pure none
  · refine ensures_writeOrRollBack ((faultless_writeTrailer sector address selector trailer c).mono ?_)
    rintro ((e | d) | ⟨⟩) c' hx
    · -- Only a refused write is rolled back, and then it is the rollback that could break a rule.
      cases previous with
      | none => trivial
      | some previous =>
        simp only [AfterWrite]
        refine (faultless_rollBack sector address selector previous c').mono ?_
        rintro (f | ⟨⟩) _ hy
        · exact hy.cast
        · trivial
    · exact hx.elim
    · trivial

/-! ## Every operation -/

/-- No operation of a card breaks a rule of the library. -/
theorem faultless_perform (op : Operation) : Faultless t.responder (perform op) := by
  -- The runs over several blocks are the operations that add and cut; all others only pass on what a page gives.
  cases op with
  | setKey selector key store slot => exact (faultless_change _).bind fun _ => faultless_pure _
  | setPolicy sector policy => exact (faultless_change _).bind fun _ => faultless_pure _
  | ensureAuthorized sector selector slot =>
    exact (faultless_ensureAuthorized sector selector slot).bind fun _ => faultless_pure _
  | invalidate sector => exact (faultless_modify _).bind fun _ => faultless_pure _
  | readBlock block => exact (faultless_readBlock block).map some
  | writeBlock block data => exact (faultless_writeBlock block data).bind fun _ => faultless_pure _
  | readLinear start length =>
    exact (faultless_readRun start fun _ hn => Bytes.le_of_mem_pieceLengths hn).map some
  | writeLinear start data =>
    exact (faultless_writeRun start fun _ hp => Bytes.length_le_of_mem_pieces hp).bind fun _ => faultless_pure _
  | readTrailer sector => exact (faultless_readTrailer sector).bind fun _ => faultless_pure _
  | changeTrailer sector trailer =>
    exact (faultless_changeTrailer sector trailer).bind fun _ => faultless_pure _
  | applyPolicy sector selector keepPrevious =>
    exact (faultless_applyPolicy sector selector keepPrevious).bind fun _ => faultless_pure _

end Card
end SectorCard
