import SectorCard.Proofs.RememberedKey

/-!
# Failures are denials

Once a request was found to be in order, the only thing that can go wrong is that a command is denied: no card is
connected, the exchange fails, or the reply is not a success.  An operation that fails then has said nothing after the
command that was denied, and reports its error (`OnlyDenied`).

For accesses this takes a coupler that can authenticate, since one that has no legal key finds fault with the request
when it looks for it (`Coupler.Primed`).
-/

namespace SectorCard

open Procedure

/-- The errors that find fault with a request, and not with the card or the reader. -/
def CardError.rejects : CardError → Bool
  | .invalidBlock _ | .invalidSector _ | .noUsableKey _ | .keyNotConfigured _ | .notAuthenticating _
  | .invalidKeySlot _ | .unsupportedPolicy | .invalidAccessBits => true
  | _ => false

variable {σ ω : Type} {t : Transport ω}

/-- The last thing that was said is a command that was denied with an error. -/
def EndsDenied (t : Transport ω) (e : CardError) (said : List (Event Link)) : Prop :=
  ∃ earlier command refusal w, (∀ status, CardError.rejects (refusal status) = false) ∧
    t.demand command refusal w = .error e ∧ said = earlier ++ t.exchangeEvents command w

/-- More was said on top of `before`, and if a procedure has failed, its error is that of the last command. -/
def OnlyDenied {α : Type} (t : Transport ω) (before : List (Event Link)) (x : Except Failure α)
    (history : List (Event Link)) : Prop :=
  ∃ said, history = before ++ said ∧ match x with
    | .ok _ => True
    | .error (.error e) => EndsDenied t e said
    | .error (.defect _) => False

section OnlyDenied

variable {α β : Type} {before middle history : List (Event Link)}

theorem onlyDenied_ok (a : α) (h : before <+: history) : OnlyDenied t before (.ok a : Except Failure α) history := by
  rcases h with ⟨said, hsaid⟩
  exact ⟨said, hsaid.symm, trivial⟩

theorem OnlyDenied.later {x : Except Failure α} (h : OnlyDenied t before x history) : before <+: history := by
  rcases h with ⟨said, hsaid, -⟩
  exact ⟨said, hsaid.symm⟩

theorem OnlyDenied.cast {f : Failure} (h : OnlyDenied t before (.error f : Except Failure α) history) :
    OnlyDenied t before (.error f : Except Failure β) history := by
  rcases h with ⟨said, hsaid, h⟩
  refine ⟨said, hsaid, ?_⟩
  cases f <;> exact h

/-- What was said before does not matter. -/
theorem OnlyDenied.since {x : Except Failure α} (h : OnlyDenied t middle x history) (hbefore : before <+: middle) :
    OnlyDenied t before x history := by
  rcases hbefore with ⟨first, rfl⟩
  rcases h with ⟨said, rfl, h⟩
  refine ⟨first ++ said, List.append_assoc _ _ _, ?_⟩
  match x with
  | .ok _ => trivial
  | .error (.error e) =>
    rcases h with ⟨earlier, command, refusal, w, hrefusal, he, rfl⟩
    exact ⟨first ++ earlier, command, refusal, w, hrefusal, he, (List.append_assoc _ _ _).symm⟩
  | .error (.defect _) => exact h

theorem onlyDenied_exchanged {c : Situation Link σ ω} {command : Command} {refusal : StatusWord → CardError} {e : CardError}
    (h : before <+: c.history) (hrefusal : ∀ status, (refusal status).rejects = false)
    (he : t.demand command refusal c.world = .error e) :
    OnlyDenied t before (.error (.error e) : Except Failure α) (c.exchanged t command).history := by
  have hdenied : OnlyDenied t c.history (.error (.error e) : Except Failure α) (c.exchanged t command).history :=
    ⟨_, rfl, [], command, refusal, c.world, hrefusal, he, rfl⟩
  exact hdenied.since h

/-- What was said ends in a failure. -/
def EndsFailed (said : List (Event Link)) : Prop := ∃ event, said.getLast? = some event ∧ event.succeeded = false

theorem EndsDenied.endsFailed {e : CardError} {said : List (Event Link)} (h : EndsDenied t e said) : EndsFailed said := by
  rcases h with ⟨earlier, command, refusal, w, -, he, rfl⟩
  exact lastFailed_exchanged (c := (⟨(), w, earlier⟩ : Situation Link Unit ω)) he

theorem OnlyDenied.endsFailed {f : Failure} (h : OnlyDenied t before (.error f : Except Failure α) history) :
    ∃ said, history = before ++ said ∧ EndsFailed said := by
  rcases h with ⟨said, hsaid, h⟩
  cases f with
  | error e => exact ⟨said, hsaid, EndsDenied.endsFailed h⟩
  | defect d => exact h.elim

/-- A procedure and one that follows it fail only because a command is denied, if either does.  `R` is what the first
one leaves to the second. -/
theorem ensures_bind_onlyDenied {p : Procedure Link σ Failure α} {f : α → Procedure Link σ Failure β}
    {c : Situation Link σ ω} {R : Situation Link σ ω → Prop}
    (h : Ensures t.responder p c fun x c' => OnlyDenied t c.history x c'.history ∧ R c')
    (hf : ∀ a c', R c' → Ensures t.responder (f a) c' fun x c'' => OnlyDenied t c'.history x c''.history) :
    Ensures t.responder (p >>= f) c fun x c' => OnlyDenied t c.history x c'.history :=
  h.bind (fun a c' h => (hf a c' h.2).mono fun _ _ h' => h'.since h.1.later) fun _ _ h => h.1.cast

end OnlyDenied

/-! ## The coupler -/

namespace Coupler

variable {d : Situation Link Coupler ω}

/-- A coupler that can authenticate finds no fault with being asked to. -/
theorem ensures_performAuth_onlyDenied (address : UInt8) (hd : Primed True d.state) :
    Ensures t.responder (performAuth address) d fun x d' => OnlyDenied t d.history x d'.history := by
  refine (performAuth_outcome t address d).mono fun x d' h => ?_
  have htried : ∀ code entry, d.history <+: (d.exchanged t (.authenticating address code entry)).history :=
    fun _ _ => List.prefix_append _ _
  have hretried : ∀ code entry, d.history <+: (reloaded t address code entry d).history :=
    fun code entry => (htried code entry.slot).trans (List.prefix_append _ _)
  -- A key that fits its slot and a selector with a code leave only the failures of the exchanges themselves.
  cases h with
  | keyless hkey => exact absurd hkey (hd.key trivial)
  | codeless _ hcode =>
    rcases hd.code with ⟨code, hsome⟩
    rw [hcode] at hsome
    cases hsome
  | accepted _ _ _ => exact onlyDenied_ok _ (htried _ _)
  | denied _ _ he _ => exact onlyDenied_exchanged List.prefix_rfl (fun _ => rfl) he
  | homeless h illegal => exact absurd (hd.legal _ h.key) illegal
  | notLoaded _ _ he => exact onlyDenied_exchanged (htried _ _) (fun _ => rfl) he
  | deniedAgain _ _ _ he => exact onlyDenied_exchanged (hretried _ _) (fun _ => rfl) he
  | acceptedAgain _ _ _ _ => exact onlyDenied_ok _ ((hretried _ _).trans (List.prefix_append _ _))

/-- A coupler that can authenticate finds no fault with an access. -/
theorem ensures_access_onlyDenied (address : UInt8) (command : Command) {other : StatusWord → CardError}
    (hother : ∀ status, (other status).rejects = false) (hd : Primed True d.state) :
    Ensures t.responder (access address command other) d fun x d' => OnlyDenied t d.history x d'.history := by
  have hstatus : ∀ status, (accessError other status).rejects = false := by
    intro status
    unfold accessError
    split
    · rfl
    · exact hother status
  refine ensures_bind_onlyDenied (R := fun _ => True) (Ensures.and ?_ trivial) (fun _ d' _ => ?_)
  · refine ensures_authenticateIfPending (fun _ => onlyDenied_ok _ List.prefix_rfl) (fun _ => ?_)
    exact ensures_performAuth_onlyDenied address hd
  · refine ensures_transfer_of_demand ?_ ?_
    · intro data _
      exact onlyDenied_ok _ (List.prefix_append _ _)
    · intro e pending he
      exact onlyDenied_exchanged (c := d') List.prefix_rfl hstatus he

end Coupler

namespace Card

variable {c : Situation Link Card ω}

/-! ## Accesses of a card -/

/-- A coupler that can authenticate finds no fault with an operation, and can authenticate after it. -/
def Acceptable {α : Type} (t : Transport ω) (op : CouplerM α) : Prop :=
  ∀ d : Situation Link Coupler ω, Coupler.Primed True d.state →
    Ensures t.responder op d fun x d' => OnlyDenied t d.history x d'.history ∧ Coupler.Primed True d'.state

theorem acceptable_readPage (address length : UInt8) : Acceptable t (Coupler.readPage address length) := by
  intro d hd
  refine Ensures.and ?_ (Coupler.operationsKeep_primed.pagesKeep.read address length d hd)
  rw [Coupler.readPage_eq]
  exact Coupler.ensures_access_onlyDenied _ _ (fun _ => rfl) hd

theorem acceptable_writePage (address : UInt8) {page : Bytes} (hpage : page.length = blockSize) :
    Acceptable t (Coupler.writePage address page) := by
  intro d hd
  refine Ensures.and ?_ (Coupler.operationsKeep_primed.pagesKeep.write address page d hd)
  rw [Coupler.writePage_eq address (by rw [hpage]; decide)]
  refine ensures_bind_onlyDenied (R := fun _ => True)
    ((Coupler.ensures_access_onlyDenied _ _ (fun _ => rfl) hd).and trivial) (fun _ d' _ => ?_)
  exact ensures_pure (onlyDenied_ok _ List.prefix_rfl)

theorem Primed.keyed {card : Card} (h : Primed card) {sector : UInt8} {selector : KeySelector}
    (hauth : Authorized sector selector card) : Coupler.Primed True card.coupler := by
  rcases hauth with ⟨entry, -, hcached⟩
  exact ⟨h.coupler.legal, h.coupler.code, fun _ => h.coupler.key ⟨sector, _, hcached⟩⟩

theorem Primed.resume {d : Situation Link Coupler ω} (h : Primed c.state) (hd : Coupler.Primed True d.state) :
    Primed (c.resume d).state :=
  ⟨h.legal, hd.legal, hd.code, fun _ => hd.key trivial⟩

/-- Authorizing finds fault with the request only before anything is sent. -/
theorem ensures_authorize_onlyDenied (sector : UInt8) (selector : KeySelector) (c : Situation Link Card ω) :
    Ensures t.responder (authorize sector selector) c fun x c' =>
      OnlyDenied t c.history x c'.history ∨ (c' = c ∧ ∃ e, c.state.authorizable sector selector = .error e) := by
  refine (authorize_outcome t sector selector c).mono ?_
  intro x c' h
  cases h with
  | rejected he => exact .inr ⟨rfl, _, he⟩
  | notLoaded hentry he => exact .inl (onlyDenied_exchanged List.prefix_rfl (fun _ => rfl) he)
  | @notAccepted entry _ _ _ hentry hcode hload he =>
    refine .inl (onlyDenied_exchanged (c := c.exchanged t (.loading entry)) ?_ (fun _ => rfl) he)
    exact List.prefix_append _ _
  | authorized => exact .inl (onlyDenied_ok _ ((List.prefix_append _ _).trans (List.prefix_append _ _)))

/-- What holds once a sector counts as authorized, as far as accesses with one more try go. -/
structure Underway (card₀ : Card) (before : List (Event Link)) (c : Situation Link Card ω) : Prop where
  primed : Primed c.state
  setup : SameSetup card₀ c.state
  later : before <+: c.history

/-- With a configured key and a sector of the card, authorizing finds no fault with the request. -/
theorem Underway.authorize {card₀ : Card} {before : List (Event Link)} (h : Underway card₀ before c) {sector : UInt8}
    {selector : KeySelector} {entry : KeyEntry} (hsector : sector.toNat < card₀.geometry.sectorCount)
    (hkey : card₀.findKey selector = .ok entry) :
    Ensures t.responder (authorize sector selector) c fun x c' => OnlyDenied t before x c'.history ∧
      (x = .ok () → Underway card₀ before c' ∧ Authorized sector selector c'.state) := by
  have hready : c.state.authorizable sector selector = .ok entry :=
    h.primed.legal.authorizable (h.setup.geometry ▸ hsector) ((h.setup.findKey selector).trans hkey)
  refine ((ensures_authorize_onlyDenied sector selector c).and
    (((stepsKeep_primed fun _ _ _ _ => True).authorize sector selector c h.primed).and
      (authorize_setup sector selector))).mono ?_
  rintro x c' ⟨hdenied | ⟨-, e, he⟩, hprimed, hsetup, -, hauth⟩
  · exact ⟨hdenied.since h.later, fun hx => ⟨⟨hprimed, h.setup.trans hsetup, (hdenied.since h.later).later⟩, hauth hx⟩⟩
  · rw [hready] at he
    cases he

/-- An access with one more try finds fault with the request only if no key is configured, and then nothing was
done. -/
theorem ensures_withAuthRetry_onlyDenied {α : Type} {sector : UInt8} {selector : KeySelector} {op : CouplerM α}
    (hop : Acceptable t op) (hc : Primed c.state) (hsector : sector.toNat < c.state.geometry.sectorCount) :
    Ensures t.responder (withAuthRetry sector selector op) c fun x c' =>
      OnlyDenied t c.history x c'.history ∨ (c' = c ∧ ∃ e, c.state.findKey selector = .error e) := by
  have hstart : Underway c.state c.history c := ⟨hc, .refl _, List.prefix_rfl⟩
  refine ensures_withAuthRetry
    (R := fun c' => Underway c.state c.history c' ∧ Authorized sector selector c'.state) ?_ ?_ ?_
  · intro e he
    exact .inr ⟨rfl, e, he⟩
  · intro entry hkey
    refine ensures_ensureAuthorized hkey (fun hit => ⟨hkey, hstart, entry, hkey, hit⟩) (fun _ => ?_)
    refine (hstart.authorize hsector hkey).mono ?_
    rintro (e | _) c' ⟨hdenied, hdone⟩
    · exact .inl hdenied.cast
    · rcases hdone rfl with ⟨hunderway, hauth⟩
      exact ⟨(hunderway.setup.findKey selector).trans hkey, hunderway, hauth⟩
  · -- The first try fails as the card denies it; if it does so by an authentication, there is a second one.
    rintro c' ⟨hunderway, hauth⟩
    refine (hop c'.below (hunderway.primed.keyed hauth)).mono ?_
    rintro x d ⟨hdenied, hd⟩
    have hdenied' : OnlyDenied t c.history x d.history := hdenied.since hunderway.later
    unfold UnlessAuthFailed
    split
    · -- The key was found for the first try, so it is found again.
      rcases hauth with ⟨entry, hkey, -⟩
      have hkey' := (hunderway.setup.symm.findKey selector).trans hkey
      have hforgotten := (stepsKeep_primed (t := t) fun _ _ _ _ => True).forget (c'.resume d) sector
        (hunderway.primed.resume hd)
      have hagain : Underway c.state c.history { c'.resume d with state := invalidate sector (c'.resume d).state } :=
        ⟨hforgotten, hunderway.setup.trans ⟨rfl, rfl, rfl⟩, hdenied'.later⟩
      -- The second try: the sector is authorized once more, and the access is made as at first.
      refine ensures_modify_bind ((hagain.authorize hsector hkey').bind ?_ ?_)
      · rintro _ c'' ⟨-, hdone⟩
        rcases hdone rfl with ⟨hunderway', hauth'⟩
        refine ensures_onCoupler ((hop c''.below (hunderway'.primed.keyed hauth')).mono fun y d' h => ?_)
        exact .inl (h.1.since hunderway'.later)
      · rintro e c'' ⟨hdenied'', -⟩
        exact .inl hdenied''.cast
    · exact .inl hdenied'

/-- With a configured key, an access with one more try finds no fault with the request. -/
theorem ensures_withAuthRetry_of_findKey {α : Type} {sector : UInt8} {selector : KeySelector} {entry : KeyEntry}
    {op : CouplerM α} (hop : Acceptable t op) (hc : Primed c.state) (hsector : sector.toNat < c.state.geometry.sectorCount)
    (hkey : c.state.findKey selector = .ok entry) :
    Ensures t.responder (withAuthRetry sector selector op) c fun x c' => OnlyDenied t c.history x c'.history := by
  refine (ensures_withAuthRetry_onlyDenied hop hc hsector).mono ?_
  rintro x c' (hdenied | ⟨-, e, he⟩)
  · exact hdenied
  · rw [hkey] at he
    cases he

end Card
end SectorCard
