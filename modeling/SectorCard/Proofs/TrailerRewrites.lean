import SectorCard.Proofs.TrailerWrites

/-!
# Rewritten trailers and recorded authentications

A trailer holds the keys of its sector, so an authentication that is recorded for the sector says nothing once the
trailer was rewritten.  Operations that succeed drop the record.  One that rolls back does not: it authorizes the
sector, which makes a record, then rewrites the trailer, and reports the error of the first write
(`dropped_or_rolledBack`).

A trailer is rewritten at most once in an operation, and then nothing more is said in it.
-/

namespace SectorCard

open Procedure

variable {σ ω : Type} {t : Transport ω} {block sector : UInt8} {before : List (Event Link)}

/-! ## Rewriting and authenticating -/

/-- A card has stored a page in a block. -/
def Event.Rewrites (block : UInt8) (event : Event Link) : Prop :=
  event.succeeded = true ∧ ∃ page, event.request = .transmit (WireCommand.write block page).bytes

/-- A card has accepted a key for a block of a sector. -/
def Event.Authenticates (sector : UInt8) (event : Event Link) : Prop :=
  event.succeeded = true ∧ ∃ address code slot, sector.toNat = Geometry.sectorIndex address.toNat ∧
    event.request = .transmit (WireCommand.authenticate address code slot).bytes

theorem not_rewrites_of_noWrite (event : Event Link) (h : Card.NoWrite event) : ¬ event.Rewrites block := by
  rintro ⟨-, page, hsent⟩
  rw [← WireCommand.encode_writing] at hsent
  exact h block page.bytes hsent

theorem not_rewrites_asked (connected : Bool) : ¬ Event.Rewrites block ⟨.isConnected, connected⟩ :=
  not_rewrites_of_noWrite _ (Card.noWrite_asked connected)

/-- Since `before`, a block was not rewritten. -/
def Unwritten (block : UInt8) (before : List (Event Link)) (c : Situation Link σ ω) : Prop :=
  SaidSince before (fun event => ¬ event.Rewrites block) c

/-- Since `before`, a block was rewritten once, and that was the last thing that was said. -/
def JustRewritten (block : UInt8) (before : List (Event Link)) (c : Situation Link σ ω) : Prop :=
  ∃ said update, c.history = before ++ said ++ [update] ∧ (∀ event ∈ said, ¬ event.Rewrites block) ∧
    update.Rewrites block

/-- How a write of a page to a block can end. -/
def Rewriting {α : Type} (block : UInt8) (before : List (Event Link)) :
    Except Failure α → Situation Link σ ω → Prop
  | .ok _, c => JustRewritten block before c
  | .error _, c => Unwritten block before c

theorem unwritten_history (block : UInt8) (c : Situation Link σ ω) : Unwritten block c.history c :=
  saidSince_history _ c

theorem withstands_unwritten (block : UInt8) (before : List (Event Link)) :
    Coupler.Withstands t fun d : Situation Link Coupler ω => Unwritten block before d :=
  Card.withstands_of_noWrite not_rewrites_of_noWrite before

/-- A write that is denied rewrites nothing. -/
theorem Unwritten.denied {c : Situation Link σ ω} {command : Command} {refusal : StatusWord → CardError} {e : CardError}
    (h : Unwritten block before c) (he : t.demand command refusal c.world = .error e) :
    Unwritten block before (c.exchanged t command) := by
  refine h.exchanged_of_reply not_rewrites_asked fun hconnected hrewrites => ?_
  exact absurd hrewrites.1 (Transport.not_succeeded_of_demand hconnected he)

theorem Unwritten.accepted {c : Situation Link σ ω} {page : Block} {refusal : StatusWord → CardError} {data : Bytes}
    (h : Unwritten block before c) (hdata : t.demand (.writing block page.bytes) refusal c.world = .ok data) :
    JustRewritten block before (c.exchanged t (.writing block page.bytes)) := by
  rcases h with ⟨said, hsaid, hquiet⟩
  refine ⟨said ++ [⟨.isConnected, true⟩],
    ⟨.transmit (Command.writing block page.bytes).encode, (t.transmit (Command.writing block page.bytes).encode c.world).1⟩,
    ?_, ?_, Transport.succeeded_of_demand hdata, page, ?_⟩
  · simp [Situation.exchanged, Transport.exchangeEvents_of_ok hdata, hsaid]
  · intro event hevent
    rcases List.mem_append.1 hevent with hold | hasked
    · exact hquiet event hold
    · rcases List.mem_singleton.1 hasked with rfl
      exact not_rewrites_asked true
  · rw [WireCommand.encode_writing]

theorem JustRewritten.eq_nil {c : Situation Link σ ω} (h : JustRewritten block before c) {update : Event Link}
    {earlier later : List (Event Link)} (hsaid : c.history = before ++ earlier ++ update :: later)
    (hupdate : update.Rewrites block) : later = [] := by
  rcases h with ⟨said, last, hlast, hquiet, -⟩
  rcases List.eq_nil_or_concat later with rfl | ⟨init, final, rfl⟩
  · rfl
  · have hsplit : (before ++ said) ++ [last] = (before ++ (earlier ++ update :: init)) ++ [final] := by
      rw [← hlast, hsaid]
      simp
    have hsame := List.append_cancel_left (List.append_inj' hsplit rfl).1
    exact absurd hupdate (hquiet update (by simp [hsame]))

/-! ## Writing a page -/

theorem Coupler.ensures_writePage_rewrites {d : Situation Link Coupler ω} (h : Unwritten block before d) (page : Block) :
    Ensures t.responder (Coupler.writePage block page.bytes) d (Rewriting block before) := by
  rw [Coupler.writePage_eq block (by rw [page.length_bytes]; decide)]
  refine Ensures.bind (R := Rewriting block before) ?_ (fun _ _ hd => ensures_pure hd) (fun _ _ hd => hd)
  refine Coupler.ensures_access_of_withstands (withstands_unwritten block before) h (fun _ _ hd => hd) ?_
  intro d hd
  exact Coupler.ensures_transfer_of_demand (fun _ hdata => hd.accepted hdata) (fun _ _ he => hd.denied he)

namespace Card

variable {c : Situation Link Card ω}

theorem ensures_withAuthRetry_rewrites (h : Unwritten block before c) (sector : UInt8) (selector : KeySelector)
    (page : Block) :
    Ensures t.responder (withAuthRetry sector selector (Coupler.writePage block page.bytes)) c
      (Rewriting block before) := by
  refine ensures_withAuthRetry_of_keeps (I := Unwritten block before) h ?_ (fun _ h => h) (fun _ _ h => h)
    (fun _ _ h => h) ?_
  · intro c hc
    exact ensures_authorize_of_withstands (withstands_unwritten block before) hc sector selector
  · intro c hc _
    refine (Coupler.ensures_writePage_rewrites (d := c.below) hc page).mono ?_
    intro x d h
    cases x with
    | ok _ => exact h
    | error _ => exact h

/-! ## Every operation -/

/-- All that an operation can come to, as regards the trailer of a sector: it was not rewritten, or the record of the
sector is dropped, or it was written back under an authentication that is still recorded. -/
inductive TrailerOutcome {α : Type} (sector block : UInt8) (op : Operation) (before : List (Event Link)) :
    Except Failure α → Situation Link Card ω → Prop where
  | untouched {x : Except Failure α} {c : Situation Link Card ω} (hsaid : Unwritten block before c) :
      TrailerOutcome sector block op before x c
  | dropped {a : α} {c : Situation Link Card ω} (hsaid : JustRewritten block before c)
      (hcache : c.state.cachedAuth sector = none) : TrailerOutcome sector block op before (.ok a) c
  | rolledBack {e : Failure} {c : Situation Link Card ω} {selector : KeySelector}
      (hop : op = .applyPolicy sector selector true) (hsaid : JustRewritten block before c)
      (hauth : Authorized sector selector c.state) : TrailerOutcome sector block op before (.error e) c

theorem ensures_result_outcome {α β : Type} {op : Operation} {p : CardM α} {f : α → CardM β}
    (h : Ensures t.responder p c (TrailerOutcome sector block op before)) (hf : ∀ a, ∃ b, f a = pure b) :
    Ensures t.responder (p >>= f) c (TrailerOutcome sector block op before) := by
  refine h.bind (fun a c' h => ?_) (fun e c' h => ?_)
  · rcases hf a with ⟨b, hb⟩
    rw [hb]
    refine ensures_pure ?_
    cases h with
    | untouched hsaid => exact .untouched hsaid
    | dropped hsaid hcache => exact .dropped hsaid hcache
  · cases h with
    | untouched hsaid => exact .untouched hsaid
    | rolledBack hop hsaid hauth => exact .rolledBack hop hsaid hauth

theorem ensures_changeTrailer_outcome (hblock : c.state.trailerAddress sector = .ok block) (op : Operation)
    (trailer : SectorTrailer) :
    Ensures t.responder (changeTrailer sector trailer) c (TrailerOutcome sector block op c.history) := by
  refine ensures_changeTrailer (fun _ _ => .untouched (unwritten_history block c))
    (fun _ _ => .untouched (unwritten_history block c)) ?_
  intro address haddress _
  cases hblock.symm.trans haddress
  refine (ensures_withAuthRetry_rewrites (unwritten_history block c) sector .b trailer.toBlock).mono ?_
  rintro (e | _) c' hsaid
  · exact .untouched hsaid
  · refine .dropped hsaid ?_
    simp [cachedAuth_invalidate]

/-- Rolling back rewrites the trailer under the authentication that it has just recorded, or not at all. -/
theorem ensures_rollBack_outcome {op : Operation} {selector : KeySelector} (hop : op = .applyPolicy sector selector true)
    (h : Unwritten block before c) (previous : SectorTrailer) (e : CardError) :
    Ensures t.responder (rollBack sector block selector previous) c fun x c' => match x with
      | .ok () => TrailerOutcome sector block op before (.error (.error e) : Except Failure Unit) c'
      | .error f => TrailerOutcome sector block op before (.error f : Except Failure Unit) c' := by
  -- As long as the trailer was not rewritten, it does not matter how the rollback ends.
  have hend : ∀ (x : Except Failure Unit) (c' : Situation Link Card ω), Unwritten block before c' →
      match unlessDefect x with
      | .ok () => TrailerOutcome sector block op before (.error (.error e) : Except Failure Unit) c'
      | .error f => TrailerOutcome sector block op before (.error f : Except Failure Unit) c' := by
    intro x c' hsaid
    cases unlessDefect x with
    | ok _ => exact .untouched hsaid
    | error f => exact .untouched hsaid
  refine ensures_rollBack ?_
  refine ((ensures_authorize_of_withstands (withstands_unwritten block before) h sector selector).and
    (authorize_setup sector selector)).bind ?_ (fun f c' h => hend (.error f) c' h.1)
  -- The write comes right behind the authentication, so if it is acknowledged, that is what the record is left with.
  rintro _ c' ⟨hc', -, -, hauth⟩
  refine ensures_onCoupler ((Coupler.ensures_writePage_rewrites (d := c'.below) hc' previous.toBlock).mono ?_)
  rintro (f | _) d hsaid
  · exact hend (.error f) (c'.resume d) hsaid
  · exact .rolledBack hop hsaid (hauth rfl)

theorem ensures_applyPolicy_outcome (hblock : c.state.trailerAddress sector = .ok block) (selector : KeySelector)
    (keepPrevious : Bool) :
    Ensures t.responder (applyPolicy sector selector keepPrevious) c
      (TrailerOutcome sector block (.applyPolicy sector selector keepPrevious) c.history) := by
  refine ensures_applyPolicy
    (R := fun previous c' => Unwritten block c.history c' ∧ (previous.isSome = true → keepPrevious = true))
    (fun _ _ => .untouched (unwritten_history block c)) (fun _ _ => .untouched (unwritten_history block c)) ?_
    (fun _ => ⟨unwritten_history block c, by simp⟩) ?_
  · intro hkeep
    refine (ensures_readTrailer_noWrite sector c).mono ?_
    rintro x c' ⟨-, said, hsaid, hquiet⟩
    have hunwritten : Unwritten block c.history c' :=
      ⟨said, hsaid, fun event hevent => not_rewrites_of_noWrite event (hquiet event hevent)⟩
    cases x with
    | ok previous => exact ⟨hunwritten, fun _ => hkeep⟩
    | error e => exact .untouched hunwritten
  · rintro address trailer previous c' haddress _ ⟨hc', hkeep⟩
    cases hblock.symm.trans haddress
    refine ensures_writeOrRollBack ((ensures_withAuthRetry_rewrites hc' sector selector trailer.toBlock).mono ?_)
    -- Only a write that the card has refused is rolled back; a success drops the record.
    rintro ((e | d) | _) c'' hsaid
    · cases previous with
      | none => exact .untouched hsaid
      | some previous => exact ensures_rollBack_outcome (by rw [hkeep rfl]) hsaid previous e
    · cases previous <;> exact .untouched hsaid
    · refine .dropped hsaid ?_
      simp [cachedAuth_invalidate]

/-- The operations that may write the trailer of a sector. -/
theorem eq_of_mayWrite {card : Card} {op : Operation} (hblock : card.trailerAddress sector = .ok block)
    (h : op.MayWrite card.geometry block.toNat) :
    (∃ trailer, op = .changeTrailer sector trailer) ∨
      ∃ selector keepPrevious, op = .applyPolicy sector selector keepPrevious := by
  rcases trailerBlock_of_trailerAddress hblock with ⟨trailer, htrailer, hsame⟩
  -- A block is the trailer of one sector only.
  have hsector : ∀ other, (∃ trailer', card.geometry.trailerBlock other = .ok trailer' ∧ trailer'.toNat = block.toNat) →
      other = sector := by
    rintro other ⟨trailer', htrailer', hsame'⟩
    have h1 := (Geometry.toNat_of_trailerBlock htrailer).2
    have h2 := (Geometry.toNat_of_trailerBlock htrailer').2
    apply UInt8.toNat_inj.1
    calc
      other.toNat
          = Geometry.sectorIndex block.toNat := by rw [← hsame', h2, Geometry.sectorIndex_trailerIndex]
      _ = sector.toNat := by rw [← hsame, h1, Geometry.sectorIndex_trailerIndex]
  cases op with
  | writeBlock _ _ => exact absurd hsame (h.2 sector trailer htrailer)
  | writeLinear _ _ => exact absurd hsame (h.2 sector trailer htrailer)
  | changeTrailer other trailer' => exact .inl ⟨trailer', by rw [hsector other h]⟩
  | applyPolicy other selector keepPrevious => exact .inr ⟨selector, keepPrevious, by rw [hsector other h]⟩
  | _ => exact h.elim

theorem perform_outcome (hblock : c.state.trailerAddress sector = .ok block) (op : Operation) :
    Ensures t.responder (perform op) c (TrailerOutcome sector block op c.history) := by
  by_cases hwrites : op.MayWrite c.state.geometry block.toNat
  · rcases eq_of_mayWrite hblock hwrites with ⟨trailer, rfl⟩ | ⟨selector, keepPrevious, rfl⟩
    · exact ensures_result_outcome (ensures_changeTrailer_outcome hblock _ trailer) fun _ => ⟨none, rfl⟩
    · exact ensures_result_outcome (ensures_applyPolicy_outcome hblock selector keepPrevious) fun _ => ⟨none, rfl⟩
  · refine (perform_maySay op c).mono ?_
    rintro x c' ⟨-, said, hsaid, hmay⟩
    refine .untouched ⟨said, hsaid, fun event hevent => ?_⟩
    rintro ⟨-, page, hrequest⟩
    have hsays := hmay event hevent
    rcases event with ⟨request, reply⟩
    subst hrequest
    rcases hsays with ⟨sent, hbytes, -, hwrite⟩
    exact hwrites (hwrite block page (WireCommand.bytes_injective hbytes).symm)

/-! ## How long a record lasts -/

/-- Since `before`, no key was accepted for a block of a sector, unless the cache still holds `auth?` for the sector or
nothing. -/
def Lasting (sector : UInt8) (auth? : Option CachedAuth) (before : List (Event Link)) (c : Situation Link Card ω) : Prop :=
  ∃ said, c.history = before ++ said ∧ ((∃ event ∈ said, event.Authenticates sector) ∨
    c.state.cachedAuth sector = auth? ∨ c.state.cachedAuth sector = none)

section Lasting

variable {auth? : Option CachedAuth}

theorem Lasting.extend {c c' : Situation Link Card ω} (h : Lasting sector auth? before c) {events : List (Event Link)}
    (hhistory : c'.history = c.history ++ events)
    (hcache : c'.state.cachedAuth sector = c.state.cachedAuth sector ∨ c'.state.cachedAuth sector = none) :
    Lasting sector auth? before c' := by
  rcases h with ⟨said, hsaid, h⟩
  refine ⟨said ++ events, by rw [hhistory, hsaid, List.append_assoc], ?_⟩
  rcases h with ⟨event, hevent, hauth⟩ | hheld
  · exact .inl ⟨event, List.mem_append_left _ hevent, hauth⟩
  · right
    rcases hcache with hsame | hnone
    · rwa [hsame]
    · exact .inr hnone

theorem keeps_lasting_authorize (sector' : UInt8) (selector : KeySelector) :
    Keeps t.responder (Lasting sector auth? before) (authorize sector' selector) := by
  intro c hc
  refine (authorize_outcome t sector' selector c).mono ?_
  intro x c' h
  cases h with
  | rejected he => exact hc
  | notLoaded hentry he => exact hc.extend rfl (.inl rfl)
  | notAccepted hentry hcode hload he => exact hc.extend (List.append_assoc _ _ _) (.inl rfl)
  | @authorized entry code _ _ hentry hcode hload hauth =>
    by_cases hsame : sector = sector'
    · -- The sector itself is authenticated, and that is said.
      subst hsame
      rcases hc with ⟨said, hsaid, -⟩
      have hsector := (authorizable_eq_ok hentry).2.1
      refine ⟨said ++ t.exchangeEvents (.loading entry) c.world ++ t.exchangeEvents
        (.authenticating (firstAddress sector) code entry.slot) (t.exchange (.loading entry) c.world).2, ?_, .inl ?_⟩
      · simp [Situation.exchanged, hsaid]
      · rw [Transport.exchangeEvents_of_ok hauth]
        refine ⟨_, List.mem_append_right _ (List.mem_cons_of_mem _ List.mem_cons_self),
          Transport.succeeded_of_demand hauth, firstAddress sector, code, entry.slot, ?_, rfl⟩
        exact (Tag.sectorOf_firstAddress hsector).symm
    · -- The record of another sector is not touched.
      refine hc.extend (List.append_assoc _ _ _) (.inl ?_)
      rw [cachedAuth_afterAuthorize, if_neg hsame]

theorem stepsKeep_lasting (A : UInt8 → KeySelector → UInt8 → Command → Prop) :
    StepsKeep t (Lasting sector auth? before) A where
  authorize := keeps_lasting_authorize
  access := by
    intro c sector' selector address command other hc _ _
    have hwithstands : Coupler.Withstands t fun d => Lasting sector auth? before (c.resume d) :=
      { loading := fun _ _ hd => hd.extend rfl (.inl rfl)
        authenticating := fun _ _ _ _ hd => hd.extend rfl (.inl rfl)
        state := fun _ _ hd => hd }
    refine Coupler.ensures_access_of_withstands hwithstands (c := c.below) hc (fun _ _ hd => hd) ?_
    intro d hd
    have hsent : Lasting sector auth? before (c.resume (d.exchanged t command)) := hd.extend rfl (.inl rfl)
    exact Coupler.ensures_transfer_of_demand (fun _ _ => hsent) (fun _ _ _ => hsent)
  forget c sector' hc := by
    refine hc.extend (List.append_nil _).symm ?_
    rw [cachedAuth_invalidate]
    split
    · exact .inr rfl
    · exact .inl rfl

/-- Without a new authentication, the cache entry of a sector stays as it is or is dropped. -/
theorem lasting_after (ops : List Operation) (c : Situation Link Card ω) :
    Lasting sector (c.state.cachedAuth sector) c.history (after t ops c) := by
  have hkeeps : Keeps t.responder (Lasting sector (c.state.cachedAuth sector) c.history) (performAll ops) := by
    refine keeps_performAll fun op _ c' hc' => (stepsKeep_lasting _).perform hc' ?_ ?_
    · intro selector key store slot card _ hset
      refine hc'.extend (List.append_nil _).symm (.inl ?_)
      simp only [cachedAuth, (setup_setKey hset).2.2]
    · intro other policy card _ hset
      refine hc'.extend (List.append_nil _).symm (.inl ?_)
      simp only [cachedAuth, (setup_setPolicy hset).2.2.2]
  exact hkeeps c ⟨[], (List.append_nil _).symm, .inr (.inl rfl)⟩

end Lasting

/-! ## Every run -/

/-- An operation that has rewritten the trailer has said nothing after it.  It has dropped the record, or rolled
back. -/
theorem TrailerOutcome.of_rewritten {α : Type} {op : Operation} {x : Except Failure α}
    (h : TrailerOutcome sector block op before x c) {update : Event Link} {earlier later : List (Event Link)}
    (hsaid : c.history = before ++ earlier ++ update :: later) (hupdate : update.Rewrites block) :
    later = [] ∧ (((∃ a, x = .ok a) ∧ c.state.cachedAuth sector = none) ∨
      ((∃ e, x = .error e) ∧ ∃ selector entry, op = .applyPolicy sector selector true ∧
        c.state.findKey selector = .ok entry ∧ c.state.cachedAuth sector = some ⟨selector, entry.slot⟩)) := by
  cases h with
  | untouched hquiet =>
    rcases hquiet with ⟨said, hsaid', hquiet⟩
    have hsame : said = earlier ++ update :: later := by
      rw [hsaid, List.append_assoc] at hsaid'
      exact (List.append_cancel_left hsaid').symm
    exact absurd hupdate (hquiet update (by simp [hsame]))
  | dropped hlast hcache => exact ⟨hlast.eq_nil hsaid hupdate, .inl ⟨⟨_, rfl⟩, hcache⟩⟩
  | rolledBack hop hlast hauth =>
    rcases hauth with ⟨entry, hkey, hcached⟩
    exact ⟨hlast.eq_nil hsaid hupdate, .inr ⟨⟨_, rfl⟩, _, entry, hop, hkey, hcached⟩⟩

/-- If the trailer of a sector was rewritten, and the sector was not authenticated since, then the rewriting was the
last thing that was said in some operation of the run.  If that operation succeeded, nothing is recorded for the
sector.  If it failed, it has rolled back under the selected key, and left a record of that key, which lasts until it
is dropped. -/
theorem dropped_or_rolledBack (ops : List Operation) (c : Situation Link Card ω)
    (hblock : c.state.trailerAddress sector = .ok block) {update : Event Link} {earlier later : List (Event Link)}
    (hupdate : update.Rewrites block) (hlater : ∀ event ∈ later, ¬ event.Authenticates sector)
    (hsaid : (after t ops c).history = c.history ++ earlier ++ update :: later) :
    ∃ done op todo, ops = done ++ op :: todo ∧
      let run := exec t.responder (perform op) (after t done c)
      run.2.history = c.history ++ earlier ++ [update] ∧
        (((∃ result, run.1 = .ok result) ∧ (after t ops c).state.cachedAuth sector = none) ∨
          ((∃ e, run.1 = .error e) ∧ ∃ selector entry, op = .applyPolicy sector selector true ∧
            run.2.state.findKey selector = .ok entry ∧
            run.2.state.cachedAuth sector = some ⟨selector, entry.slot⟩ ∧
            ((after t ops c).state.cachedAuth sector = some ⟨selector, entry.slot⟩ ∨
              (after t ops c).state.cachedAuth sector = none))) := by
  -- By induction on the run: what was said is split where the first operation ends.
  induction ops generalizing c earlier with
  | nil =>
    have hlength := congrArg List.length hsaid
    simp [after, performAll] at hlength
  | cons op rest ih =>
    rw [after_cons] at hsaid
    have hout := perform_outcome (t := t) hblock op
    rcases perform_maySay (t := t) op c with ⟨hgeometry, first, hfirst, -⟩
    have hlasting : Lasting sector _ _ (after t rest (exec t.responder (perform op) c).2) := lasting_after rest _
    rcases hlasting with ⟨second, hsecond, hlasts⟩
    have hparts : earlier ++ update :: later = first ++ second := by
      rw [hsecond, hfirst, List.append_assoc, List.append_assoc] at hsaid
      exact (List.append_cancel_left hsaid).symm
    rcases split_of_append hparts with ⟨middle, rfl, rfl⟩ | ⟨middle, rfl, rfl⟩
    · -- The trailer was rewritten in this operation.
      have hrewritten : (exec t.responder (perform op) c).2.history = c.history ++ earlier ++ update :: middle := by
        rw [hfirst, List.append_assoc]
      rcases hout.of_rewritten hrewritten hupdate with ⟨rfl, hend⟩
      have hquiet : ¬ ∃ event ∈ second, event.Authenticates sector := by
        rintro ⟨event, hevent, hauth⟩
        exact hlater event hevent hauth
      have hheld := hlasts.resolve_left hquiet
      refine ⟨[], op, rest, rfl, ?_⟩
      rw [after_nil, after_cons]
      refine ⟨hrewritten, ?_⟩
      rcases hend with ⟨hok, hnone⟩ | ⟨herror, selector, entry, hop, hkey, hcached⟩
      · refine .inl ⟨hok, ?_⟩
        rw [hnone, or_self] at hheld
        exact hheld
      · rw [hcached] at hheld
        exact .inr ⟨herror, selector, entry, hop, hkey, hcached, hheld⟩
    · -- The trailer was rewritten in a later one.
      have hblock' : (exec t.responder (perform op) c).2.state.trailerAddress sector = .ok block := by
        unfold trailerAddress at hblock ⊢
        rwa [hgeometry]
      rcases ih _ hblock' (by rw [hsecond, List.append_assoc]) with ⟨done, op', todo, rfl, hrun⟩
      refine ⟨op :: done, op', todo, rfl, ?_⟩
      rw [after_cons, after_cons]
      rwa [hfirst, List.append_assoc c.history] at hrun

/-- The new trailer of sector 1 is refused, and the old one is written back.  This is reported as an error, and sector 1
counts as authenticated under key B, although the trailer that vouched for it was rewritten. -/
theorem dropped_or_rolledBack_refused :
    let t := (Tag.transport Tag.hideKeyA).refusing
    let run := exec t.responder (perform (.applyPolicy 1 .b true)) beforeRefusal
    let written := (WireCommand.write 7 (run.2.world.2.memory 7)).bytes
    run.2.history = beforeRefusal.history ++ run.2.history.take 17 ++ [⟨.transmit written, Tag.accepted []⟩] ∧
      run.2.state.cachedAuth 1 = some ⟨.b, 1⟩ ∧ ∃ e, run.1 = .error e := by
  intro t run written
  have hafter : after t [.applyPolicy 1 .b true] beforeRefusal = run.2 := after_snoc t [] _ beforeRefusal
  have hsaid : run.2.history =
      beforeRefusal.history ++ run.2.history.take 17 ++ [⟨.transmit written, Tag.accepted []⟩] := by
    decide +kernel
  have hcached : run.2.state.cachedAuth 1 = some ⟨.b, 1⟩ := by decide +kernel
  have hblock : beforeRefusal.state.trailerAddress 1 = .ok 7 := rfl
  have hwritten : Event.Rewrites 7 ⟨.transmit written, Tag.accepted []⟩ := ⟨rfl, run.2.world.2.memory 7, rfl⟩
  have hlater : ∀ event ∈ ([] : List (Event Link)), ¬ event.Authenticates 1 := List.forall_mem_nil _
  rcases dropped_or_rolledBack [.applyPolicy 1 .b true] beforeRefusal hblock hwritten hlater
    (by rw [hafter, hsaid]) with ⟨done, op, todo, hops, -, hend⟩
  rcases List.append_eq_singleton_iff.1 hops.symm with ⟨rfl, hop⟩ | ⟨-, hnil⟩
  · cases hop
    rw [hafter, after_nil] at hend
    rcases hend with ⟨-, hnone⟩ | ⟨herror, -⟩
    · rw [hcached] at hnone
      cases hnone
    · exact ⟨hsaid, hcached, herror⟩
  · cases hnil

end Card
end SectorCard
