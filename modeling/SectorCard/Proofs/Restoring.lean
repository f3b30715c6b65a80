import SectorCard.Proofs.CachedKeys
import SectorCard.Proofs.Denial
import SectorCard.Proofs.TrailerRewrites

/-!
# When a trailer is written back

Applying a policy with the present trailer kept has three parts: the trailer is read, the new one is written, and if
that fails the old one is written back.  Writing is an access with one more try, so it begins with loading a key and
having it accepted, and any of this can be what fails.  It makes no difference to what follows: the old trailer is sent
as soon as the key is loaded and accepted once more, also if the new one never was (`policyTrace_of_applyPolicy`).
-/

namespace SectorCard

open Procedure

variable {σ ω : Type} {t : Transport ω} {sector block code : UInt8} {selector : KeySelector} {entry : KeyEntry}

/-! ## What may be said -/

/-- What is said while a trailer is written back: once the key was loaded and accepted, the page is sent, and otherwise
nothing is written. -/
inductive BackTrace (sector block code : UInt8) (entry : KeyEntry) (page : Block) : List (Event Link) → Prop where
  | sent {loaded accepted reply : Except CardError Bytes} (hloaded : (Link.acknowledged? loaded).isSome = true)
      (haccepted : (Link.acknowledged? accepted).isSome = true) :
      BackTrace sector block code entry page (opening sector code entry loaded accepted ++
        [⟨.isConnected, true⟩, ⟨.transmit (WireCommand.write block page).bytes, reply⟩])
  | stopped {back : List (Event Link)} (hquiet : ∀ event ∈ back, Card.NoWrite event) (hfailed : EndsFailed back) :
      BackTrace sector block code entry page back

/-- What is said while a policy is applied to a sector and the present trailer is kept: while the trailer is read, while
the new one is written, and after that. -/
inductive PolicyTrace {α : Type} (sector block code : UInt8) (entry : KeyEntry) (trailer : SectorTrailer) :
    Except Failure α → (read attempt back : List (Event Link)) → Prop where
  | unread {f : Failure} {read : List (Event Link)} (hread : ∀ event ∈ read, Card.NoWrite event) :
      PolicyTrace sector block code entry trailer (.error f) read [] []
  | written {a : α} {read attempt : List (Event Link)} {update : Event Link}
      (hread : ∀ event ∈ read, Card.NoWrite event)
      (hattempt : ∀ event ∈ attempt, WritesOnly block (fun page => page = trailer.toBlock) event)
      (hlast : attempt.getLast? = some update) (hupdate : update.Rewrites block) :
      PolicyTrace sector block code entry trailer (.ok a) read attempt []
  | failed {e : CardError} {read attempt back : List (Event Link)} {data : Bytes} {page : Block}
      (hread : ∀ event ∈ read, Card.NoWrite event)
      (hattempt : ∀ event ∈ attempt, WritesOnly block (fun page => page = trailer.toBlock) event)
      (hfailed : EndsFailed attempt) (hshown : Card.Shown block data read) (hpage : page.bytes = data.take blockSize)
      (hback : BackTrace sector block code entry page back) :
      PolicyTrace sector block code entry trailer (.error (.error e)) read attempt back

namespace Card

variable {c : Situation Link Card ω}

/-! ## Writing back -/

/-- Authorizing a sector opens it, or writes nothing and ends in a failure. -/
theorem ensures_authorize_opening (sector : UInt8) (hready : c.state.authorizable sector selector = .ok entry)
    (hcode : selector.code? = some code) :
    Ensures t.responder (authorize sector selector) c fun x c' => match x with
      | .ok () => c'.state.coupler.authPending = false ∧ ∃ loaded accepted,
          (Link.acknowledged? loaded).isSome = true ∧ (Link.acknowledged? accepted).isSome = true ∧
            c'.history = c.history ++ opening sector code entry loaded accepted
      | .error (.error _) => ∃ said, c'.history = c.history ++ said ∧ (∀ event ∈ said, NoWrite event) ∧ EndsFailed said
      | .error (.defect _) => False := by
  have hquiet := ensures_authorize_of_withstands (withstands_of_noWrite (t := t) (fun _ h => h) c.history)
    (saidSince_history NoWrite c) sector selector
  refine ((hquiet.and (ensures_authorize_onlyDenied sector selector c)).and (authorize_outcome t sector selector c)).mono ?_
  rintro x c' ⟨⟨⟨said, hsaid, hnone⟩, hdenied⟩, h⟩
  -- Every failure but a rejection comes with an exchange that has failed, and it is the last one.
  have hfails : ∀ {e}, x = .error e → ∃ said, c'.history = c.history ++ said ∧ (∀ event ∈ said, NoWrite event) ∧
      EndsFailed said := by
    rintro e rfl
    rcases hdenied with hdenied | ⟨-, e', he'⟩
    · rcases hdenied.endsFailed with ⟨said', hsaid', hlast⟩
      cases List.append_cancel_left (hsaid.symm.trans hsaid')
      exact ⟨said, hsaid, hnone, hlast⟩
    · rw [hready] at he'
      cases he'
  cases h with
  | rejected he => exact hfails rfl
  | notLoaded hentry he => exact hfails rfl
  | notAccepted hentry _ hload he => exact hfails rfl
  | authorized hentry hcode' hload hauth =>
    cases hready.symm.trans hentry
    cases hcode.symm.trans hcode'
    exact ⟨rfl, exchanged_opening hload hauth⟩

/-- A coupler that has just authenticated sends a write at once. -/
theorem ensures_writePage_of_idle {d : Situation Link Coupler ω} (hidle : d.state.authPending = false) (page : Block) :
    Ensures t.responder (Coupler.writePage block page.bytes) d fun x d' =>
      NoDefect x ∧ d'.history = d.history ++ t.exchangeEvents (.writing block page.bytes) d.world := by
  rw [Coupler.writePage_eq block (by rw [page.length_bytes]; decide)]
  refine Ensures.bind (R := fun x d' =>
    NoDefect x ∧ d'.history = d.history ++ t.exchangeEvents (.writing block page.bytes) d.world) ?_
    (fun _ _ hd => ensures_pure ⟨trivial, hd.2⟩) (fun e _ hd => by cases e <;> exact hd)
  refine Coupler.ensures_access_of_idle hidle (Coupler.ensures_transfer_of_demand ?_ ?_)
  · exact fun _ _ => ⟨trivial, rfl⟩
  · exact fun _ _ _ => ⟨trivial, rfl⟩

theorem noWrite_opening (loaded accepted : Except CardError Bytes) :
    ∀ event ∈ opening sector code entry loaded accepted, NoWrite event := by
  intro event hevent
  simp only [opening, List.mem_cons, List.not_mem_nil, or_false] at hevent
  rcases hevent with rfl | rfl | rfl | rfl
  · exact noWrite_asked true
  · exact noWrite_loading entry loaded
  · exact noWrite_asked true
  · exact noWrite_authenticating _ _ _ accepted

theorem backTrace_of_opening {loaded accepted : Except CardError Bytes}
    (hloaded : (Link.acknowledged? loaded).isSome = true) (haccepted : (Link.acknowledged? accepted).isSome = true)
    (t : Transport ω) (page : Block) (w : ω) :
    BackTrace sector block code entry page
      (opening sector code entry loaded accepted ++ t.exchangeEvents (.writing block page.bytes) w) := by
  unfold Transport.exchangeEvents
  cases t.isConnected w with
  | true =>
    rw [if_pos rfl, WireCommand.encode_writing]
    exact .sent hloaded haccepted
  | false =>
    refine .stopped ?_ ⟨⟨.isConnected, false⟩, by simp, rfl⟩
    intro event hevent
    rcases List.mem_append.1 hevent with hopened | hasked
    · exact noWrite_opening loaded accepted event hopened
    · rcases List.mem_singleton.1 hasked with rfl
      exact noWrite_asked false

theorem ensures_rollBack_trace (hready : c.state.authorizable sector selector = .ok entry)
    (hcode : selector.code? = some code) (previous : SectorTrailer) :
    Ensures t.responder (rollBack sector block selector previous) c fun x c' => x = .ok () ∧
      ∃ back, c'.history = c.history ++ back ∧ BackTrace sector block code entry previous.toBlock back := by
  refine ensures_rollBack ((ensures_authorize_opening sector hready hcode).bind ?_ ?_)
  · -- The sector is opened and nothing is pending, so the page is sent once and at once.
    rintro _ c' ⟨hidle, loaded, accepted, hloaded, haccepted, hsaid⟩
    refine ensures_onCoupler ((ensures_writePage_of_idle (d := c'.below) hidle previous.toBlock).mono ?_)
    rintro x d ⟨hplain, hwritten⟩
    refine ⟨?_, _, ?_, backTrace_of_opening hloaded haccepted t previous.toBlock c'.world⟩
    · match x with
      | .ok () => rfl
      | .error (.error _) => rfl
      | .error (.defect _) => exact hplain.elim
    · show d.history = _
      rw [hwritten, ← List.append_assoc, ← hsaid]
      rfl
  · rintro (e | d) c' h
    · rcases h with ⟨said, hsaid, hquiet, hfailed⟩
      exact ⟨rfl, said, hsaid, .stopped hquiet hfailed⟩
    · exact h.elim

/-! ## Writing the new trailer -/

/-- What is said while the new trailer is written. -/
def AttemptTrace (block : UInt8) (trailer : SectorTrailer) (x : Except Failure Unit) (attempt : List (Event Link)) : Prop :=
  (∀ event ∈ attempt, WritesOnly block (fun page => page = trailer.toBlock) event) ∧ match x with
    | .ok () => ∃ update, attempt.getLast? = some update ∧ update.Rewrites block
    | .error (.error _) => EndsFailed attempt
    | .error (.defect _) => False

/-- An attempt to write sends no other trailer.  If it fails, it ends in a failure. -/
theorem ensures_attempt_trace (hc : Primed c.state) (hblock : c.state.trailerAddress sector = .ok block)
    (hkey : c.state.findKey selector = .ok entry) (trailer : SectorTrailer) :
    Ensures t.responder (withAuthRetry sector selector (Coupler.writePage block trailer.toBytes)) c fun x c' =>
      SameSetup c.state c'.state ∧ ∃ attempt, c'.history = c.history ++ attempt ∧ AttemptTrace block trailer x attempt := by
  have hin := (inSector_of_trailerAddress hblock).2
  -- All writes of the attempt are of the new trailer, in the first try as in the second.
  have hsteps : StepsKeep t
      (fun c' => c'.state.geometry = c.state.geometry ∧
        SaidSince c.history (WritesOnly block fun page => page = trailer.toBlock) c')
      fun _ _ address command => address = block ∧ command = .writing address trailer.toBlock.bytes := by
    refine stepsKeep_saidSince (permitsKeys_writesOnly _) ?_
    rintro sector' selector' address command ⟨rfl, rfl⟩
    exact ⟨hin.exists_block, fun reply => writesOnly_writing trailer.toBlock fun _ => rfl⟩
  have hpage : trailer.toBytes.length = blockSize := trailer.length_toBytes
  have hwrites : Ensures t.responder (withAuthRetry sector selector (Coupler.writePage block trailer.toBytes)) c
      fun _ c' => (c'.state.geometry = c.state.geometry ∧
        SaidSince c.history (WritesOnly block fun page => page = trailer.toBlock) c') ∧ SameSetup c.state c'.state :=
    (hsteps.everywhere.andSetup c.state).writePage trivial hpage ⟨rfl, rfl⟩ c ⟨⟨rfl, saidSince_history _ c⟩, .refl _⟩
  have hdenied := ensures_withAuthRetry_of_findKey (acceptable_writePage (t := t) block hpage) hc hin.sector_lt hkey
  have hrewrites := ensures_withAuthRetry_rewrites (t := t) (unwritten_history block c) sector selector trailer.toBlock
  refine ((hwrites.and hdenied).and hrewrites).mono ?_
  rintro x c' ⟨⟨⟨⟨-, attempt, hsaid, honly⟩, hsetup⟩, hdenied⟩, hrewrites⟩
  refine ⟨hsetup, attempt, hsaid, honly, ?_⟩
  -- Success ends with the acknowledged write, and a failure with an exchange that has failed.
  match x with
  | .ok () =>
    rcases hrewrites with ⟨said, update, hlast, -, hupdate⟩
    rw [hsaid, List.append_assoc] at hlast
    refine ⟨update, ?_, hupdate⟩
    rw [List.append_cancel_left hlast, List.getLast?_concat]
  | .error (.error e) =>
    rcases hdenied.endsFailed with ⟨said, hsaid', hfailed⟩
    rw [List.append_cancel_left (hsaid.symm.trans hsaid')]
    exact hfailed
  | .error (.defect d) =>
    rcases hdenied with ⟨said, -, h⟩
    exact h

/-! ## The whole operation -/

/-- All that applying a policy can come to, with the present trailer kept. -/
def PolicyApplied {α : Type} (sector : UInt8) (selector : KeySelector) (c : Situation Link Card ω) (x : Except Failure α)
    (c' : Situation Link Card ω) : Prop :=
  ((∃ f, x = .error f) ∧ c' = c) ∨ ∃ block code entry trailer read attempt back,
    c.state.trailerAddress sector = .ok block ∧ selector.code? = some code ∧ c.state.findKey selector = .ok entry ∧
      c.state.plannedTrailer sector selector = .ok trailer ∧ c'.history = c.history ++ read ++ attempt ++ back ∧
        PolicyTrace sector block code entry trailer x read attempt back

section PolicyApplied

variable {α β : Type} {c' : Situation Link Card ω}

theorem PolicyApplied.result {a : α} (h : PolicyApplied sector selector c (.ok a : Except Failure α) c') (b : β) :
    PolicyApplied sector selector c (.ok b : Except Failure β) c' := by
  rcases h with ⟨⟨f, hf⟩, -⟩ |
    ⟨block, code, entry, trailer, read, attempt, back, hblock, hcode, hkey, hplan, hsaid, htrace⟩
  · cases hf
  · refine .inr ⟨block, code, entry, trailer, read, attempt, back, hblock, hcode, hkey, hplan, hsaid, ?_⟩
    cases htrace with
    | written hread hattempt hlast hupdate => exact .written hread hattempt hlast hupdate

theorem PolicyApplied.cast {f : Failure} (h : PolicyApplied sector selector c (.error f : Except Failure α) c') :
    PolicyApplied sector selector c (.error f : Except Failure β) c' := by
  rcases h with ⟨-, hsame⟩ |
    ⟨block, code, entry, trailer, read, attempt, back, hblock, hcode, hkey, hplan, hsaid, htrace⟩
  · exact .inl ⟨⟨f, rfl⟩, hsame⟩
  · refine .inr ⟨block, code, entry, trailer, read, attempt, back, hblock, hcode, hkey, hplan, hsaid, ?_⟩
    cases htrace with
    | unread hread => exact .unread hread
    | failed hread hattempt hfailed hshown hpage hback => exact .failed hread hattempt hfailed hshown hpage hback

end PolicyApplied

/-- A policy for which there is no trailer is refused at once. -/
theorem ensures_applyPolicy_of_planned {keepPrevious : Bool} {Q : Except Failure Unit → Situation Link Card ω → Prop}
    (off : ∀ e, c.state.trailerAddress sector = .error e → Q (.error e) c)
    (unplanned : ∀ e, c.state.plannedTrailer sector selector = .error e → Q (.error e) c)
    (planned : ∀ block trailer, c.state.trailerAddress sector = .ok block →
      c.state.plannedTrailer sector selector = .ok trailer →
      Ensures t.responder (applyPolicy sector selector keepPrevious) c Q) :
    Ensures t.responder (applyPolicy sector selector keepPrevious) c Q := by
  cases hblock : c.state.trailerAddress sector with
  | error e =>
    refine ensures_inspect_bind (fun block h => ?_) off
    rw [hblock] at h
    cases h
  | ok block =>
    cases hplan : c.state.plannedTrailer sector selector with
    | error e =>
      refine ensures_inspect_bind (fun _ _ => ensures_inspect_bind (fun trailer h => ?_) unplanned) off
      rw [hplan] at h
      cases h
    | ok trailer => exact planned block trailer hblock hplan

theorem ensures_applyPolicy_trace (hc : Primed c.state) (sector : UInt8) (selector : KeySelector) :
    Ensures t.responder (applyPolicy sector selector true) c (PolicyApplied sector selector c) := by
  refine ensures_applyPolicy_of_planned (fun f _ => .inl ⟨⟨f, rfl⟩, rfl⟩) (fun f _ => .inl ⟨⟨f, rfl⟩, rfl⟩) ?_
  intro block trailer hblock hplan
  rcases plannedTrailer_eq_ok hplan with ⟨-, -, -, entry, -, -, -, -, hkey, -⟩
  rcases code?_of_findKey hkey with ⟨code, hcode⟩
  have hsector := (inSector_of_trailerAddress hblock).2.sector_lt
  have hdone : ∀ {x : Except Failure Unit} {c' : Situation Link Card ω} {read attempt back : List (Event Link)},
      c'.history = c.history ++ read ++ attempt ++ back → PolicyTrace sector block code entry trailer x read attempt back →
      PolicyApplied sector selector c x c' :=
    fun hsaid htrace => .inr ⟨block, code, entry, trailer, _, _, _, hblock, hcode, hkey, hplan, hsaid, htrace⟩
  refine ensures_applyPolicy (R := fun previous c' => Primed c'.state ∧ SameSetup c.state c'.state ∧
    ∃ read p data, c'.history = c.history ++ read ∧ (∀ event ∈ read, NoWrite event) ∧ previous = some p ∧
      Shown block data read ∧ SectorTrailer.toBytes p = data.take blockSize)
    (fun f _ => .inl ⟨⟨f, rfl⟩, rfl⟩) (fun f _ => .inl ⟨⟨f, rfl⟩, rfl⟩) ?_ (fun h => nomatch h) ?_
  · -- What was read, what was tried and what was sent back are put together to the trace of the whole.
    intro _
    refine (((ensures_readTrailer_primed hc sector).and (ensures_readTrailer_noWrite sector c)).and
      (ensures_readTrailer_shown hblock)).mono ?_
    rintro x c' ⟨⟨⟨hc', hsetup⟩, -, read, hread, hquiet⟩, said, hsaid, hshown⟩
    cases List.append_cancel_left (hsaid.symm.trans hread)
    cases x with
    | error f => exact hdone (by simp [hread]) (.unread hquiet)
    | ok previous =>
      rcases hshown previous rfl with ⟨data, hdata, hbytes⟩
      exact ⟨hc', hsetup, read, previous, data, hread, hquiet, rfl, hdata, hbytes⟩
  · rintro _ _ _ c' hblock' hplan' ⟨hc', hsetup, read, previous, data, hread, hquiet, rfl, hshown, hbytes⟩
    cases hblock.symm.trans hblock'
    cases hplan.symm.trans hplan'
    have hattempt := ensures_attempt_trace (t := t) hc' ((hsetup.trailerAddress sector).trans hblock)
      ((hsetup.findKey selector).trans hkey) trailer
    refine ensures_writeOrRollBack (hattempt.mono ?_)
    rintro x c'' ⟨hsetup', attempt, hsaid, honly, hend⟩
    have hsaid' : c''.history = c.history ++ read ++ attempt := by rw [hsaid, hread]
    match x with
    | .ok () =>
      rcases hend with ⟨update, hlast, hupdate⟩
      exact hdone (by simp [hsaid']) (.written hquiet honly hlast hupdate)
    | .error (.error e) =>
      -- The configuration is still that of the start, so the sector can be authorized for the rollback.
      have hsetup'' := hsetup.trans hsetup'
      have hready : c''.state.authorizable sector selector = .ok entry :=
        (hsetup''.authorizable sector selector).trans (hc.legal.authorizable hsector hkey)
      simp only [AfterWrite]
      refine (ensures_rollBack_trace hready hcode previous).mono ?_
      rintro _ c₃ ⟨rfl, back, hback, htrace⟩
      exact hdone (by rw [hback, hsaid']) (.failed hquiet honly hend hshown hbytes htrace)
    | .error (.defect d) => exact hend.elim

/-- Whatever failed while the new trailer was to be written, the old one is sent as soon as its key is loaded and accepted
once more.  Nothing else decides, and in particular not whether the new one was ever sent. -/
theorem policyTrace_of_applyPolicy (hc : Reachable t c) (sector : UInt8) (selector : KeySelector) :
    PolicyApplied sector selector c (exec t.responder (perform (.applyPolicy sector selector true)) c).1
      (exec t.responder (perform (.applyPolicy sector selector true)) c).2 := by
  have hrun : Ensures t.responder (perform (.applyPolicy sector selector true)) c (PolicyApplied sector selector c) := by
    refine (ensures_applyPolicy_trace hc.primed sector selector).bind ?_ ?_
    · intro _ _ h
      exact ensures_pure (h.result none)
    · intro _ _ h
      exact h.cast
  exact hrun

/-- Both keys are configured, and sector 1 is authenticated under key A.  The reader will refuse the second command from
here on. -/
def beforeRefusedLoad : Situation Link Card (List Bool × Tag) :=
  after (Tag.transport Tag.hideKeyA).refusing
    [.setKey .a .transport .nonVolatile 0, .setKey .b .transport .nonVolatile 1, .readTrailer 1]
    (start .small ([false, false, false, false, true], Tag.delivered))

/-- The reader refuses to load key B for the write.  No new trailer is sent, and the old one is written back without its
key A. -/
theorem policyTrace_of_applyPolicy_notLoaded :
    let run := exec (Tag.transport Tag.hideKeyA).refusing.responder (perform (.applyPolicy 1 .b true)) beforeRefusedLoad
    let shown : Bytes := List.replicate 6 0 ++ [0xff, 0x07, 0x80, 0x69, 0xff, 0xff, 0xff, 0xff, 0xff, 0xff]
    PolicyApplied 1 .b beforeRefusedLoad run.1 run.2 ∧ run.1 = .error (.error (.loadKeyFailed ⟨0x6f, 0x00⟩)) ∧
      run.2.history = beforeRefusedLoad.history ++
        [⟨.isConnected, true⟩, ⟨.transmit (WireCommand.read 7).bytes, Tag.accepted shown⟩,
          ⟨.isConnected, true⟩, ⟨.transmit (WireCommand.load .nonVolatile 1 .transport).bytes, .ok [0x6f, 0x00]⟩,
          ⟨.isConnected, true⟩, ⟨.transmit (WireCommand.load .nonVolatile 1 .transport).bytes, Tag.accepted []⟩,
          ⟨.isConnected, true⟩, ⟨.transmit (WireCommand.authenticate 4 0x61 1).bytes, Tag.accepted []⟩,
          ⟨.isConnected, true⟩, ⟨.transmit (WireCommand.write 7 (Block.fit shown)).bytes, Tag.accepted []⟩] := by
  intro run shown
  have hreachable : Reachable (Tag.transport Tag.hideKeyA).refusing beforeRefusedLoad := (Reachable.start .small _).after _
  exact ⟨policyTrace_of_applyPolicy hreachable 1 .b, rfl, by decide +kernel⟩

end Card
end SectorCard
