import SectorCard.Proofs.Restoring
import SectorCard.Proofs.SentCommands

/-!
# What a roll-back can do

A policy is applied in two parts.  In the first one the new trailer is written; if that fails, the old one may be written
back in the second.  The second part goes through three exchanges of its own, and each of them can fail in any way.  None
of this changes what is reported, and at most one more update is sent (`applyPolicy_bounded`).
-/

namespace SectorCard

open Procedure

variable {ω : Type} {t : Transport ω} {sector block code : UInt8} {selector : KeySelector} {entry : KeyEntry}
  {trailer : SectorTrailer} {keepPrevious : Bool}

namespace Card

/-! ## The two parts -/

/-- What the first part of applying a policy has come to: the address of the trailer, the trailer to go back to, and
the result of writing the new one. -/
structure WriteStep where
  block : UInt8
  previous : Option SectorTrailer
  written : Except Failure Unit

/-- The first part of applying a policy, up to and including the write of the new trailer. -/
def writeStep (sector : UInt8) (selector : KeySelector) (keepPrevious : Bool) : CardM WriteStep := do
  let block ← inspect fun card => card.trailerAddress sector
  let trailer ← inspect fun card => card.plannedTrailer sector selector
  let previous ← previousTrailer sector keepPrevious
  let written ← Procedure.attempt (withAuthRetry sector selector (Coupler.writePage block trailer.toBytes))
  pure ⟨block, previous, written⟩

/-- The second part of applying a policy. -/
def conclude (sector : UInt8) (selector : KeySelector) (step : WriteStep) : CardM Unit :=
  match step.written, step.previous with
  | .ok (), _ => modify (invalidate sector)
  | .error (.error e), some previous => do
    rollBack sector step.block selector previous
    throw (.error e)
  | .error failure, _ => throw failure

theorem applyPolicy_eq_writeStep (sector : UInt8) (selector : KeySelector) (keepPrevious : Bool) :
    applyPolicy sector selector keepPrevious = writeStep sector selector keepPrevious >>= conclude sector selector := by
  rw [applyPolicy_eq]
  unfold writeStep writeOrRollBack
  simp only [bind_assoc, pure_bind]
  rfl

/-! ## The error that is reported -/

variable {c : Situation Link Card ω}

/-- The second part reports what has gone wrong in the first one. -/
theorem ensures_conclude_of_failed (sector block : UInt8) (selector : KeySelector) (previous : Option SectorTrailer)
    (f : Failure) (c : Situation Link Card ω) :
    Ensures t.responder (conclude sector selector ⟨block, previous, .error f⟩) c fun x _ => x = .error f := by
  match f, previous with
  | .error e, some previous =>
    refine (ensures_rollBack_ok sector block selector previous c).bind (fun _ _ _ => ensures_throw rfl) ?_
    intro _ _ h
    cases h
  | .error e, none => exact ensures_throw rfl
  | .defect d, some _ => exact ensures_throw rfl
  | .defect d, none => exact ensures_throw rfl

/-- What goes wrong in the first part is what is reported. -/
theorem exec_applyPolicy_of_failed {step : WriteStep} {f : Failure}
    (hstep : (exec t.responder (writeStep sector selector keepPrevious) c).1 = .ok step) (hfailed : step.written = .error f) :
    (exec t.responder (applyPolicy sector selector keepPrevious) c).1 = .error f := by
  rcases step with ⟨block, previous, written⟩
  cases hfailed
  have hfirst : Ensures t.responder (writeStep sector selector keepPrevious) c fun x _ =>
      x = .ok ⟨block, previous, .error f⟩ ∧ True := ⟨hstep, trivial⟩
  have hboth : Ensures t.responder (writeStep sector selector keepPrevious >>= conclude sector selector) c fun x _ =>
      x = .error f :=
    hfirst.bind_of_ok fun c' _ => ensures_conclude_of_failed sector block selector previous f c'
  rw [applyPolicy_eq_writeStep]
  exact hboth

/-! ## The updates that are sent -/

/-- What is said after the write of the new trailer: nothing is sent back, or the key is loaded and accepted once more and
then the front of what was read is sent, once. -/
inductive SentBack (sector block code : UInt8) (entry : KeyEntry) (read : List (Event Link)) : List (Event Link) → Prop where
  | unsent {back : List (Event Link)} (hquiet : sent .updateBinary back = []) : SentBack sector block code entry read back
  | restored {loaded accepted reply : Except CardError Bytes} {data : Bytes} {page : Block}
      (hloaded : (Link.acknowledged? loaded).isSome = true) (haccepted : (Link.acknowledged? accepted).isSome = true)
      (hshown : Shown block data read) (hpage : page.bytes = data.take blockSize) :
      SentBack sector block code entry read (opening sector code entry loaded accepted ++
        [⟨.isConnected, true⟩, ⟨.transmit (WireCommand.write block page).bytes, reply⟩])

/-- At most one update is sent back. -/
theorem SentBack.length_le {read back : List (Event Link)} (h : SentBack sector block code entry read back) :
    (sent .updateBinary back).length ≤ 1 := by
  cases h with
  | unsent hquiet => simp [hquiet]
  | restored => exact Nat.le_refl 1

theorem ensures_rollBack_sentBack {read : List (Event Link)} {data : Bytes} {previous : SectorTrailer}
    (hready : c.state.authorizable sector selector = .ok entry) (hcode : selector.code? = some code)
    (hshown : Shown block data read) (hpage : previous.toBytes = data.take blockSize) :
    Ensures t.responder (rollBack sector block selector previous) c fun _ c' =>
      ∃ back, c'.history = c.history ++ back ∧ SentBack sector block code entry read back := by
  refine ((ensures_rollBack_trace hready hcode previous).and
    (ensures_rollBack_sent sector block selector previous c)).mono ?_
  rintro _ c' ⟨⟨-, back, hback, htrace⟩, hsent⟩
  refine ⟨back, hback, ?_⟩
  cases htrace with
  | sent hloaded haccepted => exact .restored hloaded haccepted hshown hpage
  | stopped hquiet _ =>
    rcases hsent with ⟨said, hsaid, hnone⟩ | ⟨said, hsaid, hone⟩
    · cases List.append_cancel_left (hback.symm.trans hsaid)
      exact .unsent hnone
    · -- An update would have been said.
      cases List.append_cancel_left (hback.symm.trans hsaid)
      rcases event_of_mem_sent (hone ▸ List.mem_singleton_self _) with ⟨event, hmem, hrequest⟩
      exact absurd (by rw [hrequest, WireCommand.encode_writing]) (hquiet event hmem block previous.toBlock.bytes)

/-- What is said in the first part of applying a policy, if the present trailer is kept: no update while it is read, and
the new trailer twice at most while that is written. -/
structure StepUpdates (t : Transport ω) (sector block : UInt8) (trailer : SectorTrailer) (c : Situation Link Card ω)
    (read attempt : List (Event Link)) : Prop where
  reading : (exec t.responder (readTrailer sector) c).2.history = c.history ++ read
  unsent : sent .updateBinary read = []
  few : ∃ n ≤ 2, sent .updateBinary attempt = List.replicate n (WireCommand.write block trailer.toBlock).bytes

/-- What the first part has left behind for the second one: the configuration as before and, to go back to, the front
of what was read. -/
structure StepEnd (block : UInt8) (read : List (Event Link)) (c : Situation Link Card ω)
    (x : Except Failure WriteStep) (c' : Situation Link Card ω) : Prop where
  setup : SameSetup c.state c'.state
  step : ∀ step, x = .ok step → step.block = block ∧
    ∃ previous data, step.previous = some previous ∧ Shown block data read ∧ previous.toBytes = data.take blockSize

theorem ensures_writeStep_updates (hc : Primed c.state) (hblock : c.state.trailerAddress sector = .ok block)
    (hkey : c.state.findKey selector = .ok entry) (hplan : c.state.plannedTrailer sector selector = .ok trailer) :
    Ensures t.responder (writeStep sector selector true) c fun x c' => ∃ read attempt,
      c'.history = c.history ++ read ++ attempt ∧ StepUpdates t sector block trailer c read attempt ∧
        StepEnd block read c x c' := by
  refine ensures_inspect_bind_of_ok hblock (ensures_inspect_bind_of_ok hplan ?_)
  -- Between reading and writing: what was read is what there is to go back to, and no update was sent.
  refine Ensures.bind (R := fun x c' => Primed c'.state ∧ SameSetup c.state c'.state ∧ ∃ read,
    c'.history = c.history ++ read ∧ StepUpdates t sector block trailer c read [] ∧
      ∀ kept, x = .ok kept → ∃ previous data, kept = some previous ∧ Shown block data read ∧
        previous.toBytes = data.take blockSize) (Ensures.map ?_) ?_ ?_
  · have hhistory : Ensures t.responder (readTrailer sector) c fun _ c' =>
        c'.history = (exec t.responder (readTrailer sector) c).2.history := rfl
    refine ((((ensures_readTrailer_primed hc sector).and (ensures_readTrailer_unsent sector c)).and
      (ensures_readTrailer_shown hblock)).and hhistory).mono ?_
    rintro x c' ⟨⟨⟨⟨hc', hsetup⟩, read, hread, hunsent⟩, said, hsaid, hshown⟩, hhistory⟩
    cases List.append_cancel_left (hread.symm.trans hsaid)
    refine ⟨hc', hsetup, read, hread, ⟨hhistory ▸ hread, hunsent, 0, Nat.zero_le 2, rfl⟩, ?_⟩
    cases x with
    | error f => exact fun _ h => nomatch h
    | ok previous =>
      rintro _ ⟨⟩
      rcases hshown previous rfl with ⟨data, hdata, hbytes⟩
      exact ⟨previous, data, rfl, hdata, hbytes⟩
  · rintro kept c' ⟨hc', hsetup, read, hread, hupdates, hkept⟩
    have hattempt := ensures_attempt_trace (t := t) hc' ((hsetup.trailerAddress sector).trans hblock)
      ((hsetup.findKey selector).trans hkey) trailer
    have hsent := ensures_withAuthRetry_sent (t := t) sector selector block trailer.toBlock c'
    -- The attempt is recorded in the result, whatever it comes to; only its updates are counted here.
    refine (hattempt.and hsent).bind_attempt ?_
    rintro written c'' ⟨⟨hsetup', -⟩, n, hn, -, attempt, hsaid, hcount⟩
    rw [hread] at hsaid
    refine ensures_pure ⟨read, attempt, hsaid, ⟨hupdates.reading, hupdates.unsent, n, hn, hcount⟩,
      hsetup.trans hsetup', ?_⟩
    rintro _ ⟨⟩
    exact ⟨rfl, hkept kept rfl⟩
  · rintro f c' ⟨hc', hsetup, read, hread, hupdates, -⟩
    exact ⟨read, [], by rw [hread, List.append_nil], hupdates, hsetup, fun _ h => nomatch h⟩

/-- What is said while a policy is applied and the present trailer is kept, and the updates among it. -/
structure BoundedUpdates (t : Transport ω) (sector : UInt8) (selector : KeySelector) (block code : UInt8)
    (entry : KeyEntry) (trailer : SectorTrailer) (c c' : Situation Link Card ω) (read attempt back : List (Event Link)) :
    Prop extends StepUpdates t sector block trailer c read attempt where
  writing : (exec t.responder (writeStep sector selector true) c).2.history = c.history ++ read ++ attempt
  whole : c'.history = c.history ++ read ++ attempt ++ back
  back : SentBack sector block code entry read back

/-- No more than three updates are sent. -/
theorem BoundedUpdates.length_le {c' : Situation Link Card ω} {read attempt back : List (Event Link)}
    (h : BoundedUpdates t sector selector block code entry trailer c c' read attempt back) :
    ∃ commands, commands.length ≤ 3 ∧ SentSince .updateBinary c.history commands c' := by
  refine ⟨sent .updateBinary (read ++ attempt ++ back), ?_, read ++ attempt ++ back, ?_, rfl⟩
  · rcases h.few with ⟨n, hn, hsent⟩
    have hback := h.back.length_le
    simp only [sent_append, h.unsent, hsent, List.nil_append, List.length_append, List.length_replicate]
    omega
  · simp only [h.whole, List.append_assoc]

theorem ensures_conclude_sentBack {read : List (Event Link)} {c' : Situation Link Card ω} {step : WriteStep}
    (hready : c'.state.authorizable sector selector = .ok entry) (hcode : selector.code? = some code)
    (hstep : StepEnd block read c (.ok step) c') :
    Ensures t.responder (conclude sector selector step) c' fun _ c'' =>
      ∃ back, c''.history = c'.history ++ back ∧ SentBack sector block code entry read back := by
  have hnone : ∃ back, c'.history = c'.history ++ back ∧ SentBack sector block code entry read back :=
    ⟨[], (List.append_nil _).symm, .unsent rfl⟩
  rcases step with ⟨_, _, written⟩
  rcases hstep.step _ rfl with ⟨rfl, previous, data, rfl, hshown, hpage⟩
  match written with
  | .ok () =>
    unfold Ensures conclude
    simpa using hnone
  | .error (.error e) =>
    refine (ensures_rollBack_sentBack hready hcode hshown hpage).bind (fun _ _ h => ensures_throw h) (fun _ _ h => h)
  | .error (.defect d) => exact ensures_throw hnone

theorem ensures_applyPolicy_bounded (hc : Primed c.state) (sector : UInt8) (selector : KeySelector) :
    Ensures t.responder (applyPolicy sector selector true) c fun _ c' => c' = c ∨
      ∃ block code entry trailer read attempt back,
        c.state.trailerAddress sector = .ok block ∧ selector.code? = some code ∧ c.state.findKey selector = .ok entry ∧
          c.state.plannedTrailer sector selector = .ok trailer ∧
          BoundedUpdates t sector selector block code entry trailer c c' read attempt back := by
  refine ensures_applyPolicy_of_planned (fun _ _ => .inl rfl) (fun _ _ => .inl rfl) ?_
  intro block trailer hblock hplan
  rcases plannedTrailer_eq_ok hplan with ⟨-, -, -, entry, -, -, -, -, hkey, -⟩
  rcases code?_of_findKey hkey with ⟨code, hcode⟩
  have hready := hc.legal.authorizable (inSector_of_trailerAddress hblock).2.sector_lt hkey
  -- The two runs of the first part are one, so what is said of it can be said of the whole.
  have hhistory : Ensures t.responder (writeStep sector selector true) c fun _ c' =>
      c'.history = (exec t.responder (writeStep sector selector true) c).2.history := rfl
  rw [applyPolicy_eq_writeStep]
  refine ((ensures_writeStep_updates hc hblock hkey hplan).and hhistory).bind ?_ ?_
  · rintro step c' ⟨⟨read, attempt, hsaid, hupdates, hend⟩, hhistory⟩
    refine (ensures_conclude_sentBack ((hend.setup.authorizable sector selector).trans hready) hcode hend).mono ?_
    rintro _ c'' ⟨back, hback, hsent⟩
    exact .inr ⟨block, code, entry, trailer, read, attempt, back, hblock, hcode, hkey, hplan,
      { hupdates with writing := hhistory ▸ hsaid, whole := by rw [hback, hsaid], back := hsent }⟩
  · rintro f c' ⟨⟨read, attempt, hsaid, hupdates, -⟩, hhistory⟩
    exact .inr ⟨block, code, entry, trailer, read, attempt, [], hblock, hcode, hkey, hplan,
      { hupdates with writing := hhistory ▸ hsaid, whole := by rw [hsaid, List.append_nil], back := .unsent rfl }⟩

/-- Without a trailer to go back to, nothing is read, and no other trailer is sent than the new one. -/
theorem ensures_applyPolicy_unkept (sector : UInt8) (selector : KeySelector) (c : Situation Link Card ω) :
    Ensures t.responder (applyPolicy sector selector false) c fun _ c' => SentSince .readBinary c.history [] c' ∧
      (SentSince .updateBinary c.history [] c' ∨ ∃ block trailer n, c.state.trailerAddress sector = .ok block ∧
        c.state.plannedTrailer sector selector = .ok trailer ∧ n ≤ 2 ∧
        SentSince .updateBinary c.history (List.replicate n (WireCommand.write block trailer.toBlock).bytes) c') := by
  have hunread := sentSince_history .readBinary c
  have hunsent := sentSince_history .updateBinary c
  refine ensures_applyPolicy (R := fun previous c' => previous = none ∧ c' = c) (fun _ _ => ⟨hunread, .inl hunsent⟩)
    (fun _ _ => ⟨hunread, .inl hunsent⟩) (fun h => nomatch h) (fun _ => ⟨rfl, rfl⟩) ?_
  rintro block trailer _ c' hblock hplan ⟨rfl, rfl⟩
  have hquiet : Ensures t.responder (withAuthRetry sector selector (Coupler.writePage block trailer.toBytes)) c'
      fun _ c'' => SentSince .readBinary c'.history [] c'' :=
    ensures_withAuthRetry_unsent isAccess_readBinary
      (fun d hd => Coupler.ensures_writePage_unsent block trailer.toBlock hd) hunread
  -- The write sends its page, and the only thing it reads is the status.
  have hsent := ensures_withAuthRetry_sent (t := t) sector selector block trailer.toBlock c'
  refine ensures_writeOrRollBack ((hquiet.and hsent).mono ?_)
  rintro x c'' ⟨hquiet, n, hn, -, hsent⟩
  match x with
  | .ok () | .error (.error _) | .error (.defect _) =>
    exact ⟨hquiet, .inr ⟨block, trailer, n, hblock, hplan, hn, hsent⟩⟩

/-! ## Both -/

/-- The first part of applying a policy fails, and another card of the same state gets the same replies while it lasts. -/
structure FailsAlike {υ : Type} (t : Transport ω) (t' : Transport υ) (sector : UInt8) (selector : KeySelector)
    (c : Situation Link Card ω) (c' : Situation Link Card υ) (f : Failure) : Prop where
  failed : ∃ step, (exec t.responder (writeStep sector selector true) c).1 = .ok step ∧ step.written = .error f
  state : c'.state = c.state
  replies : ∃ said, (exec t.responder (writeStep sector selector true) c).2.history = c.history ++ said ∧
    Dialogue.Replays t'.responder said c'.world

theorem FailsAlike.errors {υ : Type} {t' : Transport υ} {c' : Situation Link Card υ} {f : Failure}
    (h : FailsAlike t t' sector selector c c' f) :
    (exec t.responder (applyPolicy sector selector true) c).1 = .error f ∧
      (exec t'.responder (applyPolicy sector selector true) c').1 = .error f := by
  rcases h.failed with ⟨step, hstep, hfailed⟩
  rcases h.replies with ⟨said, hsaid, hreplays⟩
  have hsame := (exec_of_replays h.state hsaid hreplays).1
  exact ⟨exec_applyPolicy_of_failed hstep hfailed, exec_applyPolicy_of_failed (hsame.trans hstep) hfailed⟩

/-- Whatever happens after the new trailer could not be written, the error is the one of the write.  At most three updates
are sent: the new trailer twice at most, and the front of what was read once at most, after the key was loaded and accepted
anew.  Without a trailer to go back to, nothing is read, and the new trailer is all that is sent. -/
theorem applyPolicy_bounded (hc : Reachable t c) (sector : UInt8) (selector : KeySelector) :
    let kept := exec t.responder (applyPolicy sector selector true) c
    let unkept := exec t.responder (applyPolicy sector selector false) c
    (∀ {υ : Type} (t' : Transport υ) (c' : Situation Link Card υ) (f : Failure),
      FailsAlike t t' sector selector c c' f →
        kept.1 = .error f ∧ (exec t'.responder (applyPolicy sector selector true) c').1 = .error f) ∧
    (∃ commands, commands.length ≤ 3 ∧ SentSince .updateBinary c.history commands kept.2) ∧
    (kept.2 = c ∨ ∃ block code entry trailer read attempt back,
      c.state.trailerAddress sector = .ok block ∧ selector.code? = some code ∧ c.state.findKey selector = .ok entry ∧
        c.state.plannedTrailer sector selector = .ok trailer ∧
        BoundedUpdates t sector selector block code entry trailer c kept.2 read attempt back) ∧
    SentSince .readBinary c.history [] unkept.2 ∧
    (SentSince .updateBinary c.history [] unkept.2 ∨ ∃ block trailer n, c.state.trailerAddress sector = .ok block ∧
      c.state.plannedTrailer sector selector = .ok trailer ∧ n ≤ 2 ∧
      SentSince .updateBinary c.history (List.replicate n (WireCommand.write block trailer.toBlock).bytes) unkept.2) := by
  intro kept unkept
  have hbounded := ensures_applyPolicy_bounded (t := t) hc.primed sector selector
  refine ⟨fun _ _ _ h => h.errors, ?_, hbounded, ensures_applyPolicy_unkept sector selector c⟩
  rcases hbounded with hsame | ⟨_, _, _, _, _, _, _, -, -, -, -, hupdates⟩
  · exact ⟨[], Nat.zero_le 3, hsame.symm ▸ sentSince_history .updateBinary c⟩
  · exact hupdates.length_le

/-- As `beforeRefusal`, but the reader will also refuse the next command, with which the key is loaded once more. -/
def beforeRefusals : Situation Link Card (List Bool × Tag) :=
  { beforeRefusal with world := ([false, false, false, false, false, true, true], .delivered) }

/-- The trailer is written back in the one run and not in the other.  The error is the same. -/
theorem applyPolicy_bounded_refused :
    let t := (Tag.transport Tag.hideKeyA).refusing
    let run := exec t.responder (applyPolicy 1 .b true) beforeRefusal
    let other := exec t.responder (applyPolicy 1 .b true) beforeRefusals
    let update := (WireCommand.write 7 (SectorTrailer.toBlock ⟨.transport, ⟨0x8f, 0x07, 0x0f, 0x00⟩, .transport⟩)).bytes
    let shown : Bytes := List.replicate 6 0 ++ [0xff, 0x07, 0x80, 0x69, 0xff, 0xff, 0xff, 0xff, 0xff, 0xff]
    FailsAlike t t 1 .b beforeRefusal beforeRefusals (.error (.writeFailed ⟨0x6f, 0x00⟩)) ∧
      run.1 = .error (.error (.writeFailed ⟨0x6f, 0x00⟩)) ∧ other.1 = run.1 ∧
      SentSince .updateBinary beforeRefusal.history [update, (WireCommand.write 7 (Block.fit shown)).bytes] run.2 ∧
      SentSince .updateBinary beforeRefusals.history [update] other.2 ∧
      (∃ commands, commands.length ≤ 3 ∧ SentSince .updateBinary beforeRefusal.history commands run.2) ∧
      SentSince .readBinary beforeRefusal.history [] (exec t.responder (applyPolicy 1 .b false) beforeRefusal).2 := by
  intro t run other update shown
  have hreachable : Reachable t beforeRefusal := (Reachable.start .small _).after _
  have halike : FailsAlike t t 1 .b beforeRefusal beforeRefusals (.error (.writeFailed ⟨0x6f, 0x00⟩)) :=
    { failed := ⟨_, rfl, rfl⟩
      state := rfl
      replies := by
        let said := (exec t.responder (writeStep 1 .b true) beforeRefusal).2.history.drop beforeRefusal.history.length
        refine ⟨said, by decide +kernel, replays_exec (p := writeStep 1 .b true) ?_⟩
        decide +kernel }
  rcases applyPolicy_bounded hreachable 1 .b with ⟨herrors, hfew, -, hunread, -⟩
  rcases herrors t beforeRefusals _ halike with ⟨hrun, hother⟩
  refine ⟨halike, hrun, hother.trans hrun.symm, ?_, ?_, hfew, hunread⟩
  · refine ⟨run.2.history.drop beforeRefusal.history.length, ?_, ?_⟩ <;> decide +kernel
  · refine ⟨other.2.history.drop beforeRefusals.history.length, ?_, ?_⟩ <;> decide +kernel

end Card
end SectorCard
