import SectorCard.Proofs.DataOperations

/-!
# Steps of trailer updates

Rules for the operations that replace a trailer.  Each is made of accesses that other rules speak about; what
is said here is in which order they come and what becomes of their results.
-/

namespace SectorCard.Card

open Procedure

variable {ω : Type} {t : Transport ω} {c : Situation Link Card ω}

/-! ## The planned trailer -/

theorem bind_eq_ok {ε α β : Type} {x : Except ε α} {f : α → Except ε β} {b : β} (h : (x >>= f) = .ok b) :
    ∃ a, x = .ok a ∧ f a = .ok b := by
  cases x with
  | error e => cases h
  | ok a => exact ⟨a, rfl, h⟩

/-- A planned trailer is made of the configured keys and of checked access bits for the policy. -/
theorem plannedTrailer_eq_ok {card : Card} {sector : UInt8} {selector : KeySelector} {trailer : SectorTrailer}
    (h : card.plannedTrailer sector selector = .ok trailer) :
    ∃ policy a b entry access, card.policy sector = .ok policy ∧ card.findKey .a = .ok a ∧
      card.findKey .b = .ok b ∧ card.findKey selector = .ok entry ∧ AccessBits.make policy = .ok access ∧
      access.validate = .ok () ∧ trailer = ⟨a.key, access, b.key⟩ := by
  unfold plannedTrailer at h
  rcases bind_eq_ok h with ⟨policy, hpolicy, h⟩
  rcases bind_eq_ok h with ⟨a, ha, h⟩
  rcases bind_eq_ok h with ⟨b, hb, h⟩
  rcases bind_eq_ok h with ⟨_, -, h⟩
  rcases bind_eq_ok h with ⟨entry, hentry, h⟩
  rcases bind_eq_ok h with ⟨access, haccess, h⟩
  rcases bind_eq_ok h with ⟨_, hvalid, h⟩
  cases h
  exact ⟨policy, a, b, entry, access, hpolicy, Failure.lift_eq_ok_iff.1 ha, Failure.lift_eq_ok_iff.1 hb,
    Failure.lift_eq_ok_iff.1 hentry, Failure.lift_eq_ok_iff.1 haccess, Failure.lift_eq_ok_iff.1 hvalid, rfl⟩

theorem validate_of_plannedTrailer {card : Card} {sector : UInt8} {selector : KeySelector} {trailer : SectorTrailer}
    (h : card.plannedTrailer sector selector = .ok trailer) : trailer.validate = .ok () := by
  rcases plannedTrailer_eq_ok h with ⟨_, _, _, _, _, -, -, -, -, -, hvalid, rfl⟩
  exact hvalid

/-! ## Changing a trailer -/

/-- A trailer with contradictory access bits is refused before anything is sent, and the cache entry is
dropped only when the write has succeeded. -/
theorem ensures_changeTrailer {sector : UInt8} {trailer : SectorTrailer}
    {Q : Except Failure Unit → Situation Link Card ω → Prop}
    (off : ∀ e, c.state.trailerAddress sector = .error e → Q (.error e) c)
    (invalid : ∀ e, trailer.validate = .error e → Q (.error (.error e)) c)
    (written : ∀ address, c.state.trailerAddress sector = .ok address → trailer.validate = .ok () →
      Ensures t.responder (withAuthRetry sector .b (Coupler.writePage address trailer.toBytes)) c
        fun x c' => match x with
          | .ok () => Q (.ok ()) { c' with state := invalidate sector c'.state }
          | .error e => Q (.error e) c') :
    Ensures t.responder (changeTrailer sector trailer) c Q := by
  unfold changeTrailer
  refine ensures_inspect_bind (fun address haddress => ?_) off
  refine ensures_require_bind (fun _ hvalid => ?_) invalid
  refine (written address haddress hvalid).bind (fun _ c' h => ?_) (fun _ _ h => h)
  simpa [Ensures] using h

/-! ## Rolling back -/

/-- The result of a roll-back: only a defect comes through. -/
def unlessDefect : Except Failure Unit → Except Failure Unit
  | .error (.defect d) => .error (.defect d)
  | _ => .ok ()

theorem ensures_rollBack {sector address : UInt8} {selector : KeySelector} {previous : SectorTrailer}
    {Q : Except Failure Unit → Situation Link Card ω → Prop}
    (h : Ensures t.responder (authorize sector selector >>= fun _ =>
      onCoupler (Coupler.writePage address previous.toBytes)) c fun x c' => Q (unlessDefect x) c') :
    Ensures t.responder (rollBack sector address selector previous) c Q := by
  unfold rollBack
  refine h.bind_attempt ?_
  intro x c' hQ
  split
  · exact ensures_throw hQ
  · rename_i hother
    refine ensures_pure ?_
    unfold unlessDefect at hQ
    split at hQ
    · exact absurd rfl (hother _)
    · exact hQ

/-! ## Applying a policy -/

def previousTrailer (sector : UInt8) (keepPrevious : Bool) : CardM (Option SectorTrailer) :=
  if keepPrevious then some <$> readTrailer sector else pure none

def writeOrRollBack (sector address : UInt8) (selector : KeySelector) (trailer : SectorTrailer)
    (previous : Option SectorTrailer) : CardM Unit := do
  let written ← Procedure.attempt (withAuthRetry sector selector (Coupler.writePage address trailer.toBytes))
  match written, previous with
  | .ok (), _ => modify (invalidate sector)
  | .error (.error e), some previous => do
    rollBack sector address selector previous
    throw (.error e)
  | .error failure, _ => throw failure

theorem applyPolicy_eq (sector : UInt8) (selector : KeySelector) (keepPrevious : Bool) :
    applyPolicy sector selector keepPrevious = (do
      let address ← inspect fun card => card.trailerAddress sector
      let trailer ← inspect fun card => card.plannedTrailer sector selector
      let previous ← previousTrailer sector keepPrevious
      writeOrRollBack sector address selector trailer previous) := by
  cases keepPrevious <;> rfl

/-- What has to hold after the write: only an error is followed by a roll-back, and only if there is something to
go back to. -/
def AfterWrite (t : Transport ω) (sector address : UInt8) (selector : KeySelector) (previous : Option SectorTrailer)
    (Q : Except Failure Unit → Situation Link Card ω → Prop) :
    Except Failure Unit → Situation Link Card ω → Prop := fun x c =>
  match x, previous with
  | .ok (), _ => Q (.ok ()) { c with state := invalidate sector c.state }
  | .error (.error e), some previous =>
    Ensures t.responder (rollBack sector address selector previous) c fun y c' => match y with
      | .ok () => Q (.error (.error e)) c'
      | .error f => Q (.error f) c'
  | .error f, _ => Q (.error f) c

theorem ensures_writeOrRollBack {sector address : UInt8} {selector : KeySelector} {trailer : SectorTrailer}
    {previous : Option SectorTrailer} {Q : Except Failure Unit → Situation Link Card ω → Prop}
    (written : Ensures t.responder (withAuthRetry sector selector (Coupler.writePage address trailer.toBytes)) c
      (AfterWrite t sector address selector previous Q)) :
    Ensures t.responder (writeOrRollBack sector address selector trailer previous) c Q := by
  refine written.bind_attempt ?_
  rintro ((e | d) | ⟨⟩) c' h
  · cases previous with
    | none => exact ensures_throw h
    | some previous =>
      simp only [AfterWrite] at h
      exact Ensures.bind h (fun _ c'' hQ => ensures_throw hQ) (fun _ _ hQ => hQ)
  · cases previous with
    | none => exact ensures_throw h
    | some previous => exact ensures_throw h
  · simpa [Ensures, AfterWrite] using h

/-- The previous trailer is read before the new one is written.  `R` is what holds between reading and
writing. -/
theorem ensures_applyPolicy {sector : UInt8} {selector : KeySelector} {keepPrevious : Bool}
    {Q : Except Failure Unit → Situation Link Card ω → Prop}
    {R : Option SectorTrailer → Situation Link Card ω → Prop}
    (off : ∀ e, c.state.trailerAddress sector = .error e → Q (.error e) c)
    (unplanned : ∀ e, c.state.plannedTrailer sector selector = .error e → Q (.error e) c)
    (kept : keepPrevious = true → Ensures t.responder (readTrailer sector) c fun x c' => match x with
      | .ok previous => R (some previous) c'
      | .error e => Q (.error e) c')
    (notKept : keepPrevious = false → R none c)
    (written : ∀ address trailer previous c', c.state.trailerAddress sector = .ok address →
      c.state.plannedTrailer sector selector = .ok trailer → R previous c' →
      Ensures t.responder (writeOrRollBack sector address selector trailer previous) c' Q) :
    Ensures t.responder (applyPolicy sector selector keepPrevious) c Q := by
  rw [applyPolicy_eq]
  refine ensures_inspect_bind (fun address haddress => ?_) (fun e he => off e he)
  refine ensures_inspect_bind (fun trailer htrailer => ?_) (fun e he => unplanned e he)
  -- What was kept is the present trailer or nothing, and that is all the write needs to know.
  refine Ensures.bind (R := fun x c' => match x with
    | .ok previous => R previous c'
    | .error e => Q (.error e) c') ?_ (fun previous c' hR => written address trailer previous c' haddress htrailer hR)
    (fun _ _ h => h)
  cases keepPrevious with
  | true =>
    refine Ensures.map ((kept rfl).mono ?_)
    intro x c' h
    cases x <;> exact h
  | false => exact ensures_pure (notKept rfl)

end SectorCard.Card
