import SectorCard.Proofs.Dump

/-!
# How tasks end

The only way to miss a report is a broken rule, and no task comes to one: whatever the card is like and whatever is on
the other side of the link, a task ends with a report whose status is zero or one (`CardTask.reports_perform`).
-/

namespace SectorCard

namespace Console

open Procedure

variable {ω α : Type} {t : Transport ω}

/-! ## Procedures that end with a report -/

/-- The status is the one of a run that did what it was asked, or of one that stopped. -/
def Report.Regular (report : Report) : Prop := report.status = 0 ∨ report.status = 1

theorem Report.regular_finished (lines : List Line) : (Report.finished lines).Regular := .inl rfl

theorem Report.regular_stopped (line : Line) : (Report.stopped line).Regular := .inr rfl

/-- Whatever was done before, a procedure ends with a regular report. -/
def Reports (t : Transport ω) (p : CardM Report) : Prop :=
  ∀ c, Ensures t.responder p c fun x _ => ∃ report : Report, x = .ok report ∧ report.Regular

theorem reports_pure {report : Report} (h : report.Regular) : Reports t (pure report) :=
  fun _ => ensures_pure ⟨report, rfl, h⟩

/-- What has broken no rule is reported on, whether it failed or not. -/
theorem reports_reporting {p : CardM α} {words : String → String} {next : α → CardM Report}
    (h : Faultless t.responder p) (hnext : ∀ a, Reports t (next a)) : Reports t (reporting p words next) := by
  intro c
  refine (h c).bind_attempt ?_
  rintro ((e | d) | a) c' hx
  · exact reports_pure (Report.regular_stopped _) c'
  · exact hx.elim
  · exact hnext a c'

/-! ## The tasks -/

theorem reports_showBlocks (block count : UInt16) : Reports t (showBlocks block count) :=
  reports_reporting (Card.faultless_readRun block fun _ hn => Bytes.le_of_mem_pieceLengths hn)
    fun _ => reports_pure (Report.regular_finished _)

theorem reports_writeBlocks (block : UInt16) (text : String) : Reports t (writeBlocks block text) := by
  unfold writeBlocks
  split
  · exact reports_pure (Report.regular_stopped _)
  · exact reports_pure (Report.regular_stopped _)
  · exact reports_reporting (Card.faultless_writeRun block fun _ hp => Bytes.length_le_of_mem_pieces hp)
      fun _ => reports_pure (Report.regular_finished _)

/-- A dump of any sectors, also of those that the card does not have. -/
theorem reports_dumpSectors (sectors : List UInt8) : Reports t (dumpSectors sectors) := by
  -- Whatever a sector gives, a report has its lines in front of those of the rest.
  induction sectors with
  | nil => exact reports_pure (Report.regular_finished [])
  | cons sector rest ih =>
    intro c
    refine ensures_get_bind ?_
    cases hfirst : c.state.geometry.firstBlock sector with
    | error e => exact reports_pure (Report.regular_stopped _) c
    | ok first =>
      cases htrailer : c.state.geometry.trailerBlock sector with
      | error e => exact reports_pure (Report.regular_stopped _) c
      | ok trailer =>
        refine ((legible_any t c.state.geometry).dumpSector rfl hfirst htrailer).bind_of_exists ?_
        rintro lines c' -
        refine (ih c').bind_of_exists ?_
        rintro report c'' hreport
        exact ensures_pure ⟨report.after lines, rfl, hreport⟩

theorem reports_showSectors (sector : Option UInt8) : Reports t (showSectors sector) := by
  cases sector with
  | some sector => exact reports_dumpSectors [sector]
  | none => exact fun c => ensures_get_bind (reports_dumpSectors _ c)

theorem reports_showTrailer (sector : UInt8) : Reports t (showTrailer sector) :=
  reports_reporting (Card.faultless_readTrailer sector) fun _ => reports_pure (Report.regular_finished _)

theorem reports_updateTrailer (sector : UInt8) (policy : AccessPolicy) (selector : KeySelector)
    (keepPrevious confirmed : Bool) : Reports t (updateTrailer sector policy selector keepPrevious confirmed) := by
  cases confirmed with
  | false => exact reports_pure (Report.regular_stopped _)
  | true =>
    exact reports_reporting (faultless_change _) fun _ =>
      reports_reporting (Card.faultless_applyPolicy sector selector keepPrevious)
        fun _ => reports_pure (Report.regular_finished _)

/-- Every task on a card ends with a report. -/
theorem CardTask.reports_perform (task : CardTask) : Reports t task.perform := by
  cases task with
  | read block count => exact reports_showBlocks block count
  | write block text => exact reports_writeBlocks block text
  | dump sector => exact reports_showSectors sector
  | trailer sector => exact reports_showTrailer sector
  | apply sector policy selector keepPrevious confirmed =>
    exact reports_updateTrailer sector policy selector keepPrevious confirmed

/-! ## Configuring keys -/

/-- If a key was refused, the run stops. -/
theorem Invocation.status_of_configure {i : Invocation} {selector : KeySelector} {key : Key} {card : Card}
    {report : Report} (h : i.configure selector key card = .error report) : report.status = 1 := by
  unfold Invocation.configure at h
  split at h
  · cases h
  · cases h
    rfl

theorem Invocation.status_of_card {i : Invocation} {report : Report} (h : i.card = .error report) :
    report.status = 1 := by
  unfold Invocation.card at h
  cases hfirst : i.configure .a i.keyA (.fresh .fresh i.geometry) with
  | error stopped =>
    rw [hfirst] at h
    cases h
    exact status_of_configure hfirst
  | ok card =>
    rw [hfirst] at h
    exact status_of_configure h

end Console
end SectorCard
