import SectorCard.Proofs.SentCommands

/-!
# What is said during one access

An access to a page sends its command at most once, and succeeds exactly if the command is acknowledged: `AccessTrace`.
Keys may be loaded and tried before that, but those commands have instructions of their own.

`acknowledged` are the commands with a certain instruction that were acknowledged, in order.  An access fails with an error
of size only if the transport has reported one (`ReportsSize`).
-/

namespace SectorCard

open Procedure

variable {ω α β : Type} {t : Transport ω} {instruction : Instruction} {command : Command}
  {said later : List (Event Link)}

/-! ## Commands that were acknowledged -/

/-- The commands with a certain instruction that were acknowledged, in order. -/
def acknowledged (instruction : Instruction) (said : List (Event Link)) : List Bytes :=
  sent instruction (said.filter Event.succeeded)

@[simp] theorem acknowledged_append :
    acknowledged instruction (said ++ later) = acknowledged instruction said ++ acknowledged instruction later := by
  simp [acknowledged]

theorem acknowledged_sublist (instruction : Instruction) (said : List (Event Link)) :
    (acknowledged instruction said).Sublist (sent instruction said) :=
  List.filter_sublist.filterMap _

theorem acknowledged_of_unsent (h : sent instruction said = []) : acknowledged instruction said = [] :=
  List.eq_nil_of_sublist_nil (h ▸ acknowledged_sublist instruction said)

/-! ## Errors of the transport -/

/-- The transport itself has reported an error of size. -/
def ReportsSize (said : List (Event Link)) : Prop :=
  ∃ command, (⟨.transmit command, .error .size⟩ : Event Link) ∈ said

theorem ReportsSize.append_left (h : ReportsSize later) (said : List (Event Link)) : ReportsSize (said ++ later) :=
  h.imp fun _ hmem => List.mem_append_right _ hmem

/-- No command is refused for its size, unless the transport says so. -/
theorem reportsSize_of_demand {refusal : StatusWord → CardError} {w : ω}
    (h : t.demand command refusal w = .error .size) (hrefusal : ∀ status, refusal status ≠ .size) :
    ReportsSize (t.exchangeEvents command w) := by
  have hexchange : (t.exchange command w).1 = .error .size := by
    unfold Transport.demand at h
    split at h
    · split at h
      · cases h
      · exact absurd (Except.error.inj h) (hrefusal _)
    · rename_i e he
      cases h
      exact he
  -- The error has come from the exchange itself, and not from the status of a reply.
  unfold Transport.exchange at hexchange
  split at hexchange
  · rename_i hconnected
    cases hreply : (t.transmit command.encode w).1 with
    | error e =>
      have he : e = .size := by
        simpa [hreply, Except.bind] using hexchange
      exact ⟨command.encode, by simp [Transport.exchangeEvents, hconnected, hreply, he]⟩
    | ok bytes =>
      have hparse : Reply.parse bytes = .error .size := by
        simpa [hreply, Except.bind] using hexchange
      cases (Reply.parse_eq_error_iff.1 hparse).2
  · cases hexchange

/-! ## Traces -/

/-- What is said while the command of an access is brought to the card, if that is what it comes to. -/
inductive AccessTrace (command : Command) : Except Failure α → List (Event Link) → Prop where
  | done {a : α} {said : List (Event Link)} (hsent : sent command.instruction said = [command.encode])
      (hdone : acknowledged command.instruction said = [command.encode]) : AccessTrace command (.ok a) said
  | failed {said : List (Event Link)} {f : Failure} (hsent : sent command.instruction said <+: [command.encode])
      (hdone : acknowledged command.instruction said = []) (hsize : f = .error .size → ReportsSize said) :
      AccessTrace command (.error f) said

theorem AccessTrace.map {x : Except Failure α} (h : AccessTrace command x said) (f : α → β) :
    AccessTrace command (x.map f) said := by
  cases h with
  | done hsent hdone => exact .done hsent hdone
  | failed hsent hdone hsize => exact .failed hsent hdone hsize

theorem AccessTrace.sent_atMost {x : Except Failure α} (h : AccessTrace command x said) :
    sent command.instruction said <+: [command.encode] := by
  cases h with
  | done hsent _ => exact hsent ▸ List.prefix_rfl
  | failed hsent _ _ => exact hsent

/-- What is said before the command is sent adds nothing to it. -/
theorem AccessTrace.after {x : Except Failure α} (h : AccessTrace command x later)
    (hsaid : sent command.instruction said = []) : AccessTrace command x (said ++ later) := by
  have hnone := acknowledged_of_unsent hsaid
  cases h with
  | done hsent hdone =>
    exact .done (by rw [sent_append, hsaid, hsent]; rfl) (by rw [acknowledged_append, hnone, hdone]; rfl)
  | failed hsent hdone hsize =>
    exact .failed (by rw [sent_append, hsaid]; exact hsent) (by rw [acknowledged_append, hnone, hdone]; rfl)
      fun hf => (hsize hf).append_left said

/-- A single exchange is a trace, whether it comes to something or not. -/
theorem accessTrace_of_demand {refusal : StatusWord → CardError} (hrefusal : ∀ status, refusal status ≠ .size) (w : ω) :
    AccessTrace command (Failure.lift (t.demand command refusal w)) (t.exchangeEvents command w) := by
  cases h : t.demand command refusal w with
  | ok data =>
    have hconnected := (Transport.demand_eq_ok_iff.1 h).1
    have hall : (t.exchangeEvents command w).filter Event.succeeded = t.exchangeEvents command w := by
      rw [Transport.exchangeEvents_of_ok h, List.filter_eq_self]
      intro event hevent
      rcases List.mem_cons.1 hevent with rfl | hevent
      · rfl
      · rw [List.mem_singleton.1 hevent]
        exact Transport.succeeded_of_demand h
    exact .done (by rw [sent_exchangeEvents, if_pos hconnected])
      (by rw [acknowledged, hall, sent_exchangeEvents, if_pos hconnected])
  | error e =>
    have hsize : Failure.error e = .error .size → ReportsSize (t.exchangeEvents command w) := by
      rintro ⟨⟩
      exact reportsSize_of_demand h hrefusal
    cases hconnected : t.isConnected w with
    -- Without a card nothing is sent; with one, the command is sent and is the event that has failed.
    | false =>
      have hunsent : sent command.instruction (t.exchangeEvents command w) = [] := by
        rw [sent_exchangeEvents, hconnected]
        rfl
      exact .failed (by rw [hunsent]; exact List.nil_prefix) (acknowledged_of_unsent hunsent) hsize
    | true =>
      have hfailed : Event.succeeded ⟨.transmit command.encode, (t.transmit command.encode w).1⟩ = false := by
        simpa using Transport.not_succeeded_of_demand hconnected h
      have hasked : (t.exchangeEvents command w).filter Event.succeeded = [⟨.isConnected, true⟩] := by
        rw [Transport.exchangeEvents, hconnected]
        exact (List.filter_cons_of_pos rfl).trans (by simp [hfailed])
      have hone : sent command.instruction (t.exchangeEvents command w) = [command.encode] := by
        rw [sent_exchangeEvents, if_pos hconnected]
      exact .failed (hone ▸ List.prefix_rfl) (by rw [acknowledged, hasked]; rfl) hsize

namespace Coupler

variable {c d : Situation Link Coupler ω} {address : UInt8}

/-! ## Reaching a page -/

theorem reportsSize_exchanged {before : List (Event Link)} {c : Situation Link Coupler ω}
    {refusal : StatusWord → CardError} (hbefore : before <+: c.history)
    (h : t.demand command refusal c.world = .error .size) (hrefusal : ∀ status, refusal status ≠ .size) :
    ∃ said, (c.exchanged t command).history = before ++ said ∧ ReportsSize said := by
  rcases hbefore with ⟨said, hsaid⟩
  refine ⟨said ++ t.exchangeEvents command c.world, ?_, (reportsSize_of_demand h hrefusal).append_left said⟩
  rw [← List.append_assoc, hsaid]
  rfl

theorem RenewalOutcome.reportsSize (h : RenewalOutcome t address c (.error (.error .size)) d) :
    ∃ said, d.history = c.history ++ said ∧ ReportsSize said := by
  cases h with
  | denied _ _ he _ => exact reportsSize_exchanged List.prefix_rfl he fun _ h => nomatch h
  | notLoaded _ _ he => exact reportsSize_exchanged (List.prefix_append _ _) he fun _ h => nomatch h
  | @deniedAgain entry code _ _ _ _ _ he =>
    have hbefore : c.history <+: (reloaded t address code entry c).history :=
      (List.prefix_append _ _).trans (List.prefix_append _ _)
    exact reportsSize_exchanged hbefore he fun _ h => nomatch h

/-- Whatever is remembered, authenticating leaves the page length as it was. -/
theorem RenewalOutcome.pageLength {x : Except Failure Unit} (h : RenewalOutcome t address c x d) :
    d.state.pageLength = c.state.pageLength := by
  cases h <;> rfl

/-- Before the command of an access is sent, no other command is sent with its instruction. -/
theorem authenticateIfPending_unsent (h : instruction.IsAccess) (address : UInt8) (c : Situation Link Coupler ω) :
    Ensures t.responder (authenticateIfPending address) c fun x d => d.state.pageLength = c.state.pageLength ∧
      ∃ said, d.history = c.history ++ said ∧ sent instruction said = [] ∧
        (x = .error (.error .size) → ReportsSize said) := by
  refine ensures_authenticateIfPending (fun _ => ⟨rfl, [], (List.append_nil _).symm, rfl, fun h => nomatch h⟩) fun _ => ?_
  have hquiet := ensures_performAuth_of_withstands
    ((withstands_sentSince (t := t) h c.history []).at address) (sentSince_history instruction c)
  refine (hquiet.and (performAuth_outcome t address c)).mono ?_
  rintro x d ⟨⟨⟨said, hsaid, hsent⟩, -⟩, houtcome⟩
  refine ⟨houtcome.pageLength, said, hsaid, hsent, ?_⟩
  rintro rfl
  rcases houtcome.reportsSize with ⟨said', hsaid', hsize⟩
  cases List.append_cancel_left (hsaid.symm.trans hsaid')
  exact hsize

/-! ## One access -/

theorem accessError_ne_size {other : StatusWord → CardError} (h : ∀ status, other status ≠ .size) (status : StatusWord) :
    accessError other status ≠ .size := by
  unfold accessError
  split
  · exact fun h => nomatch h
  · exact h status

/-- The command of an access is sent at most once, and the access succeeds exactly if it is acknowledged. -/
theorem access_trace (h : command.instruction.IsAccess) {other : StatusWord → CardError}
    (hother : ∀ status, other status ≠ .size) (address : UInt8) (c : Situation Link Coupler ω) :
    Ensures t.responder (access address command other) c fun x d => d.state.pageLength = c.state.pageLength ∧
      ∃ said, d.history = c.history ++ said ∧ AccessTrace command x said := by
  -- What comes before the command contains no command of its kind, so the trace of the command is that of the access.
  refine Ensures.bind (authenticateIfPending_unsent h address c) ?_ ?_
  · rintro _ a ⟨hlength, said, hsaid, hsent, -⟩
    have htrace : AccessTrace command (Failure.lift (t.demand command (accessError other) a.world))
        (t.exchangeEvents command a.world) := accessTrace_of_demand (accessError_ne_size hother) a.world
    have hboth : a.history ++ t.exchangeEvents command a.world =
        c.history ++ (said ++ t.exchangeEvents command a.world) := by
      rw [hsaid, List.append_assoc]
    refine ensures_transfer_of_demand (fun data hdata => ?_) (fun e pending he => ?_)
    · rw [hdata] at htrace
      exact ⟨hlength, _, hboth, htrace.after hsent⟩
    · rw [he] at htrace
      exact ⟨hlength, _, hboth, htrace.after hsent⟩
  · rintro e d ⟨hlength, said, hsaid, hsent, hsize⟩
    exact ⟨hlength, said, hsaid, .failed (by rw [hsent]; exact List.nil_prefix) (acknowledged_of_unsent hsent)
      fun hf => hsize (by rw [hf])⟩

end Coupler
end SectorCard
