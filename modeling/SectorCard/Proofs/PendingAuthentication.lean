import SectorCard.Coupler.Operation
import SectorCard.Proofs.CouplerSteps
import SectorCard.Simulation.Bench

/-!
# Pending authentication

While authentication is pending, no page is read or written before the reader has accepted the remembered key.  An
access that fails should therefore leave authentication pending.  It does so if the authentication before it has
failed, or if the reader has answered it with a status word.  It does not if it *breaks off*: no card is connected any
more, the exchange fails, or the reply is too short to have a status word.  Then nothing is pending, and the next
access sends its command at once (`pending_iff_not_breaksOff`).
-/

namespace SectorCard

/-! ## Commands that reach pages -/

/-- A command to read or to write a page is sent. -/
def Event.Accesses (event : Event Link) : Prop := event.Carries .readBinary ∨ event.Carries .updateBinary

theorem not_accesses_asked (connected : Bool) : ¬ Event.Accesses ⟨.isConnected, connected⟩ := by
  rintro (h | h)
  · exact not_carries_asked _ _ h
  · exact not_carries_asked _ _ h

theorem not_accesses_sent {command : Command}
    (h : command.instruction = .loadKey ∨ command.instruction = .authenticate) (reply : Except CardError Bytes) :
    ¬ Event.Accesses ⟨.transmit command.encode, reply⟩ := by
  intro haccess
  have hcode : command.instruction.code = Instruction.readBinary.code ∨
      command.instruction.code = Instruction.updateBinary.code := haccess.imp code_of_carries code_of_carries
  rcases h with h | h <;> simp [h, Instruction.code] at hcode

namespace Coupler

open Procedure

variable {ω : Type} {t : Transport ω} {c : Situation Link Coupler ω}

/-! ## The remembered key -/

section Renewal

variable {d : Situation Link Coupler ω} {x : Except Failure Unit} {address : UInt8}

/-- Authenticating with the remembered key ends with nothing pending if it succeeds, and changes nothing about it if it
fails. -/
theorem RenewalOutcome.pending (h : RenewalOutcome t address c x d) :
    match x with
    | .ok () => d.state.authPending = false
    | .error _ => d.state.authPending = c.state.authPending := by
  cases h <;> rfl

theorem authenticateIfPending_pending (address : UInt8) (c : Situation Link Coupler ω) :
    Ensures t.responder (authenticateIfPending address) c fun x d =>
      (d.state.authPending = true ↔ ∃ e, x = .error e) := by
  refine ensures_authenticateIfPending (fun hidle => ?_) (fun hpending => ?_)
  · simp [hidle]
  · refine (performAuth_outcome t address c).mono fun x d h => ?_
    have hstate := h.pending
    cases x with
    | ok _ => simpa using hstate
    | error e => simpa [hpending] using hstate

/-- Since `before` was said, the reader has accepted the key that a coupler remembers, for a page. -/
def UnlockedSince (before : List (Event Link)) (coupler : Coupler) (address : UInt8) (earlier : List (Event Link)) :
    Prop :=
  ∃ entry code reply said, coupler.key = some entry ∧ coupler.selector.code? = some code ∧
    (Link.acknowledged? reply).isSome = true ∧ earlier = before ++ said ∧
    (⟨.transmit (Command.authenticating address code entry.slot).encode, reply⟩ : Event Link) ∈ said

/-- Since `before` was said, no page was read or written before the reader has accepted the key that a coupler
remembers. -/
structure Guarded (before : List (Event Link)) (coupler : Coupler) (address : UInt8) (history : List (Event Link)) :
    Prop where
  later : before <+: history
  accesses : EachSince before (fun earlier event => event.Accesses → UnlockedSince before coupler address earlier) history

section Guarded

variable {before history : List (Event Link)} {coupler : Coupler}

theorem guarded_self : Guarded before coupler address before :=
  ⟨List.prefix_rfl, eachSince_self⟩

theorem UnlockedSince.append (h : UnlockedSince before coupler address history) (later : List (Event Link)) :
    UnlockedSince before coupler address (history ++ later) := by
  rcases h with ⟨entry, code, reply, said, hkey, hcode, hreply, rfl, hsaid⟩
  exact ⟨entry, code, reply, said ++ later, hkey, hcode, hreply, List.append_assoc _ _ _, List.mem_append_left _ hsaid⟩

theorem Guarded.exchanged (h : Guarded before coupler address c.history) {command : Command}
    (hsent : ∀ reply, Event.Accesses ⟨.transmit command.encode, reply⟩ →
      UnlockedSince before coupler address c.history) :
    Guarded before coupler address (c.exchanged t command).history where
  later := h.later.trans (List.prefix_append _ _)
  accesses := h.accesses.exchanged h.later (fun _ haccess => absurd haccess (not_accesses_asked _))
    fun haccess => (hsent _ haccess).append _

theorem Guarded.loading (h : Guarded before coupler address c.history) (entry : KeyEntry) :
    Guarded before coupler address (c.exchanged t (.loading entry)).history :=
  h.exchanged fun _ haccess => absurd haccess (not_accesses_sent (.inl rfl) _)

theorem Guarded.authenticating (h : Guarded before coupler address c.history) (page code slot : UInt8) :
    Guarded before coupler address (c.exchanged t (.authenticating page code slot)).history :=
  h.exchanged fun _ haccess => absurd haccess (not_accesses_sent (.inr rfl) _)

theorem unlockedSince_exchanged {entry : KeyEntry} {code : UInt8} {refusal : StatusWord → CardError} {data : Bytes}
    (hkey : coupler.key = some entry) (hcode : coupler.selector.code? = some code) (hbefore : before <+: c.history)
    (hauth : t.demand (.authenticating address code entry.slot) refusal c.world = .ok data) :
    UnlockedSince before coupler address (c.exchanged t (.authenticating address code entry.slot)).history := by
  rcases hbefore with ⟨said, hsaid⟩
  refine ⟨entry, code, _, said ++ t.exchangeEvents (.authenticating address code entry.slot) c.world, hkey, hcode,
    Transport.succeeded_of_demand hauth, ?_, ?_⟩
  · rw [← List.append_assoc, hsaid]
    rfl
  · rw [Transport.exchangeEvents_of_ok hauth]
    simp

end Guarded

theorem RenewalOutcome.guarded (h : RenewalOutcome t address c x d) :
    Guarded c.history c.state address d.history ∧ (x = .ok () → UnlockedSince c.history c.state address d.history) := by
  have htried : ∀ code slot, Guarded c.history c.state address (c.exchanged t (.authenticating address code slot)).history :=
    guarded_self.authenticating address
  have hretried : ∀ code entry, Guarded c.history c.state address (reloaded t address code entry c).history :=
    fun code entry => (htried code entry.slot).loading entry
  cases h with
  | keyless _ => exact ⟨guarded_self, fun h => nomatch h⟩
  | codeless _ _ => exact ⟨guarded_self, fun h => nomatch h⟩
  | accepted hkey hcode hauth =>
    exact ⟨htried _ _, fun _ => unlockedSince_exchanged hkey hcode List.prefix_rfl hauth⟩
  | denied _ _ _ _ => exact ⟨htried _ _, fun h => nomatch h⟩
  | homeless _ _ => exact ⟨htried _ _, fun h => nomatch h⟩
  | notLoaded _ _ _ => exact ⟨hretried _ _, fun h => nomatch h⟩
  | deniedAgain _ _ _ _ => exact ⟨(hretried _ _).authenticating address _ _, fun h => nomatch h⟩
  | acceptedAgain hrefused _ _ hauth =>
    exact ⟨(hretried _ _).authenticating address _ _,
      fun _ => unlockedSince_exchanged hrefused.key hrefused.selector (hretried _ _).later hauth⟩

end Renewal

/-! ## Access to a page -/

/-- An access to a single page. -/
inductive PageAccess where
  | read (address length : UInt8)
  | write (address : UInt8) (data : Bytes) (hsize : data.length ≤ Defect.maxData)

namespace PageAccess

def operation : PageAccess → Operation
  | read address length => .readPage address length
  | write address data _ => .writePage address data

def address : PageAccess → UInt8
  | read address _ => address
  | write address _ _ => address

def command : PageAccess → Command
  | read address length => .reading address length
  | write address data _ => .writing address data

/-- The error of a status word that is neither success nor a request to authenticate. -/
def refusal : PageAccess → StatusWord → CardError
  | read _ _ => .readFailed
  | write _ _ _ => .writeFailed

/-- What the access gives back of the data of a reply. -/
def result : PageAccess → Bytes → Operation.Result
  | read _ _ => some
  | write _ _ _ => fun _ => none

theorem perform_operation (page : PageAccess) :
    perform page.operation = page.result <$> access page.address page.command page.refusal := by
  cases page with
  | read address length => exact congrArg (some <$> ·) (readPage_eq address length)
  | write address data hsize =>
    simp only [perform, operation, writePage_eq address hsize, bind_assoc, pure_bind, ← bind_pure_comp]
    rfl

/-- The access breaks off: nothing is pending or the remembered key is accepted, but the command gets no reply with a
status word. -/
def BreaksOff (t : Transport ω) (page : PageAccess) (c : Situation Link Coupler ω) : Prop :=
  ∃ d e, exec t.responder (authenticateIfPending page.address) c = (.ok (), d) ∧
    (t.exchange page.command d.world).1 = .error e

end PageAccess

/-- After an access authentication is pending exactly if it has failed without breaking off. -/
theorem ensures_access_pending (page : PageAccess) (c : Situation Link Coupler ω) :
    Ensures t.responder (perform page.operation) c fun x d =>
      (d.state.authPending = true ↔ (∃ e, x = .error e) ∧ ¬ page.BreaksOff t c) ∧
        (page.BreaksOff t c → ∃ e, x = .error e) := by
  rw [page.perform_operation]
  -- Where the page is reached depends on the run so far, so the run itself is kept in what is known of it.
  refine Ensures.map (Ensures.bind (R := fun x d =>
    exec t.responder (authenticateIfPending page.address) c = (x, d) ∧
      (d.state.authPending = true ↔ ∃ e, x = .error e)) ⟨rfl, authenticateIfPending_pending page.address c⟩ ?_ ?_)
  · rintro _ d ⟨hreached, hpending⟩
    have hidle : d.state.authPending = false := by simpa using hpending
    have hbreaks : page.BreaksOff t c ↔ ∃ e, (t.exchange page.command d.world).1 = .error e := by
      simp [PageAccess.BreaksOff, hreached]
    refine ensures_transfer ?_ ?_ ?_
    · intro reply hreply _
      simp [Except.map, hbreaks, hreply]
    · intro reply hreply _
      simp [Except.map, hbreaks, hreply]
    · intro e he
      simp [Except.map, hbreaks, he, hidle]
  · -- The page was not reached: nothing breaks off, and authentication is still pending.
    rintro failure d ⟨hlost, hpending⟩
    have hfailed : d.state.authPending = true := hpending.2 ⟨failure, rfl⟩
    have hwhole : ¬ page.BreaksOff t c := by
      simp [PageAccess.BreaksOff, hlost]
    simp [Except.map, hfailed, hwhole]

theorem ensures_access_guarded (page : PageAccess) (hpending : c.state.authPending = true) :
    Ensures t.responder (perform page.operation) c fun _ d =>
      Guarded c.history c.state page.address d.history := by
  rw [page.perform_operation]
  refine Ensures.map (Ensures.bind (R := fun (x : Except Failure Unit) d =>
    Guarded c.history c.state page.address d.history ∧
      (x = .ok () → UnlockedSince c.history c.state page.address d.history)) ?_ ?_ (fun _ _ h => h.1))
  · refine ensures_authenticateIfPending (fun hidle => ?_) fun _ => ?_
    · rw [hpending] at hidle
      cases hidle
    · exact (performAuth_outcome t page.address c).mono fun _ _ h => h.guarded
  · rintro _ d ⟨hguarded, hunlocked⟩
    have hsent : Guarded c.history c.state page.address (d.exchanged t page.command).history :=
      hguarded.exchanged fun _ _ => hunlocked rfl
    exact ensures_transfer (fun _ _ _ => hsent) (fun _ _ _ => hsent) (fun _ _ => hsent)

theorem ensures_access_unguarded (page : PageAccess) (hidle : c.state.authPending = false) :
    Ensures t.responder (perform page.operation) c fun _ d =>
      d.history = c.history ++ t.exchangeEvents page.command c.world := by
  rw [page.perform_operation]
  refine Ensures.map (ensures_access_of_idle hidle ?_)
  exact ensures_transfer (fun _ _ _ => rfl) (fun _ _ _ => rfl) (fun _ _ => rfl)

/-- Whatever a coupler remembers and whatever a reader replies, after an access authentication is pending exactly if
the access has failed without breaking off.  If it is pending, the next access reads or writes nothing before the
reader has accepted the remembered key; if it is not, the next access sends its command at once. -/
theorem pending_iff_not_breaksOff (t : Transport ω) (page : PageAccess) (c : Situation Link Coupler ω) :
    let run := exec t.responder (perform page.operation) c
    (run.2.state.authPending = true ↔ (∃ e, run.1 = .error e) ∧ ¬ page.BreaksOff t c) ∧
      (page.BreaksOff t c → ∃ e, run.1 = .error e) ∧
      ∀ next : PageAccess,
        let later := (exec t.responder (perform next.operation) run.2).2.history
        (run.2.state.authPending = true → Guarded run.2.history run.2.state next.address later) ∧
          (run.2.state.authPending = false →
            later = run.2.history ++ t.exchangeEvents next.command run.2.world) := by
  intro run
  rcases ensures_access_pending (t := t) page c with ⟨hpending, hbreaks⟩
  exact ⟨hpending, hbreaks, fun next => ⟨ensures_access_guarded next, ensures_access_unguarded next⟩⟩

/-- The key is loaded and has to be tried.  It will be accepted, the command after it will get no reply, and the next
one will be refused. -/
def interrupted : Situation Link Coupler Simulation.Bench where
  state := { fresh with key := some (.volatile .transport), keyLoaded := true, authPending := true }
  world := ⟨true, [], .script [.success [], .transportError] (.status 0x63 0x00)⟩
  history := []

/-- The exchange that should have read a page fails.  Nothing is pending, and the page after it is asked for without
authenticating. -/
theorem pending_iff_not_breaksOff_interrupted :
    let t := Simulation.Bench.transport
    let page := PageAccess.read 4 16
    let run := exec t.responder (perform page.operation) interrupted
    run.1 = .error (.error (.transport none)) ∧ page.BreaksOff t interrupted ∧ run.2.state.authPending = false ∧
      (exec t.responder (perform (PageAccess.read 8 16).operation) run.2).2.history = run.2.history ++
        [⟨.isConnected, true⟩, ⟨.transmit [0xff, 0xb0, 0x00, 0x08, 0x10], .ok [0x63, 0x00]⟩] := by
  intro t page run
  have hbreaks : page.BreaksOff t interrupted := ⟨_, _, rfl, rfl⟩
  rcases pending_iff_not_breaksOff t page interrupted with ⟨hpending, -, hnext⟩
  have hidle : run.2.state.authPending = false := by
    simpa [hbreaks] using hpending
  exact ⟨rfl, hbreaks, hidle, (hnext (.read 8 16)).2 hidle⟩

end Coupler
end SectorCard
