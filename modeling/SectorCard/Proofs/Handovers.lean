import SectorCard.Proofs.HandleLifecycle
import SectorCard.Proofs.TaskReports
import SectorCard.Proofs.TaskRuns

/-!
# Handing a card over

A program takes a card over from the service when it connects, and should give it back before it ends.  Its calls tell
whether it did: `handovers` keeps what was taken and what was given back, in order.

Giving back is left to the closing of a connection, so it depends on how a task ends.  A task that is finished has its
connection closed; a task that stops ends the program on the spot.

Main statement: `Console.returned_iff_finished`, whatever the service and the card do, a run that has connected to a
card takes no second one, gives it back once if it ends with status zero, and not at all if it ends with status one; it
ends in no other way.
-/

namespace SectorCard

open Dialogue

/-! ## Handovers -/

namespace Connection

/-- A handle changes hands. -/
inductive Handover where
  | taken (id : Nat)
  | returned (id : Nat)
  deriving DecidableEq, Repr

def handover? (event : Event Service) : Option Handover :=
  match dealing event with
  | .take card => some (.taken card.id)
  | .giveBack card => some (.returned card.id)
  | _ => none

/-- The handles that changed hands in some calls, in order. -/
def handovers (events : List (Event Service)) : List Handover := events.filterMap handover?

theorem handovers_append (events later : List (Event Service)) :
    handovers (events ++ later) = handovers events ++ handovers later :=
  List.filterMap_append

theorem handovers_cons (event : Event Service) (events : List (Event Service)) :
    handovers (event :: events) = (handover? event).toList ++ handovers events := by
  cases h : handover? event with
  | none => exact List.filterMap_cons_none h
  | some handover => exact List.filterMap_cons_some h

/-- A handle is taken by a call to connect that succeeds, and by no other. -/
theorem eq_connect_of_dealing {event : Event Service} {card : Handle} (h : dealing event = .take card) :
    ∃ reader, event = ⟨.connect reader, .ok card⟩ := by
  rcases event with ⟨q, reply⟩
  cases q with
  | connect reader =>
    cases reply with
    | ok taken =>
      cases h
      exact ⟨reader, rfl⟩
    | error f => cases h
  | disconnect held disposition => cases disposition <;> cases h
  | _ => cases h

theorem taken_mem_handovers {events : List (Event Service)} {id : Nat} :
    .taken id ∈ handovers events ↔ ∃ reader card, card.id = id ∧ ⟨.connect reader, .ok card⟩ ∈ events := by
  rw [handovers, List.mem_filterMap]
  constructor
  · rintro ⟨event, hevent, htaken⟩
    unfold handover? at htaken
    split at htaken
    · rename_i card hdealing
      rcases eq_connect_of_dealing hdealing with ⟨reader, rfl⟩
      cases htaken
      exact ⟨reader, card, rfl, hevent⟩
    · cases htaken
    · cases htaken
  · rintro ⟨reader, card, rfl, hevent⟩
    exact ⟨_, hevent, rfl⟩

/-! ## Calls that keep a handle -/

/-- A request that gives no handle back. -/
def Retains : Service.Request → Prop
  | .disconnect _ _ => False
  | _ => True

variable {α : Type} {H : Service.Request → Prop}

theorem not_retains_of_dealing {event : Event Service} {card : Handle} (h : dealing event = .giveBack card) :
    ¬ Retains event.request := by
  rcases event with ⟨q, reply⟩
  cases q with
  | connect reader => cases reply <;> cases h
  | disconnect held disposition => exact id
  | _ => cases h

theorem handover?_of_settle {held next : Option Nat} {event : Event Service}
    (h : settle held (dealing event) = some next) (hretains : Retains event.request) :
    held.toList.map Handover.taken ++ (handover? event).toList = next.toList.map .taken := by
  unfold handover?
  cases hdealing : dealing event with
  | take card =>
    rw [hdealing] at h
    rcases settle_take h with ⟨rfl, rfl⟩
    rfl
  | use card =>
    rw [hdealing] at h
    rcases settle_use h with ⟨rfl, rfl⟩
    rfl
  | giveBack card => exact absurd hretains (not_retains_of_dealing hdealing)
  | nothing =>
    rw [hdealing] at h
    cases h
    exact List.append_nil _

/-- As long as no handle is given back, the one that is held is all that was taken. -/
theorem handovers_of_audit {held after : Option Nat} {events : List (Event Service)} (h : audit held events = some after)
    (hretains : ∀ event ∈ events, Retains event.request) :
    held.toList.map .taken ++ handovers events = after.toList.map .taken := by
  induction events generalizing held with
  | nil =>
    cases h
    exact List.append_nil _
  | cons event rest ih =>
    rcases List.forall_mem_cons.1 hretains with ⟨hfirst, hrest⟩
    rw [audit_cons] at h
    rcases Option.bind_eq_some_iff.1 h with ⟨next, hsettle, hnext⟩
    rw [handovers_cons, ← List.append_assoc, handover?_of_settle hsettle hfirst]
    exact ih hnext hrest

theorem LooksUp.retains {q : Service.Request} (h : LooksUp q) : Retains q := by
  cases q with
  | disconnect card disposition => exact h
  | _ => trivial

theorem asksOnly_release (hrelease : H .release) : release.AsksOnly H := ⟨hrelease, fun _ => trivial⟩

theorem asksOnly_withContext {body : ServiceM (Except CardError α)} {keep : Bool} (hestablish : H .establish)
    (hrelease : H .release) (hbody : body.AsksOnly H) : (withContext body keep).AsksOnly H := by
  refine (asksOnly_call hestablish).bind fun established => ?_
  cases established with
  | error e => exact asksOnly_pure _
  | ok _ =>
    refine hbody.bind fun result => ?_
    cases result with
    | error e => exact (asksOnly_release hrelease).bind fun _ => asksOnly_pure _
    | ok a =>
      cases keep with
      | true => exact asksOnly_pure _
      | false => exact (asksOnly_release hrelease).bind fun _ => asksOnly_pure _

theorem asksOnly_poll (reader : Bytes) (limit patience attempts : Nat) :
    (poll reader limit patience attempts).AsksOnly Retains := by
  induction patience generalizing attempts with
  | zero => exact asksOnly_pure _
  | succ patience ih =>
    refine ⟨trivial, ?_⟩
    rintro (f | card)
    · dsimp only
      split
      · exact ih _
      · exact asksOnly_pure _
    · exact asksOnly_pure _

/-- While a connection is opened, no handle is given back. -/
theorem asksOnly_opening (opening : Opening) : opening.perform.AsksOnly Retains := by
  -- Looking for a reader and leaving the context are common to both ways.
  have hfind : ∀ wanted, (findReader wanted).AsksOnly Retains := fun wanted =>
    (asksOnly_findReader wanted).mono fun _ => LooksUp.retains
  have hreleased : release.AsksOnly Retains := asksOnly_release trivial
  cases opening with
  | now wanted =>
    have hopen : (openOn wanted).AsksOnly Retains := by
      refine asksOnly_withContext trivial trivial ((hfind wanted).bind fun reader => ?_)
      cases reader with
      | error e => exact asksOnly_pure _
      | ok reader => exact (asksOnly_call trivial).bind fun _ => asksOnly_pure _
    exact hopen.bind fun _ => asksOnly_pure _
  | waiting wanted limit patience =>
    refine (asksOnly_call trivial).bind fun established => ?_
    cases established with
    | error e => exact asksOnly_pure _
    | ok _ =>
      refine (hfind wanted).bind fun reader => ?_
      cases reader with
      | error e => exact hreleased.bind fun _ => asksOnly_pure _
      | ok reader =>
        refine (asksOnly_poll reader limit patience 0).bind fun polled => ?_
        -- Three ends of waiting: still at it, given up, or with a card.
        rcases polled with _ | (e | card)
        · exact asksOnly_pure _
        · exact hreleased.bind fun _ => asksOnly_pure _
        · exact asksOnly_pure _

/-! ## Calls that deal with no handover -/

/-- A request by which a handle may change hands. -/
def HandsOver : Service.Request → Prop
  | .connect _ | .disconnect _ .unpower => True
  | _ => False

theorem handover?_eq_none {event : Event Service} (h : ¬ HandsOver event.request) : handover? event = none := by
  rcases event with ⟨q, reply⟩
  cases q with
  | connect reader => exact absurd trivial h
  | disconnect card disposition =>
    cases disposition with
    | unpower => exact absurd trivial h
    | _ => rfl
  | _ => rfl

theorem handovers_eq_nil {events : List (Event Service)} (h : ∀ event ∈ events, ¬ HandsOver event.request) :
    handovers events = [] :=
  List.filterMap_eq_nil_iff.2 fun event hevent => handover?_eq_none (h event hevent)

theorem handovers_run_eq_nil {ω : Type} {d : ServiceM α} (h : d.AsksOnly fun q => ¬ HandsOver q)
    (r : Responder Service ω) (w : ω) : handovers (Dialogue.run r d w).events = [] :=
  handovers_eq_nil (h.events r w)

theorem asksOnly_listReaders : listReaders.AsksOnly fun q => ¬ HandsOver q := by
  refine asksOnly_withContext id id ?_
  refine (asksOnly_readerNames.mono ?_).bind fun _ => asksOnly_pure _
  intro q hlooksUp hhandsOver
  cases q with
  | isValid => exact hhandsOver
  | listLength => exact hhandsOver
  | listReaders => exact hhandsOver
  | _ => exact hlooksUp

/-- A request that carries a command to a card. -/
def Transmits : Service.Request → Prop
  | .transmit _ _ _ => True
  | _ => False

theorem Transmits.retains {q : Service.Request} (h : Transmits q) : Retains q := by
  cases q with
  | disconnect card disposition => exact h
  | _ => trivial

theorem Transmits.not_handsOver {q : Service.Request} (h : Transmits q) : ¬ HandsOver q := by
  cases q with
  | transmit card command room => exact id
  | _ => exact h.elim

theorem asksOnly_carry (q : Link.Request) (c : Connection) : (carry q c).AsksOnly Transmits := by
  cases q with
  | isConnected => exact asksOnly_pure _
  | transmit command =>
    rcases c with ⟨_ | card, reader⟩
    · exact asksOnly_pure _
    · exact (asksOnly_call trivial).bind fun _ => asksOnly_pure _

/-- Talking to a card takes nothing but transmitting. -/
theorem asksOnly_converse (d : Dialogue Link α) (c : Connection) : (converse d c).AsksOnly Transmits :=
  AsksOnly.through asksOnly_carry d c

/-! ## Opening and closing -/

variable {ω : Type} (r : Responder Service ω)

/-- What is taken while a connection is opened is the handle that it has then. -/
theorem handovers_opening (opening : Opening) (w : ω) :
    handovers (Dialogue.run r opening.perform w).events =
      (heldBy (Dialogue.run r opening.perform w).value).toList.map .taken :=
  handovers_of_audit (settles_opening opening ω r w) ((asksOnly_opening opening).events r w)

theorem handovers_call (q : Service.Request) (w : ω) :
    handovers (Dialogue.run r (call q) w).events = (handover? ⟨q, (r.answer q w).1⟩).toList := by
  rw [call, Dialogue.run_ask, handovers_cons]
  cases (r.answer q w).1 <;> exact List.append_nil _

/-- Disconnecting gives the handle back, whatever the service replies. -/
theorem handovers_disconnect (c : Connection) (w : ω) :
    handovers (Dialogue.run r (disconnect c) w).events = c.cardId.toList.map .returned := by
  rcases c with ⟨_ | card, reader⟩
  · rfl
  · rw [disconnect]
    dsimp only
    rw [Dialogue.bind_eq, Dialogue.run_bind, handovers_append, handovers_call, handovers_run_eq_nil ?_, List.append_nil]
    · rfl
    · split
      · exact asksOnly_pure _
      · exact (asksOnly_call id).bind fun _ => asksOnly_pure _

theorem handovers_close (c : Connection) (w : ω) :
    handovers (Dialogue.run r (close c) w).events = c.cardId.toList.map .returned := by
  rw [close, Dialogue.bind_eq, Dialogue.run_bind, handovers_append, handovers_disconnect,
    handovers_run_eq_nil (asksOnly_release id), List.append_nil]

end Connection

/-! ## Runs of the program -/

namespace Console

open Connection

variable {ω : Type} (r : Responder Service ω)

/-- The way in which the connection is opened. -/
def Invocation.opening (i : Invocation) (patience : Nat) : Opening :=
  if i.wait then .waiting i.reader 0 patience else .now i.reader

theorem Invocation.connect_eq (i : Invocation) (patience : Nat) : i.connect patience = (i.opening patience).perform := by
  unfold Invocation.connect Invocation.opening
  split
  · rfl
  · rfl

/-- Over a connection, a task that is finished ends with the connection closed; one that stopped has done nothing but
transmit. -/
theorem handovers_performOn (i : Invocation) (task : CardTask) (c : Connection) (w : ω) :
    let performed := Dialogue.run r (i.performOn task c) w
    (performed.value.status = 0 ∧ handovers performed.events = c.cardId.toList.map .returned) ∨
      (performed.value.status = 1 ∧ ∀ event ∈ performed.events, Transmits event.request) := by
  unfold Invocation.performOn
  cases hcard : i.card with
  | error report => exact .inr ⟨Invocation.status_of_card hcard, fun _ hevent => nomatch hevent⟩
  | ok card =>
    have htransmits := (asksOnly_converse (task.perform card) c).events r w
    have hvalue := (run_converse r (task.perform card) c w).1
    rcases task.reports_perform (t := c.link r) ⟨card, w, []⟩ with ⟨report, hresult, hreport⟩
    have hresult : (Dialogue.run (c.link r).responder (task.perform card) w).value.1 = .ok report := hresult
    simp only [Dialogue.bind_eq, Dialogue.run_bind]
    rw [hvalue]
    simp only [hresult]
    rcases hreport with hzero | hone
    · -- Only a task that has finished closes the connection.
      rw [if_pos hzero, Dialogue.run_bind, handovers_append, handovers_append, handovers_close,
        handovers_eq_nil fun event hevent => (htransmits event hevent).not_handsOver]
      exact .inl ⟨hzero, List.append_nil _⟩
    · rw [if_neg (by omega)]
      refine .inr ⟨hone, ?_⟩
      simpa [Dialogue.pure_eq] using htransmits

variable {i : Invocation}

/-- Who asks for no task on a card takes no handle. -/
theorem asksOnly_perform (hoff : ∀ task, i.task ≠ .onCard task) (patience : Nat) :
    (i.perform patience).AsksOnly fun q => ¬ HandsOver q := by
  unfold Invocation.perform
  split
  · exact asksOnly_pure _
  · unfold listReaders
    refine (asksOnly_listReaders.bind fun names => ?_).bind fun _ => asksOnly_pure _
    split
    · exact asksOnly_pure _
    · exact asksOnly_pure _
    · exact asksOnly_pure _
  · rename_i task htask
    exact absurd htask (hoff task)

/-- How a run has ended that took a handle: it was finished and has given the handle back, or it stopped and has not even
tried to. -/
def Concluded (id : Nat) (ran : Outcome Service ω Ending) : Prop :=
  ∃ report, ran.value = .reported report ∧
    ((report.status = 0 ∧ handovers ran.events = [.taken id, .returned id]) ∨
      (report.status = 1 ∧ handovers ran.events = [.taken id] ∧ ∀ event ∈ ran.events, Retains event.request))

/-- A task on a card takes a handle when it connects, and no other; what comes after that depends on how it ends. -/
theorem concluded_onCard {task : CardTask} (htask : i.task = .onCard task) (patience : Nat) (w : ω) {id : Nat}
    (htaken : .taken id ∈ handovers (Dialogue.run r (i.perform patience) w).events) :
    Concluded id (Dialogue.run r (i.perform patience) w) := by
  have hopening := handovers_opening r (i.opening patience) w
  have hretains := (asksOnly_opening (i.opening patience)).events r w
  rw [← i.connect_eq] at hopening hretains
  revert htaken
  unfold Concluded Invocation.perform
  rw [htask]
  simp only [Dialogue.bind_eq, Dialogue.run_bind, handovers_append, hopening]
  rcases (Dialogue.run r (i.connect patience) w).value with _ | (e | c)
  · exact fun htaken => nomatch htaken
  · exact fun htaken => nomatch htaken
  · intro htaken
    dsimp only at htaken ⊢
    rw [← bind_pure_comp, Dialogue.bind_eq, Dialogue.run_bind] at htaken ⊢
    simp only [Dialogue.pure_eq, Dialogue.run_done, List.append_nil, heldBy] at htaken ⊢
    -- Nothing is taken after connecting, so it is the handle of this connection that was taken.
    rcases handovers_performOn r i task c (Dialogue.run r (i.connect patience) w).world with
      ⟨hzero, hreturned⟩ | ⟨hone, htransmits⟩
    · rw [hreturned] at htaken ⊢
      have hid : c.cardId = some id := by simpa using htaken
      rw [hid]
      exact ⟨_, rfl, .inl ⟨hzero, rfl⟩⟩
    · rw [handovers_eq_nil fun event hevent => (htransmits event hevent).not_handsOver] at htaken ⊢
      have hid : c.cardId = some id := by simpa using htaken
      rw [hid]
      refine ⟨_, rfl, .inr ⟨hone, rfl, fun event hevent => ?_⟩⟩
      rcases List.mem_append.1 hevent with hopened | hevent
      · exact hretains event hopened
      · exact (htransmits event hevent).retains

/-- Whatever the service and the card do, a run that has connected to a card takes no second one and comes to an end; it
has given the card back, once, if it was finished, and has never given it back if it stopped. -/
theorem returned_iff_finished (w : ω) (arguments : List String) (patience : Nat) (reader : Bytes) (card : Handle)
    (hconnect : ⟨.connect reader, .ok card⟩ ∈ (Dialogue.run r (run arguments patience) w).events) :
    Concluded card.id (Dialogue.run r (run arguments patience) w) := by
  have htaken := taken_mem_handovers.2 ⟨reader, card, rfl, hconnect⟩
  revert htaken
  unfold run
  split
  · rename_i i _
    intro htaken
    by_cases hon : ∃ task, i.task = .onCard task
    · rcases hon with ⟨task, htask⟩
      exact concluded_onCard r htask patience w htaken
    · have hquiet := handovers_run_eq_nil (asksOnly_perform (not_exists.1 hon) patience) r w
      rw [hquiet] at htaken
      cases htaken
  all_goals exact fun htaken => nomatch htaken

/-- A desk with a card that refuses everything. -/
def refusing : Simulation.Desk :=
  ⟨[[0x52]], ⟨true, [], .script [] (.status 0x6f 0x00)⟩, .t1, none, [], [], 0⟩

/-- A run that cannot read a block keeps the card. -/
theorem returned_iff_finished_refused :
    let ran := Dialogue.run Simulation.Desk.responder (run ["read", "4"] 1) refusing
    Concluded 0 ran ∧ handovers ran.events = [.taken 0] ∧
      ran.value = .reported (.failed "couldn't read block 4: load key failed (SW=6F00)") := by
  intro ran
  have htaken : .taken 0 ∈ handovers ran.events := by decide +kernel
  rcases taken_mem_handovers.1 htaken with ⟨reader, card, hid, hconnect⟩
  have hconcluded := returned_iff_finished Simulation.Desk.responder refusing ["read", "4"] 1 reader card hconnect
  rw [hid] at hconcluded
  exact ⟨hconcluded, by decide +kernel, by decide +kernel⟩

end Console
end SectorCard
