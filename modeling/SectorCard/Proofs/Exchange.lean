import SectorCard.Proofs.Execution
import SectorCard.Wire.Command
import SectorCard.Wire.Link

/-!
# Exchanges with a card

Everything that the library learns from a card it learns from one kind of step: ask whether a card is
connected, send a command, split the reply.  This module says what such a step gives and how it moves the
situation, whatever the transport does.

A reply *acknowledges* its command if it ends in a status word of success.  A card that is not connected, an
exchange that fails, a reply without a status word and any other status word are all refusals.
-/

namespace SectorCard

/-! ## Comparing what was said -/

instance decidableEqExcept {ε α : Type} [DecidableEq ε] [DecidableEq α] : DecidableEq (Except ε α)
  | .ok a, .ok b => decidable_of_iff (a = b) ⟨fun h => h ▸ rfl, fun h => Except.ok.inj h⟩
  | .error e, .error f => decidable_of_iff (e = f) ⟨fun h => h ▸ rfl, fun h => Except.error.inj h⟩
  | .ok _, .error _ => isFalse fun h => nomatch h
  | .error _, .ok _ => isFalse fun h => nomatch h

instance decidableEqEvent : DecidableEq (Event Link)
  | ⟨.isConnected, connected⟩, ⟨.isConnected, connected'⟩ =>
    decidable_of_iff (connected = connected') ⟨fun h => h ▸ rfl, fun h => by cases h; rfl⟩
  | ⟨.transmit command, reply⟩, ⟨.transmit command', reply'⟩ =>
    decidable_of_iff (command = command' ∧ reply = reply')
      ⟨fun ⟨hcommand, hreply⟩ => by cases hcommand; cases hreply; rfl, fun h => by cases h; exact ⟨rfl, rfl⟩⟩
  | ⟨.isConnected, _⟩, ⟨.transmit _, _⟩ => isFalse fun h => nomatch h
  | ⟨.transmit _, _⟩, ⟨.isConnected, _⟩ => isFalse fun h => nomatch h

/-! ## Acknowledged commands -/

namespace Link

/-- The data of a reply that acknowledges its command. -/
def acknowledged? (reply : Except CardError Bytes) : Option Bytes :=
  match reply.bind Reply.parse with
  | .ok r => if r.status.isSuccess then some r.data else none
  | .error _ => none

end Link

/-- Whether an event went well: a connected card was found, or the command was acknowledged. -/
def Event.succeeded : Event Link → Bool
  | ⟨.isConnected, connected⟩ => connected
  | ⟨.transmit _, reply⟩ => (Link.acknowledged? reply).isSome

/-- A command with a certain instruction is sent. -/
def Event.Carries (instruction : Instruction) (event : Event Link) : Prop :=
  ∃ command : Command, event.request = .transmit command.encode ∧ command.instruction = instruction

theorem not_carries_asked (instruction : Instruction) (connected : Bool) :
    ¬ Event.Carries instruction ⟨.isConnected, connected⟩ := by
  rintro ⟨command, hsent, -⟩
  cases hsent

/-- The second byte of a command tells which instruction it carries. -/
theorem code_of_carries {instruction : Instruction} {sent : Command} {reply : Except CardError Bytes}
    (h : Event.Carries instruction ⟨.transmit sent.encode, reply⟩) : sent.instruction.code = instruction.code := by
  rcases h with ⟨command, hsent, rfl⟩
  exact (List.cons.inj (List.cons.inj (Link.Request.transmit.inj hsent)).2).1

namespace Command

abbrev reading (address length : UInt8) : Command := ⟨.readBinary, 0, address, .expect length⟩

abbrev writing (address : UInt8) (data : Bytes) : Command := ⟨.updateBinary, 0, address, .data data⟩

abbrev loading (entry : KeyEntry) : Command :=
  ⟨.loadKey, entry.store.code, entry.slot, .data entry.key.bytes⟩

abbrev authenticating (address code slot : UInt8) : Command := ⟨.authenticate, 0, address, .raw [code, slot]⟩

end Command

/-- Transports that fail to carry a command only because no card is there or the exchange went wrong. -/
def Transport.FailsPlainly {ω : Type} (t : Transport ω) : Prop :=
  ∀ command w e, (t.transmit command w).1 = .error e → e = .notConnected ∨ ∃ cause, e = .transport cause

/-! ## One exchange -/

section Exchange

variable {σ ω : Type}

/-- The reply to a command that is sent if a card is connected, and the world after it. -/
def Transport.exchange (t : Transport ω) (command : Command) (w : ω) : Except CardError Reply × ω :=
  if t.isConnected w then
    ((t.transmit command.encode w).1.bind Reply.parse, (t.transmit command.encode w).2)
  else (.error .notConnected, w)

def Transport.exchangeEvents (t : Transport ω) (command : Command) (w : ω) : List (Event Link) :=
  ⟨.isConnected, t.isConnected w⟩ ::
    if t.isConnected w then [⟨.transmit command.encode, (t.transmit command.encode w).1⟩] else []

def Situation.exchanged (t : Transport ω) (command : Command) (c : Situation Link σ ω) :
    Situation Link σ ω :=
  ⟨c.state, (t.exchange command c.world).2, c.history ++ t.exchangeEvents command c.world⟩

@[simp] theorem Situation.exchanged_state (t : Transport ω) (command : Command) (c : Situation Link σ ω) :
    (c.exchanged t command).state = c.state := rfl

@[simp] theorem Situation.exchanged_world (t : Transport ω) (command : Command) (c : Situation Link σ ω) :
    (c.exchanged t command).world = (t.exchange command c.world).2 := rfl

theorem exec_isConnected {ε : Type} (t : Transport ω) (c : Situation Link σ ω) :
    Procedure.exec t.responder (Procedure.ask (S := Link) .isConnected : Procedure Link σ ε Bool) c =
      (.ok (t.isConnected c.world), { c with
        history := c.history ++ [⟨.isConnected, t.isConnected c.world⟩] }) :=
  Procedure.exec_ask _ c

theorem exec_transmit {ε : Type} (t : Transport ω) (command : Bytes) (c : Situation Link σ ω) :
    Procedure.exec t.responder
        (Procedure.ask (S := Link) (.transmit command) : Procedure Link σ ε (Except CardError Bytes)) c =
      (.ok (t.transmit command c.world).1, ⟨c.state, (t.transmit command c.world).2,
        c.history ++ [⟨.transmit command, (t.transmit command c.world).1⟩]⟩) :=
  Procedure.exec_ask _ c

theorem exec_exchange (t : Transport ω) (command : Command) (c : Situation Link σ ω) :
    Procedure.exec t.responder (Link.exchange command.encode) c =
      (Failure.lift (t.exchange command c.world).1, c.exchanged t command) := by
  unfold Link.exchange
  rw [Procedure.exec_bind, exec_isConnected]
  cases hc : t.isConnected c.world with
  | false =>
    simp [hc, Transport.exchange, Situation.exchanged, Transport.exchangeEvents, Failure.lift]
  | true =>
    simp only [if_true, hc, Transport.exchange, Situation.exchanged, Transport.exchangeEvents]
    rw [Procedure.exec_bind, exec_transmit]
    cases (t.transmit command.encode c.world).1 with
    | error e => simp [Procedure.exec_bind, Failure.lift, Except.bind]
    | ok bytes => simp [Failure.lift, Except.bind]

/-- What a command comes to that must be acknowledged: the data of the reply, or the error of a refusal. -/
def Transport.demand (t : Transport ω) (command : Command) (refusal : StatusWord → CardError) (w : ω) :
    Except CardError Bytes :=
  match (t.exchange command w).1 with
  | .ok reply => if reply.status.isSuccess then .ok reply.data else .error (refusal reply.status)
  | .error e => .error e

/-- A demand is met exactly if a card is connected and acknowledges the command. -/
theorem Transport.demand_eq_ok_iff {t : Transport ω} {command : Command} {refusal : StatusWord → CardError}
    {w : ω} {data : Bytes} :
    t.demand command refusal w = .ok data ↔
      t.isConnected w = true ∧ Link.acknowledged? (t.transmit command.encode w).1 = some data := by
  unfold Transport.demand Transport.exchange Link.acknowledged?
  cases t.isConnected w with
  | false => simp
  | true =>
    rcases (t.transmit command.encode w).1.bind Reply.parse with e | reply
    · simp
    · by_cases hs : reply.status.isSuccess <;> simp [hs]

theorem Transport.exchange_world (t : Transport ω) (command : Command) (w : ω) :
    (t.exchange command w).2 = if t.isConnected w then (t.transmit command.encode w).2 else w := by
  unfold Transport.exchange
  split <;> rfl

theorem Transport.demand_of_exchange {t : Transport ω} {command : Command} {w : ω} {reply : Reply}
    (refusal : StatusWord → CardError) (h : (t.exchange command w).1 = .ok reply)
    (hs : reply.status.isSuccess = true) : t.demand command refusal w = .ok reply.data := by
  simp [Transport.demand, h, hs]

theorem Transport.exchangeEvents_of_ok {t : Transport ω} {command : Command} {refusal : StatusWord → CardError}
    {w : ω} {data : Bytes} (h : t.demand command refusal w = .ok data) :
    t.exchangeEvents command w =
      [⟨.isConnected, true⟩, ⟨.transmit command.encode, (t.transmit command.encode w).1⟩] := by
  have hconnected := (Transport.demand_eq_ok_iff.1 h).1
  simp [Transport.exchangeEvents, hconnected]

/-- An event of an exchange is the question for a card, or the command with its reply. -/
theorem mem_exchangeEvents {t : Transport ω} {command : Command} {w : ω} {event : Event Link}
    (h : event ∈ t.exchangeEvents command w) :
    event = ⟨.isConnected, t.isConnected w⟩ ∨
      (t.isConnected w = true ∧ event = ⟨.transmit command.encode, (t.transmit command.encode w).1⟩) := by
  unfold Transport.exchangeEvents at h
  rcases List.mem_cons.1 h with rfl | h
  · exact .inl rfl
  · split at h
    · rename_i hconnected
      exact .inr ⟨hconnected, List.mem_singleton.1 h⟩
    · cases h

theorem Transport.succeeded_of_demand {t : Transport ω} {command : Command} {refusal : StatusWord → CardError}
    {w : ω} {data : Bytes} (h : t.demand command refusal w = .ok data) :
    Event.succeeded ⟨.transmit command.encode, (t.transmit command.encode w).1⟩ = true := by
  simp [Event.succeeded, (Transport.demand_eq_ok_iff.1 h).2]

/-- A command that is denied although a card is connected does not succeed. -/
theorem Transport.not_succeeded_of_demand {t : Transport ω} {command : Command} {refusal : StatusWord → CardError}
    {w : ω} {e : CardError} (hconnected : t.isConnected w = true) (he : t.demand command refusal w = .error e) :
    Event.succeeded ⟨.transmit command.encode, (t.transmit command.encode w).1⟩ ≠ true := by
  intro hreply
  rcases Option.isSome_iff_exists.1 hreply with ⟨data, hdata⟩
  have hok : t.demand command refusal w = .ok data := Transport.demand_eq_ok_iff.2 ⟨hconnected, hdata⟩
  rw [he] at hok
  cases hok

def LastFailed (c : Situation Link σ ω) : Prop :=
  ∃ event, c.history.getLast? = some event ∧ event.succeeded = false

theorem lastFailed_exchanged {t : Transport ω} {command : Command} {refusal : StatusWord → CardError}
    {c : Situation Link σ ω} {e : CardError} (h : t.demand command refusal c.world = .error e) :
    LastFailed (c.exchanged t command) := by
  have hunmet : ∀ data, t.demand command refusal c.world ≠ .ok data := by
    intro data hok
    rw [h] at hok
    cases hok
  unfold LastFailed Situation.exchanged Transport.exchangeEvents
  cases hc : t.isConnected c.world with
  | false => exact ⟨⟨.isConnected, false⟩, by simp, rfl⟩
  | true =>
    refine ⟨⟨.transmit command.encode, (t.transmit command.encode c.world).1⟩, by simp, ?_⟩
    cases hr : Link.acknowledged? (t.transmit command.encode c.world).1 with
    | none => simp [Event.succeeded, hr]
    | some data => exact absurd (Transport.demand_eq_ok_iff.2 ⟨hc, hr⟩) (hunmet data)

/-! ## What has been said -/

/-- Everything that was said on top of `before` satisfies `P`. -/
def SaidSince (before : List (Event Link)) (P : Event Link → Prop) (c : Situation Link σ ω) : Prop :=
  ∃ said, c.history = before ++ said ∧ ∀ event ∈ said, P event

theorem saidSince_history (P : Event Link → Prop) (c : Situation Link σ ω) : SaidSince c.history P c :=
  ⟨[], by simp, by simp⟩

theorem SaidSince.exchanged_of_reply {before : List (Event Link)} {P : Event Link → Prop} {c : Situation Link σ ω}
    {t : Transport ω} {command : Command} (h : SaidSince before P c)
    (asked : ∀ connected, P ⟨.isConnected, connected⟩)
    (sent : t.isConnected c.world = true →
      P ⟨.transmit command.encode, (t.transmit command.encode c.world).1⟩) :
    SaidSince before P (c.exchanged t command) := by
  rcases h with ⟨said, hsaid, hP⟩
  refine ⟨said ++ t.exchangeEvents command c.world, ?_, ?_⟩
  · simp [Situation.exchanged, hsaid]
  · intro event hevent
    rcases List.mem_append.1 hevent with hold | hnew
    · exact hP event hold
    · rcases mem_exchangeEvents hnew with rfl | ⟨hconnected, rfl⟩
      · exact asked _
      · exact sent hconnected

theorem SaidSince.exchanged {before : List (Event Link)} {P : Event Link → Prop} {c : Situation Link σ ω}
    {t : Transport ω} {command : Command} (h : SaidSince before P c)
    (asked : ∀ connected, P ⟨.isConnected, connected⟩)
    (sent : ∀ reply, P ⟨.transmit command.encode, reply⟩) :
    SaidSince before P (c.exchanged t command) :=
  h.exchanged_of_reply asked fun _ => sent _

/-- Each event that was said on top of `before` satisfies `P` together with what was said before it. -/
def EachSince (before : List (Event Link)) (P : List (Event Link) → Event Link → Prop)
    (history : List (Event Link)) : Prop :=
  ∀ earlier event later, history = before ++ earlier ++ event :: later → P (before ++ earlier) event

section EachSince

variable {before history : List (Event Link)} {P : List (Event Link) → Event Link → Prop}

theorem eachSince_self : EachSince before P before := by
  intro earlier event later h
  have hlength := congrArg List.length h
  simp at hlength

theorem EachSince.snoc (h : EachSince before P history) (hbefore : before <+: history) {event : Event Link}
    (hevent : P history event) : EachSince before P (history ++ [event]) := by
  rcases hbefore with ⟨said, rfl⟩
  intro earlier last later hsplit
  rcases List.eq_nil_or_concat later with rfl | ⟨init, final, rfl⟩
  · -- The event is the last one.
    have hsame : before ++ said = before ++ earlier ∧ event = last := by
      simpa [← List.append_assoc] using hsplit
    rcases hsame with ⟨hsaid, rfl⟩
    rw [← hsaid]
    exact hevent
  · have hsplit' : before ++ said ++ [event] = (before ++ earlier ++ last :: init) ++ [final] := by
      simpa using hsplit
    exact h earlier last init (List.append_inj' hsplit' rfl).1

theorem EachSince.exchanged {c : Situation Link σ ω} {t : Transport ω} {command : Command}
    (h : EachSince before P c.history) (hbefore : before <+: c.history)
    (asked : ∀ connected, P c.history ⟨.isConnected, connected⟩)
    (sent : P (c.history ++ [⟨.isConnected, true⟩])
      ⟨.transmit command.encode, (t.transmit command.encode c.world).1⟩) :
    EachSince before P (c.exchanged t command).history := by
  have hasked := h.snoc hbefore (asked (t.isConnected c.world))
  unfold Situation.exchanged Transport.exchangeEvents
  cases hconnected : t.isConnected c.world with
  | false =>
    rw [hconnected] at hasked
    exact hasked
  | true =>
    rw [hconnected] at hasked
    have hsent := hasked.snoc (hbefore.trans (List.prefix_append _ _)) sent
    simpa using hsent

end EachSince

end Exchange
end SectorCard
