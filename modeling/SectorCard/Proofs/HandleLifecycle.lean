import SectorCard.Proofs.ReaderLookup
import SectorCard.Service.Operation
import SectorCard.Simulation.Desk

/-!
# The lifecycle of handles

A service gives out handles of cards, and wants each of them back once.  What a connection does with handles can be
read from its calls: a call takes a handle, uses one, gives one back, or deals with none.  `audit` follows the calls and
keeps the handle that is held; it fails at the first call that takes a second handle, or that uses or gives back a
handle that is not held.

Main statements: `orderly_of_audit`, what an audit says about the calls; `audit_lifetime`, whatever the service does, no
audit of a connection fails, and when the connection was closed no handle is left.
-/

namespace SectorCard.Connection

/-! ## Following the calls -/

/-- What a call does with handles. -/
inductive Dealing where
  | take (card : Handle)
  | use (card : Handle)
  | giveBack (card : Handle)
  | nothing
  deriving DecidableEq, Repr

/-- A card is given back when it is disconnected without power.  It is disconnected with a reset only underneath, when
its handle is dropped, and that is not a call of the connection. -/
def dealing : Event Service → Dealing
  | ⟨.connect _, .ok card⟩ => .take card
  | ⟨.disconnect card .unpower, _⟩ => .giveBack card
  | ⟨.disconnect _ .reset, _⟩ => .nothing
  | ⟨.disconnect card .leave, _⟩ => .use card
  | ⟨.reconnect card, _⟩ => .use card
  | ⟨.statusLengths card, _⟩ => .use card
  | ⟨.status card, _⟩ => .use card
  | ⟨.transmit card _ _, _⟩ => .use card
  | _ => .nothing

/-- The number of the handle that is held after a call, if the call is in order. -/
def settle : (held : Option Nat) → Dealing → Option (Option Nat)
  | held, .nothing => some held
  | none, .take card => some (some card.id)
  | some id, .use card => if card.id = id then some (some id) else none
  | some id, .giveBack card => if card.id = id then some none else none
  | _, _ => none

/-- The number of the handle that is held after some calls, if all of them are in order. -/
def audit (held : Option Nat) (events : List (Event Service)) : Option (Option Nat) :=
  events.foldlM (fun held event => settle held (dealing event)) held

theorem audit_append (held : Option Nat) (events later : List (Event Service)) :
    audit held (events ++ later) = (audit held events).bind fun held => audit held later :=
  List.foldlM_append

theorem audit_cons (held : Option Nat) (event : Event Service) (events : List (Event Service)) :
    audit held (event :: events) = (settle held (dealing event)).bind fun held => audit held events :=
  List.foldlM_cons

/-- Calls that have nothing to do with handles leave what is held. -/
theorem audit_of_nothing {held : Option Nat} {events : List (Event Service)}
    (h : ∀ event ∈ events, dealing event = .nothing) : audit held events = some held := by
  induction events with
  | nil => rfl
  | cons event rest ih =>
    rcases List.forall_mem_cons.1 h with ⟨hfirst, hrest⟩
    rw [audit_cons, hfirst]
    exact ih hrest

/-! ## What an audit says -/

section Audit

variable {held : Option Nat} {event : Event Service} {before after : List (Event Service)}

theorem settle_take {card : Handle} {held' : Option Nat} (h : settle held (.take card) = some held') :
    held = none ∧ held' = some card.id := by
  cases held with
  | none => exact ⟨rfl, (Option.some.inj h).symm⟩
  | some id => cases h

theorem settle_use {card : Handle} {held' : Option Nat} (h : settle held (.use card) = some held') :
    held = some card.id ∧ held' = some card.id := by
  cases held with
  | none => cases h
  | some id =>
    by_cases hid : card.id = id
    · rw [settle, if_pos hid] at h
      cases h
      exact ⟨congrArg some hid.symm, congrArg some hid.symm⟩
    · rw [settle, if_neg hid] at h
      cases h

theorem settle_giveBack {card : Handle} {held' : Option Nat} (h : settle held (.giveBack card) = some held') :
    held = some card.id ∧ held' = none := by
  cases held with
  | none => cases h
  | some id =>
    by_cases hid : card.id = id
    · rw [settle, if_pos hid] at h
      cases h
      exact ⟨congrArg some hid.symm, rfl⟩
    · rw [settle, if_neg hid] at h
      cases h

/-- Calls that are in order are in order up to each of them. -/
theorem audit_before (h : (audit held (before ++ event :: after)).isSome = true) :
    ∃ held' held'', audit held before = some held' ∧ settle held' (dealing event) = some held'' := by
  rw [audit_append] at h
  cases hbefore : audit held before with
  | none =>
    rw [hbefore] at h
    cases h
  | some held' =>
    rw [hbefore, Option.bind_some, audit_cons] at h
    cases hsettle : settle held' (dealing event) with
    | none =>
      rw [hsettle] at h
      cases h
    | some held'' => exact ⟨held', held'', rfl, hsettle⟩

def takes (id : Nat) (event : Event Service) : Bool :=
  match dealing event with
  | .take card => card.id == id
  | _ => false

def givesBack (id : Nat) (event : Event Service) : Bool :=
  match dealing event with
  | .giveBack card => card.id == id
  | _ => false

/-- How often a handle is held: once or not at all. -/
def holding (held : Option Nat) (id : Nat) : Nat := if held = some id then 1 else 0

theorem holding_settle {held' : Option Nat} (h : settle held (dealing event) = some held') (id : Nat) :
    holding held id + (if takes id event then 1 else 0) =
      holding held' id + (if givesBack id event then 1 else 0) := by
  unfold takes givesBack
  cases hdealing : dealing event with
  | nothing =>
    rw [hdealing] at h
    cases h
    rfl
  | take card =>
    rw [hdealing] at h
    rcases settle_take h with ⟨rfl, rfl⟩
    simp [holding]
  | use card =>
    rw [hdealing] at h
    rcases settle_use h with ⟨rfl, rfl⟩
    rfl
  | giveBack card =>
    rw [hdealing] at h
    rcases settle_giveBack h with ⟨rfl, rfl⟩
    simp [holding]

/-- Calls that are in order give each handle back as often as they take it, but for the one that is still held. -/
theorem holding_audit {events : List (Event Service)} {held' : Option Nat} (h : audit held events = some held')
    (id : Nat) : holding held id + events.countP (takes id) = holding held' id + events.countP (givesBack id) := by
  -- What is held carries the induction: taking and giving back move one handle between the two sides.
  induction events generalizing held with
  | nil =>
    cases h
    rfl
  | cons event rest ih =>
    rw [audit_cons] at h
    cases hsettle : settle held (dealing event) with
    | none =>
      rw [hsettle] at h
      cases h
    | some next =>
      rw [hsettle, Option.bind_some] at h
      have hstep := holding_settle hsettle id
      have hrest := ih h
      rw [List.countP_cons, List.countP_cons]
      omega

/-- A handle that is held at the end, and not before, was taken in between. -/
theorem exists_takes {events : List (Event Service)} {id : Nat} (h : audit none events = some (some id)) :
    ∃ event ∈ events, takes id event = true := by
  have hcounts := holding_audit h id
  have hheld : holding (some id) id = 1 := if_pos rfl
  have hfree : holding none id = 0 := rfl
  rw [hheld, hfree] at hcounts
  apply List.countP_pos_iff.1
  omega

/-- Calls that deal with handles in order, and hold none in the end.  A handle that was given back is gone until the
service gives out one of the same number. -/
structure Orderly (events : List (Event Service)) : Prop where
  settled : audit none events = some none
  returned : ∀ id, events.countP (takes id) = events.countP (givesBack id)
  single : ∀ before event after card, events = before ++ event :: after → dealing event = .take card →
    audit none before = some none
  held : ∀ before event after card, events = before ++ event :: after →
    dealing event = .use card ∨ dealing event = .giveBack card → audit none before = some (some card.id)
  gone : ∀ before back between event after card, events = before ++ back :: (between ++ event :: after) →
    givesBack card.id back = true → dealing event = .use card ∨ dealing event = .giveBack card →
      ∃ taken ∈ between, takes card.id taken = true

theorem audit_before_use {card : Handle} (h : (audit held (before ++ event :: after)).isSome = true)
    (huse : dealing event = .use card ∨ dealing event = .giveBack card) :
    audit held before = some (some card.id) := by
  rcases audit_before h with ⟨held', next, hbefore, hsettle⟩
  rcases huse with huse | hback
  · rw [huse] at hsettle
    rw [hbefore, (settle_use hsettle).1]
  · rw [hback] at hsettle
    rw [hbefore, (settle_giveBack hsettle).1]

theorem dealing_of_givesBack {id : Nat} (h : givesBack id event = true) :
    ∃ card, dealing event = .giveBack card ∧ card.id = id := by
  unfold givesBack at h
  split at h
  · rename_i card hcard
    exact ⟨card, hcard, beq_iff_eq.1 h⟩
  · cases h

/-- All of this follows from an audit. -/
theorem orderly_of_audit {events : List (Event Service)} (h : audit none events = some none) : Orderly events where
  settled := h
  returned id := by
    have hcounts := holding_audit h id
    omega
  single before event after card hsplit htake := by
    rcases audit_before (by rw [← hsplit, h]; rfl) with ⟨held, next, hbefore, hsettle⟩
    rw [htake] at hsettle
    rw [hbefore, (settle_take hsettle).1]
  held before event after card hsplit huse := audit_before_use (by rw [← hsplit, h]; rfl) huse
  gone before back between event after card hsplit hback huse := by
    rcases dealing_of_givesBack hback with ⟨given, hgiven, hid⟩
    have hsome : (audit none events).isSome = true := by
      rw [h]
      rfl
    have hheld : audit none before = some (some given.id) :=
      audit_before_use (by rw [← hsplit]; exact hsome) (.inr hgiven)
    -- After the handle was given back, nothing is held.
    have hrest : audit none events = audit none (between ++ event :: after) := by
      rw [hsplit, audit_append, hheld, Option.bind_some, audit_cons, hgiven, settle, if_pos rfl, Option.bind_some]
    exact exists_takes (audit_before_use (by rw [← hrest]; exact hsome) huse)

end Audit

/-! ## Dialogues whose calls are in order -/

variable {α β : Type} {held : Option Nat}

/-- Whoever is on the other side, a dialogue that is run while `held` is held makes only calls that are in order, and
its value tells what is held afterwards. -/
def Settles (held : Option Nat) (d : ServiceM α) (after : α → Option Nat) : Prop :=
  ∀ (ω : Type) (r : Responder Service ω) (w : ω),
    audit held (Dialogue.run r d w).events = some (after (Dialogue.run r d w).value)

theorem settles_pure {after : α → Option Nat} {a : α} (h : after a = held) : Settles held (pure a) after :=
  fun _ _ _ => congrArg some h.symm

theorem Settles.bind {d : ServiceM α} {f : α → ServiceM β} {between : α → Option Nat} {after : β → Option Nat}
    (h : Settles held d between) (hf : ∀ a, Settles (between a) (f a) after) : Settles held (d >>= f) after := by
  intro ω r w
  rw [Dialogue.bind_eq, Dialogue.run_bind, audit_append, h ω r w, Option.bind_some]
  exact hf _ ω r _

theorem settles_ask (q : Service.Request) {next : Service.Reply q → ServiceM α} (between : Service.Reply q → Option Nat)
    {after : α → Option Nat} (h : ∀ reply, settle held (dealing ⟨q, reply⟩) = some (between reply))
    (hnext : ∀ reply, Settles (between reply) (next reply) after) : Settles held (.ask q next) after := by
  intro ω r w
  rw [Dialogue.run_ask, audit_cons, h, Option.bind_some]
  exact hnext _ ω r _

theorem settles_call {q : Service.Request} {after : Except CardError (Service.Gain q) → Option Nat}
    (ok : ∀ a, settle held (dealing ⟨q, .ok a⟩) = some (after (.ok a)))
    (error : ∀ f, settle held (dealing ⟨q, .error f⟩) = some (after (.error (.ofFault f)))) :
    Settles held (call q) after := by
  intro ω r w
  rw [call, Dialogue.run_ask, audit_cons]
  cases (r.answer q w).1 with
  | ok a =>
    rw [ok a]
    rfl
  | error f =>
    rw [error f]
    rfl

/-- A call that has nothing to do with handles. -/
theorem settles_plain {q : Service.Request} (h : ∀ reply, dealing ⟨q, reply⟩ = .nothing) :
    Settles held (call q) fun _ => held := by
  refine settles_call (fun a => ?_) (fun f => ?_)
  · rw [h]
    rfl
  · rw [h]
    rfl

/-- A call that uses the handle that is held. -/
theorem settles_use {q : Service.Request} {card : Handle} (h : ∀ reply, dealing ⟨q, reply⟩ = .use card) :
    Settles (some card.id) (call q) fun _ => some card.id := by
  have hsettle : settle (some card.id) (.use card) = some (some card.id) := if_pos rfl
  refine settles_call (fun a => ?_) (fun f => ?_)
  · rw [h, hsettle]
  · rw [h, hsettle]

/-! ## Opening -/

/-- The number of the handle that a connection holds. -/
def cardId (c : Connection) : Option Nat := c.card.map Handle.id

/-- What is held after a connection was to be opened. -/
def heldBy : Option (Except CardError Connection) → Option Nat
  | some (.ok c) => c.cardId
  | _ => none

theorem dealing_of_looksUp {event : Event Service} (h : LooksUp event.request) : dealing event = .nothing := by
  rcases event with ⟨q, reply⟩
  cases q with
  | isValid => rfl
  | listLength => rfl
  | listReaders => rfl
  | _ => cases h

/-- Finding a reader has nothing to do with handles. -/
theorem settles_findReader (wanted : Option String) : Settles held (findReader wanted) fun _ => held := by
  intro ω r w
  refine audit_of_nothing fun event hevent => dealing_of_looksUp ?_
  exact (asksOnly_findReader wanted).events r w event hevent

theorem settles_release : Settles held release fun _ => held :=
  settles_ask .release (fun _ => held) (fun _ => rfl) fun _ => settles_pure rfl

/-- What is held after a handle was to be taken. -/
def heldCard : Except CardError Handle → Option Nat
  | .ok card => some card.id
  | .error _ => none

theorem settles_connect (reader : Bytes) : Settles none (call (.connect reader)) heldCard :=
  settles_call (fun _ => rfl) (fun _ => rfl)

/-- What is done within a context that is kept is all that deals with handles. -/
theorem settles_withContext {body : ServiceM (Except CardError α)} {after : Except CardError α → Option Nat}
    (hbody : Settles none body after) (herror : ∀ e, after (.error e) = none) :
    Settles none (withContext body true) after := by
  refine (settles_plain fun _ => rfl).bind fun established => ?_
  cases established with
  | error e => exact settles_pure (herror e)
  | ok _ =>
    refine hbody.bind fun result => ?_
    cases result with
    | error e => exact settles_release.bind fun _ => settles_pure rfl
    | ok a => exact settles_pure rfl

theorem settles_openOn (wanted : Option String) : Settles none (openOn wanted) fun x => heldBy (some x) := by
  refine settles_withContext ?_ fun _ => rfl
  refine (settles_findReader wanted).bind fun reader => ?_
  cases reader with
  | error e => exact settles_pure rfl
  | ok reader =>
    refine (settles_connect reader).bind fun card => ?_
    cases card with
    | error e => exact settles_pure rfl
    | ok card => exact settles_pure rfl

theorem settles_poll (reader : Bytes) (limit patience attempts : Nat) :
    Settles none (poll reader limit patience attempts) fun x => x.elim none heldCard := by
  induction patience generalizing attempts with
  | zero => exact settles_pure rfl
  | succ patience ih =>
    refine settles_ask (.connect reader) (fun reply => heldCard (reply.mapError CardError.ofFault)) ?_ ?_
    · rintro (f | card)
      · rfl
      · rfl
    · rintro (f | card)
      · dsimp only
        split
        · exact ih _
        · exact settles_pure rfl
      · exact settles_pure rfl

theorem settles_wait (wanted : Option String) (limit patience : Nat) :
    Settles none (wait wanted limit patience) heldBy := by
  refine (settles_plain fun _ => rfl).bind fun established => ?_
  cases established with
  | error e => exact settles_pure rfl
  | ok _ =>
    refine (settles_findReader wanted).bind fun reader => ?_
    cases reader with
    | error e => exact settles_release.bind fun _ => settles_pure rfl
    | ok reader =>
      refine (settles_poll reader limit patience 0).bind fun polled => ?_
      rcases polled with _ | (e | card)
      · exact settles_pure rfl
      · exact settles_release.bind fun _ => settles_pure rfl
      · exact settles_pure rfl

theorem settles_opening (opening : Opening) : Settles none opening.perform heldBy := by
  cases opening with
  | now wanted => exact (settles_openOn wanted).bind fun _ => settles_pure rfl
  | waiting wanted limit patience => exact settles_wait wanted limit patience

/-! ## Operations -/

theorem settles_reconnect (c : Connection) : Settles c.cardId (reconnect c) fun x => x.2.cardId := by
  rcases c with ⟨_ | card, reader⟩
  · refine (settles_connect reader).bind fun card => ?_
    cases card with
    | error e => exact settles_pure rfl
    | ok card => exact settles_pure rfl
  · refine (settles_use fun _ => rfl).bind fun protocol => ?_
    cases protocol with
    | error e => exact settles_pure rfl
    | ok protocol => exact settles_pure rfl

/-- Disconnecting gives the handle back, whatever the service replies. -/
theorem settles_disconnect (c : Connection) : Settles c.cardId (disconnect c) fun _ => none := by
  rcases c with ⟨_ | card, reader⟩
  · exact settles_pure rfl
  · have hback : settle (some card.id) (.giveBack card) = some none := if_pos rfl
    have hcall : Settles (some card.id) (call (.disconnect card .unpower)) fun _ => none :=
      settles_call (fun _ => hback) (fun _ => hback)
    refine hcall.bind fun answer => ?_
    cases answer with
    | ok _ => exact settles_pure rfl
    | error e => exact (settles_plain fun _ => rfl).bind fun _ => settles_pure rfl

theorem card_disconnect {ω : Type} (r : Responder Service ω) (c : Connection) (w : ω) :
    (Dialogue.run r (disconnect c) w).value.2.card = none := by
  rcases c with ⟨_ | card, reader⟩
  · rfl
  · rw [disconnect]
    dsimp only
    rw [Dialogue.bind_eq, Dialogue.run_bind]
    cases (Dialogue.run r (call (.disconnect card .unpower)) w).value with
    | ok _ => rfl
    | error e =>
      dsimp only
      rw [Dialogue.bind_eq, Dialogue.run_bind]
      rfl

theorem settles_protocol (c : Connection) : Settles c.cardId (protocol c) fun _ => c.cardId := by
  rcases c with ⟨_ | card, reader⟩
  · exact settles_pure rfl
  · refine (settles_use fun _ => rfl).bind fun lengths => ?_
    cases lengths with
    | error e => exact settles_pure rfl
    | ok _ =>
      refine (settles_use fun _ => rfl).bind fun status => ?_
      cases status with
      | error e => exact settles_pure rfl
      | ok protocol => exact settles_pure rfl

/-- An operation makes only calls that are in order, and afterwards the handle is held that the connection has. -/
theorem settles_perform (op : Operation) (c : Connection) : Settles c.cardId (perform op c) fun x => x.2.cardId := by
  cases op with
  | transmit command =>
    rcases c with ⟨_ | card, reader⟩
    · exact settles_pure rfl
    · exact (settles_use fun _ => rfl).bind fun _ => settles_pure rfl
  | reconnect => exact settles_reconnect c
  | disconnect =>
    intro ω r w
    have hnone : (Dialogue.run r (perform .disconnect c) w).value.2.cardId = none :=
      congrArg (Option.map Handle.id) (card_disconnect r c w)
    exact (settles_disconnect c ω r w).trans (congrArg some hnone.symm)
  | protocol => exact (settles_protocol c).bind fun _ => settles_pure rfl
  | isConnected => exact settles_pure rfl

theorem settles_performAll (ops : List Operation) (c : Connection) :
    Settles c.cardId (performAll ops c) fun x => x.2.cardId := by
  induction ops generalizing c with
  | nil => exact settles_pure rfl
  | cons op rest ih =>
    refine (settles_perform op c).bind fun x => ?_
    exact (ih x.2).bind fun _ => settles_pure rfl

theorem settles_useAll (opening : Opening) (ops : List Operation) : Settles none (useAll opening ops) heldBy := by
  refine (settles_opening opening).bind fun opened => ?_
  rcases opened with _ | (e | c)
  · exact settles_pure rfl
  · exact settles_pure rfl
  · exact (settles_performAll ops c).bind fun _ => settles_pure rfl

theorem settles_close (c : Connection) : Settles c.cardId (close c) fun _ => none :=
  (settles_disconnect c).bind fun _ => settles_release

theorem settles_lifetime (opening : Opening) (ops : List Operation) :
    Settles none (lifetime opening ops) fun _ => none := by
  refine (settles_useAll opening ops).bind fun used => ?_
  rcases used with _ | (e | c)
  · exact settles_pure rfl
  · exact settles_pure rfl
  · exact settles_close c

/-! ## From opening to closing -/

theorem isConnected_iff (c : Connection) : c.isConnected = true ↔ ∃ id, c.cardId = some id := by
  rcases c with ⟨_ | card, reader⟩
  · simp [isConnected, cardId]
  · simp [isConnected, cardId]

/-- Whatever a service does, and whatever is done with a connection from its opening until it is closed, its calls deal
with handles in order.  At any time in between, the connection is connected exactly while a handle is held.  If none is
held, transmitting and disconnecting come to nothing without a call; and after disconnecting none is held, however that
went. -/
theorem audit_lifetime {ω : Type} (r : Responder Service ω) (w : ω) (opening : Opening) (ops : List Operation) :
    let used := Dialogue.run r (useAll opening ops) w
    let whole := Dialogue.run r (lifetime opening ops) w
    Orderly whole.events ∧ used.events <+: whole.events ∧
      ∀ c, used.value = some (.ok c) →
        (c.isConnected = true ↔ ∃ id, audit none used.events = some (some id)) ∧
          (c.isConnected = false →
            (∀ command, Dialogue.run r (transmit c command) used.world = ⟨.error .notConnected, used.world, []⟩) ∧
              Dialogue.run r (disconnect c) used.world = ⟨(.ok (), c), used.world, []⟩) ∧
          (Dialogue.run r (disconnect c) used.world).value.2.isConnected = false := by
  intro used whole
  have hused : audit none used.events = some (heldBy used.value) := settles_useAll opening ops ω r w
  have hwhole : audit none whole.events = some none := settles_lifetime opening ops ω r w
  refine ⟨orderly_of_audit hwhole, ?_, fun c hc => ⟨?_, fun hidle => ?_, ?_⟩⟩
  · show used.events <+: (Dialogue.run r ((useAll opening ops).bind _) w).events
    rw [Dialogue.run_bind]
    exact List.prefix_append _ _
  · rw [hused, hc, isConnected_iff]
    simp [heldBy]
  · rcases c with ⟨_ | card, reader⟩
    · exact ⟨fun command => rfl, rfl⟩
    · cases hidle
  · rw [isConnected, card_disconnect]
    rfl

/-- A desk at which disconnecting fails once. -/
def stubborn : Simulation.Desk :=
  ⟨[[0x52]], ⟨true, [], .script [] (.status 0x90 0x00)⟩, .t1, none, [(.disconnect, [some .commError])], [], 0⟩

/-- The handle that was not given up is not used again, and the next one is given back at the end. -/
example :
    let ops : List Operation := [.disconnect, .transmit [0xff], .reconnect, .transmit [0xff]]
    (Dialogue.run Simulation.Desk.responder (lifetime (.now none) ops) stubborn).events.map dealing =
      [.nothing, .nothing, .nothing, .nothing, .take ⟨0, .t1⟩, .giveBack ⟨0, .t1⟩, .nothing, .take ⟨1, .t1⟩,
        .use ⟨1, .t1⟩, .giveBack ⟨1, .t1⟩, .nothing] := by
  decide

end SectorCard.Connection
