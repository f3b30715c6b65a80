import SectorCard.Proofs.CouplerSteps

/-!
# Conversations with a connected card

While a card is connected, all that is said is a list of exchanges: a command is sent, and it has a reply.  Such a list
says which commands were sent, in which order, and what became of each of them.

A reply is one of three things.  It *acknowledges* the command, if it ends in a status word of success; it *refuses* the
command, if it ends in any other status word; or it has no status word at all, because the exchange failed or the reply
was too short.  What is reported of a command depends on its instruction and on its reply and on nothing else
(`Exchange.outcome`).
-/

namespace SectorCard

open Procedure

/-- A command that was sent, with the reply it had. -/
structure Exchange where
  command : Command
  reply : Except CardError Bytes
  deriving DecidableEq

/-- What is reported of a command that is answered with a status word other than success. -/
def Instruction.refusal : Instruction → StatusWord → CardError
  | .readBinary => Coupler.accessError .readFailed
  | .updateBinary => Coupler.accessError .writeFailed
  | .loadKey => .loadKeyFailed
  | .authenticate => .authFailed
  | .other _ => .unexpectedStatus

/-- A failed authentication is reported with the status word that the reader gave. -/
theorem Instruction.eq_of_refusal {instruction : Instruction} {answer status : StatusWord}
    (h : instruction.refusal answer = .authFailed status) : answer = status := by
  -- Pages are read and written with refusals of their own, which share the one for authentication.
  have hpage : ∀ other : StatusWord → CardError, (∀ answer, other answer ≠ .authFailed status) →
      Coupler.accessError other answer = .authFailed status → answer = status := by
    intro other hother haccess
    unfold Coupler.accessError at haccess
    split at haccess
    · cases haccess
      rfl
    · exact absurd haccess (hother answer)
  cases instruction with
  | readBinary => exact hpage .readFailed (fun _ h => nomatch h) h
  | updateBinary => exact hpage .writeFailed (fun _ h => nomatch h) h
  | loadKey => cases h
  | authenticate =>
    cases h
    rfl
  | other code => cases h

namespace Exchange

variable {x : Exchange} {status : StatusWord}

/-! ## Replies -/

/-- What is said in an exchange: a card is found, and the command has its reply. -/
def events (x : Exchange) : List (Event Link) :=
  [⟨.isConnected, true⟩, ⟨.transmit x.command.encode, x.reply⟩]

/-- The reply ends in a status word. -/
def Answered (x : Exchange) (status : StatusWord) : Prop :=
  ∃ data, x.reply = .ok (data ++ [status.sw1, status.sw2])

/-- The reply ends in a status word of success. -/
def Acknowledged (x : Exchange) : Prop := ∃ status, x.Answered status ∧ status.isSuccess = true

/-- The reply ends in a status word other than success. -/
def Refused (x : Exchange) : Prop := ∃ status, x.Answered status ∧ status.isSuccess = false

/-- What is reported of an exchange: the data of the reply, or an error. -/
def outcome (x : Exchange) : Except CardError Bytes :=
  match x.reply.bind Reply.parse with
  | .ok reply => if reply.status.isSuccess then .ok reply.data else .error (x.command.instruction.refusal reply.status)
  | .error e => .error e

theorem answered_iff : x.Answered status ↔ ∃ data, x.reply.bind Reply.parse = .ok ⟨data, status⟩ := by
  constructor
  · rintro ⟨data, hreply⟩
    refine ⟨data, ?_⟩
    rw [hreply]
    exact Reply.parse_encode ⟨data, status⟩
  · rintro ⟨data, hparse⟩
    cases hreply : x.reply with
    | error e =>
      rw [hreply] at hparse
      cases hparse
    | ok bytes =>
      rw [hreply] at hparse
      exact ⟨data, hreply.trans (congrArg Except.ok (Reply.encode_of_parse hparse).symm)⟩

/-- A reply ends in one status word at most. -/
theorem Answered.unique {other : StatusWord} (h : x.Answered status) (h' : x.Answered other) : status = other := by
  rcases answered_iff.1 h with ⟨_, hparse⟩
  rcases answered_iff.1 h' with ⟨_, hparse'⟩
  cases hparse.symm.trans hparse'
  rfl

theorem outcome_of_answered (h : x.Answered status) :
    (status.isSuccess = true ∧ ∃ data, x.outcome = .ok data) ∨
      (status.isSuccess = false ∧ x.outcome = .error (x.command.instruction.refusal status)) := by
  rcases answered_iff.1 h with ⟨data, hparse⟩
  unfold outcome
  rw [hparse]
  cases hsuccess : status.isSuccess with
  | true => exact .inl ⟨rfl, data, if_pos hsuccess⟩
  | false => exact .inr ⟨rfl, if_neg (by simp [hsuccess])⟩

theorem outcome_of_unanswered (h : ∀ status, ¬ x.Answered status) :
    ∃ e, x.reply.bind Reply.parse = .error e ∧ x.outcome = .error e := by
  unfold outcome
  cases hparse : x.reply.bind Reply.parse with
  | error e => exact ⟨e, rfl, rfl⟩
  | ok reply => exact absurd (answered_iff.2 ⟨reply.data, hparse⟩) (h reply.status)

/-- A command succeeds exactly if it is acknowledged. -/
theorem acknowledged_iff : x.Acknowledged ↔ ∃ data, x.outcome = .ok data := by
  constructor
  · rintro ⟨status, hanswered, hsuccess⟩
    rcases outcome_of_answered hanswered with ⟨-, hdata⟩ | ⟨hfailure, -⟩
    · exact hdata
    · rw [hsuccess] at hfailure
      cases hfailure
  · rintro ⟨data, hdata⟩
    by_cases hanswered : ∃ status, x.Answered status
    · rcases hanswered with ⟨status, hanswered⟩
      rcases outcome_of_answered hanswered with ⟨hsuccess, -⟩ | ⟨-, herror⟩
      · exact ⟨status, hanswered, hsuccess⟩
      · cases hdata.symm.trans herror
    · rcases outcome_of_unanswered (not_exists.1 hanswered) with ⟨e, -, herror⟩
      cases hdata.symm.trans herror

theorem not_acknowledged_of_error {e : CardError} (h : x.outcome = .error e) : ¬ x.Acknowledged := by
  intro hacknowledged
  rcases acknowledged_iff.1 hacknowledged with ⟨data, hdata⟩
  cases h.symm.trans hdata

/-- A command that is refused is reported with its status word. -/
theorem Refused.outcome (h : x.Refused) :
    ∃ status, x.outcome = .error (x.command.instruction.refusal status) := by
  rcases h with ⟨status, hanswered, hfailure⟩
  rcases outcome_of_answered hanswered with ⟨hsuccess, -⟩ | ⟨-, herror⟩
  · rw [hsuccess] at hfailure
    cases hfailure
  · exact ⟨status, herror⟩

theorem Refused.not_acknowledged (h : x.Refused) : ¬ x.Acknowledged := by
  rcases h.outcome with ⟨status, herror⟩
  exact not_acknowledged_of_error herror

/-- The two status words of success. -/
theorem acknowledged_iff_answered :
    x.Acknowledged ↔ x.Answered ⟨0x90, 0x00⟩ ∨ x.Answered ⟨0x91, 0x00⟩ := by
  constructor
  · rintro ⟨status, hanswered, hsuccess⟩
    rcases StatusWord.isSuccess_iff.1 hsuccess with rfl | rfl
    · exact .inl hanswered
    · exact .inr hanswered
  · rintro (hanswered | hanswered)
    · exact ⟨_, hanswered, rfl⟩
    · exact ⟨_, hanswered, rfl⟩

/-- If the exchange failed, then because no card was there or because it went wrong. -/
def Plain (x : Exchange) : Prop := ∀ e, x.reply = .error e → e = .notConnected ∨ ∃ cause, e = .transport cause

/-- A plain exchange makes up no failed authentication: the reader has refused the command. -/
theorem Plain.answered (hx : x.Plain) (h : x.outcome = .error (.authFailed status)) :
    x.Answered status ∧ status.isSuccess = false ∧ x.command.instruction.refusal status = .authFailed status := by
  by_cases hanswered : ∃ answer, x.Answered answer
  · rcases hanswered with ⟨answer, hanswered⟩
    rcases outcome_of_answered hanswered with ⟨-, data, hdata⟩ | ⟨hfailure, herror⟩
    · cases h.symm.trans hdata
    · have hrefusal : x.command.instruction.refusal answer = .authFailed status :=
        Except.error.inj (herror.symm.trans h)
      cases Instruction.eq_of_refusal hrefusal
      exact ⟨hanswered, hfailure, hrefusal⟩
  · -- No reply, so the error is that of the exchange or of a reply too short, and neither names a status.
    rcases outcome_of_unanswered (not_exists.1 hanswered) with ⟨e, hparse, herror⟩
    cases Except.error.inj (herror.symm.trans h)
    cases hreply : x.reply with
    | error e =>
      have he : e = .authFailed status := by
        simpa [hreply, Except.bind] using hparse
      rcases hx _ hreply with hplain | ⟨cause, hplain⟩ <;> cases he.symm.trans hplain
    | ok bytes =>
      have hbytes : Reply.parse bytes = .error (.authFailed status) := by
        simpa [hreply, Except.bind] using hparse
      cases (Reply.parse_eq_error_iff.1 hbytes).2

theorem Plain.refused (hx : x.Plain) (h : x.outcome = .error (.authFailed status)) : x.Refused := by
  rcases hx.answered h with ⟨hanswered, hfailure, -⟩
  exact ⟨status, hanswered, hfailure⟩

end Exchange

/-! ## Exchanges that are made -/

section Conversed

variable {σ τ υ ω : Type} {t : Transport ω} {c : Situation Link σ ω} {c' : Situation Link τ ω} {c'' : Situation Link υ ω}
  {command : Command} {w : ω}

/-- The exchange that sending a command makes with a card that is connected. -/
def Transport.replied (t : Transport ω) (command : Command) (w : ω) : Exchange :=
  ⟨command, (t.transmit command.encode w).1⟩

theorem Transport.exchange_of_connected (h : t.isConnected w = true) :
    (t.exchange command w).1 = (t.replied command w).reply.bind Reply.parse := by
  simp [Transport.exchange, Transport.replied, h]

/-- What is demanded of a card that is connected is what is reported of the exchange. -/
theorem Transport.demand_of_connected (h : t.isConnected w = true) :
    t.demand command command.instruction.refusal w = (t.replied command w).outcome := by
  unfold Transport.demand Exchange.outcome
  rw [Transport.exchange_of_connected h]
  rfl

theorem Transport.exchangeEvents_of_connected (h : t.isConnected w = true) :
    t.exchangeEvents command w = (t.replied command w).events := by
  simp [Transport.exchangeEvents, Transport.replied, Exchange.events, h]

theorem Transport.FailsPlainly.plain (ht : t.FailsPlainly) (command : Command) (w : ω) :
    (t.replied command w).Plain :=
  ht _ _

/-- Between two situations, these exchanges were made and nothing else was said. -/
def Conversed (said : List Exchange) (c : Situation Link σ ω) (c' : Situation Link τ ω) : Prop :=
  c'.history = c.history ++ said.flatMap Exchange.events

theorem conversed_nil (c : Situation Link σ ω) : Conversed [] c c := by
  simp [Conversed]

theorem Conversed.append {said later : List Exchange} (h : Conversed said c c') (h' : Conversed later c' c'') :
    Conversed (said ++ later) c c'' := by
  unfold Conversed at *
  rw [h', h, List.flatMap_append, List.append_assoc]

theorem conversed_exchanged (h : t.isConnected c.world = true) :
    Conversed [t.replied command c.world] c (c.exchanged t command) := by
  simp [Conversed, Situation.exchanged, Transport.exchangeEvents_of_connected h]

end Conversed

/-! ## Cards that follow a script -/

/-- A connected card with a list of replies, which it gives one after the other; after the last it acknowledges every
command. -/
def Transport.script : Transport (List Bytes) where
  isConnected _ := true
  transmit _ replies := (.ok (replies.headD [0x90, 0x00]), replies.tail)

theorem Transport.failsPlainly_script : Transport.script.FailsPlainly := by
  rintro command replies e ⟨⟩

end SectorCard
