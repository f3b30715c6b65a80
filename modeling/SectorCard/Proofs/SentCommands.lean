import SectorCard.Proofs.WireContract

/-!
# How often a command is sent

A write that fails to authenticate is tried once more, so a page may be sent twice, with success or without.  This module
counts: `sent` are the commands with a certain instruction among what was said, in order, and
`ensures_withAuthRetry_sent` says that a write sends its page at most twice and sends no other page.
-/

namespace SectorCard

open Procedure

variable {σ ω : Type} {t : Transport ω} {instruction : Instruction} {before : List (Event Link)} {commands : List Bytes}

/-! ## Commands of one kind -/

/-- The command that an event sends, if it has a certain instruction: the second byte of a command tells. -/
def Event.sent? (instruction : Instruction) : Event Link → Option Bytes
  | ⟨.isConnected, _⟩ => none
  | ⟨.transmit command, _⟩ => if command[1]? = some instruction.code then some command else none

/-- The commands that were sent with a certain instruction, in order. -/
def sent (instruction : Instruction) (said : List (Event Link)) : List Bytes :=
  said.filterMap (Event.sent? instruction)

@[simp] theorem sent_nil : sent instruction [] = [] := rfl

@[simp] theorem sent_append (said later : List (Event Link)) :
    sent instruction (said ++ later) = sent instruction said ++ sent instruction later :=
  List.filterMap_append

@[simp] theorem sent?_asked (connected : Bool) : Event.sent? instruction ⟨.isConnected, connected⟩ = none := rfl

theorem sent?_encode (command : Command) (reply : Except CardError Bytes) :
    Event.sent? instruction ⟨.transmit command.encode, reply⟩ =
      if command.instruction.code = instruction.code then some command.encode else none := by
  simp [Event.sent?, Command.encode]

theorem sent_exchangeEvents_of_ne {command : Command} (h : command.instruction.code ≠ instruction.code)
    (t : Transport ω) (w : ω) : sent instruction (t.exchangeEvents command w) = [] := by
  unfold Transport.exchangeEvents sent
  cases t.isConnected w <;> simp [sent?_encode, h]

theorem sent_exchangeEvents (t : Transport ω) (command : Command) (w : ω) :
    sent command.instruction (t.exchangeEvents command w) = if t.isConnected w then [command.encode] else [] := by
  unfold Transport.exchangeEvents sent
  cases t.isConnected w <;> simp [List.filterMap_cons, sent?_encode]

theorem event_of_mem_sent {command : Bytes} {said : List (Event Link)} (h : command ∈ sent instruction said) :
    ∃ event ∈ said, event.request = .transmit command := by
  rcases List.mem_filterMap.1 h with ⟨⟨request, reply⟩, hmem, hsent⟩
  refine ⟨_, hmem, ?_⟩
  cases request with
  | isConnected => cases hsent
  | transmit other =>
    unfold Event.sent? at hsent
    split at hsent
    · rename_i hnone
      cases hnone
    · rename_i hsome
      cases hsome
      split at hsent <;> cases hsent
      rfl

/-! ## Since a certain moment -/

/-- Since `before`, these and no other commands were sent with a certain instruction. -/
def SentSince (instruction : Instruction) (before : List (Event Link)) (commands : List Bytes)
    (c : Situation Link σ ω) : Prop :=
  ∃ said, c.history = before ++ said ∧ sent instruction said = commands

section SentSince

variable {c : Situation Link σ ω}

theorem sentSince_history (instruction : Instruction) (c : Situation Link σ ω) :
    SentSince instruction c.history [] c :=
  ⟨[], (List.append_nil _).symm, rfl⟩

theorem SentSince.append (h : SentSince instruction before commands c) {later : List (Event Link)}
    {c' : Situation Link σ ω} (hlater : c'.history = c.history ++ later) :
    SentSince instruction before (commands ++ sent instruction later) c' := by
  rcases h with ⟨said, hsaid, rfl⟩
  exact ⟨said ++ later, by rw [hlater, hsaid, List.append_assoc], sent_append said later⟩

theorem SentSince.exchanged_of_ne (h : SentSince instruction before commands c) {command : Command}
    (hne : command.instruction.code ≠ instruction.code) :
    SentSince instruction before commands (c.exchanged t command) := by
  have hmore : SentSince instruction before _ (c.exchanged t command) := h.append rfl
  rwa [sent_exchangeEvents_of_ne hne, List.append_nil] at hmore

/-- A command of the instruction that is counted is sent if a card is connected. -/
theorem SentSince.exchanged {command : Command} (h : SentSince command.instruction before commands c) :
    SentSince command.instruction before
      (commands ++ if t.isConnected c.world then [command.encode] else []) (c.exchanged t command) := by
  rw [← sent_exchangeEvents]
  exact h.append rfl

end SentSince

/-- Neither loading keys nor authenticating is counted. -/
def Instruction.IsAccess (instruction : Instruction) : Prop :=
  Instruction.loadKey.code ≠ instruction.code ∧ Instruction.authenticate.code ≠ instruction.code

theorem withstands_sentSince (h : instruction.IsAccess) (before : List (Event Link)) (commands : List Bytes) :
    Coupler.Withstands t fun d => SentSince instruction before commands d where
  loading _ _ hd := hd.exchanged_of_ne h.1
  authenticating _ _ _ _ hd := hd.exchanged_of_ne h.2
  state _ _ hd := hd

theorem isAccess_updateBinary : Instruction.updateBinary.IsAccess := ⟨by decide, by decide⟩

theorem isAccess_readBinary : Instruction.readBinary.IsAccess := ⟨by decide, by decide⟩

/-! ## Pages -/

namespace Coupler

variable {d : Situation Link Coupler ω}

/-- An access is not counted if its own command is not. -/
theorem ensures_access_unsent (h : instruction.IsAccess) {address : UInt8} {command : Command}
    {other : StatusWord → CardError} (hne : command.instruction.code ≠ instruction.code)
    (hd : SentSince instruction before commands d) :
    Ensures t.responder (access address command other) d fun _ d' => SentSince instruction before commands d' := by
  refine ensures_access_of_withstands (withstands_sentSince h before commands) hd (fun _ _ hd => hd) fun d hd => ?_
  have hsent : SentSince instruction before commands (d.exchanged t command) := hd.exchanged_of_ne hne
  exact ensures_transfer_of_demand (fun _ _ => hsent) (fun _ _ _ => hsent)

theorem ensures_readPage_unsent (address length : UInt8) (hd : SentSince .updateBinary before commands d) :
    Ensures t.responder (readPage address length) d fun _ d' => SentSince .updateBinary before commands d' := by
  rw [readPage_eq]
  exact ensures_access_unsent isAccess_updateBinary (show Instruction.readBinary.code ≠ _ by decide) hd

theorem ensures_writePage_unsent (address : UInt8) (page : Block) (hd : SentSince .readBinary before commands d) :
    Ensures t.responder (writePage address page.bytes) d fun _ d' => SentSince .readBinary before commands d' := by
  rw [writePage_eq address (by rw [page.length_bytes]; decide)]
  refine (ensures_access_unsent isAccess_readBinary (show Instruction.updateBinary.code ≠ _ by decide) hd).bind ?_ ?_
  · exact fun _ _ hd => ensures_pure hd
  · exact fun _ _ hd => hd

/-- A page is sent once, unless the write fails before that. -/
theorem ensures_writePage_sent (address : UInt8) (page : Block) (hd : SentSince .updateBinary before commands d) :
    Ensures t.responder (writePage address page.bytes) d fun x d' =>
      (x ≠ .ok () ∧ SentSince .updateBinary before commands d') ∨
        SentSince .updateBinary before (commands ++ [(WireCommand.write address page).bytes]) d' := by
  rw [writePage_eq address (by rw [page.length_bytes]; decide)]
  refine Ensures.bind (R := fun x d' => ((∀ data, x ≠ .ok data) ∧ SentSince .updateBinary before commands d') ∨
    SentSince .updateBinary before (commands ++ [(WireCommand.write address page).bytes]) d') ?_ ?_ ?_
  · -- Reaching the page sends none, and the transfer sends it if the card is still there.
    refine ensures_access_of_withstands (withstands_sentSince isAccess_updateBinary before commands) hd
      (fun _ _ hd => .inl ⟨nofun, hd⟩) fun d hd => ?_
    have hsent : SentSince .updateBinary before _ (d.exchanged t (.writing address page.bytes)) := hd.exchanged
    rw [WireCommand.encode_writing] at hsent
    refine ensures_transfer_of_demand (fun data hdata => .inr ?_) (fun e _ _ => ?_)
    · rwa [if_pos (Transport.demand_eq_ok_iff.1 hdata).1] at hsent
    · cases hconnected : t.isConnected d.world with
      | true =>
        rw [hconnected] at hsent
        exact .inr hsent
      | false =>
        rw [hconnected, if_neg Bool.false_ne_true, List.append_nil] at hsent
        exact .inl ⟨nofun, hsent⟩
  · rintro data d' (⟨hnone, -⟩ | hsent)
    · exact absurd rfl (hnone data)
    · exact ensures_pure (.inr hsent)
  · rintro e d' (⟨-, hsent⟩ | hsent)
    · exact .inl ⟨nofun, hsent⟩
    · exact .inr hsent

end Coupler

namespace Card

variable {c : Situation Link Card ω} {sector : UInt8} {selector : KeySelector}

theorem keeps_sentSince_authorize (h : instruction.IsAccess) (sector : UInt8) (selector : KeySelector) :
    Keeps t.responder (SentSince instruction before commands) (authorize sector selector) := by
  intro c hc
  exact ensures_authorize_of_withstands (withstands_sentSince h before commands) hc sector selector

/-- What a coupler does not send is not sent with one more try either. -/
theorem ensures_withAuthRetry_unsent {α : Type} {op : CouplerM α} (h : instruction.IsAccess)
    (hop : ∀ d, SentSince instruction before commands d →
      Ensures t.responder op d fun _ d' => SentSince instruction before commands d')
    (hc : SentSince instruction before commands c) :
    Ensures t.responder (withAuthRetry sector selector op) c fun _ c' => SentSince instruction before commands c' := by
  refine ensures_withAuthRetry_of_keeps (I := SentSince instruction before commands) hc
    (keeps_sentSince_authorize h sector selector) (fun _ hc => hc) (fun _ _ hc => hc) (fun _ _ hc => hc) ?_
  exact fun c hc _ => hop c.below hc

theorem ensures_readTrailer_unsent (sector : UInt8) (c : Situation Link Card ω) :
    Ensures t.responder (readTrailer sector) c fun _ c' => SentSince .updateBinary c.history [] c' := by
  have hstart := sentSince_history .updateBinary c
  refine ensures_readTrailer (fun _ _ => hstart) (fun _ _ => hstart) fun address selector _ _ => ?_
  refine (ensures_withAuthRetry_unsent isAccess_updateBinary (fun d hd => ?_) hstart).mono ?_
  · exact Coupler.ensures_readPage_unsent address blockLength hd
  · rintro (_ | _) c' hc' <;> exact hc'

theorem unlessAuthFailed_of {α : Type} {Q : Except Failure α → Situation Link Card ω → Prop}
    {P : Situation Link Card ω → Prop} {x : Except Failure α} (hQ : Q x c) (hP : (∀ a, x ≠ .ok a) → P c) :
    UnlessAuthFailed Q P x c := by
  unfold UnlessAuthFailed
  split
  · exact hP nofun
  · exact hQ

/-- With one more try, a page is sent at most twice.  If the write succeeds, it was sent. -/
theorem ensures_withAuthRetry_sent (sector : UInt8) (selector : KeySelector) (address : UInt8) (page : Block)
    (c : Situation Link Card ω) :
    Ensures t.responder (withAuthRetry sector selector (Coupler.writePage address page.bytes)) c fun x c' =>
      ∃ n ≤ 2, (x = .ok () → 0 < n) ∧
        SentSince .updateBinary c.history (List.replicate n (WireCommand.write address page).bytes) c' := by
  let Sent (n : Nat) (c' : Situation Link Card ω) : Prop :=
    SentSince .updateBinary c.history (List.replicate n (WireCommand.write address page).bytes) c'
  have hkeeps : ∀ n, Keeps t.responder (Sent n) (authorize sector selector) :=
    fun n => keeps_sentSince_authorize isAccess_updateBinary sector selector
  -- Each try sends the page once more, or fails before that.
  have htry : ∀ n c', Sent n c' → Ensures t.responder (Coupler.writePage address page.bytes) c'.below fun x d =>
      (x ≠ .ok () ∧ Sent n (c'.resume d)) ∨ Sent (n + 1) (c'.resume d) := by
    intro n c' hc'
    refine (Coupler.ensures_writePage_sent (d := c'.below) address page hc').mono fun x d h => ?_
    rcases h with hunsent | hsent
    · exact .inl hunsent
    · rw [← List.replicate_succ'] at hsent
      exact .inr hsent
  -- Before the first try nothing was sent, and when it has lost its authentication the page was sent at most once.
  refine ensures_withAuthRetry_of_tries (I := Sent 0) (J := fun c' => ∃ n ≤ 1, Sent n c')
    (sentSince_history .updateBinary c) (hkeeps 0) ?_ (fun _ h => h) ?_ ?_ ?_
  · rintro c' ⟨n, hn, hc'⟩
    exact (hkeeps n c' hc').mono fun _ _ h => ⟨n, hn, h⟩
  · rintro e c' (hc' | ⟨n, hn, hc'⟩)
    · exact ⟨0, by omega, nofun, hc'⟩
    · exact ⟨n, by omega, nofun, hc'⟩
  · intro c' hc' _
    refine (htry 0 c' hc').mono fun x d h => ?_
    rcases h with ⟨hx, hd⟩ | hd
    · exact unlessAuthFailed_of ⟨0, by omega, fun hok => absurd hok hx, hd⟩ fun _ => ⟨0, by omega, hd⟩
    · exact unlessAuthFailed_of ⟨1, by omega, fun _ => by omega, hd⟩ fun _ => ⟨1, by omega, hd⟩
  · rintro c' ⟨n, hn, hc'⟩ _
    refine (htry n c' hc').mono fun x d h => ?_
    rcases h with ⟨hx, hd⟩ | hd
    · exact ⟨n, by omega, fun hok => absurd hok hx, hd⟩
    · exact ⟨n + 1, by omega, fun _ => by omega, hd⟩

/-- Writing a trailer back sends it once, or sends no update. -/
theorem ensures_rollBack_sent (sector address : UInt8) (selector : KeySelector) (previous : SectorTrailer)
    (c : Situation Link Card ω) :
    Ensures t.responder (rollBack sector address selector previous) c fun _ c' =>
      SentSince .updateBinary c.history [] c' ∨
        SentSince .updateBinary c.history [(WireCommand.write address previous.toBlock).bytes] c' := by
  have hauthorize := keeps_sentSince_authorize (t := t) isAccess_updateBinary sector selector c
    (sentSince_history .updateBinary c)
  refine ensures_rollBack (hauthorize.bind (fun _ c' hc' => ?_) (fun _ _ h => .inl h))
  refine ensures_onCoupler ((Coupler.ensures_writePage_sent (d := c'.below) address previous.toBlock hc').mono ?_)
  rintro x d (⟨-, hunsent⟩ | hsent)
  · exact .inl hunsent
  · exact .inr hsent

end Card
end SectorCard
