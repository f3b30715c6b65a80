import Mathlib.Data.List.Induction
import SectorCard.Proofs.Exchange
import SectorCard.Simulation.Bench

/-!
# Replies in fragments

A reply that comes in fragments is put together from exactly the fragments that were announced.  The fragments are what
the card replies to the command and then to each request for the next one; a fragment either announces another behind
its data, or ends the reply, or is no such thing.  `Reassembles` lists the ways in which collecting can come to an end,
each with its result and with the number of further fragments that were asked for.

Main statement: `sendChained_reassembles`, a chained exchange comes to one of these ends and to no other, whatever the
card replies.
-/

namespace SectorCard

/-- The commands that were sent, in order. -/
def commandsOf (events : List (Event Link)) : List Bytes :=
  events.filterMap fun
    | ⟨.transmit command, _⟩ => some command
    | ⟨.isConnected, _⟩ => none

namespace Link

variable {ω : Type} {t : Transport ω} {command : Bytes} {w : ω}

/-! ## What the card replies -/

/-- The command that the `i`-th fragment is the reply to. -/
def fetching (command : Bytes) : (i : Nat) → Bytes
  | 0 => command
  | _ + 1 => additionalFrame

/-- The world when the `i`-th fragment is asked for. -/
def worldAt (t : Transport ω) (command : Bytes) (w : ω) : (i : Nat) → ω
  | 0 => w
  | i + 1 => (t.transmit (fetching command i) (worldAt t command w i)).2

/-- The reply when the `i`-th fragment is asked for. -/
def fragment (t : Transport ω) (command : Bytes) (w : ω) (i : Nat) : Except CardError Bytes :=
  (t.transmit (fetching command i) (worldAt t command w i)).1

/-- A reply announces another fragment behind its data. -/
def Announces (reply : Except CardError Bytes) (data : Bytes) : Prop :=
  reply = .ok (data ++ [0x90, 0xaf]) ∨ reply = .ok (data ++ [0x91, 0xaf])

/-- A reply ends with its data what was collected. -/
def Completes (reply : Except CardError Bytes) (data : Bytes) : Prop :=
  reply = .ok (data ++ [0x90, 0x00]) ∨ reply = .ok (data ++ [0x91, 0x00])

/-- A status word that neither announces another fragment nor ends a reply. -/
def Unexpected (status : StatusWord) : Prop :=
  status ∉ ([⟨0x90, 0xaf⟩, ⟨0x91, 0xaf⟩, ⟨0x90, 0x00⟩, ⟨0x91, 0x00⟩] : List StatusWord)

/-- The first replies announce another fragment each, behind these pieces of data. -/
def AnnounceAll (reply : Nat → Except CardError Bytes) (pieces : List Bytes) : Prop :=
  ∀ i piece, pieces[i]? = some piece → Announces (reply i) piece

/-- The ways in which collecting the fragments of a reply comes to an end: after how many further fragments, and with
what result.  It is also an end if the last fragment that is allowed announces another one. -/
inductive Reassembles (reply : Nat → Except CardError Bytes) : Nat → Except CardError Bytes → Prop where
  | complete {pieces : List Bytes} {last : Bytes} (hroom : pieces.length < 64) (hpieces : AnnounceAll reply pieces)
      (hlast : Completes (reply pieces.length) last) :
      Reassembles reply pieces.length (.ok (pieces.flatten ++ last))
  | short {pieces : List Bytes} {bytes : Bytes} (hroom : pieces.length < 64) (hpieces : AnnounceAll reply pieces)
      (hreply : reply pieces.length = .ok bytes) (hshort : bytes.length < 2) :
      Reassembles reply pieces.length (.error (.malformedReply bytes.length))
  | refused {pieces : List Bytes} {data : Bytes} {status : StatusWord} (hroom : pieces.length < 64)
      (hpieces : AnnounceAll reply pieces) (hreply : reply pieces.length = .ok (data ++ [status.sw1, status.sw2]))
      (hstatus : Unexpected status) :
      Reassembles reply pieces.length (.error (.unexpectedStatus status))
  | failed {pieces : List Bytes} {e : CardError} (hroom : pieces.length < 64) (hpieces : AnnounceAll reply pieces)
      (hreply : reply pieces.length = .error e) :
      Reassembles reply pieces.length (.error e)
  | endless {pieces : List Bytes} {last : Bytes} (hfull : pieces.length + 1 = 64) (hpieces : AnnounceAll reply pieces)
      (hlast : Announces (reply pieces.length) last) :
      Reassembles reply pieces.length (.error (.malformedReply (pieces.flatten ++ last).length))

/-! ## One fragment -/

section Collect

variable {reply : Except CardError Bytes} {data : Bytes} {status : StatusWord}

theorem parse_append (data : Bytes) (sw1 sw2 : UInt8) :
    Reply.parse (data ++ [sw1, sw2]) = .ok ⟨data, ⟨sw1, sw2⟩⟩ :=
  Reply.parse_encode ⟨data, ⟨sw1, sw2⟩⟩

theorem parse_of_announces (h : Announces reply data) :
    ∃ bytes status, reply = .ok bytes ∧ Reply.parse bytes = .ok ⟨data, status⟩ ∧ status.hasMoreData = true := by
  rcases h with h | h
  · exact ⟨_, _, h, parse_append data _ _, rfl⟩
  · exact ⟨_, _, h, parse_append data _ _, rfl⟩

theorem parse_of_completes (h : Completes reply data) :
    ∃ bytes status, reply = .ok bytes ∧ Reply.parse bytes = .ok ⟨data, status⟩ ∧
      status.hasMoreData = false ∧ status.isSuccess = true := by
  rcases h with h | h
  · exact ⟨_, _, h, parse_append data _ _, rfl, rfl⟩
  · exact ⟨_, _, h, parse_append data _ _, rfl, rfl⟩

theorem unexpected_iff : Unexpected status ↔ status.hasMoreData = false ∧ status.isSuccess = false := by
  rw [Bool.eq_false_iff, Bool.eq_false_iff, Ne, Ne, StatusWord.hasMoreData_iff, StatusWord.isSuccess_iff]
  simp only [Unexpected, List.mem_cons, List.not_mem_nil, or_false, not_or, and_assoc]

/-- Every reply announces another fragment, or ends what was collected, or is neither. -/
theorem fragment_cases (reply : Except CardError Bytes) :
    (∃ data, Announces reply data) ∨ (∃ data, Completes reply data) ∨
      (∃ bytes, reply = .ok bytes ∧ bytes.length < 2) ∨
      (∃ data status, reply = .ok (data ++ [status.sw1, status.sw2]) ∧ Unexpected status) ∨
      ∃ e, reply = .error e := by
  -- In the order in which the exchange looks at a reply: an error, its length, and then its status word.
  cases reply with
  | error e => exact .inr (.inr (.inr (.inr ⟨e, rfl⟩)))
  | ok bytes =>
    cases hparse : Reply.parse bytes with
    | error e => exact .inr (.inr (.inl ⟨bytes, rfl, (Reply.parse_eq_error_iff.1 hparse).1⟩))
    | ok r =>
      have hbytes : bytes = r.data ++ [r.status.sw1, r.status.sw2] := (Reply.encode_of_parse hparse).symm
      cases hmore : r.status.hasMoreData with
      | true =>
        have hstatus := StatusWord.hasMoreData_iff.1 hmore
        exact .inl ⟨r.data, by rcases hstatus with h | h <;> simp [Announces, hbytes, h]⟩
      | false =>
        cases hsuccess : r.status.isSuccess with
        | true =>
          have hstatus := StatusWord.isSuccess_iff.1 hsuccess
          exact .inr (.inl ⟨r.data, by rcases hstatus with h | h <;> simp [Completes, hbytes, h]⟩)
        | false =>
          have hother : Unexpected r.status := unexpected_iff.2 ⟨hmore, hsuccess⟩
          exact .inr (.inr (.inr (.inl ⟨r.data, r.status, by rw [hbytes], hother⟩)))

/-- What is done with a reply, with `more` further fragments allowed, on top of the data collected so far. -/
def resume (follow : Bool) (more : Nat) (collected : Bytes) :
    Except CardError Bytes → Dialogue Link (Except CardError Bytes) :=
  onReply fun bytes => collect follow more collected bytes

variable {follow : Bool} {more : Nat} {collected : Bytes}

theorem resume_announced (h : Announces reply data) :
    resume true (more + 1) collected reply =
      .ask (.transmit additionalFrame) (resume true more (collected ++ data)) := by
  rcases parse_of_announces h with ⟨bytes, status, rfl, hparse, hmore⟩
  rw [resume, onReply, collect]
  simp only [hparse, hmore, if_true]
  rfl

theorem resume_endless (h : Announces reply data) :
    resume true 0 collected reply = .done (.error (.malformedReply (collected ++ data).length)) := by
  rcases parse_of_announces h with ⟨bytes, status, rfl, hparse, hmore⟩
  rw [resume, onReply, collect]
  simp only [hparse, hmore, if_true]

theorem resume_unfollowed (h : Announces reply data) :
    resume false more collected reply = .done (.ok (collected ++ data)) := by
  rcases parse_of_announces h with ⟨bytes, status, rfl, hparse, hmore⟩
  rw [resume, onReply, collect]
  simp only [hparse, hmore, if_true, Bool.false_eq_true, if_false]

theorem resume_completed (h : Completes reply data) :
    resume follow more collected reply = .done (.ok (collected ++ data)) := by
  rcases parse_of_completes h with ⟨bytes, status, rfl, hparse, hmore, hsuccess⟩
  rw [resume, onReply, collect]
  simp only [hparse, hmore, hsuccess, if_true, Bool.false_eq_true, if_false]

theorem resume_short {bytes : Bytes} (h : bytes.length < 2) :
    resume follow more collected (.ok bytes) = .done (.error (.malformedReply bytes.length)) := by
  have hparse : Reply.parse bytes = .error (.malformedReply bytes.length) := Reply.parse_eq_error_iff.2 ⟨h, rfl⟩
  rw [resume, onReply, collect]
  simp only [hparse]

theorem resume_refused (h : Unexpected status) :
    resume follow more collected (.ok (data ++ [status.sw1, status.sw2])) =
      .done (.error (.unexpectedStatus status)) := by
  rcases unexpected_iff.1 h with ⟨hmore, hsuccess⟩
  rw [resume, onReply, collect]
  simp only [parse_append, hmore, hsuccess, Bool.false_eq_true, if_false]

/-- A reply that announces no further fragment ends the exchange, whether or not fragments are followed. -/
theorem resume_ended (more : Nat) (collected : Bytes) (h : ∀ data, ¬ Announces reply data) :
    ∃ result, ∀ follow, resume follow more collected reply = .done result := by
  rcases fragment_cases reply with
    ⟨data, hdata⟩ | ⟨data, hdata⟩ | ⟨bytes, rfl, hshort⟩ | ⟨data, status, rfl, hstatus⟩ | ⟨e, rfl⟩
  · exact absurd hdata (h data)
  · exact ⟨_, fun follow => resume_completed hdata⟩
  · exact ⟨_, fun follow => resume_short hshort⟩
  · exact ⟨_, fun follow => resume_refused hstatus⟩
  · exact ⟨_, fun follow => rfl⟩

end Collect

/-! ## Fragment after fragment -/

/-- A chained exchange from the `i`-th fragment on. -/
def runFrom (t : Transport ω) (command : Bytes) (w : ω) (follow : Bool) (i : Nat) (collected : Bytes) :
    Outcome Link ω (Except CardError Bytes) :=
  Dialogue.run t.responder (resume follow (maxFragments - 1 - i) collected (fragment t command w i))
    (worldAt t command w (i + 1))

theorem run_sendChained (hconnected : t.isConnected w = true) (command : Bytes) (follow : Bool) :
    (Dialogue.run t.responder (sendChained command follow) w).value = (runFrom t command w follow 0 []).value ∧
      commandsOf (Dialogue.run t.responder (sendChained command follow) w).events =
        command :: commandsOf (runFrom t command w follow 0 []).events := by
  have hanswer : t.responder.answer .isConnected w = (true, w) := by
    rw [← hconnected]
    rfl
  have hask : sendChained command follow = .ask .isConnected fun connected =>
      if connected then .ask (.transmit command) (resume follow (maxFragments - 1) [])
      else .done (.error .notConnected) := rfl
  rw [hask, Dialogue.run_ask, hanswer]
  exact ⟨rfl, rfl⟩

/-- An announced fragment is asked for. -/
theorem runFrom_announced {i : Nat} (collected : Bytes) {data : Bytes} (hroom : i + 1 < 64)
    (h : Announces (fragment t command w i) data) :
    (runFrom t command w true i collected).value = (runFrom t command w true (i + 1) (collected ++ data)).value ∧
      commandsOf (runFrom t command w true i collected).events =
        additionalFrame :: commandsOf (runFrom t command w true (i + 1) (collected ++ data)).events := by
  have hmore : maxFragments - 1 - i = (maxFragments - 1 - (i + 1)) + 1 := by
    simp only [maxFragments]
    omega
  rw [runFrom, hmore, resume_announced h]
  exact ⟨rfl, rfl⟩

/-- As long as fragments are announced they are asked for, one after the other, and their data is kept in order. -/
theorem run_sendChained_announced (hconnected : t.isConnected w = true) {pieces : List Bytes}
    (hroom : pieces.length < 64) (hpieces : AnnounceAll (fragment t command w) pieces) :
    let followed := Dialogue.run t.responder (sendChained command true) w
    let rest := runFrom t command w true pieces.length pieces.flatten
    followed.value = rest.value ∧
      commandsOf followed.events =
        command :: (List.replicate pieces.length additionalFrame ++ commandsOf rest.events) := by
  induction pieces using List.reverseRecOn with
  | nil => exact run_sendChained hconnected command true
  | append_singleton pieces piece ih =>
    have hlength : (pieces ++ [piece]).length = pieces.length + 1 := by simp
    have hfront : AnnounceAll (fragment t command w) pieces := by
      intro i front hfront
      exact hpieces i front (List.getElem?_append_left (List.getElem?_eq_some_iff.1 hfront).1 ▸ hfront)
    have hlast : Announces (fragment t command w pieces.length) piece := hpieces _ _ (by simp)
    rcases ih (by omega) hfront with ⟨hvalue, hcommands⟩
    rcases runFrom_announced pieces.flatten (by omega) hlast with ⟨hnext, hasked⟩
    rw [hlength, List.flatten_append, List.flatten_singleton]
    refine ⟨hvalue.trans hnext, hcommands.trans ?_⟩
    rw [hasked, List.replicate_succ', List.append_assoc, List.singleton_append]

/-- When collecting comes to an end, the exchange has that result, and no more was asked for. -/
theorem run_of_reassembles (hconnected : t.isConnected w = true) {further : Nat} {result : Except CardError Bytes}
    (h : Reassembles (fragment t command w) further result) :
    let followed := Dialogue.run t.responder (sendChained command true) w
    followed.value = result ∧ commandsOf followed.events = command :: List.replicate further additionalFrame := by
  -- As long as there is room, all that follows the announced pieces is decided by the reply behind them.
  have hended : ∀ {pieces : List Bytes}, pieces.length < 64 → AnnounceAll (fragment t command w) pieces →
      resume true (maxFragments - 1 - pieces.length) pieces.flatten (fragment t command w pieces.length) =
        .done result →
      (Dialogue.run t.responder (sendChained command true) w).value = result ∧
        commandsOf (Dialogue.run t.responder (sendChained command true) w).events =
          command :: List.replicate pieces.length additionalFrame := by
    intro pieces hroom hpieces hdone
    have hrun := run_sendChained_announced hconnected hroom hpieces
    rw [runFrom, hdone] at hrun
    exact ⟨hrun.1, hrun.2.trans (by rw [Dialogue.run_done]; simp [commandsOf])⟩
  cases h with
  | complete hroom hpieces hlast => exact hended hroom hpieces (resume_completed hlast)
  | short hroom hpieces hreply hshort => exact hended hroom hpieces (hreply ▸ resume_short hshort)
  | refused hroom hpieces hreply hstatus => exact hended hroom hpieces (hreply ▸ resume_refused hstatus)
  | failed hroom hpieces hreply =>
    refine hended hroom hpieces ?_
    rw [hreply]
    rfl
  -- The last fragment that is allowed: nothing is left to ask for another one with.
  | @endless pieces last hfull hpieces hlast =>
    refine hended (by omega) hpieces ?_
    have hmore : maxFragments - 1 - pieces.length = 0 := by
      simp only [maxFragments]
      omega
    rw [hmore]
    exact resume_endless hlast

/-! ## Every reply -/

theorem AnnounceAll.snoc {reply : Nat → Except CardError Bytes} {pieces : List Bytes} {piece : Bytes}
    (h : AnnounceAll reply pieces) (hpiece : Announces (reply pieces.length) piece) :
    AnnounceAll reply (pieces ++ [piece]) := by
  intro i found hfound
  rw [List.getElem?_append] at hfound
  split at hfound
  · exact h i found hfound
  · rename_i hlength
    rcases List.getElem?_eq_some_iff.1 hfound with ⟨hi, rfl⟩
    have hlast : i = pieces.length := by
      simp only [List.length_singleton] at hi
      omega
    subst hlast
    simpa using hpiece

/-- After announced fragments the next reply announces one more, or collecting ends with it. -/
theorem announces_or_ends {reply : Nat → Except CardError Bytes} {pieces : List Bytes} (hroom : pieces.length < 64)
    (hpieces : AnnounceAll reply pieces) :
    (∃ piece, Announces (reply pieces.length) piece) ∨ ∃ result, Reassembles reply pieces.length result := by
  rcases fragment_cases (reply pieces.length) with
    hpiece | ⟨last, hlast⟩ | ⟨bytes, hreply, hshort⟩ | ⟨data, status, hreply, hstatus⟩ | ⟨e, hreply⟩
  · exact .inl hpiece
  · exact .inr ⟨_, .complete hroom hpieces hlast⟩
  · exact .inr ⟨_, .short hroom hpieces hreply hshort⟩
  · exact .inr ⟨_, .refused hroom hpieces hreply hstatus⟩
  · exact .inr ⟨_, .failed hroom hpieces hreply⟩

/-- All of the first replies announce another fragment, or collecting ends with one of them. -/
theorem announceAll_or_ends (reply : Nat → Except CardError Bytes) {n : Nat} (hn : n ≤ 63) :
    (∃ pieces, pieces.length = n ∧ AnnounceAll reply pieces) ∨
      ∃ further result, further < 64 ∧ Reassembles reply further result := by
  induction n with
  | zero => exact .inl ⟨[], rfl, fun i piece h => by simp at h⟩
  | succ n ih =>
    rcases ih (by omega) with ⟨pieces, rfl, hpieces⟩ | hended
    · have hroom : pieces.length < 64 := by omega
      rcases announces_or_ends hroom hpieces with ⟨piece, hpiece⟩ | ⟨result, hresult⟩
      · exact .inl ⟨pieces ++ [piece], by simp, hpieces.snoc hpiece⟩
      · exact .inr ⟨_, result, hroom, hresult⟩
    · exact .inr hended

/-- Whatever a card replies, collecting comes to an end. -/
theorem exists_reassembles (reply : Nat → Except CardError Bytes) :
    ∃ further result, further < 64 ∧ Reassembles reply further result := by
  rcases announceAll_or_ends reply (n := 63) (by omega) with ⟨pieces, hlength, hpieces⟩ | hended
  · have hroom : pieces.length < 64 := by omega
    rcases announces_or_ends hroom hpieces with ⟨last, hlast⟩ | ⟨result, hresult⟩
    · exact ⟨_, _, hroom, .endless (by omega) hpieces hlast⟩
    · exact ⟨_, result, hroom, hresult⟩
  · exact hended

/-! ## Whole exchanges -/

theorem run_of_resume (hconnected : t.isConnected w = true) {follow : Bool} {result : Except CardError Bytes}
    (hdone : resume follow (maxFragments - 1) [] (fragment t command w 0) = .done result) :
    (Dialogue.run t.responder (sendChained command follow) w).value = result ∧
      commandsOf (Dialogue.run t.responder (sendChained command follow) w).events = [command] := by
  have hrun := run_sendChained hconnected command follow
  rw [runFrom, Nat.sub_zero, hdone] at hrun
  exact hrun

/-- Without following, an announcing reply is taken for the whole, and any other is dealt with as if followed. -/
theorem run_unfollowed (hconnected : t.isConnected w = true) :
    let single := Dialogue.run t.responder (sendChained command false) w
    commandsOf single.events = [command] ∧
      (∀ data, Announces (fragment t command w 0) data → single.value = .ok data) ∧
      ((∀ data, ¬ Announces (fragment t command w 0) data) →
        single.value = (Dialogue.run t.responder (sendChained command true) w).value) := by
  have hannounced : ∀ data, Announces (fragment t command w 0) data →
      (Dialogue.run t.responder (sendChained command false) w).value = .ok data ∧
        commandsOf (Dialogue.run t.responder (sendChained command false) w).events = [command] :=
    fun data hdata => run_of_resume hconnected (resume_unfollowed hdata)
  -- A reply that announces nothing ends both exchanges at once, and in the same way.
  have hended : (∀ data, ¬ Announces (fragment t command w 0) data) →
      (Dialogue.run t.responder (sendChained command false) w).value =
          (Dialogue.run t.responder (sendChained command true) w).value ∧
        commandsOf (Dialogue.run t.responder (sendChained command false) w).events = [command] := by
    intro hnone
    rcases resume_ended (maxFragments - 1) [] hnone with ⟨result, hdone⟩
    rcases run_of_resume hconnected (hdone false) with ⟨hsingle, hcommands⟩
    exact ⟨hsingle.trans (run_of_resume hconnected (hdone true)).1.symm, hcommands⟩
  refine ⟨?_, fun data hdata => (hannounced data hdata).1, fun hnone => (hended hnone).1⟩
  by_cases hany : ∃ data, Announces (fragment t command w 0) data
  · rcases hany with ⟨data, hdata⟩
    exact (hannounced data hdata).2
  · exact (hended fun data hdata => hany ⟨data, hdata⟩).2

/-- A chained exchange comes to one of the ends that `Reassembles` lists, and to no other: it has that result, and it
has sent the command and the requests for the further fragments.  Without following it sends the command only and takes
the data of an announcing reply for the whole. -/
theorem sendChained_reassembles (t : Transport ω) (command : Bytes) (w : ω) (hconnected : t.isConnected w = true) :
    let reply := fragment t command w
    let followed := Dialogue.run t.responder (sendChained command true) w
    let single := Dialogue.run t.responder (sendChained command false) w
    (∀ further result, Reassembles reply further result ↔ followed.value = result ∧
        commandsOf followed.events = command :: List.replicate further [0x90, 0xaf, 0x00, 0x00, 0x00]) ∧
      (∃ further, further < 64 ∧ Reassembles reply further followed.value) ∧
      commandsOf single.events = [command] ∧
      (∀ data, Announces (reply 0) data → single.value = .ok data) ∧
      ((∀ data, ¬ Announces (reply 0) data) → single.value = followed.value) := by
  intro reply followed single
  rcases exists_reassembles reply with ⟨further, result, hroom, hends⟩
  rcases run_of_reassembles hconnected hends with ⟨hvalue, hcommands⟩
  refine ⟨fun other result' => ⟨run_of_reassembles hconnected, ?_⟩, ⟨further, hroom, hvalue ▸ hends⟩,
    run_unfollowed hconnected⟩
  rintro ⟨rfl, hothers⟩
  -- The commands tell how many fragments were asked for.
  have hsame : other = further := by
    have hlength := congrArg List.length (hothers.symm.trans hcommands)
    simpa using hlength
  rw [hsame, hvalue]
  exact hends

/-- A card that has 64 fragments, of which the first 63 announce the next. -/
def longReply : Simulation.Bench :=
  ⟨true, [], .script (List.replicate 63 (.bytes [0xaa, 0x91, 0xaf])) (.bytes [0xbb, 0x90, 0x00])⟩

/-- The 64th fragment is the last one that is asked for. -/
theorem sendChained_reassembles_long :
    let t := Simulation.Bench.transport
    let followed := Dialogue.run t.responder (sendChained [0x90, 0x60, 0x00, 0x00, 0x00] true) longReply
    let single := Dialogue.run t.responder (sendChained [0x90, 0x60, 0x00, 0x00, 0x00] false) longReply
    t.isConnected longReply = true ∧
      followed.value = .ok (List.replicate 63 0xaa ++ [0xbb]) ∧
      commandsOf followed.events =
        [0x90, 0x60, 0x00, 0x00, 0x00] :: List.replicate 63 [0x90, 0xaf, 0x00, 0x00, 0x00] ∧
      single.value = .ok [0xaa] := by
  intro t followed single
  have hreplies : ∀ i < 63, fragment t [0x90, 0x60, 0x00, 0x00, 0x00] longReply i = .ok [0xaa, 0x91, 0xaf] := by
    decide
  have hlast : fragment t [0x90, 0x60, 0x00, 0x00, 0x00] longReply 63 = .ok [0xbb, 0x90, 0x00] := by
    decide
  have hpieces : AnnounceAll (fragment t [0x90, 0x60, 0x00, 0x00, 0x00] longReply) (List.replicate 63 [0xaa]) := by
    intro i piece hpiece
    rcases List.getElem?_eq_some_iff.1 hpiece with ⟨hi, rfl⟩
    rw [List.length_replicate] at hi
    rw [List.getElem_replicate]
    exact .inr (hreplies i hi)
  have hends : Reassembles (fragment t [0x90, 0x60, 0x00, 0x00, 0x00] longReply) 63
      (.ok (List.replicate 63 0xaa ++ [0xbb])) :=
    .complete (by decide) hpieces (.inl hlast)
  rcases sendChained_reassembles t [0x90, 0x60, 0x00, 0x00, 0x00] longReply rfl with ⟨hiff, -, -, hannounced, -⟩
  rcases (hiff _ _).1 hends with ⟨hvalue, hcommands⟩
  exact ⟨rfl, hvalue, hcommands, hannounced [0xaa] (.inr (hreplies 0 (by decide)))⟩

end Link
end SectorCard
