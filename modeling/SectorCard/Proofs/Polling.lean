import Mathlib.Data.Nat.Find
import SectorCard.Proofs.ReaderLookup
import SectorCard.Simulation.Desk

/-!
# Waiting for a card

A program that waits for a card tries to connect again and again.  Most attempts are in vain, because there is no card.
The first that is not decides: its card is taken, or its error is reported.  If the number of attempts is limited, the
last of them decides in any case.

The program counts its attempts, and further ones do not count when the counter is full.  No limit is beyond that, so
the attempts that are made are exactly those that were promised (`wait_attempts`).  A program that waits without limit
need not come to an end; what can be said of it is what it has done after any number of attempts.
-/

namespace SectorCard.Connection

variable {ω : Type} {r : Responder Service ω} {reader : Bytes} {w : ω} {limit n k patience : Nat}

/-! ## Attempts -/

/-- The world after some attempts to connect. -/
def worldAfter (r : Responder Service ω) (reader : Bytes) : (attempts : Nat) → ω → ω
  | 0, w => w
  | k + 1, w => worldAfter r reader k (r.answer (.connect reader) w).2

/-- The answer to the attempt that follows some others. -/
def answerAfter (r : Responder Service ω) (reader : Bytes) (attempts : Nat) (w : ω) : Except ServiceFault Handle :=
  (r.answer (.connect reader) (worldAfter r reader attempts w)).1

/-- The first attempts with their answers. -/
def attempted (r : Responder Service ω) (reader : Bytes) : (attempts : Nat) → ω → List (Event Service)
  | 0, _ => []
  | k + 1, w =>
    ⟨.connect reader, (r.answer (.connect reader) w).1⟩ :: attempted r reader k (r.answer (.connect reader) w).2

/-- An answer says that there is no card. -/
def NoCard : Except ServiceFault Handle → Prop
  | .ok _ => False
  | .error f => f.meansNoCard = true

instance : DecidablePred NoCard
  | .ok _ => inferInstanceAs (Decidable False)
  | .error f => inferInstanceAs (Decidable (f.meansNoCard = true))

/-- No card is there at the first attempts. -/
def InVain (r : Responder Service ω) (reader : Bytes) (attempts : Nat) (w : ω) : Prop :=
  ∀ k < attempts, NoCard (answerAfter r reader k w)

instance (r : Responder Service ω) (reader : Bytes) (attempts : Nat) (w : ω) :
    Decidable (InVain r reader attempts w) := inferInstanceAs (Decidable (∀ k < attempts, _))

/-- The error that is reported if there is no card. -/
theorem NoCard.mapError {answer : Except ServiceFault Handle} (h : NoCard answer) :
    answer.mapError CardError.ofFault = .error .notConnected := by
  cases answer with
  | ok card => exact h.elim
  | error f => exact congrArg Except.error (if_pos h)

theorem ofFault_eq_notConnected_iff {f : ServiceFault} :
    CardError.ofFault f = .notConnected ↔ f.meansNoCard = true := by
  unfold CardError.ofFault
  split
  · rename_i h
    exact iff_of_true rfl h
  · rename_i h
    exact iff_of_false (fun h => nomatch h) h

/-! ## Counting -/

/-- What is counted after so many attempts. -/
def counted (attempts : Nat) : Nat := min attempts mostAttempts

theorem countAttempt_counted (n : Nat) : countAttempt (counted n) = counted (n + 1) := by
  unfold countAttempt counted
  omega

/-- A full counter is not below any limit. -/
theorem counted_lt_iff (hlimit : limit ≤ mostAttempts) : counted n < limit ↔ n < limit := by
  unfold counted
  omega

/-- After some attempts, an answer to the next leads to one more. -/
def GoesOn (limit n : Nat) (answer : Except ServiceFault Handle) : Prop :=
  NoCard answer ∧ (limit = 0 ∨ n + 1 < limit)

instance (limit n : Nat) : DecidablePred (GoesOn limit n) := fun _ => inferInstanceAs (Decidable (_ ∧ _))

/-- What an attempt leads to. -/
theorem poll_succ (hlimit : limit ≤ mostAttempts) (reader : Bytes) (patience n : Nat) :
    poll reader limit (patience + 1) (counted n) =
      .ask (.connect reader) fun answer =>
        if GoesOn limit n answer then poll reader limit patience (counted (n + 1))
        else .done (some (answer.mapError CardError.ofFault)) := by
  rw [poll]
  congr 1
  funext answer
  cases answer with
  | ok card => exact (if_neg fun h : GoesOn limit n (.ok card) => h.1).symm
  -- The counter may stop growing at its greatest value, but up to there it tells how many attempts were made.
  | error f =>
    have hgoes : (CardError.ofFault f = .notConnected ∧ (limit = 0 ∨ countAttempt (counted n) < limit)) ↔
        GoesOn limit n (.error f) := by
      rw [countAttempt_counted, counted_lt_iff hlimit, ofFault_eq_notConnected_iff]
      rfl
    simp only [countAttempt_counted] at hgoes ⊢
    by_cases h : GoesOn limit n (.error f)
    · rw [if_pos h, if_pos (hgoes.2 h)]
    · rw [if_neg h, if_neg fun h' => h (hgoes.1 h')]
      rfl

theorem run_poll_goesOn (hlimit : limit ≤ mostAttempts) (h : GoesOn limit n (r.answer (.connect reader) w).1) :
    Dialogue.run r (poll reader limit (patience + 1) (counted n)) w =
      let rest := Dialogue.run r (poll reader limit patience (counted (n + 1))) (r.answer (.connect reader) w).2
      ⟨rest.value, rest.world, ⟨.connect reader, (r.answer (.connect reader) w).1⟩ :: rest.events⟩ := by
  rw [poll_succ hlimit, Dialogue.run_ask, if_pos h]

/-! ## Polling -/

/-- If some attempts each lead to one more, so do those after the first. -/
theorem goesOn_later (hgoes : ∀ j < k + 1, GoesOn limit (n + j) (answerAfter r reader j w)) :
    ∀ j < k, GoesOn limit (n + 1 + j) (answerAfter r reader j (r.answer (.connect reader) w).2) := by
  intro j hj
  rw [Nat.add_right_comm]
  exact hgoes (j + 1) (Nat.succ_lt_succ hj)

/-- Polling stops at the first attempt that does not lead to one more. -/
theorem run_poll_stopped (hlimit : limit ≤ mostAttempts)
    (hgoes : ∀ j < k, GoesOn limit (n + j) (answerAfter r reader j w))
    (hstops : ¬ GoesOn limit (n + k) (answerAfter r reader k w)) :
    Dialogue.run r (poll reader limit (k + 1 + patience) (counted n)) w =
      ⟨some ((answerAfter r reader k w).mapError CardError.ofFault), worldAfter r reader (k + 1) w,
        attempted r reader (k + 1) w⟩ := by
  induction k generalizing n w with
  | zero =>
    have hfirst : ¬ GoesOn limit n (r.answer (.connect reader) w).1 := hstops
    rw [Nat.zero_add, Nat.add_comm, poll_succ hlimit, Dialogue.run_ask, if_neg hfirst]
    rfl
  | succ k ih =>
    have hfirst : GoesOn limit n (r.answer (.connect reader) w).1 := hgoes 0 (Nat.succ_pos k)
    have hlast : ¬ GoesOn limit (n + 1 + k) (answerAfter r reader k (r.answer (.connect reader) w).2) := by
      rw [Nat.add_right_comm]
      exact hstops
    rw [Nat.add_right_comm, run_poll_goesOn hlimit hfirst, ih (goesOn_later hgoes) hlast]
    rfl

/-- As long as every attempt leads to one more, polling is still under way when patience is lost. -/
theorem run_poll_waiting (hlimit : limit ≤ mostAttempts)
    (hgoes : ∀ j < patience, GoesOn limit (n + j) (answerAfter r reader j w)) :
    Dialogue.run r (poll reader limit patience (counted n)) w =
      ⟨none, worldAfter r reader patience w, attempted r reader patience w⟩ := by
  induction patience generalizing n w with
  | zero => rfl
  | succ patience ih =>
    have hfirst : GoesOn limit n (r.answer (.connect reader) w).1 := hgoes 0 (Nat.succ_pos patience)
    rw [run_poll_goesOn hlimit hfirst, ih (goesOn_later hgoes)]
    rfl

/-! ## Calls besides -/

/-- A call that connects. -/
def connects (event : Event Service) : Bool :=
  match event.request with
  | .connect _ => true
  | _ => false

theorem countP_attempted (r : Responder Service ω) (reader : Bytes) (k : Nat) (w : ω) :
    (attempted r reader k w).countP connects = k := by
  induction k generalizing w with
  | zero => rfl
  | succ k ih =>
    rw [attempted, List.countP_cons, ih]
    rfl

/-- What is done before the first attempt: a context is established, and the reader is looked up. -/
def lookup (wanted : Option String) : ServiceM (Except CardError Bytes) := do
  match ← call .establish with
  | .error e => pure (.error e)
  | .ok () => findReader wanted

/-- A request that is made before the first attempt. -/
def Prepares (q : Service.Request) : Prop := q = .establish ∨ LooksUp q

theorem asksOnly_lookup (wanted : Option String) : (lookup wanted).AsksOnly Prepares := by
  refine (asksOnly_call (.inl rfl)).bind fun established => ?_
  cases established with
  | error e => exact Dialogue.asksOnly_pure _
  | ok _ => exact (asksOnly_findReader wanted).mono fun _ h => .inr h

theorem not_connects {event : Event Service} (h : Prepares event.request) : ¬ connects event = true := by
  intro hconnects
  rcases event with ⟨q, reply⟩
  cases q with
  | connect reader =>
    rcases h with h | h
    · cases h
    · exact h
  | _ => cases hconnects

/-- The lookup does not connect. -/
theorem countP_lookup (r : Responder Service ω) (wanted : Option String) (w : ω) :
    (Dialogue.run r (lookup wanted) w).events.countP connects = 0 :=
  List.countP_eq_zero.2 fun event hevent => not_connects ((asksOnly_lookup wanted).events r w event hevent)

/-! ## Waiting -/

/-- What is done after the last attempt: the context is released if nothing was opened. -/
def conclude (reader : Bytes) : Option (Except CardError Handle) → ServiceM (Option (Except CardError Connection))
  | none => pure none
  | some (.error e) => do
    release
    pure (some (.error e))
  | some (.ok card) => pure (some (.ok ⟨some card, reader⟩))

/-- Once the reader is found, waiting is polling. -/
theorem run_wait {wanted : Option String} (hfound : (Dialogue.run r (lookup wanted) w).value = .ok reader) :
    Dialogue.run r (wait wanted limit patience) w =
      let found := Dialogue.run r (lookup wanted) w
      let polled := Dialogue.run r (poll reader limit patience (counted 0)) found.world
      let concluded := Dialogue.run r (conclude reader polled.value) polled.world
      ⟨concluded.value, concluded.world, found.events ++ (polled.events ++ concluded.events)⟩ := by
  have hcounted : counted 0 = 0 := Nat.zero_min _
  rw [lookup, Dialogue.bind_eq, Dialogue.run_bind] at hfound ⊢
  rw [wait, Dialogue.bind_eq, Dialogue.run_bind]
  cases hestablished : (Dialogue.run r (call .establish) w).value with
  | error e =>
    rw [hestablished] at hfound
    cases hfound
  | ok _ =>
    rw [hestablished] at hfound
    dsimp only at hfound ⊢
    rw [Dialogue.bind_eq, Dialogue.run_bind, hfound]
    dsimp only
    rw [Dialogue.bind_eq, Dialogue.run_bind, List.append_assoc, hcounted]
    -- Not yet, never, or with a card: the conclusion is read off in each case.
    rcases (Dialogue.run r (poll reader limit patience 0) _).value with _ | (e | card)
    · rfl
    · rfl
    · rfl

/-- The connection that a handle on a reader makes. -/
def bindTo (reader : Bytes) (taken : Except CardError Handle) : Except CardError Connection :=
  taken.map fun card => ⟨some card, reader⟩

/-- The calls by which a context is left: none if there is a connection, or no result yet. -/
def leaving : Option (Except CardError Connection) → List Service.Request
  | some (.error _) => [.release]
  | _ => []

/-- Waiting comes to a result, or to none yet, after exactly so many attempts.  They are made after the lookup of the
reader, and before the context is left. -/
structure Waits (r : Responder Service ω) (wanted : Option String) (limit patience : Nat) (w : ω) (reader : Bytes)
    (attempts : Nat) (result : Option (Except CardError Connection)) : Prop where
  value : (Dialogue.run r (wait wanted limit patience) w).value = result
  calls : ∃ after, (Dialogue.run r (wait wanted limit patience) w).events =
      (Dialogue.run r (lookup wanted) w).events ++
        (attempted r reader attempts (Dialogue.run r (lookup wanted) w).world ++ after) ∧
    after.map Event.request = leaving result
  connects : (Dialogue.run r (wait wanted limit patience) w).events.countP connects = attempts

/-- The attempts of waiting are those of polling, and so is its result. -/
theorem waits_of_poll {wanted : Option String} {polled : Option (Except CardError Handle)} {ending : ω}
    (hfound : (Dialogue.run r (lookup wanted) w).value = .ok reader)
    (hpolled : Dialogue.run r (poll reader limit patience (counted 0)) (Dialogue.run r (lookup wanted) w).world =
      ⟨polled, ending, attempted r reader k (Dialogue.run r (lookup wanted) w).world⟩) :
    Waits r wanted limit patience w reader k (polled.map (bindTo reader)) := by
  have hrun : Dialogue.run r (wait wanted limit patience) w = _ := run_wait hfound
  dsimp only at hrun
  rw [hpolled] at hrun
  -- The conclusion releases the context or does nothing, and it never connects.
  have hconcluded : (Dialogue.run r (conclude reader polled) ending).value = polled.map (bindTo reader) ∧
      (Dialogue.run r (conclude reader polled) ending).events.map Event.request =
        leaving (polled.map (bindTo reader)) := by
    rcases polled with _ | (e | card)
    · exact ⟨rfl, rfl⟩
    · exact ⟨rfl, rfl⟩
    · exact ⟨rfl, rfl⟩
  rcases hconcluded with ⟨hvalue, hleaving⟩
  refine ⟨by rw [hrun]; exact hvalue, ⟨_, congrArg Outcome.events hrun, hleaving⟩, ?_⟩
  have hnone : (Dialogue.run r (conclude reader polled) ending).events.countP connects = 0 := by
    rcases polled with _ | (e | card)
    · rfl
    · rfl
    · rfl
  rw [hrun, List.countP_append, List.countP_append, countP_lookup, countP_attempted, hnone,
    Nat.zero_add, Nat.add_zero]

section Found

variable {wanted : Option String}

/-- The first attempt that is not in vain is the last, unless the limit comes before it. -/
theorem waits_decided (hfound : (Dialogue.run r (lookup wanted) w).value = .ok reader) (hlimit : limit ≤ mostAttempts)
    (hvain : InVain r reader k (Dialogue.run r (lookup wanted) w).world)
    (hdecides : ¬ NoCard (answerAfter r reader k (Dialogue.run r (lookup wanted) w).world))
    (hwithin : limit = 0 ∨ k + 1 ≤ limit) (hpatience : k + 1 ≤ patience) :
    Waits r wanted limit patience w reader (k + 1) (some (bindTo reader
      ((answerAfter r reader k (Dialogue.run r (lookup wanted) w).world).mapError CardError.ofFault))) := by
  obtain ⟨more, rfl⟩ := Nat.exists_eq_add_of_le hpatience
  have hgoes : ∀ j < k, GoesOn limit (0 + j) (answerAfter r reader j (Dialogue.run r (lookup wanted) w).world) := by
    intro j hj
    refine ⟨hvain j hj, hwithin.imp_right fun h => ?_⟩
    omega
  exact waits_of_poll hfound (run_poll_stopped hlimit hgoes fun h => hdecides h.1)

/-- The last attempt within the limit decides, although it is in vain. -/
theorem waits_limited (hfound : (Dialogue.run r (lookup wanted) w).value = .ok reader) (hlimit : k + 1 ≤ mostAttempts)
    (hvain : InVain r reader (k + 1) (Dialogue.run r (lookup wanted) w).world) (hpatience : k + 1 ≤ patience) :
    Waits r wanted (k + 1) patience w reader (k + 1) (some (.error .notConnected)) := by
  obtain ⟨more, rfl⟩ := Nat.exists_eq_add_of_le hpatience
  have hgoes : ∀ j < k, GoesOn (k + 1) (0 + j) (answerAfter r reader j (Dialogue.run r (lookup wanted) w).world) := by
    intro j hj
    exact ⟨hvain j (by omega), .inr (by omega)⟩
  have hstops : ¬ GoesOn (k + 1) (0 + k) (answerAfter r reader k (Dialogue.run r (lookup wanted) w).world) := by
    rintro ⟨-, h⟩
    omega
  have hwaits : Waits r wanted (k + 1) (k + 1 + more) w reader (k + 1) _ :=
    waits_of_poll hfound (run_poll_stopped hlimit hgoes hstops)
  rw [(hvain k (Nat.lt_succ_self k)).mapError] at hwaits
  exact hwaits

/-- As long as all attempts are in vain, and their number is below the limit, there is no result. -/
theorem waits_undecided (hfound : (Dialogue.run r (lookup wanted) w).value = .ok reader) (hlimit : limit ≤ mostAttempts)
    (hvain : InVain r reader patience (Dialogue.run r (lookup wanted) w).world)
    (hwithin : limit = 0 ∨ patience < limit) : Waits r wanted limit patience w reader patience none := by
  have hgoes : ∀ j < patience,
      GoesOn limit (0 + j) (answerAfter r reader j (Dialogue.run r (lookup wanted) w).world) := by
    intro j hj
    refine ⟨hvain j hj, hwithin.imp_right fun h => ?_⟩
    omega
  exact waits_of_poll hfound (run_poll_waiting hlimit hgoes)

/-- Without a limit there is a result if and only if an attempt was not in vain. -/
theorem isSome_wait_iff (hfound : (Dialogue.run r (lookup wanted) w).value = .ok reader) (patience : Nat) :
    (Dialogue.run r (wait wanted 0 patience) w).value.isSome = true ↔
      ∃ k < patience, ¬ NoCard (answerAfter r reader k (Dialogue.run r (lookup wanted) w).world) := by
  constructor
  · intro hresult
    by_contra hno
    have hvain : InVain r reader patience (Dialogue.run r (lookup wanted) w).world :=
      fun k hk => Decidable.byContradiction fun h => hno ⟨k, hk, h⟩
    rw [(waits_undecided hfound (Nat.zero_le _) hvain (.inl rfl)).value] at hresult
    cases hresult
  · rintro ⟨k, hk, hdecides⟩
    have hfirst : ∃ k, ¬ NoCard (answerAfter r reader k (Dialogue.run r (lookup wanted) w).world) := ⟨k, hdecides⟩
    have hvain : InVain r reader (Nat.find hfirst) (Dialogue.run r (lookup wanted) w).world :=
      fun j hj => Decidable.not_not.1 (Nat.find_min hfirst hj)
    have hpatience : Nat.find hfirst + 1 ≤ patience := Nat.lt_of_le_of_lt (Nat.find_min' hfirst hdecides) hk
    rw [(waits_decided hfound (Nat.zero_le _) hvain (Nat.find_spec hfirst) (.inl rfl) hpatience).value]
    rfl

end Found

/-- Once the reader is found, waiting makes exactly the attempts that were promised.  A first attempt that is not in
vain decides, if there is no limit or if it is within the limit, and is the last: what it has come to is the result.  If
all attempts within a limit are in vain, these are made, and no more, and the result is that no card is there.  Before,
or for ever if there is no limit, there is no result while all attempts are in vain; so without a limit, there is a
result only after an attempt that is not. -/
theorem wait_attempts (r : Responder Service ω) (wanted : Option String) (retries : UInt32)
    (hfound : (Dialogue.run r (lookup wanted) w).value = .ok reader) :
    let there := (Dialogue.run r (lookup wanted) w).world
    let limit := retries.toNat
    (∀ k patience, InVain r reader k there → ¬ NoCard (answerAfter r reader k there) → limit = 0 ∨ k + 1 ≤ limit →
      k + 1 ≤ patience → Waits r wanted limit patience w reader (k + 1)
        (some (bindTo reader ((answerAfter r reader k there).mapError CardError.ofFault)))) ∧
      (∀ patience, 0 < limit → InVain r reader limit there → limit ≤ patience →
        Waits r wanted limit patience w reader limit (some (.error .notConnected))) ∧
      (∀ patience, InVain r reader patience there → limit = 0 ∨ patience < limit →
        Waits r wanted limit patience w reader patience none) ∧
      (limit = 0 → ∀ patience, (Dialogue.run r (wait wanted limit patience) w).value.isSome = true ↔
        ∃ k < patience, ¬ NoCard (answerAfter r reader k there)) := by
  intro there limit
  have hlimit : limit ≤ mostAttempts := Nat.le_sub_one_of_lt retries.toNat_lt
  refine ⟨fun k patience hvain => waits_decided hfound hlimit hvain, fun patience hpos hvain hpatience => ?_,
    fun patience hvain => waits_undecided hfound hlimit hvain, fun hnone patience => ?_⟩
  · obtain ⟨last, hlast⟩ := Nat.exists_eq_add_one_of_ne_zero (Nat.pos_iff_ne_zero.1 hpos)
    rw [hlast] at hlimit hvain hpatience ⊢
    exact waits_limited hfound hlimit hvain hpatience
  · rw [hnone]
    exact isSome_wait_iff hfound patience

/-- A desk at which a card is put on the reader after two attempts to connect. -/
def slow : Simulation.Desk :=
  ⟨[[0x52]], ⟨true, [], .script [] (.status 0x90 0x00)⟩, .t1, none,
    [(.connect, [some .noSmartcard, some .removedCard, none])], [], 0⟩

/-- At most five attempts, of which three are made. -/
theorem wait_attempts_third :
    let there := (Dialogue.run Simulation.Desk.responder (lookup none) slow).world
    (Dialogue.run Simulation.Desk.responder (lookup none) slow).value = .ok [0x52] ∧
      InVain Simulation.Desk.responder [0x52] 2 there ∧
      ¬ NoCard (answerAfter Simulation.Desk.responder [0x52] 2 there) ∧
      Waits Simulation.Desk.responder none 5 10 slow [0x52] 3 (some (.ok ⟨some ⟨0, .t1⟩, [0x52]⟩)) := by
  intro there
  have hfound : (Dialogue.run Simulation.Desk.responder (lookup none) slow).value = .ok [0x52] := rfl
  have hvain : InVain Simulation.Desk.responder [0x52] 2 there := by decide
  have hdecides : ¬ NoCard (answerAfter Simulation.Desk.responder [0x52] 2 there) := by decide
  rcases wait_attempts Simulation.Desk.responder none 5 hfound with ⟨hdecided, -⟩
  exact ⟨hfound, hvain, hdecides, hdecided 2 10 hvain hdecides (.inr (by decide)) (by decide)⟩

end SectorCard.Connection
