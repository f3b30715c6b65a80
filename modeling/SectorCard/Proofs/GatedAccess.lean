import SectorCard.Proofs.Conversation
import SectorCard.Proofs.LoadedKey
import SectorCard.Proofs.PendingAuthentication

/-!
# Access behind a pending authentication

While authentication is pending, an access to a page comes in two parts.  First the coupler authenticates with the key
that it remembers; if the key is refused and was not yet loaded, it is loaded and tried once more.  The command of the
access is sent only if the key was accepted in the end.  With a card that is connected, this says exactly which commands
are sent, for every reply to each of them (`gated_access`).

If nothing is pending, the command is sent at once.
-/

namespace SectorCard

open Procedure

variable {ω : Type} {t : Transport ω}

/-- A key was loaded, and the reader has taken it. -/
def Exchange.Loads (x : Exchange) : Prop := x.command.instruction = .loadKey ∧ x.Acknowledged

namespace Coupler

variable {c d : Situation Link Coupler ω} {address code : UInt8} {entry : KeyEntry}

/-! ## Reachable states -/

/-- The states to which operations can lead a coupler, whatever transports they are performed over. -/
inductive Reachable : Coupler → Prop where
  | fresh : Reachable fresh
  | perform {ω : Type} (t : Transport ω) (op : Operation) (c : Situation Link Coupler ω) (h : Reachable c.state) :
      Reachable (exec t.responder (perform op) c).2.state

/-- The remembered key of a coupler fits its slot, and its selector can authenticate. -/
theorem Reachable.primed {coupler : Coupler} (h : Reachable coupler) : Primed False coupler := by
  induction h with
  | fresh => exact ⟨(fun _ h => nomatch h), ⟨_, rfl⟩, False.elim⟩
  | perform t op c _ ih => exact operationsKeep_primed.perform (t := t) op c ih

/-! ## Authenticating -/

/-- The exchanges of authenticating with a remembered key, and whether the key counts as loaded before and after them.
It is tried, and only if it is refused and was not yet loaded, it is loaded and tried once more. -/
inductive Renewal (authenticate load : Command) (loaded : Bool) : List Exchange → Bool → Prop where
  | once {x : Exchange} (hx : x.command = authenticate) (hfinal : loaded = true ∨ ¬ x.Refused) :
      Renewal authenticate load loaded [x] loaded
  | notLoaded {x y : Exchange} (hx : x.command = authenticate) (hunloaded : loaded = false) (hrefused : x.Refused)
      (hy : y.command = load) (hload : ¬ y.Acknowledged) : Renewal authenticate load loaded [x, y] loaded
  | again {x y z : Exchange} (hx : x.command = authenticate) (hunloaded : loaded = false) (hrefused : x.Refused)
      (hy : y.command = load) (hload : y.Acknowledged) (hz : z.command = authenticate) :
      Renewal authenticate load loaded [x, y, z] true

/-- A key comes to count as loaded exactly if it was loaded meanwhile. -/
theorem Renewal.loads_iff {slot : UInt8} {loaded loaded' : Bool} {said : List Exchange}
    (h : Renewal (.authenticating address code slot) (.loading entry) loaded said loaded') :
    (∃ x ∈ said, x.Loads) ↔ loaded = false ∧ loaded' = true := by
  have htried : ∀ {x : Exchange}, x.command = .authenticating address code slot → ¬ x.Loads := by
    rintro x hx ⟨hload, -⟩
    rw [hx] at hload
    cases hload
  have hloading : ∀ {x : Exchange}, x.command = .loading entry → (x.Loads ↔ x.Acknowledged) := by
    intro x hx
    simp [Exchange.Loads, hx]
  cases h with
  | once hx _ => simp [htried hx]
  | notLoaded hx hunloaded _ hy hload => simp [htried hx, hloading hy, hload, hunloaded]
  | again hx hunloaded _ hy hload hz => simp [htried hx, hloading hy, hload, hunloaded]

/-- A key does not cease to count as loaded. -/
theorem Renewal.loaded_of_loaded {authenticate load : Command} {loaded loaded' : Bool} {said : List Exchange}
    (h : Renewal authenticate load loaded said loaded') (hloaded : loaded = true) : loaded' = true := by
  cases h with
  | once _ _ => exact hloaded
  | notLoaded _ _ _ _ _ => exact hloaded
  | again _ _ _ _ _ _ => rfl

/-- What authenticating with a remembered key has come to: the last exchange decides, and key and selector stay
remembered. -/
structure Renewed (address code : UInt8) (entry : KeyEntry) (c : Situation Link Coupler ω) (x : Except Failure Unit)
    (d : Situation Link Coupler ω) (said : List Exchange) : Prop where
  conversed : Conversed said c d
  renewal : Renewal (.authenticating address code entry.slot) (.loading entry) c.state.keyLoaded said d.state.keyLoaded
  plain : ∀ y ∈ said, y.Plain
  result : ∃ last, said.getLast? = some last ∧ x = (Failure.lift last.outcome).map fun _ => ()
  remembered : d.state.key = c.state.key ∧ d.state.selector = c.state.selector

theorem performAuth_renewed (hconnected : ∀ w, t.isConnected w = true) (ht : t.FailsPlainly)
    (hkey : c.state.key = some entry) (hcode : c.state.selector.code? = some code)
    (legal : entry.store.HasSlot entry.slot) :
    Ensures t.responder (performAuth address) c fun x d => ∃ said, Renewed address code entry c x d said := by
  refine (performAuth_outcome t address c).mono fun x d h => ?_
  -- At most three exchanges, in this order; every outcome has a front part of them.
  let authenticate : Command := .authenticating address code entry.slot
  let first := t.replied authenticate c.world
  let loading := t.replied (.loading entry) (c.exchanged t authenticate).world
  have hdemand : ∀ command w, t.demand command command.instruction.refusal w = (t.replied command w).outcome :=
    fun command w => Transport.demand_of_connected (hconnected w)
  have htried : Conversed [first] c (c.exchanged t authenticate) := conversed_exchanged (hconnected _)
  have hretried : Conversed [first, loading] c (reloaded t address code entry c) :=
    htried.append (conversed_exchanged (hconnected _))
  let last := t.replied authenticate (reloaded t address code entry c).world
  have hone : ∀ y ∈ [first], y.Plain := by
    simp [first, ht.plain]
  have htwo : ∀ y ∈ [first, loading], y.Plain := by
    simp [first, loading, ht.plain]
  have hthree : ∀ y ∈ [first, loading, last], y.Plain := by
    simp [first, loading, last, ht.plain]
  have htriedAgain : Conversed [first, loading, last] c ((reloaded t address code entry c).exchanged t authenticate) :=
    hretried.append (conversed_exchanged (hconnected _))
  have hrefused : Refused t address code entry c → first.Refused := by
    rintro ⟨-, -, -, status, he⟩
    exact (ht.plain _ _).refused ((hdemand authenticate c.world).symm.trans he)
  cases h with
  | keyless hnone => cases hkey.symm.trans hnone
  | codeless _ hnone => cases hcode.symm.trans hnone
  | accepted hkey' hcode' hauth =>
    cases hkey.symm.trans hkey'
    cases hcode.symm.trans hcode'
    have hfirst : first.outcome = .ok _ := (hdemand authenticate _).symm.trans hauth
    refine ⟨[first], htried, .once rfl (.inr fun h => ?_), hone, ⟨first, rfl, by rw [hfirst]; rfl⟩, rfl, rfl⟩
    exact h.not_acknowledged (Exchange.acknowledged_iff.2 ⟨_, hfirst⟩)
  | denied hkey' hcode' he hfinal =>
    cases hkey.symm.trans hkey'
    cases hcode.symm.trans hcode'
    have hfirst : first.outcome = .error _ := (hdemand authenticate _).symm.trans he
    refine ⟨[first], htried, .once rfl (hfinal.imp_right fun hother h => ?_), hone, ⟨first, rfl, by rw [hfirst]; rfl⟩, rfl, rfl⟩
    rcases h.outcome with ⟨status, herror⟩
    exact hother status (Except.error.inj (hfirst.symm.trans herror))
  -- The slot of a legal key exists, so the key can be loaded.
  | homeless h illegal =>
    cases hkey.symm.trans h.key
    exact absurd legal illegal
  | notLoaded h _ he =>
    cases hkey.symm.trans h.key
    cases hcode.symm.trans h.selector
    have hload : loading.outcome = .error _ := (hdemand (.loading entry) _).symm.trans he
    refine ⟨[first, loading], hretried, ?_, htwo, ⟨loading, rfl, by rw [hload]; rfl⟩, rfl, rfl⟩
    exact .notLoaded rfl h.unloaded (hrefused h) rfl (Exchange.not_acknowledged_of_error hload)
  | deniedAgain h _ hload he =>
    cases hkey.symm.trans h.key
    cases hcode.symm.trans h.selector
    have hload' : loading.outcome = .ok _ := (hdemand (.loading entry) _).symm.trans hload
    have hlast : last.outcome = .error _ := (hdemand authenticate _).symm.trans he
    refine ⟨[first, loading, last], htriedAgain, ?_, hthree, ⟨last, rfl, by rw [hlast]; rfl⟩, rfl, rfl⟩
    exact .again rfl h.unloaded (hrefused h) rfl (Exchange.acknowledged_iff.2 ⟨_, hload'⟩) rfl
  | acceptedAgain h _ hload hauth =>
    cases hkey.symm.trans h.key
    cases hcode.symm.trans h.selector
    have hload' : loading.outcome = .ok _ := (hdemand (.loading entry) _).symm.trans hload
    have hlast : last.outcome = .ok _ := (hdemand authenticate _).symm.trans hauth
    refine ⟨[first, loading, last], htriedAgain, ?_, hthree, ⟨last, rfl, by rw [hlast]; rfl⟩, rfl, rfl⟩
    exact .again rfl h.unloaded (hrefused h) rfl (Exchange.acknowledged_iff.2 ⟨_, hload'⟩) rfl

/-! ## Sending the command -/

theorem PageAccess.refusal_command (page : PageAccess) :
    page.command.instruction.refusal = accessError page.refusal := by
  cases page <;> rfl

theorem PageAccess.not_loads {page : PageAccess} {y : Exchange} (h : y.command = page.command) : ¬ y.Loads := by
  rintro ⟨hload, -⟩
  rw [h] at hload
  cases page <;> cases hload

/-- No exchange of a renewal carries the command of an access. -/
theorem Renewal.command_ne {slot : UInt8} {loaded loaded' : Bool} {said : List Exchange}
    (h : Renewal (.authenticating address code slot) (.loading entry) loaded said loaded') (page : PageAccess) :
    ∀ x ∈ said, x.command ≠ page.command := by
  have htry : Command.authenticating address code slot ≠ page.command := by
    cases page <;> exact fun h => nomatch congrArg Command.instruction h
  have hload : Command.loading entry ≠ page.command := by
    cases page <;> exact fun h => nomatch congrArg Command.instruction h
  cases h with
  | once hx _ => simpa [hx] using htry
  | notLoaded hx _ _ hy _ => simpa [hx, hy] using ⟨htry, hload⟩
  | again hx _ _ hy _ hz => simpa [hx, hy, hz] using ⟨htry, hload, htry⟩

/-- The command of an access was sent, and this is the exchange.  It decides, and nothing but the pending mark may have
changed. -/
structure Sent (page : PageAccess) (c : Situation Link Coupler ω) (x : Except Failure Bytes)
    (d : Situation Link Coupler ω) (y : Exchange) : Prop where
  command : y.command = page.command
  conversed : Conversed [y] c d
  plain : y.Plain
  result : x = Failure.lift y.outcome
  state : ∃ pending, d.state = { c.state with authPending := pending }

theorem transfer_sent (hconnected : ∀ w, t.isConnected w = true) (ht : t.FailsPlainly) (page : PageAccess)
    (c : Situation Link Coupler ω) :
    Ensures t.responder (transfer page.command page.refusal) c fun x d => ∃ y, Sent page c x d y := by
  have hdemand : t.demand page.command (accessError page.refusal) c.world =
      (t.replied page.command c.world).outcome :=
    page.refusal_command ▸ Transport.demand_of_connected (hconnected _)
  have hsaid : Conversed [t.replied page.command c.world] c (c.exchanged t page.command) :=
    conversed_exchanged (hconnected _)
  refine ensures_transfer_of_demand (fun data hok => ?_) (fun e pending he => ?_)
  · exact ⟨_, rfl, hsaid, ht.plain _ _, by rw [← hdemand, hok]; rfl, false, rfl⟩
  · exact ⟨_, rfl, hsaid, ht.plain _ _, by rw [← hdemand, he]; rfl, pending, rfl⟩

/-! ## One access -/

theorem RenewalOutcome.of_keyless {x : Except Failure Unit} (h : RenewalOutcome t address c x d)
    (hkey : c.state.key = none) : x = .error (.error (.keyNotConfigured c.state.selector)) ∧ d = c := by
  cases h with
  | keyless _ => exact ⟨rfl, rfl⟩
  | codeless hsome _ => cases hkey.symm.trans hsome
  | accepted hsome _ _ => cases hkey.symm.trans hsome
  | denied hsome _ _ _ => cases hkey.symm.trans hsome
  | homeless h _ => cases hkey.symm.trans h.key
  | notLoaded h _ _ => cases hkey.symm.trans h.key
  | deniedAgain h _ _ _ => cases hkey.symm.trans h.key
  | acceptedAgain h _ _ _ => cases hkey.symm.trans h.key

/-- What an access to a page has come to.  If nothing is pending, the command is sent at once; otherwise it is sent
exactly if the remembered key was accepted in the end.  If it is not sent, the access fails and authentication is
pending as before. -/
structure Gated (page : PageAccess) (coupler : Coupler) (said : List Exchange) (x : Except Failure Operation.Result)
    (coupler' : Coupler) : Prop where
  idle : coupler.authPending = false → ∃ y : Exchange, y.command = page.command ∧ said = [y]
  keyless : coupler.authPending = true → coupler.key = none →
    said = [] ∧ x = .error (.error (.keyNotConfigured coupler.selector)) ∧ coupler' = coupler
  pending : ∀ entry, coupler.authPending = true → coupler.key = some entry → ∃ code tries last,
    coupler.selector.code? = some code ∧
    Renewal (.authenticating page.address code entry.slot) (.loading entry) coupler.keyLoaded tries coupler'.keyLoaded ∧
    tries.getLast? = some last ∧
    ((last.Acknowledged ∧ ∃ y : Exchange, y.command = page.command ∧ said = tries ++ [y]) ∨
      (¬ last.Acknowledged ∧ said = tries ∧ ∃ e, last.outcome = .error e ∧ x = .error (.error e)))
  loaded : (coupler.keyLoaded = false ∧ coupler'.keyLoaded = true) ↔ ∃ y ∈ said, y.Loads
  kept : coupler.keyLoaded = true → coupler'.keyLoaded = true
  remembered : coupler'.key = coupler.key ∧ coupler'.selector = coupler.selector
  unsent : (∀ y ∈ said, y.command ≠ page.command) →
    (∃ e, x = .error (.error e)) ∧ coupler'.authPending = coupler.authPending
  sent : ∀ y ∈ said, y.command = page.command → x = (Failure.lift y.outcome).map page.result ∧
    ((∃ result, x = .ok result) ↔ y.Answered ⟨0x90, 0x00⟩ ∨ y.Answered ⟨0x91, 0x00⟩)

section Gated

variable {page : PageAccess} {x : Except Failure Bytes} {y : Exchange}

/-- An access whose command is sent succeeds exactly if the command is acknowledged. -/
theorem Sent.succeeds (h : Sent page c x d y) :
    x.map page.result = (Failure.lift y.outcome).map page.result ∧
      ((∃ result, x.map page.result = .ok result) ↔ y.Answered ⟨0x90, 0x00⟩ ∨ y.Answered ⟨0x91, 0x00⟩) := by
  refine ⟨by rw [h.result], ?_⟩
  rw [h.result, ← Exchange.acknowledged_iff_answered, Exchange.acknowledged_iff]
  cases y.outcome <;> simp [Failure.lift, Except.map]

theorem gated_of_idle (hidle : c.state.authPending = false) (h : Sent page c x d y) :
    -- With nothing pending, what concerns a pending authentication says nothing.
    Gated page c.state [y] (x.map page.result) d.state := by
  rcases h.state with ⟨pending, hstate⟩
  refine ⟨fun _ => ⟨y, h.command, rfl⟩, ?_, ?_, ?_, ?_, ?_, ?_, ?_⟩
  · intro hpending
    rw [hidle] at hpending
    cases hpending
  · intro entry hpending
    rw [hidle] at hpending
    cases hpending
  · have hnone : ¬ y.Loads := PageAccess.not_loads h.command
    simp [hstate, hnone]
  · simp [hstate]
  · simp [hstate]
  · intro hunsent
    exact absurd h.command (hunsent y (List.mem_singleton.2 rfl))
  · intro z hz _
    cases List.mem_singleton.1 hz
    exact h.succeeds

theorem gated_of_keyless (hpending : c.state.authPending = true) (hkey : c.state.key = none) :
    Gated page c.state [] (.error (.error (.keyNotConfigured c.state.selector))) c.state := by
  refine ⟨?_, fun _ _ => ⟨rfl, rfl, rfl⟩, ?_, ?_, id, ⟨rfl, rfl⟩, fun _ => ⟨⟨_, rfl⟩, rfl⟩, fun _ h => nomatch h⟩
  · intro hidle
    rw [hpending] at hidle
    cases hidle
  · intro entry _ hentry
    cases hkey.symm.trans hentry
  · simp

variable {a : Situation Link Coupler ω} {tries : List Exchange}

theorem gated_of_lost {e : Failure} (hpending : c.state.authPending = true) (hkey : c.state.key = some entry)
    (hcode : c.state.selector.code? = some code) (h : Renewed page.address code entry c (.error e) d tries)
    (hkept : d.state.authPending = c.state.authPending) : Gated page c.state tries (.error e) d.state := by
  rcases h.result with ⟨last, hlast, hresult⟩
  -- The key was not accepted in the end, so it is the last of the tries that has failed.
  have hlost : ∃ denial, last.outcome = .error denial ∧ e = .error denial := by
    cases hout : last.outcome with
    | ok data =>
      rw [hout] at hresult
      cases hresult
    | error denial =>
      rw [hout] at hresult
      cases hresult
      exact ⟨denial, rfl, rfl⟩
  rcases hlost with ⟨denial, hout, rfl⟩
  refine ⟨?_, ?_, ?_, h.renewal.loads_iff.symm, ?_, h.remembered, fun _ => ⟨⟨_, rfl⟩, hkept⟩, ?_⟩
  · intro hidle
    rw [hpending] at hidle
    cases hidle
  · intro _ hnone
    cases hkey.symm.trans hnone
  · intro found _ hfound
    cases hkey.symm.trans hfound
    exact ⟨code, tries, last, hcode, h.renewal, hlast,
      .inr ⟨Exchange.not_acknowledged_of_error hout, rfl, denial, hout, rfl⟩⟩
  · exact h.renewal.loaded_of_loaded
  · intro z hz hcommand
    exact absurd hcommand (h.renewal.command_ne page z hz)

theorem gated_of_renewed (hpending : c.state.authPending = true) (hkey : c.state.key = some entry)
    (hcode : c.state.selector.code? = some code) (h : Renewed page.address code entry c (.ok ()) a tries)
    (hsent : Sent page a x d y) : Gated page c.state (tries ++ [y]) (x.map page.result) d.state := by
  rcases hsent.state with ⟨pending, hstate⟩
  have hloaded : d.state.keyLoaded = a.state.keyLoaded := by rw [hstate]
  have hnone : ¬ y.Loads := PageAccess.not_loads hsent.command
  rcases h.result with ⟨last, hlast, hresult⟩
  -- The key was accepted in the end, and the command follows the tries.
  have haccepted : last.Acknowledged := by
    refine Exchange.acknowledged_iff.2 ?_
    cases hout : last.outcome with
    | ok data => exact ⟨data, rfl⟩
    | error e =>
      rw [hout] at hresult
      cases hresult
  refine ⟨?_, ?_, ?_, ?_, ?_, ?_, ?_, ?_⟩
  · intro hidle
    rw [hpending] at hidle
    cases hidle
  · intro _ hnokey
    cases hkey.symm.trans hnokey
  · intro found _ hfound
    cases hkey.symm.trans hfound
    exact ⟨code, tries, last, hcode, hloaded ▸ h.renewal, hlast, .inl ⟨haccepted, y, hsent.command, rfl⟩⟩
  · rw [hloaded, ← h.renewal.loads_iff]
    simp [hnone, or_and_right, exists_or]
  · rw [hloaded]
    exact h.renewal.loaded_of_loaded
  · rw [hstate]
    exact h.remembered
  · intro hunsent
    exact absurd hsent.command (hunsent y (by simp))
  · intro z hz hcommand
    rcases List.mem_append.1 hz with htry | hlast
    · exact absurd hcommand (h.renewal.command_ne page z htry)
    · cases List.mem_singleton.1 hlast
      exact hsent.succeeds

end Gated

/-- Whatever a coupler was used for, an access to a page of a connected card sends its command at once if nothing is
pending.  If authentication is pending, the remembered key is tried first, loaded and tried again if it was refused
without having been loaded, and the command is sent exactly if the key was accepted in the end.  It succeeds exactly
if it is answered with a status word of success, of which there are two. -/
theorem gated_access (hconnected : ∀ w, t.isConnected w = true) (ht : t.FailsPlainly) (hc : Reachable c.state)
    (page : PageAccess) :
    let run := exec t.responder (perform page.operation) c
    ∃ said, Conversed said c run.2 ∧ Gated page c.state said run.1 run.2.state := by
  have hprimed := hc.primed
  show Ensures t.responder (perform page.operation) c fun x d =>
    ∃ said, Conversed said c d ∧ Gated page c.state said x d.state
  rw [page.perform_operation]
  refine Ensures.map ?_
  cases hpending : c.state.authPending with
  | false =>
    refine ensures_access_of_idle hpending ((transfer_sent hconnected ht page c).mono ?_)
    rintro x d ⟨y, hsent⟩
    exact ⟨[y], hsent.conversed, gated_of_idle hpending hsent⟩
  | true =>
    cases hkey : c.state.key with
    | none =>
      -- Without a key nothing is sent, and the access fails for that reason.
      refine Ensures.bind_of_error (e := .error (.keyNotConfigured c.state.selector)) (P := fun d => d = c) ?_ ?_
      · refine ensures_authenticateIfPending (fun hidle => ?_) (fun _ => (performAuth_outcome t page.address c).mono ?_)
        · rw [hpending] at hidle
          cases hidle
        · intro x d h
          exact h.of_keyless hkey
      · rintro d rfl
        exact ⟨[], conversed_nil d, gated_of_keyless hpending hkey⟩
    | some entry =>
      rcases hprimed.code with ⟨code, hcode⟩
      -- Either the key is renewed and the command goes out, or it is lost and all stays pending.
      refine Ensures.bind (R := fun x a => (∃ tries, Renewed page.address code entry c x a tries) ∧
        (a.state.authPending = true ↔ ∃ e, x = .error e)) ?_ ?_ ?_
      · refine Ensures.and ?_ (authenticateIfPending_pending page.address c)
        refine ensures_authenticateIfPending (fun hidle => ?_) fun _ => ?_
        · rw [hpending] at hidle
          cases hidle
        · exact performAuth_renewed hconnected ht hkey hcode (hprimed.legal entry hkey)
      · rintro _ a ⟨⟨tries, hrenewed⟩, -⟩
        refine (transfer_sent hconnected ht page a).mono ?_
        rintro x d ⟨y, hsent⟩
        exact ⟨tries ++ [y], hrenewed.conversed.append hsent.conversed,
          gated_of_renewed hpending hkey hcode hrenewed hsent⟩
      · rintro e d ⟨⟨tries, hrenewed⟩, hstays⟩
        have hkept : d.state.authPending = c.state.authPending := by
          rw [hpending, hstays]
          exact ⟨e, rfl⟩
        exact ⟨tries, hrenewed.conversed, gated_of_lost hpending hkey hcode hrenewed hkept⟩

/-- A key was set and has to be tried.  It will be refused, loaded and accepted, and the page read under the second
status word of success. -/
def waiting : Situation Link Coupler (List Bytes) where
  state := { fresh with key := some (.volatile .transport), authPending := true }
  world := [[0x63, 0x00], [0x90, 0x00], [0x90, 0x00], [0x2a, 0x91, 0x00]]
  history := []

theorem reachable_waiting : Reachable waiting.state := by
  have hset : Reachable { fresh with key := some (.volatile .transport) } :=
    .perform .script (.setAuth .a (.volatile .transport)) ⟨fresh, [], []⟩ .fresh
  exact .perform .script .requestAuth ⟨_, [], []⟩ hset

theorem gated_access_waiting :
    let t := Transport.script
    let page := PageAccess.read 4 16
    let run := exec t.responder (perform page.operation) waiting
    (∀ w, t.isConnected w = true) ∧ t.FailsPlainly ∧ Reachable waiting.state ∧
      (∃ said, Conversed said waiting run.2 ∧ Gated page waiting.state said run.1 run.2.state) ∧
      run.1 = .ok (some [0x2a]) ∧ run.2.state.keyLoaded = true ∧ run.2.history.map (·.request) =
        [.isConnected, .transmit [0xff, 0x88, 0x00, 0x04, 0x60, 0x20],
          .isConnected, .transmit [0xff, 0x82, 0x00, 0x20, 0x06, 0xff, 0xff, 0xff, 0xff, 0xff, 0xff],
          .isConnected, .transmit [0xff, 0x88, 0x00, 0x04, 0x60, 0x20],
          .isConnected, .transmit [0xff, 0xb0, 0x00, 0x04, 0x10]] := by
  intro t page run
  have hconnected : ∀ w, t.isConnected w = true := fun _ => rfl
  exact ⟨hconnected, Transport.failsPlainly_script, reachable_waiting,
    gated_access hconnected Transport.failsPlainly_script reachable_waiting page, by decide, by decide, by decide⟩

/-- A page is read although the answer ends in another status word than the usual one. -/
theorem read_without_usual_status :
    let t := Transport.script
    let c : Situation Link Coupler (List Bytes) := ⟨fresh, [[0x2a, 0x91, 0x00]], []⟩
    let page := PageAccess.read 4 16
    let run := exec t.responder (perform page.operation) c
    let y : Exchange := ⟨page.command, .ok [0x2a, 0x91, 0x00]⟩
    (∀ w, t.isConnected w = true) ∧ t.FailsPlainly ∧ Reachable c.state ∧ Conversed [y] c run.2 ∧
      run.1 = .ok (some [0x2a]) ∧ ¬ y.Answered ⟨0x90, 0x00⟩ := by
  intro t c page run y
  have hanswered : y.Answered ⟨0x91, 0x00⟩ := ⟨[0x2a], rfl⟩
  refine ⟨fun _ => rfl, Transport.failsPlainly_script, .fresh, by unfold Conversed; decide, by decide, fun h => ?_⟩
  cases hanswered.unique h

end Coupler
end SectorCard
