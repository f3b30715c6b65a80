import SectorCard.Proofs.Exchange
import SectorCard.Coupler.Page

/-!
# Steps of a coupler

One rule for each function that a coupler is built from: what has to be shown of its outcomes, so that a
statement holds however the function ends.  The transport is arbitrary.

`RenewalOutcome` lists all that authenticating with the remembered key can come to, whatever the coupler remembers.

Reading and writing a page share everything but their command: both are a `Coupler.access`, which
authenticates if that is pending and then makes one `Coupler.transfer`.
-/

namespace SectorCard

theorem KeyStore.checkSlot_eq_ok_iff (store : KeyStore) (slot : UInt8) :
    store.checkSlot slot = .ok () ↔ store.HasSlot slot := by
  unfold checkSlot
  split <;> simp [*]

theorem KeyStore.checkSlot_eq_error {store : KeyStore} {slot : UInt8} {e : CardError}
    (h : store.checkSlot slot = .error e) : ¬ store.HasSlot slot ∧ e = .invalidKeySlot slot := by
  unfold checkSlot at h
  split at h
  · cases h
  · rename_i hslot
    cases h
    exact ⟨hslot, rfl⟩

namespace Coupler

open Procedure

variable {ω : Type} {t : Transport ω} {c : Situation Link Coupler ω}

/-! ## Sending -/

theorem send_ok (command : Command) : send (.ok command) = Link.exchange command.encode := by
  simp [send, Failure.liftDefect]

def accessError (other : StatusWord → CardError) (status : StatusWord) : CardError :=
  match status.meaning with
  | .authenticationError => .authFailed status
  | _ => other status

def transfer (command : Command) (other : StatusWord → CardError) : CouplerM Bytes := do
  let reply ← Link.exchange command.encode
  classify reply.status other
  pure reply.data

def access (address : UInt8) (command : Command) (other : StatusWord → CardError) : CouplerM Bytes := do
  authenticateIfPending address
  transfer command other

theorem readPage_eq (address length : UInt8) :
    readPage address length = access address (.reading address length) .readFailed := by
  simp only [readPage, Command.readBinary_eq, send_ok, access, transfer]

theorem writePage_eq {data : Bytes} (address : UInt8) (h : data.length ≤ Defect.maxData) :
    writePage address data =
      access address (.writing address data) .writeFailed >>= fun _ => pure () := by
  simp only [writePage, h, if_true, Command.updateBinary_eq address h, send_ok, access, transfer,
    bind_assoc, pure_bind, bind_pure_unit]

theorem exec_classify (status : StatusWord) (other : StatusWord → CardError) :
    exec t.responder (classify status other) c =
      if status.isSuccess then (.ok (), { c with state := { c.state with authPending := false } })
      else (.error (.error (accessError other status)),
        { c with state := { c.state with authPending := true } }) := by
  unfold classify accessError
  by_cases hs : status.isSuccess = true
  · simp [hs]
  · simp only [hs]
    cases status.meaning <;> simp [exec_bind]

section Rules

variable {Q : Except Failure Unit → Situation Link Coupler ω → Prop}

/-- An exchange leaves authentication pending or not exactly if it ends in a status word. -/
theorem ensures_transfer {Q : Except Failure Bytes → Situation Link Coupler ω → Prop} {command : Command}
    {other : StatusWord → CardError}
    (accepted : ∀ reply, (t.exchange command c.world).1 = .ok reply → reply.status.isSuccess = true →
      Q (.ok reply.data) { c.exchanged t command with state := { c.state with authPending := false } })
    (refused : ∀ reply, (t.exchange command c.world).1 = .ok reply → reply.status.isSuccess = false →
      Q (.error (.error (accessError other reply.status)))
        { c.exchanged t command with state := { c.state with authPending := true } })
    (failed : ∀ e, (t.exchange command c.world).1 = .error e →
      Q (.error (.error e)) (c.exchanged t command)) :
    Ensures t.responder (transfer command other) c Q := by
  unfold Ensures transfer
  rw [exec_bind, exec_exchange]
  cases he : (t.exchange command c.world).1 with
  | error e => exact failed e he
  | ok reply =>
    simp only [Failure.lift, exec_bind, exec_classify]
    cases hs : reply.status.isSuccess with
    | true => simpa using accepted reply he hs
    | false => simpa using refused reply he hs

theorem ensures_transfer_of_demand {Q : Except Failure Bytes → Situation Link Coupler ω → Prop}
    {command : Command} {other : StatusWord → CardError}
    (accepted : ∀ data, t.demand command (accessError other) c.world = .ok data →
      Q (.ok data) { c.exchanged t command with state := { c.state with authPending := false } })
    (denied : ∀ e pending, t.demand command (accessError other) c.world = .error e →
      Q (.error (.error e)) { c.exchanged t command with state := { c.state with authPending := pending } }) :
    Ensures t.responder (transfer command other) c Q := by
  refine ensures_transfer ?_ ?_ ?_
  · intro reply hreply hs
    exact accepted _ (Transport.demand_of_exchange _ hreply hs)
  · intro reply hreply hs
    exact denied _ true (by simp [Transport.demand, hreply, hs])
  · intro e he
    exact denied e c.state.authPending (by simp [Transport.demand, he])

/-! ## Keys -/

theorem ensures_sendLoadKey {entry : KeyEntry}
    (illegal : ¬ entry.store.HasSlot entry.slot → Q (.error (.error (.invalidKeySlot entry.slot))) c)
    (ok : entry.store.HasSlot entry.slot → ∀ data,
      t.demand (.loading entry) .loadKeyFailed c.world = .ok data →
        Q (.ok ()) (c.exchanged t (.loading entry)))
    (error : entry.store.HasSlot entry.slot → ∀ e,
      t.demand (.loading entry) .loadKeyFailed c.world = .error e →
        Q (.error (.error e)) (c.exchanged t (.loading entry))) :
    Ensures t.responder (sendLoadKey entry) c Q := by
  unfold sendLoadKey
  -- The slot is checked before anything is sent.
  refine ensures_require_bind (fun _ hslot => ?_) (fun e he => ?_)
  · have legal : entry.store.HasSlot entry.slot := (KeyStore.checkSlot_eq_ok_iff _ _).1 hslot
    unfold Ensures
    rw [Command.loadKey_eq, send_ok, exec_bind, exec_exchange]
    cases hx : (t.exchange (.loading entry) c.world).1 with
    | error e => exact error legal e (by simp [Transport.demand, hx])
    | ok reply =>
      cases hs : reply.status.isSuccess with
      | true => simpa [Failure.lift, hs] using ok legal reply.data (by simp [Transport.demand, hx, hs])
      | false =>
        simpa [Failure.lift, hs] using
          error legal (.loadKeyFailed reply.status) (by simp [Transport.demand, hx, hs])
  · rcases KeyStore.checkSlot_eq_error he with ⟨hillegal, rfl⟩
    exact illegal hillegal

theorem ensures_loadKey {entry : KeyEntry}
    (illegal : ¬ entry.store.HasSlot entry.slot → Q (.error (.error (.invalidKeySlot entry.slot))) c)
    (ok : entry.store.HasSlot entry.slot → ∀ data,
      t.demand (.loading entry) .loadKeyFailed c.world = .ok data →
        Q (.ok ()) { c.exchanged t (.loading entry) with
          state := { c.state with key := some entry, keyLoaded := true } })
    (error : entry.store.HasSlot entry.slot → ∀ e,
      t.demand (.loading entry) .loadKeyFailed c.world = .error e →
        Q (.error (.error e)) (c.exchanged t (.loading entry))) :
    Ensures t.responder (loadKey entry) c Q := by
  unfold loadKey
  refine Ensures.bind (R := fun x c' => match x with
      | .ok () => Q (.ok ()) { c' with state := { c'.state with key := some entry, keyLoaded := true } }
      | .error e => Q (.error e) c') ?_ ?_ ?_
  · exact ensures_sendLoadKey illegal ok error
  · intro _ c' h
    simpa [Ensures] using h
  · intro e c' h
    exact h

/-! ## Authentication -/

theorem ensures_sendAuthenticate {address slot code : UInt8} {selector : KeySelector}
    (hcode : selector.code? = some code)
    (ok : ∀ data, t.demand (.authenticating address code slot) .authFailed c.world = .ok data →
      Q (.ok ()) (c.exchanged t (.authenticating address code slot)))
    (error : ∀ e, t.demand (.authenticating address code slot) .authFailed c.world = .error e →
      Q (.error (.error e)) (c.exchanged t (.authenticating address code slot))) :
    Ensures t.responder (sendAuthenticate address selector slot) c Q := by
  unfold sendAuthenticate Ensures
  have hrequire : authCode selector = .ok code := by simp [authCode, hcode]
  rw [hrequire, require_ok, pure_bind, Command.authenticate_eq, send_ok, exec_bind, exec_exchange]
  cases hx : (t.exchange (.authenticating address code slot) c.world).1 with
  | error e => exact error e (by simp [Transport.demand, hx])
  | ok reply =>
    cases hs : reply.status.isSuccess with
    | true => simpa [Failure.lift, hs] using ok reply.data (by simp [Transport.demand, hx, hs])
    | false =>
      simpa [Failure.lift, hs] using
        error (.authFailed reply.status) (by simp [Transport.demand, hx, hs])

theorem ensures_sendAuthenticate_of_codeless {address slot : UInt8} {selector : KeySelector} (hcode : selector.code? = none)
    (h : Q (.error (.error (.notAuthenticating selector))) c) :
    Ensures t.responder (sendAuthenticate address selector slot) c Q := by
  have hrequire : authCode selector = .error (.notAuthenticating selector) := by simp [authCode, hcode]
  unfold sendAuthenticate
  rw [hrequire]
  refine ensures_require_bind (fun _ hok => nomatch hok) (fun e he => ?_)
  cases he
  exact h

/-- The selector is remembered whether or not the authentication succeeds. -/
theorem ensures_authenticate {address slot code : UInt8} {selector : KeySelector}
    (hcode : selector.code? = some code)
    (ok : ∀ data, t.demand (.authenticating address code slot) .authFailed c.world = .ok data →
      Q (.ok ()) { c.exchanged t (.authenticating address code slot) with
        state := { c.state with selector := selector, authPending := false } })
    (error : ∀ e, t.demand (.authenticating address code slot) .authFailed c.world = .error e →
      Q (.error (.error e)) { c.exchanged t (.authenticating address code slot) with
        state := { c.state with selector := selector } }) :
    Ensures t.responder (authenticate address selector slot) c Q := by
  unfold authenticate
  have hrequire : authCode selector = .ok code := by simp [authCode, hcode]
  rw [hrequire, require_ok, pure_bind]
  refine ensures_modify_bind ?_
  refine Ensures.bind (R := fun x c' => match x with
      | .ok () => Q (.ok ()) { c' with state := { c'.state with authPending := false } }
      | .error e => Q (.error e) c') ?_ ?_ ?_
  · exact ensures_sendAuthenticate hcode ok error
  · intro _ c' h
    simpa [Ensures] using h
  · intro e c' h
    exact h

/-! ## Authenticating with the remembered key -/

/-- The reader has refused the remembered key, which was not yet loaded. -/
structure Refused (t : Transport ω) (address code : UInt8) (entry : KeyEntry) (c : Situation Link Coupler ω) : Prop where
  key : c.state.key = some entry
  selector : c.state.selector.code? = some code
  unloaded : c.state.keyLoaded = false
  refused : ∃ status, t.demand (.authenticating address code entry.slot) .authFailed c.world = .error (.authFailed status)

/-- The situation after the remembered key was tried and then loaded. -/
abbrev reloaded (t : Transport ω) (address code : UInt8) (entry : KeyEntry) (c : Situation Link Coupler ω) :
    Situation Link Coupler ω :=
  (c.exchanged t (.authenticating address code entry.slot)).exchanged t (.loading entry)

/-- All that authenticating with the remembered key can come to.  Without a key, or with a selector that is that of
none, nothing is sent.  A key that was refused, and was not yet loaded, is loaded and tried once more, unless its slot
does not exist. -/
inductive RenewalOutcome (t : Transport ω) (address : UInt8) (c : Situation Link Coupler ω) :
    Except Failure Unit → Situation Link Coupler ω → Prop where
  | keyless (hkey : c.state.key = none) :
      RenewalOutcome t address c (.error (.error (.keyNotConfigured c.state.selector))) c
  | codeless {entry : KeyEntry} (hkey : c.state.key = some entry) (hcode : c.state.selector.code? = none) :
      RenewalOutcome t address c (.error (.error (.notAuthenticating c.state.selector))) c
  | accepted {entry : KeyEntry} {code : UInt8} {data : Bytes} (hkey : c.state.key = some entry)
      (hcode : c.state.selector.code? = some code)
      (hauth : t.demand (.authenticating address code entry.slot) .authFailed c.world = .ok data) :
      RenewalOutcome t address c (.ok ()) { c.exchanged t (.authenticating address code entry.slot) with
        state := { c.state with authPending := false } }
  | denied {entry : KeyEntry} {code : UInt8} {e : CardError} (hkey : c.state.key = some entry)
      (hcode : c.state.selector.code? = some code)
      (he : t.demand (.authenticating address code entry.slot) .authFailed c.world = .error e)
      (hfinal : c.state.keyLoaded = true ∨ ∀ status, e ≠ .authFailed status) :
      RenewalOutcome t address c (.error (.error e)) (c.exchanged t (.authenticating address code entry.slot))
  | homeless {entry : KeyEntry} {code : UInt8} (h : Refused t address code entry c)
      (illegal : ¬ entry.store.HasSlot entry.slot) :
      RenewalOutcome t address c (.error (.error (.invalidKeySlot entry.slot)))
        (c.exchanged t (.authenticating address code entry.slot))
  | notLoaded {entry : KeyEntry} {code : UInt8} {e : CardError} (h : Refused t address code entry c)
      (legal : entry.store.HasSlot entry.slot)
      (he : t.demand (.loading entry) .loadKeyFailed (t.exchange (.authenticating address code entry.slot) c.world).2 =
        .error e) :
      RenewalOutcome t address c (.error (.error e)) (reloaded t address code entry c)
  | deniedAgain {entry : KeyEntry} {code : UInt8} {data : Bytes} {e : CardError} (h : Refused t address code entry c)
      (legal : entry.store.HasSlot entry.slot)
      (hload : t.demand (.loading entry) .loadKeyFailed
        (t.exchange (.authenticating address code entry.slot) c.world).2 = .ok data)
      (he : t.demand (.authenticating address code entry.slot) .authFailed
        (reloaded t address code entry c).world = .error e) :
      RenewalOutcome t address c (.error (.error e))
        { (reloaded t address code entry c).exchanged t (.authenticating address code entry.slot) with
          state := { c.state with keyLoaded := true } }
  | acceptedAgain {entry : KeyEntry} {code : UInt8} {data answer : Bytes} (h : Refused t address code entry c)
      (legal : entry.store.HasSlot entry.slot)
      (hload : t.demand (.loading entry) .loadKeyFailed
        (t.exchange (.authenticating address code entry.slot) c.world).2 = .ok data)
      (hauth : t.demand (.authenticating address code entry.slot) .authFailed
        (reloaded t address code entry c).world = .ok answer) :
      RenewalOutcome t address c (.ok ())
        { (reloaded t address code entry c).exchanged t (.authenticating address code entry.slot) with
          state := { c.state with keyLoaded := true, authPending := false } }

theorem ensures_loadAndRetry {address code : UInt8} {selector : KeySelector} {entry : KeyEntry}
    (hcode : selector.code? = some code)
    (illegal : ¬ entry.store.HasSlot entry.slot → Q (.error (.error (.invalidKeySlot entry.slot))) c)
    (notLoaded : entry.store.HasSlot entry.slot → ∀ e,
      t.demand (.loading entry) .loadKeyFailed c.world = .error e →
        Q (.error (.error e)) (c.exchanged t (.loading entry)))
    (ok : entry.store.HasSlot entry.slot → ∀ data answer,
      t.demand (.loading entry) .loadKeyFailed c.world = .ok data →
      t.demand (.authenticating address code entry.slot) .authFailed (c.exchanged t (.loading entry)).world = .ok answer →
        Q (.ok ()) { (c.exchanged t (.loading entry)).exchanged t (.authenticating address code entry.slot) with
          state := { c.state with keyLoaded := true } })
    (error : entry.store.HasSlot entry.slot → ∀ data e,
      t.demand (.loading entry) .loadKeyFailed c.world = .ok data →
      t.demand (.authenticating address code entry.slot) .authFailed (c.exchanged t (.loading entry)).world = .error e →
        Q (.error (.error e)) { (c.exchanged t (.loading entry)).exchanged t (.authenticating address code entry.slot) with
          state := { c.state with keyLoaded := true } }) :
    Ensures t.responder (loadAndRetry address selector entry) c Q := by
  unfold loadAndRetry
  refine Ensures.bind (R := fun x d => match x with
      | .ok () => entry.store.HasSlot entry.slot ∧ (∃ data, t.demand (.loading entry) .loadKeyFailed c.world = .ok data) ∧
          d = c.exchanged t (.loading entry)
      | .error e => Q (.error e) d) ?_ ?_ (fun _ _ h => h)
  · exact ensures_sendLoadKey illegal (fun legal data hload => ⟨legal, ⟨data, hload⟩, rfl⟩) notLoaded
  · rintro _ d ⟨legal, ⟨data, hload⟩, rfl⟩
    refine ensures_modify_bind ?_
    exact ensures_sendAuthenticate hcode (fun answer hauth => ok legal data answer hload hauth)
      (fun e he => error legal data e hload he)

theorem performAuth_outcome (t : Transport ω) (address : UInt8) (c : Situation Link Coupler ω) :
    Ensures t.responder (performAuth address) c (RenewalOutcome t address c) := by
  unfold performAuth
  refine ensures_get_bind ?_
  cases hkey : c.state.key with
  | none => exact ensures_throw (.keyless hkey)
  | some entry =>
    cases hcode : c.state.selector.code? with
    | none =>
      refine Ensures.attempt_bind (P := fun d => d = c)
        (ensures_sendAuthenticate_of_codeless hcode ⟨rfl, rfl⟩) ?_
      rintro d rfl
      exact ensures_throw (.codeless hkey hcode)
    | some code =>
      refine Ensures.bind_attempt (R := fun x d =>
        d = c.exchanged t (.authenticating address code entry.slot) ∧ match x with
          | .ok () => ∃ data, t.demand (.authenticating address code entry.slot) .authFailed c.world = .ok data
          | .error failure => ∃ e, failure = .error e ∧
              t.demand (.authenticating address code entry.slot) .authFailed c.world = .error e) ?_ ?_
      · exact ensures_sendAuthenticate hcode (fun data hauth => ⟨rfl, data, hauth⟩) (fun e he => ⟨rfl, e, rfl, he⟩)
      · rintro (failure | ⟨⟩) d ⟨rfl, hx⟩
        · -- The first attempt has failed; what it has failed with decides about loading the key.
          rcases hx with ⟨e, rfl, he⟩
          by_cases hrefused : ∃ status, e = .authFailed status
          · rcases hrefused with ⟨status, rfl⟩
            cases hloaded : c.state.keyLoaded with
            | true =>
              simp only [if_true]
              exact ensures_throw (.denied hkey hcode he (.inl hloaded))
            | false =>
              -- Only here the key is loaded: it was refused, and it does not count as loaded yet.
              have h : Refused t address code entry c := ⟨hkey, hcode, hloaded, status, he⟩
              simp only [Bool.false_eq_true, if_false]
              refine Ensures.bind (R := fun x d => match x with
                | .ok () => RenewalOutcome t address c (.ok ()) { d with state := { d.state with authPending := false } }
                | .error e => RenewalOutcome t address c (.error e) d) ?_ (fun _ d hd => ?_) (fun _ _ h => h)
              · exact ensures_loadAndRetry hcode (.homeless h) (fun legal _ => .notLoaded h legal)
                  (fun legal _ _ => .acceptedAgain h legal) (fun legal _ _ => .deniedAgain h legal)
              · simpa [Ensures] using hd
          · -- Any other failure is passed on as it is.
            have hfinal : ∀ status, e ≠ .authFailed status := fun status hstatus => hrefused ⟨status, hstatus⟩
            split
            · rename_i hok
              cases hok
            · rename_i status hstatus
              cases hstatus
              exact absurd rfl (hfinal status)
            · rename_i failure _ hfailure
              cases hfailure
              exact ensures_throw (.denied hkey hcode he (.inr hfinal))
        · rcases hx with ⟨data, hauth⟩
          simpa [Ensures] using RenewalOutcome.accepted hkey hcode hauth

/-- A key that is known to be in its slot is tried once. -/
theorem ensures_performAuth {address code : UInt8} {entry : KeyEntry}
    (hkey : c.state.key = some entry) (hloaded : c.state.keyLoaded = true)
    (hcode : c.state.selector.code? = some code)
    (ok : ∀ data, t.demand (.authenticating address code entry.slot) .authFailed c.world = .ok data →
      Q (.ok ()) { c.exchanged t (.authenticating address code entry.slot) with
        state := { c.state with authPending := false } })
    (error : ∀ e, t.demand (.authenticating address code entry.slot) .authFailed c.world = .error e →
      Q (.error (.error e)) (c.exchanged t (.authenticating address code entry.slot))) :
    Ensures t.responder (performAuth address) c Q := by
  refine (performAuth_outcome t address c).mono ?_
  intro x d h
  -- Four of the outcomes begin with a key that is refused before it was loaded.
  have hunloaded : ∀ {code entry}, ¬ Refused t address code entry c := by
    intro code entry h
    rw [h.unloaded] at hloaded
    cases hloaded
  cases h with
  | keyless hkey' =>
    rw [hkey] at hkey'
    cases hkey'
  | codeless _ hcode' =>
    rw [hcode] at hcode'
    cases hcode'
  | accepted hkey' hcode' hauth =>
    cases hkey.symm.trans hkey'
    cases hcode.symm.trans hcode'
    exact ok _ hauth
  | denied hkey' hcode' he _ =>
    cases hkey.symm.trans hkey'
    cases hcode.symm.trans hcode'
    exact error _ he
  | homeless h _ => exact (hunloaded h).elim
  | notLoaded h _ _ => exact (hunloaded h).elim
  | deniedAgain h _ _ _ => exact (hunloaded h).elim
  | acceptedAgain h _ _ _ => exact (hunloaded h).elim

theorem ensures_authenticateIfPending {address : UInt8} (idle : c.state.authPending = false → Q (.ok ()) c)
    (pending : c.state.authPending = true → Ensures t.responder (performAuth address) c Q) :
    Ensures t.responder (authenticateIfPending address) c Q := by
  unfold authenticateIfPending
  refine ensures_get_bind ?_
  cases hp : c.state.authPending with
  | true => exact pending hp
  | false => exact ensures_pure (idle hp)

end Rules

/-! ## Reaching a page -/

/-- How a coupler comes to send the command of an access: nothing was pending, or the remembered key was
accepted again. -/
inductive Reached (t : Transport ω) (address code slot : UInt8) (c : Situation Link Coupler ω) :
    Situation Link Coupler ω → Prop where
  | idle (hidle : c.state.authPending = false) : Reached t address code slot c c
  | renewed (hpending : c.state.authPending = true) {data : Bytes}
      (hauth : t.demand (.authenticating address code slot) .authFailed c.world = .ok data) :
      Reached t address code slot c { c.exchanged t (.authenticating address code slot) with
        state := { c.state with authPending := false } }

/-- A coupler whose key is loaded either loses the pending authentication or sends the command. -/
theorem ensures_access {Q : Except Failure Bytes → Situation Link Coupler ω → Prop} {address code : UInt8}
    {command : Command} {other : StatusWord → CardError} {entry : KeyEntry}
    (hkey : c.state.key = some entry) (hloaded : c.state.keyLoaded = true)
    (hcode : c.state.selector.code? = some code)
    (lost : c.state.authPending = true → ∀ e,
      t.demand (.authenticating address code entry.slot) .authFailed c.world = .error e →
        Q (.error (.error e)) (c.exchanged t (.authenticating address code entry.slot)))
    (reached : ∀ c', Reached t address code entry.slot c c' →
      Ensures t.responder (transfer command other) c' Q) :
    Ensures t.responder (access address command other) c Q := by
  refine Ensures.bind (R := fun x c' => match x with
    | .ok () => Reached t address code entry.slot c c'
    | .error e => Q (.error e) c') ?_ (fun _ c' hc' => reached c' hc') (fun _ _ h => h)
  refine ensures_authenticateIfPending (fun hidle => .idle hidle) (fun hpending => ?_)
  refine ensures_performAuth hkey hloaded hcode ?_ ?_
  · intro data hauth
    exact .renewed hpending hauth
  · intro e he
    exact lost hpending e he

theorem ensures_access_of_idle {Q : Except Failure Bytes → Situation Link Coupler ω → Prop} {address : UInt8}
    {command : Command} {other : StatusWord → CardError} (hidle : c.state.authPending = false)
    (h : Ensures t.responder (transfer command other) c Q) :
    Ensures t.responder (access address command other) c Q := by
  refine Ensures.bind_of_ok (a := ()) (P := fun d => d = c) ?_ (fun d hd => by rw [hd]; exact h)
  refine ensures_authenticateIfPending (fun _ => ⟨rfl, rfl⟩) (fun hpending => ?_)
  rw [hidle] at hpending
  cases hpending

/-! ## Whatever is remembered -/

/-- A statement that survives loading keys and authenticating, whatever becomes of them, and does not depend on
what the coupler remembers. -/
structure Withstands (t : Transport ω) (J : Situation Link Coupler ω → Prop) : Prop where
  loading : ∀ c entry, J c → J (c.exchanged t (.loading entry))
  authenticating : ∀ c address code slot, J c → J (c.exchanged t (.authenticating address code slot))
  state : ∀ c coupler, J c → J { c with state := coupler }

/-- A statement that survives as much as a coupler does to reach one page: it loads keys only into slots that
exist, and authenticates that page only under the code of a key. -/
structure WithstandsAt (t : Transport ω) (address : UInt8) (J : Situation Link Coupler ω → Prop) : Prop where
  loading : ∀ c entry, entry.store.HasSlot entry.slot → J c → J (c.exchanged t (.loading entry))
  authenticating : ∀ c (selector : KeySelector) (code slot : UInt8), selector.code? = some code → J c →
    J (c.exchanged t (.authenticating address code slot))
  state : ∀ c coupler, J c → J { c with state := coupler }

section Withstands

variable {J : Situation Link Coupler ω → Prop} {address : UInt8}

theorem Withstands.at (h : Withstands t J) (address : UInt8) : WithstandsAt t address J where
  loading c entry _ hc := h.loading c entry hc
  authenticating c _ code slot _ hc := h.authenticating c address code slot hc
  state := h.state

theorem ensures_performAuth_of_withstands (h : WithstandsAt t address J) (hc : J c) :
    Ensures t.responder (performAuth address) c fun x d => J d ∧ NoDefect x := by
  refine (performAuth_outcome t address c).mono ?_
  intro x d hd
  -- What the outcomes have in common: a first attempt and, in the last four, a key loaded after it.
  have htried : ∀ {code entry}, c.state.selector.code? = some code →
      J (c.exchanged t (.authenticating address code entry)) := fun hcode => h.authenticating c _ _ _ hcode hc
  have hretried : ∀ {code entry}, Refused t address code entry c → entry.store.HasSlot entry.slot →
      J ((c.exchanged t (.authenticating address code entry.slot)).exchanged t (.loading entry)) :=
    fun hrefused legal => h.loading _ _ legal (htried hrefused.selector)
  cases hd with
  | keyless _ => exact ⟨hc, trivial⟩
  | codeless _ _ => exact ⟨hc, trivial⟩
  | accepted _ hcode _ => exact ⟨h.state _ _ (htried hcode), trivial⟩
  | denied _ hcode _ _ => exact ⟨htried hcode, trivial⟩
  | homeless hrefused _ => exact ⟨htried hrefused.selector, trivial⟩
  | notLoaded hrefused legal _ => exact ⟨hretried hrefused legal, trivial⟩
  | deniedAgain hrefused legal _ _ =>
    exact ⟨h.state _ _ (h.authenticating _ _ _ _ hrefused.selector (hretried hrefused legal)), trivial⟩
  | acceptedAgain hrefused legal _ _ =>
    exact ⟨h.state _ _ (h.authenticating _ _ _ _ hrefused.selector (hretried hrefused legal)), trivial⟩

/-- A coupler that reaches for a page comes to send the command, or stops before, and what withstands
authentication still holds. -/
theorem ensures_access_of_withstandsAt (h : WithstandsAt t address J) (hc : J c) {command : Command}
    {other : StatusWord → CardError} {Q : Except Failure Bytes → Situation Link Coupler ω → Prop}
    (lost : ∀ e d, J d → Q (.error (.error e)) d)
    (reached : ∀ d, J d → Ensures t.responder (transfer command other) d Q) :
    Ensures t.responder (access address command other) c Q := by
  refine Ensures.bind (R := fun (x : Except Failure Unit) d => J d ∧ NoDefect x) ?_ (fun _ d hd => reached d hd.1) ?_
  · refine ensures_authenticateIfPending (fun _ => ⟨hc, trivial⟩) (fun _ => ?_)
    exact ensures_performAuth_of_withstands h hc
  · rintro e d ⟨hd, hplain⟩
    cases e with
    | error e => exact lost e d hd
    | defect _ => exact hplain.elim

theorem ensures_access_of_withstands (h : Withstands t J) (hc : J c) {command : Command}
    {other : StatusWord → CardError} {Q : Except Failure Bytes → Situation Link Coupler ω → Prop}
    (lost : ∀ e d, J d → Q (.error (.error e)) d)
    (reached : ∀ d, J d → Ensures t.responder (transfer command other) d Q) :
    Ensures t.responder (access address command other) c Q :=
  ensures_access_of_withstandsAt (h.at address) hc lost reached

end Withstands

end Coupler
end SectorCard
