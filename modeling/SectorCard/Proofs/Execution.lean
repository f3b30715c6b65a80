import SectorCard.Dialogue.Refusal

/-!
# Executions

Running a procedure leads from one *situation* to the next: a situation is the state, the world and
everything that was said so far.  This module gives one equation per building block of procedures, and a
judgement `Ensures` with its rules, so that statements about a procedure are put together from statements
about its parts.

Nothing here depends on what is asked; the responder is arbitrary.
-/

namespace SectorCard

/-- The state of a procedure, the world of its responder, and all requests so far with their replies. -/
structure Situation (S : Signature) (σ ω : Type) where
  state : σ
  world : ω
  history : List (Event S)

/-! ## Two responders -/

namespace Dialogue

variable {S : Signature} {ω υ α : Type} {r : Responder S ω} {r' : Responder S υ} {view : ω → υ}

/-- Along the run of a dialogue, a responder replies as another one does, whose world is a view of its own. -/
def Follows (r : Responder S ω) (r' : Responder S υ) (view : ω → υ) : Dialogue S α → ω → Prop
  | .done _, _ => True
  | .ask q next, w =>
    (r.answer q w).1 = (r'.answer q (view w)).1 ∧ view (r.answer q w).2 = (r'.answer q (view w)).2 ∧
      (next (r.answer q w).1).Follows r r' view (r.answer q w).2

theorem Follows.run {d : Dialogue S α} {w : ω} (h : d.Follows r r' view w) :
    (Dialogue.run r d w).value = (Dialogue.run r' d (view w)).value ∧
      view (Dialogue.run r d w).world = (Dialogue.run r' d (view w)).world := by
  induction d generalizing w with
  | done a => exact ⟨rfl, rfl⟩
  | ask q next ih =>
    rcases h with ⟨hreply, hview, hrest⟩
    have hnext := ih _ hrest
    simp only [run_ask]
    rw [hview] at hnext
    rw [← hreply]
    exact hnext

/-- A responder that replies as another one does to requests of a certain kind follows it along a run that makes no
others. -/
theorem follows_of_events {H : S.Request → Prop}
    (hreplies : ∀ q w, H q → (r.answer q w).1 = (r'.answer q (view w)).1 ∧ view (r.answer q w).2 = (r'.answer q (view w)).2)
    {d : Dialogue S α} {w : ω} (hasked : ∀ event ∈ (Dialogue.run r d w).events, H event.request) :
    d.Follows r r' view w := by
  induction d generalizing w with
  | done a => trivial
  | ask q next ih =>
    rcases List.forall_mem_cons.1 hasked with ⟨hfirst, hrest⟩
    rcases hreplies q w hfirst with ⟨hreply, hview⟩
    exact ⟨hreply, hview, ih _ hrest⟩

/-- A responder gives the replies that were given before, if the same is asked. -/
def Replays (r : Responder S ω) : List (Event S) → ω → Prop
  | [], _ => True
  | event :: rest, w => (r.answer event.request w).1 = event.reply ∧ Replays r rest (r.answer event.request w).2

theorem replays_run (r : Responder S ω) (d : Dialogue S α) (w : ω) : Replays r (run r d w).events w := by
  induction d generalizing w with
  | done a => trivial
  | ask q next ih => exact ⟨rfl, ih _ _⟩

/-- What is replied decides what is asked next, and the value in the end. -/
theorem Replays.run {d : Dialogue S α} {w : ω} {w' : υ} (h : Replays r' (Dialogue.run r d w).events w') :
    (Dialogue.run r' d w').value = (Dialogue.run r d w).value ∧
      (Dialogue.run r' d w').events = (Dialogue.run r d w).events := by
  induction d generalizing w w' with
  | done a => exact ⟨rfl, rfl⟩
  | ask q next ih =>
    rw [run_ask] at h
    rcases h with ⟨hreply, hrest⟩
    simp only at hreply hrest
    simp only [run_ask]
    rw [hreply]
    rcases ih _ hrest with ⟨hvalue, hevents⟩
    exact ⟨hvalue, by rw [hevents]⟩

end Dialogue

namespace Procedure

variable {S : Signature} {σ τ ω ε α β : Type} {r : Responder S ω}

/-- The result of a procedure and the situation it ends in. -/
def exec (r : Responder S ω) (p : Procedure S σ ε α) (c : Situation S σ ω) :
    Except ε α × Situation S σ ω :=
  let o := Dialogue.run r (p c.state) c.world
  (o.value.1, ⟨o.value.2, o.world, c.history ++ o.events⟩)

/-! ## What the building blocks do -/

@[simp] theorem exec_pure (a : α) (c : Situation S σ ω) :
    exec r (pure a : Procedure S σ ε α) c = (.ok a, c) := by
  simp [exec]

@[simp] theorem exec_throw (e : ε) (c : Situation S σ ω) :
    exec r (throw e : Procedure S σ ε α) c = (.error e, c) := by
  simp [exec]

@[simp] theorem exec_get (c : Situation S σ ω) :
    exec r (get : Procedure S σ ε σ) c = (.ok c.state, c) := by
  simp [exec]

@[simp] theorem exec_modify (f : σ → σ) (c : Situation S σ ω) :
    exec r (modify f : Procedure S σ ε PUnit) c = (.ok (), { c with state := f c.state }) := by
  simp [exec]

theorem exec_ask (q : S.Request) (c : Situation S σ ω) :
    exec r (ask q : Procedure S σ ε (S.Reply q)) c =
      (.ok (r.answer q c.world).1,
        ⟨c.state, (r.answer q c.world).2, c.history ++ [⟨q, (r.answer q c.world).1⟩]⟩) := by
  simp [exec, Dialogue.run_ask]

theorem exec_bind (p : Procedure S σ ε α) (f : α → Procedure S σ ε β) (c : Situation S σ ω) :
    exec r (p >>= f) c =
      match exec r p c with
      | (.ok a, c') => exec r (f a) c'
      | (.error e, c') => (.error e, c') := by
  simp only [exec, bind_apply, Dialogue.run_bind]
  rcases (Dialogue.run r (p c.state) c.world).value with ⟨_ | _, _⟩ <;> simp

theorem exec_map (f : α → β) (p : Procedure S σ ε α) (c : Situation S σ ω) :
    exec r (f <$> p) c = ((exec r p c).1.map f, (exec r p c).2) := by
  rw [← bind_pure_comp, exec_bind]
  rcases exec r p c with ⟨_ | _, _⟩ <;> simp [Except.map]

@[simp] theorem exec_attempt (p : Procedure S σ ε α) (c : Situation S σ ω) :
    exec r (attempt p) c = (.ok (exec r p c).1, (exec r p c).2) := by
  simp [exec, attempt_apply, Dialogue.run_bind]

theorem exec_focus (view : τ → σ) (update : σ → τ → τ) (p : Procedure S σ ε α) (c : Situation S τ ω) :
    exec r (focus view update p) c =
      let (x, c') := exec r p ⟨view c.state, c.world, c.history⟩
      (x, ⟨update c'.state c.state, c'.world, c'.history⟩) := by
  simp [exec, focus_apply, Dialogue.run_bind]

@[simp] theorem exec_ofExcept (x : Except ε α) (c : Situation S σ ω) :
    exec r (ofExcept x : Procedure S σ ε α) c = (x, c) := by
  cases x <;> simp

@[simp] theorem exec_require (check : Except CardError α) (c : Situation S σ ω) :
    exec r (require check : Procedure S σ Failure α) c = (Failure.lift check, c) := by
  simp [require]

theorem exec_of_follows {υ : Type} {r' : Responder S υ} {view : ω → υ} {p : Procedure S σ ε α} {c : Situation S σ ω}
    (h : (p c.state).Follows r r' view c.world) :
    (exec r p c).1 = (exec r' p ⟨c.state, view c.world, c.history⟩).1 ∧
      view (exec r p c).2.world = (exec r' p ⟨c.state, view c.world, c.history⟩).2.world := by
  rcases h.run with ⟨hvalue, hworld⟩
  exact ⟨congrArg Prod.fst hvalue, hworld⟩

theorem replays_exec {p : Procedure S σ ε α} {c : Situation S σ ω} {said : List (Event S)}
    (hsaid : (exec r p c).2.history = c.history ++ said) : Dialogue.Replays r said c.world := by
  have hevents : (Dialogue.run r (p c.state) c.world).events = said := List.append_cancel_left hsaid
  exact hevents ▸ Dialogue.replays_run r (p c.state) c.world

/-- Where the same is replied, a procedure comes to the same and says the same. -/
theorem exec_of_replays {υ : Type} {r' : Responder S υ} {p : Procedure S σ ε α} {c : Situation S σ ω}
    {c' : Situation S σ υ} {said : List (Event S)} (hstate : c'.state = c.state)
    (hsaid : (exec r p c).2.history = c.history ++ said) (h : Dialogue.Replays r' said c'.world) :
    (exec r' p c').1 = (exec r p c).1 ∧ (exec r' p c').2.state = (exec r p c).2.state ∧
      (exec r' p c').2.history = c'.history ++ said := by
  have hevents : (Dialogue.run r (p c.state) c.world).events = said := List.append_cancel_left hsaid
  subst hevents
  rcases c' with ⟨state, world, history⟩
  cases hstate
  rcases h.run with ⟨hvalue, hsame⟩
  exact ⟨congrArg Prod.fst hvalue, congrArg Prod.snd hvalue, congrArg (history ++ ·) hsame⟩

/-! ## Statements about executions -/

/-- The result of a procedure and the situation it ends in satisfy `Q`. -/
def Ensures (r : Responder S ω) (p : Procedure S σ ε α) (c : Situation S σ ω)
    (Q : Except ε α → Situation S σ ω → Prop) : Prop :=
  Q (exec r p c).1 (exec r p c).2

/-- A procedure did not stop because of a broken rule of the library. -/
def NoDefect {α : Type} : Except Failure α → Prop
  | .error (.defect _) => False
  | _ => True

section Rules

variable {p : Procedure S σ ε α} {f : α → Procedure S σ ε β} {c : Situation S σ ω}
  {Q R : Except ε α → Situation S σ ω → Prop} {T : Except ε β → Situation S σ ω → Prop}

theorem Ensures.mono (h : Ensures r p c R) (weaker : ∀ x c', R x c' → Q x c') : Ensures r p c Q :=
  weaker _ _ h

theorem Ensures.and (h : Ensures r p c Q) (h' : Ensures r p c R) :
    Ensures r p c fun x c' => Q x c' ∧ R x c' :=
  ⟨h, h'⟩

theorem ensures_of_exec {x : Except ε α} {d : Situation S σ ω} (h : exec r p c = (x, d)) :
    Ensures r p c fun y c' => y = x ∧ c' = d := by
  rw [Ensures, h]
  exact ⟨rfl, rfl⟩

theorem ensures_pure {a : α} (h : Q (.ok a) c) : Ensures r (pure a) c Q := by
  simpa only [Ensures, exec_pure] using h

theorem ensures_throw {e : ε} (h : Q (.error e) c) : Ensures r (throw e) c Q := by
  simpa only [Ensures, exec_throw] using h

/-- A composed procedure ensures what its second part ensures after its first, or what the first part leaves
behind when it fails. -/
theorem Ensures.bind (h : Ensures r p c R) (ok : ∀ a c', R (.ok a) c' → Ensures r (f a) c' T)
    (error : ∀ e c', R (.error e) c' → T (.error e) c') : Ensures r (p >>= f) c T := by
  unfold Ensures at h ⊢
  rw [exec_bind]
  rcases hp : exec r p c with ⟨_ | a, c'⟩ <;> rw [hp] at h
  · exact error _ _ h
  · exact ok a c' h

theorem Ensures.bind_of_ok {a : α} {P : Situation S σ ω → Prop} (h : Ensures r p c fun x c' => x = .ok a ∧ P c')
    (hf : ∀ c', P c' → Ensures r (f a) c' T) : Ensures r (p >>= f) c T := by
  refine h.bind ?_ ?_
  · rintro b c' ⟨hb, hc'⟩
    cases hb
    exact hf c' hc'
  · rintro e c' ⟨he, -⟩
    cases he

theorem Ensures.bind_of_exists {P : α → Situation S σ ω → Prop}
    (h : Ensures r p c fun x c' => ∃ a, x = .ok a ∧ P a c') (hf : ∀ a c', P a c' → Ensures r (f a) c' T) :
    Ensures r (p >>= f) c T := by
  refine h.bind ?_ ?_
  · rintro b c' ⟨a, hb, hc'⟩
    cases hb
    exact hf b c' hc'
  · rintro e c' ⟨a, he, -⟩
    cases he

theorem Ensures.bind_of_error {e : ε} {P : Situation S σ ω → Prop}
    (h : Ensures r p c fun x c' => x = .error e ∧ P c') (he : ∀ c', P c' → T (.error e) c') :
    Ensures r (p >>= f) c T := by
  refine h.bind ?_ ?_
  · rintro b c' ⟨hb, -⟩
    cases hb
  · rintro d c' ⟨hd, hc'⟩
    cases hd
    exact he c' hc'

theorem Ensures.map {g : α → β} (h : Ensures r p c fun x c' => T (x.map g) c') :
    Ensures r (g <$> p) c T := by
  unfold Ensures at h ⊢
  simpa only [exec_map] using h

theorem Ensures.attempt {P : Except ε (Except ε α) → Situation S σ ω → Prop}
    (h : Ensures r p c fun x c' => P (.ok x) c') : Ensures r (Procedure.attempt p) c P := by
  unfold Ensures at h ⊢
  simpa only [exec_attempt] using h

/-- An attempt does not fail: what comes after it starts from whatever the procedure came to. -/
theorem Ensures.bind_attempt {g : Except ε α → Procedure S σ ε β} (h : Ensures r p c R)
    (hg : ∀ x c', R x c' → Ensures r (g x) c' T) : Ensures r (Procedure.attempt p >>= g) c T := by
  unfold Ensures
  rw [exec_bind, exec_attempt]
  exact hg _ _ h

theorem Ensures.attempt_bind {x : Except ε α} {g : Except ε α → Procedure S σ ε β} {P : Situation S σ ω → Prop}
    (h : Ensures r p c fun y c' => y = x ∧ P c') (hg : ∀ c', P c' → Ensures r (g x) c' T) :
    Ensures r (Procedure.attempt p >>= g) c T := by
  refine h.bind_attempt ?_
  rintro y c' ⟨rfl, hc'⟩
  exact hg c' hc'

theorem ensures_modify_bind {g : σ → σ} {q : PUnit → Procedure S σ ε β}
    (h : Ensures r (q ()) { c with state := g c.state } T) : Ensures r (modify g >>= q) c T := by
  unfold Ensures at h ⊢
  simpa only [exec_bind, exec_modify] using h

theorem ensures_get_bind {q : σ → Procedure S σ ε β} (h : Ensures r (q c.state) c T) :
    Ensures r (get >>= q) c T := by
  unfold Ensures at h ⊢
  simpa only [exec_bind, exec_get] using h

theorem ensures_ofExcept_bind {x : Except ε α} (ok : ∀ a, x = .ok a → Ensures r (f a) c T)
    (error : ∀ e, x = .error e → T (.error e) c) : Ensures r (ofExcept x >>= f) c T := by
  unfold Ensures
  rw [exec_bind, exec_ofExcept]
  cases x with
  | ok a => exact ok a rfl
  | error e => exact error e rfl

theorem ensures_require_bind {x : Except CardError α} {f : α → Procedure S σ Failure β}
    {T : Except Failure β → Situation S σ ω → Prop} (ok : ∀ a, x = .ok a → Ensures r (f a) c T)
    (error : ∀ e, x = .error e → T (.error (.error e)) c) : Ensures r (require x >>= f) c T := by
  cases x with
  | ok a => exact ensures_ofExcept_bind (fun b hb => ok b (by cases hb; rfl)) (fun _ h => nomatch h)
  | error d => exact ensures_ofExcept_bind (fun _ h => nomatch h) (fun e he => by cases he; exact error d rfl)

end Rules

/-! ## Statements that are kept -/

section Keeps

variable {I : Situation S σ ω → Prop}

def Keeps (r : Responder S ω) (I : Situation S σ ω → Prop) (p : Procedure S σ ε α) : Prop :=
  ∀ c, I c → Ensures r p c fun _ c' => I c'

theorem keeps_pure (a : α) : Keeps r I (pure a : Procedure S σ ε α) := by
  intro c hc
  exact ensures_pure hc

theorem keeps_throw (e : ε) : Keeps r I (throw e : Procedure S σ ε α) := by
  intro c hc
  exact ensures_throw hc

theorem keeps_get : Keeps r I (get : Procedure S σ ε σ) := by
  intro c hc
  simpa [Ensures] using hc

theorem keeps_require (x : Except CardError α) : Keeps r I (require x : Procedure S σ Failure α) := by
  intro c hc
  simpa [Ensures] using hc

theorem Keeps.bind {p : Procedure S σ ε α} {f : α → Procedure S σ ε β} (h : Keeps r I p)
    (h' : ∀ a, Keeps r I (f a)) : Keeps r I (p >>= f) := by
  intro c hc
  exact (h c hc).bind (fun a c' hc' => h' a c' hc') (fun _ _ hc' => hc')

theorem Keeps.map {p : Procedure S σ ε α} (h : Keeps r I p) (f : α → β) : Keeps r I (f <$> p) := by
  intro c hc
  exact Ensures.map (h c hc)

theorem Keeps.attempt {p : Procedure S σ ε α} (h : Keeps r I p) : Keeps r I (Procedure.attempt p) := by
  intro c hc
  exact Ensures.attempt (h c hc)

theorem keeps_ofExcept_bind {x : Except ε α} {f : α → Procedure S σ ε β}
    (h : ∀ a, x = .ok a → Keeps r I (f a)) : Keeps r I (Procedure.ofExcept x >>= f) := by
  intro c hc
  exact ensures_ofExcept_bind (fun a ha => h a ha c hc) (fun _ _ => hc)

theorem keeps_modify {f : σ → σ} (h : ∀ c, I c → I { c with state := f c.state }) :
    Keeps r I (modify f : Procedure S σ ε PUnit) := by
  intro c hc
  simpa [Ensures] using h c hc

end Keeps

end Procedure
end SectorCard
