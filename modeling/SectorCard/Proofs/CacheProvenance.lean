import SectorCard.Proofs.CachedKeys

/-!
# Where recorded authentications come from

A run is written down as a list of steps, and walking through them leads where the run leads (`exists_taken`).  Two kinds
of steps touch what the cache says of a sector: authorizing the sector records what was done if the key was accepted, and
forgetting it drops the record.  So whatever steps a run consists of, a record was made by one of them, which opened the
sector with the key configured at that time, and the sector was not forgotten since (`opened_of_recorded`).
-/

namespace SectorCard.Card

open Procedure

variable {ω : Type} {t : Transport ω} {c : Situation Link Card ω}

/-! ## Steps -/

/-- What runs are made of. -/
inductive Step where
  | authorize (sector : UInt8) (selector : KeySelector)
  | access (address : UInt8) (command : Command) (other : StatusWord → CardError)
  | forget (sector : UInt8)
  | setKey (selector : KeySelector) (key : Key) (store : KeyStore) (slot : UInt8)
  | setPolicy (sector : UInt8) (policy : AccessPolicy)

namespace Step

def procedure : Step → CardM Unit
  | .authorize sector selector => Card.authorize sector selector
  | .access address command other => (fun _ => ()) <$> onCoupler (Coupler.access address command other)
  | .forget sector => modify (invalidate sector)
  | .setKey selector key store slot => Procedure.change (Card.setKey selector key store slot)
  | .setPolicy sector policy => Procedure.change (Card.setPolicy sector policy)

/-- The situation that a step leads to, whether it succeeds or not. -/
def take (t : Transport ω) (step : Step) (c : Situation Link Card ω) : Situation Link Card ω :=
  (exec t.responder step.procedure c).2

/-- The sector whose record a step may change. -/
def sector? : Step → Option UInt8
  | .authorize sector _ | .forget sector => some sector
  | .access _ _ _ | .setKey _ _ _ _ | .setPolicy _ _ => none

theorem take_access (address : UInt8) (command : Command) (other : StatusWord → CardError) (c : Situation Link Card ω) :
    (access address command other).take t c =
      c.resume (exec t.responder (Coupler.access address command other) c.below).2 := by
  simp only [take, procedure, onCoupler, exec_map, exec_focus]
  rfl

theorem take_forget (sector : UInt8) (c : Situation Link Card ω) :
    (forget sector).take t c = { c with state := invalidate sector c.state } := by
  simp only [take, procedure, exec_modify]

theorem take_of_change {step : Step} {f : Card → Except CardError Card} {card : Card}
    (hstep : step.procedure = Procedure.change f) (hset : f c.state = .ok card) :
    step.take t c = { c with state := card } := by
  simp only [take, hstep, exec, Procedure.change_of_ok hset]
  simp

end Step

/-- Takes steps one after the other. -/
def walk (t : Transport ω) (steps : List Step) (c : Situation Link Card ω) : Situation Link Card ω :=
  steps.foldl (fun c step => step.take t c) c

theorem walk_cons (t : Transport ω) (step : Step) (rest : List Step) (c : Situation Link Card ω) :
    walk t (step :: rest) c = walk t rest (step.take t c) := rfl

theorem walk_append (t : Transport ω) (steps rest : List Step) (c : Situation Link Card ω) :
    walk t (steps ++ rest) c = walk t rest (walk t steps c) :=
  List.foldl_append

/-! ## The steps of a run -/

/-- The steps that an operation may take on a card. -/
inductive Operation.Takes (card : Card) : Operation → Step → Prop where
  | authorize {op : Operation} {sector : UInt8} (haddresses : op.Addresses sector) (selector : KeySelector) :
      Takes card op (.authorize sector selector)
  | access {op : Operation} {sector address : UInt8} {selector : KeySelector} {command : Command}
      (haccesses : op.Accesses card sector selector address command) (other : StatusWord → CardError) :
      Takes card op (.access address command other)
  | forget {op : Operation} {sector : UInt8} (haddresses : op.Addresses sector) : Takes card op (.forget sector)
  | setKey (selector : KeySelector) (key : Key) (store : KeyStore) (slot : UInt8) :
      Takes card (.setKey selector key store slot) (.setKey selector key store slot)
  | setPolicy (sector : UInt8) (policy : AccessPolicy) : Takes card (.setPolicy sector policy) (.setPolicy sector policy)

theorem Operation.Takes.addresses {card : Card} {op : Operation} {step : Step} (h : op.Takes card step) {sector : UInt8}
    (hsector : step.sector? = some sector) : op.Addresses sector := by
  cases h with
  | authorize haddresses => cases hsector; exact haddresses
  | forget haddresses => cases hsector; exact haddresses
  | access => cases hsector
  | setKey => cases hsector
  | setPolicy => cases hsector

/-- A situation is reached by steps that an operation may take. -/
structure LeadTo (t : Transport ω) (op : Operation) (c : Situation Link Card ω) (steps : List Step)
    (c' : Situation Link Card ω) : Prop where
  reached : c' = walk t steps c
  takes : ∀ step ∈ steps, op.Takes c.state step

theorem leadTo_nil (t : Transport ω) (op : Operation) (c : Situation Link Card ω) : LeadTo t op c [] c where
  reached := rfl
  takes := by simp

theorem LeadTo.snoc {op : Operation} {steps : List Step} {step : Step} {c' : Situation Link Card ω}
    (h : LeadTo t op c steps c') (hstep : op.Takes c.state step) :
    LeadTo t op c (steps ++ [step]) (step.take t c') where
  reached := by
    rw [walk_append, ← h.reached]
    rfl
  takes other hother := by
    rcases List.mem_append.1 hother with hold | hnew
    · exact h.takes other hold
    · rw [List.mem_singleton.1 hnew]
      exact hstep

/-- The steps of a run are those of its operations.  Lists that differ in steps without effect can lead to the same
situation, so statements about the steps of a run are made of every such list. -/
inductive Taken (t : Transport ω) : List Operation → Situation Link Card ω → List Step → Prop where
  | nil (c : Situation Link Card ω) : Taken t [] c []
  | cons {op : Operation} {ops : List Operation} {c : Situation Link Card ω} {steps rest : List Step}
      (hlead : LeadTo t op c steps (exec t.responder (perform op) c).2)
      (htaken : Taken t ops (exec t.responder (perform op) c).2 rest) : Taken t (op :: ops) c (steps ++ rest)

theorem stepsKeep_leadTo (t : Transport ω) (op : Operation) (c : Situation Link Card ω) :
    StepsKeepIn t op.Addresses (fun c' => ∃ steps, LeadTo t op c steps c') (op.Accesses c.state) where
  authorize := by
    rintro sector selector haddresses c' ⟨steps, hlead⟩
    exact ⟨_, hlead.snoc (.authorize haddresses selector)⟩
  access := by
    rintro c' sector selector address command other ⟨steps, hlead⟩ - haccesses
    have hnext := hlead.snoc (.access haccesses other)
    rw [Step.take_access] at hnext
    exact ⟨_, hnext⟩
  forget := by
    rintro c' sector haddresses ⟨steps, hlead⟩
    have hnext := hlead.snoc (.forget haddresses)
    rw [Step.take_forget] at hnext
    exact ⟨_, hnext⟩

/-- Every operation is made of steps that it may take. -/
theorem exists_leadTo (t : Transport ω) (op : Operation) (c : Situation Link Card ω) :
    ∃ steps, LeadTo t op c steps (exec t.responder (perform op) c).2 := by
  refine (stepsKeep_leadTo t op c).perform (fun _ haddresses => haddresses) ⟨_, leadTo_nil t op c⟩ ?_ ?_
  · rintro selector key store slot card rfl hset
    have hnext := (leadTo_nil t _ c).snoc (.setKey selector key store slot)
    rw [Step.take_of_change rfl hset] at hnext
    exact ⟨_, hnext⟩
  · rintro sector policy card rfl hset
    have hnext := (leadTo_nil t _ c).snoc (.setPolicy sector policy)
    rw [Step.take_of_change rfl hset] at hnext
    exact ⟨_, hnext⟩

/-- The operation that forgets a sector is the step that does. -/
theorem leadTo_invalidate (t : Transport ω) (sector : UInt8) (c : Situation Link Card ω) :
    LeadTo t (.invalidate sector) c [.forget sector] (exec t.responder (perform (.invalidate sector)) c).2 where
  reached := by
    show _ = (Step.forget sector).take t c
    rw [Step.take_forget]
    simp only [perform, exec_bind, exec_modify, exec_pure]
  takes step hstep := by
    rw [List.mem_singleton.1 hstep]
    exact .forget rfl

theorem exists_taken (t : Transport ω) (ops : List Operation) (c : Situation Link Card ω) :
    ∃ steps, Taken t ops c steps := by
  induction ops generalizing c with
  | nil => exact ⟨[], .nil c⟩
  | cons op ops ih =>
    rcases exists_leadTo t op c with ⟨steps, hlead⟩
    rcases ih (exec t.responder (perform op) c).2 with ⟨rest, htaken⟩
    exact ⟨steps ++ rest, .cons hlead htaken⟩

theorem Taken.after_eq {ops : List Operation} {steps : List Step} (h : Taken t ops c steps) :
    after t ops c = walk t steps c := by
  induction h with
  | nil c => exact after_nil t c
  | cons hlead _ ih => rw [after_cons, ih, walk_append, ← hlead.reached]

/-! ## What steps leave alone -/

theorem history_take (t : Transport ω) (step : Step) (c : Situation Link Card ω) : c.history <+: (step.take t c).history :=
  List.prefix_append _ _

theorem history_walk (t : Transport ω) (steps : List Step) (c : Situation Link Card ω) :
    c.history <+: (walk t steps c).history := by
  induction steps generalizing c with
  | nil => exact List.prefix_rfl
  | cons step rest ih => exact (history_take t step c).trans (ih _)

theorem setup_take_setKey (selector : KeySelector) (key : Key) (store : KeyStore) (slot : UInt8) :
    let c' := (Step.setKey selector key store slot).take t c
    c'.state.geometry = c.state.geometry ∧ c'.state.cache = c.state.cache :=
  ensures_change (Q := fun _ c' => c'.state.geometry = c.state.geometry ∧ c'.state.cache = c.state.cache)
    (fun _ hset => ⟨(setup_setKey hset).1, (setup_setKey hset).2.2⟩) (fun _ _ => ⟨rfl, rfl⟩)

theorem setup_take_setPolicy (sector : UInt8) (policy : AccessPolicy) :
    let c' := (Step.setPolicy sector policy).take t c
    c'.state.geometry = c.state.geometry ∧ c'.state.cache = c.state.cache :=
  ensures_change (Q := fun _ c' => c'.state.geometry = c.state.geometry ∧ c'.state.cache = c.state.cache)
    (fun _ hset => ⟨(setup_setPolicy hset).1, (setup_setPolicy hset).2.2.2⟩) (fun _ _ => ⟨rfl, rfl⟩)

theorem geometry_take (t : Transport ω) (step : Step) (c : Situation Link Card ω) :
    (step.take t c).state.geometry = c.state.geometry := by
  cases step with
  | authorize sector selector => exact (authorize_setup (t := t) (c := c) sector selector).1.geometry
  | access address command other => rw [Step.take_access]; rfl
  | forget sector => rw [Step.take_forget]; rfl
  | setKey selector key store slot => exact (setup_take_setKey selector key store slot).1
  | setPolicy sector policy => exact (setup_take_setPolicy sector policy).1

theorem geometry_walk (t : Transport ω) (steps : List Step) (c : Situation Link Card ω) :
    (walk t steps c).state.geometry = c.state.geometry := by
  induction steps generalizing c with
  | nil => rfl
  | cons step rest ih => rw [walk_cons, ih, geometry_take]

/-! ## What steps record -/

section Records

variable {sector other : UInt8} {auth : CachedAuth}

/-- Authorizing a sector here would open it with the key that is configured, as the record says. -/
def Opens (t : Transport ω) (sector : UInt8) (auth : CachedAuth) (c : Situation Link Card ω) : Prop :=
  ∃ entry code, c.state.authorizable sector auth.selector = .ok entry ∧ entry.slot = auth.slot ∧
    auth.selector.code? = some code ∧
    OpenedAt c.history sector code entry ((Step.authorize sector auth.selector).take t c).history

/-- Authorizing a sector leaves the whole cache, or it opens the sector and records exactly that. -/
theorem cache_authorize (sector : UInt8) (selector : KeySelector) :
    Ensures t.responder (authorize sector selector) c fun x c' =>
      (∃ e, x = .error e ∧ c'.state.cache = c.state.cache) ∨
      (x = .ok () ∧ ∃ entry code, c.state.authorizable sector selector = .ok entry ∧ selector.code? = some code ∧
        OpenedAt c.history sector code entry c'.history ∧
        c'.state.cache = c.state.cache.insert sector ⟨selector, entry.slot⟩) := by
  refine (authorize_outcome t sector selector c).mono ?_
  intro x c' h
  cases h with
  | rejected he => exact .inl ⟨_, rfl, rfl⟩
  | notLoaded hentry he => exact .inl ⟨_, rfl, rfl⟩
  | notAccepted hentry hcode hload he => exact .inl ⟨_, rfl, rfl⟩
  | authorized hentry hcode hload hauth =>
    rcases exchanged_opening hload hauth with ⟨loaded, accepted, hloaded, haccepted, hsaid⟩
    refine .inr ⟨rfl, _, _, hentry, hcode, ⟨loaded, accepted, hloaded, haccepted, [], ?_⟩, rfl⟩
    exact (List.append_nil _).trans hsaid.symm

/-- A step that is taken elsewhere leaves what is recorded for a sector. -/
theorem cachedAuth_take {step : Step} (h : step.sector? ≠ some other) :
    (step.take t c).state.cachedAuth other = c.state.cachedAuth other := by
  cases step with
  | authorize sector selector =>
    have hother : other ≠ sector := fun hsame => h (congrArg some hsame.symm)
    rcases cache_authorize (t := t) (c := c) sector selector with ⟨e, -, hcache⟩ | ⟨-, entry, code, -, -, -, hcache⟩
    · exact cachedAuth_of_cache_eq hcache other
    · exact (cachedAuth_of_cache_insert hcache other).trans (if_neg hother)
  | access address command answer =>
    rw [Step.take_access]
    rfl
  | forget sector =>
    have hother : other ≠ sector := fun hsame => h (congrArg some hsame.symm)
    rw [Step.take_forget]
    exact (cachedAuth_invalidate _ _ _).trans (if_neg hother)
  | setKey selector key store slot =>
    exact cachedAuth_of_cache_eq (setup_take_setKey selector key store slot).2 other
  | setPolicy sector policy => exact cachedAuth_of_cache_eq (setup_take_setPolicy sector policy).2 other

theorem cachedAuth_walk {steps : List Step} (h : ∀ step ∈ steps, step.sector? ≠ some other) :
    (walk t steps c).state.cachedAuth other = c.state.cachedAuth other := by
  induction steps generalizing c with
  | nil => rfl
  | cons step rest ih =>
    rw [walk_cons, ih fun step hstep => h step (List.mem_cons_of_mem _ hstep)]
    exact cachedAuth_take (h step List.mem_cons_self)

theorem recorded_take_authorize {selector : KeySelector}
    (h : ((Step.authorize sector selector).take t c).state.cachedAuth sector = some auth) :
    c.state.cachedAuth sector = some auth ∨ (selector = auth.selector ∧ Opens t sector auth c) := by
  rcases cache_authorize (t := t) (c := c) sector selector with
    ⟨e, -, hcache⟩ | ⟨-, entry, code, hentry, hcode, hopened, hcache⟩
  · exact .inl ((cachedAuth_of_cache_eq hcache sector).symm.trans h)
  · have hrecord := (cachedAuth_of_cache_insert hcache sector).trans (if_pos rfl)
    cases hrecord.symm.trans h
    exact .inr ⟨rfl, entry, code, hentry, rfl, hcode, hopened⟩

/-- What is recorded after a step was recorded before and is not forgotten, or the step has opened the sector. -/
theorem recorded_take {step : Step} (h : (step.take t c).state.cachedAuth sector = some auth) :
    (c.state.cachedAuth sector = some auth ∧ step ≠ .forget sector) ∨
      (step = .authorize sector auth.selector ∧ Opens t sector auth c) := by
  -- Only two kinds of steps touch the record, and only if they are taken in the sector.
  by_cases htouched : step.sector? = some sector
  · cases step with
    | authorize other selector =>
      cases htouched
      rcases recorded_take_authorize h with hbefore | ⟨rfl, hopens⟩
      · exact .inl ⟨hbefore, fun hforget => by cases hforget⟩
      · exact .inr ⟨rfl, hopens⟩
    | forget other =>
      cases htouched
      rw [Step.take_forget, cachedAuth_invalidate, if_pos rfl] at h
      cases h
    | access => cases htouched
    | setKey => cases htouched
    | setPolicy => cases htouched
  · refine .inl ⟨(cachedAuth_take htouched).symm.trans h, ?_⟩
    rintro rfl
    exact htouched rfl

/-- What is recorded after some steps was recorded before them, or one of them has opened the sector.  It was not
forgotten since. -/
theorem recorded_walk {steps : List Step} (h : (walk t steps c).state.cachedAuth sector = some auth) :
    (c.state.cachedAuth sector = some auth ∧ .forget sector ∉ steps) ∨
      ∃ first rest, steps = first ++ .authorize sector auth.selector :: rest ∧ .forget sector ∉ rest ∧
        Opens t sector auth (walk t first c) := by
  induction steps generalizing c with
  | nil => exact .inl ⟨h, by simp⟩
  | cons step steps ih =>
    rcases ih h with ⟨hrecorded, hsteps⟩ | ⟨first, rest, rfl, hrest, hopens⟩
    · rcases recorded_take hrecorded with ⟨hbefore, hstep⟩ | ⟨rfl, hopens⟩
      · exact .inl ⟨hbefore, by simp [hsteps, hstep.symm]⟩
      · exact .inr ⟨[], steps, rfl, hsteps, hopens⟩
    · exact .inr ⟨step :: first, rest, rfl, hrest, hopens⟩

end Records

/-! ## Every run -/

/-- An operation leaves what is recorded for the sectors that it does not address. -/
theorem cachedAuth_perform {op : Operation} {other : UInt8} (h : ¬ op.Addresses other) :
    (exec t.responder (perform op) c).2.state.cachedAuth other = c.state.cachedAuth other := by
  rcases exists_leadTo t op c with ⟨steps, hlead⟩
  rw [hlead.reached]
  exact cachedAuth_walk fun step hstep hsector => h ((hlead.takes step hstep).addresses hsector)

/-- A failure leaves the whole cache.  Success is recorded for the sector, and all else is left. -/
def RecordsSuccess {α : Type} (sector : UInt8) (auth : CachedAuth) (card : Card) : Except Failure α → Card → Prop
  | .error _, card' => card'.cache = card.cache
  | .ok _, card' => ∀ other, card'.cachedAuth other = if other = sector then some auth else card.cachedAuth other

theorem recordsSuccess_ensureAuthorized (sector : UInt8) (selector : KeySelector) (slot : UInt8) :
    Ensures t.responder (perform (.ensureAuthorized sector selector slot)) c fun x c' =>
      RecordsSuccess sector ⟨selector, slot⟩ c.state x c'.state := by
  refine Ensures.bind (R := fun x c' => RecordsSuccess sector ⟨selector, slot⟩ c.state x c'.state) ?_
    (fun _ _ h => ensures_pure h) (fun _ _ h => h)
  refine ensures_ensureAuthorized_at (fun _ _ => rfl) (fun _ _ _ => rfl) ?_
  rintro entry hkey rfl
  -- A hit changes nothing, and is already what success records.
  refine ensures_ensureAuthorized hkey ?_ ?_
  · intro hit other
    split
    · rename_i hsame
      rw [hsame, hit]
    · rfl
  · intro _
    refine (cache_authorize sector selector).mono ?_
    rintro x c' (⟨e, rfl, hcache⟩ | ⟨rfl, found, code, hfound, -, -, hcache⟩)
    · exact hcache
    · have hsame : entry = found := Except.ok.inj (hkey.symm.trans (authorizable_eq_ok hfound).1)
      subst hsame
      intro other
      exact cachedAuth_of_cache_insert hcache other

theorem eq_a_or_b_of_code? {selector : KeySelector} {code : UInt8} (h : selector.code? = some code) :
    selector = .a ∨ selector = .b := by
  cases selector with
  | a => exact .inl rfl
  | b => exact .inr rfl
  | access => cases h
  | both => cases h
  | all => cases h

/-- After an operation that forgets a sector, nothing is recorded for it. -/
theorem cachedAuth_after_invalidate (t : Transport ω) (before : List Operation) (sector : UInt8)
    (c : Situation Link Card ω) : (after t (before ++ [.invalidate sector]) c).state.cachedAuth sector = none := by
  rw [after_snoc, (leadTo_invalidate t sector _).reached, walk_cons, Step.take_forget]
  exact (cachedAuth_invalidate _ _ _).trans (if_pos rfl)

/-- What is recorded at the end of a run that has forgotten the sector comes from the steps that were taken since. -/
theorem opens_since_invalidate {ops before later : List Operation} {sector : UInt8} {auth : CachedAuth}
    {steps : List Step} (hops : ops = before ++ .invalidate sector :: later)
    (htaken : Taken t later (after t (before ++ [.invalidate sector]) c) steps)
    (hrecorded : (after t ops c).state.cachedAuth sector = some auth) :
    ∃ first rest, steps = first ++ .authorize sector auth.selector :: rest ∧ .forget sector ∉ rest ∧
      Opens t sector auth (walk t first (after t (before ++ [.invalidate sector]) c)) := by
  rw [hops, List.append_cons, after_append, htaken.after_eq] at hrecorded
  rcases recorded_walk hrecorded with ⟨hbefore, -⟩ | hopens
  · rw [cachedAuth_after_invalidate] at hbefore
    cases hbefore
  · exact hopens

/-- A run is made of steps.  Of whatever steps it is made, each record in the cache was made by one of them: it names a
sector of the card and key A or key B; the step had the reader take the key that was configured then, into the recorded
slot, and next had the card accept it for the sector; no later step has forgotten the sector.  If an operation of the run
has forgotten the sector, a step after that operation has made the record.  An operation leaves the records of the
sectors that it does not address.  Making sure of a sector records exactly that, or leaves the whole cache if it
fails. -/
theorem opened_of_recorded (t : Transport ω) (coupler : Coupler) (g : Geometry) (w : ω) (ops : List Operation) :
    let c : Situation Link Card ω := ⟨fresh coupler g, w, []⟩
    (∃ steps, Taken t ops c steps) ∧
      (∀ steps sector auth, Taken t ops c steps → (after t ops c).state.cachedAuth sector = some auth →
        sector.toNat < g.sectorCount ∧ (auth.selector = .a ∨ auth.selector = .b) ∧
          ∃ first rest code entry, steps = first ++ .authorize sector auth.selector :: rest ∧ .forget sector ∉ rest ∧
            (walk t first c).state.findKey auth.selector = .ok entry ∧ entry.slot = auth.slot ∧
            auth.selector.code? = some code ∧
            OpenedAt (walk t first c).history sector code entry (after t ops c).history) ∧
      (∀ before later sector auth steps, ops = before ++ .invalidate sector :: later →
        Taken t later (after t (before ++ [.invalidate sector]) c) steps →
        (after t ops c).state.cachedAuth sector = some auth →
          ∃ first rest, steps = first ++ .authorize sector auth.selector :: rest ∧ .forget sector ∉ rest ∧
            Opens t sector auth (walk t first (after t (before ++ [.invalidate sector]) c))) ∧
      (∀ (c' : Situation Link Card ω) (op : Operation) other, ¬ op.Addresses other →
        (exec t.responder (perform op) c').2.state.cachedAuth other = c'.state.cachedAuth other) ∧
      ∀ (c' : Situation Link Card ω) sector selector slot,
        Ensures t.responder (perform (.ensureAuthorized sector selector slot)) c' fun x c'' =>
          RecordsSuccess sector ⟨selector, slot⟩ c'.state x c''.state := by
  intro c
  refine ⟨exists_taken t ops c, ?_, fun _ _ _ _ _ => opens_since_invalidate, fun _ _ _ h => cachedAuth_perform h,
    fun _ => recordsSuccess_ensureAuthorized⟩
  intro steps sector auth htaken hrecorded
  rw [htaken.after_eq] at hrecorded ⊢
  rcases recorded_walk hrecorded with
    ⟨hbefore, -⟩ | ⟨first, rest, rfl, hrest, entry, code, hentry, hslot, hcode, hopened⟩
  · -- Nothing was recorded at first.
    cases hbefore
  · rcases authorizable_eq_ok hentry with ⟨hkey, hsector, -⟩
    rw [geometry_walk] at hsector
    refine ⟨hsector, eq_a_or_b_of_code? hcode, first, rest, code, entry, rfl, hrest, hkey, hslot, hcode, ?_⟩
    rcases hopened with ⟨loaded, accepted, hloaded, haccepted, hfront⟩
    refine ⟨loaded, accepted, hloaded, haccepted, hfront.trans ?_⟩
    rw [walk_append, walk_cons]
    exact history_walk t rest _

end SectorCard.Card
