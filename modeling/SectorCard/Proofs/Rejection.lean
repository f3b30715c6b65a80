import SectorCard.Proofs.Denial
import SectorCard.Proofs.Tag

/-!
# Rejected requests

A request is rejected if it is wrong in itself: it names a block, a sector, a slot or a key that cannot be used,
or asks for access bits that do not exist.  The same errors could come from deep inside an operation: a coupler that
has to authenticate looks for its key, and the key for its slot, when a part of the operation has long been carried
out.  They do not.  A request that is rejected has sent nothing and changed nothing (`situation_of_rejected`).

What rules out the late rejections is `Primed`: the coupler of a card with a recorded authentication has a legal key.
Operations on runs of blocks are left out, since they have done their work up to the block that is wrong.
-/

namespace SectorCard

open Procedure

def Rejected {α : Type} : Except Failure α → Prop
  | .error (.error e) => e.rejects = true
  | _ => False

variable {ω : Type} {t : Transport ω}

namespace Transport.FailsPlainly

variable {command : Command} {w : ω} {e : CardError}

theorem exchange (h : t.FailsPlainly) (he : (t.exchange command w).1 = .error e) : e.rejects = false := by
  -- A fault of the transport and a reply that is too short are all that can go wrong, and neither is a rejection.
  unfold Transport.exchange at he
  split at he
  · cases hreply : (t.transmit command.encode w).1 with
    | error e' =>
      rw [hreply] at he
      cases he
      rcases h _ _ _ hreply with rfl | ⟨cause, rfl⟩
      · rfl
      · rfl
    | ok bytes =>
      rw [hreply] at he
      rcases Reply.parse_eq_error_iff.1 he with ⟨-, rfl⟩
      rfl
  · cases he
    rfl

/-- Nothing that a reader or a card replies finds fault with a request. -/
theorem demand (h : t.FailsPlainly) {refusal : StatusWord → CardError} (hrefusal : ∀ status, (refusal status).rejects = false)
    (he : t.demand command refusal w = .error e) : e.rejects = false := by
  unfold Transport.demand at he
  cases hx : (t.exchange command w).1 with
  | error e' =>
    rw [hx] at he
    cases he
    exact h.exchange hx
  | ok reply =>
    rw [hx] at he
    simp only at he
    split at he
    · cases he
    · cases he
      exact hrefusal reply.status

end Transport.FailsPlainly

theorem Tag.answer_ok (shown : UInt8 → Block → Bytes) (command : Bytes) (tag : Tag) :
    ∃ bytes, (Tag.answer shown command tag).1 = .ok bytes := by
  unfold Tag.answer
  split
  · split <;> exact ⟨_, rfl⟩
  · split <;> exact ⟨_, rfl⟩
  · exact ⟨_, rfl⟩
  · split <;> exact ⟨_, rfl⟩
  · exact ⟨_, rfl⟩

/-- A tag answers every command, and a reader that refuses some of them answers those too. -/
theorem Tag.failsPlainly_refusing (shown : UInt8 → Block → Bytes) : (Tag.transport shown).refusing.FailsPlainly := by
  rintro command ⟨plan, tag⟩ e he
  simp only [Transport.refusing] at he
  split at he
  · cases he
  · rcases Tag.answer_ok shown command tag with ⟨bytes, hbytes⟩
    change (Tag.answer shown command tag).1 = .error e at he
    rw [hbytes] at he
    cases he

theorem not_rejected_error {α : Type} {e : CardError} (h : e.rejects = false) :
    ¬ Rejected (.error (.error e) : Except Failure α) := by
  intro hrejected
  simp [Rejected, h] at hrejected

theorem Rejected.cast {α β : Type} {e : Failure} (h : Rejected (.error e : Except Failure α)) :
    Rejected (.error e : Except Failure β) := by
  cases e with
  | error e => exact h
  | defect d => exact h

/-- A denied command is no fault of the request. -/
theorem OnlyDenied.not_rejected {α : Type} {before history : List (Event Link)} {x : Except Failure α}
    (h : OnlyDenied t before x history) (ht : t.FailsPlainly) : ¬ Rejected x := by
  rcases h with ⟨said, -, h⟩
  match x with
  | .ok _ => exact not_false
  | .error (.error e) =>
    rcases h with ⟨earlier, command, refusal, w, hrefusal, he, -⟩
    exact not_rejected_error (ht.demand hrefusal he)
  | .error (.defect _) => exact not_false

namespace Card

variable {c : Situation Link Card ω}

/-- A request that was rejected has done nothing. -/
def NothingDone {α : Type} (c : Situation Link Card ω) (x : Except Failure α) (c' : Situation Link Card ω) : Prop :=
  Rejected x → c' = c

/-! ## Every operation -/

theorem nothingDone_of_onlyDenied {α : Type} {x : Except Failure α} {c' : Situation Link Card ω} (ht : t.FailsPlainly)
    {P : Prop} (h : OnlyDenied t c.history x c'.history ∨ (c' = c ∧ P)) : NothingDone c x c' := by
  rcases h with hdenied | ⟨hsame, -⟩
  · exact fun hrejected => absurd hrejected (hdenied.not_rejected ht)
  · exact fun _ => hsame

theorem ensures_withAuthRetry_nothingDone {α : Type} (ht : t.FailsPlainly) {sector : UInt8} {selector : KeySelector}
    {op : CouplerM α} (hop : Acceptable t op) (hc : Primed c.state) (hsector : sector.toNat < c.state.geometry.sectorCount) :
    Ensures t.responder (withAuthRetry sector selector op) c (NothingDone c) :=
  (ensures_withAuthRetry_onlyDenied hop hc hsector).mono fun _ _ h => nothingDone_of_onlyDenied ht h

theorem nothingDone_self {α : Type} (x : Except Failure α) : NothingDone c x c := fun _ => rfl

theorem NothingDone.cast {α β : Type} {e : Failure} {c' : Situation Link Card ω}
    (h : NothingDone c (.error e : Except Failure α) c') : NothingDone c (.error e : Except Failure β) c' :=
  fun hrejected => h hrejected.cast

/-- What follows a success and never finds fault cannot turn it into a rejection. -/
theorem ensures_bind_nothingDone {α β : Type} {p : CardM α} {f : α → CardM β}
    (h : Ensures t.responder p c (NothingDone c))
    (hf : ∀ a c', Ensures t.responder (f a) c' fun x _ => ¬ Rejected x) :
    Ensures t.responder (p >>= f) c (NothingDone c) :=
  h.bind (fun a c' _ => (hf a c').mono fun _ _ hplain hrejected => absurd hrejected hplain) fun _ _ h => h.cast

theorem ensures_readAuthorized_nothingDone (ht : t.FailsPlainly) {sector address : UInt8} {block : UInt16}
    (hc : Primed c.state) (hnarrow : Checked.narrow block = .ok address)
    (hsector : sector.toNat < c.state.geometry.sectorCount) :
    Ensures t.responder (readAuthorized sector block) c (NothingDone c) := by
  unfold readAuthorized
  refine ensures_inspect_bind (fun selector _ => ?_) (fun _ _ => nothingDone_self _)
  rw [hnarrow, ofExcept_ok, pure_bind]
  apply ensures_bind_nothingDone
  · exact ensures_withAuthRetry_nothingDone ht (acceptable_readPage address blockLength) hc hsector
  · intro data c'
    split
    · exact ensures_throw (not_rejected_error rfl)
    · exact ensures_pure not_false

theorem ensures_readBlock_nothingDone (ht : t.FailsPlainly) (hc : Primed c.state) (block : UInt16) :
    Ensures t.responder (readBlock block) c (NothingDone c) := by
  refine ensures_inspect_lift_bind (fun sector hsector => ?_) (fun _ _ => nothingDone_self _)
  rcases dataBlock_of_dataSector hsector with ⟨address, hnarrow, -, haddress⟩
  exact ensures_readAuthorized_nothingDone ht hc hnarrow haddress.toInSector.sector_lt

theorem ensures_writeBlock_nothingDone (ht : t.FailsPlainly) (hc : Primed c.state) (block : UInt16) (data : Block) :
    Ensures t.responder (writeBlock block data) c (NothingDone c) := by
  refine ensures_inspect_lift_bind (fun sector hsector => ?_) (fun _ _ => nothingDone_self _)
  rcases dataBlock_of_dataSector hsector with ⟨address, hnarrow, -, haddress⟩
  unfold writeAuthorized
  refine ensures_inspect_bind (fun selector _ => ?_) (fun _ _ => nothingDone_self _)
  rw [hnarrow, ofExcept_ok, pure_bind]
  exact ensures_withAuthRetry_nothingDone ht (acceptable_writePage address data.length_bytes) hc
    haddress.toInSector.sector_lt

theorem not_rejected_trailerFrom (data : Bytes) : ¬ Rejected (trailerFrom data) := by
  unfold trailerFrom
  split
  · exact not_rejected_error rfl
  · cases htrailer : SectorTrailer.ofBytes (data.take blockSize) with
    | ok trailer => exact not_false
    | error e =>
      rw [SectorTrailer.ofBytes_eq_error htrailer]
      exact not_rejected_error rfl

theorem ensures_readTrailer_nothingDone (ht : t.FailsPlainly) (hc : Primed c.state) (sector : UInt8) :
    Ensures t.responder (readTrailer sector) c (NothingDone c) := by
  refine ensures_readTrailer (fun _ _ => nothingDone_self _) (fun _ _ => nothingDone_self _) ?_
  intro address selector haddress _
  have hsector := (inSector_of_trailerAddress haddress).2.sector_lt
  refine (ensures_withAuthRetry_nothingDone ht (acceptable_readPage address blockLength) hc hsector).mono ?_
  rintro (e | data) c' h
  · exact h.cast
  · intro hrejected
    exact absurd hrejected (not_rejected_trailerFrom data)

theorem ensures_changeTrailer_nothingDone (ht : t.FailsPlainly) (hc : Primed c.state) (sector : UInt8)
    (trailer : SectorTrailer) : Ensures t.responder (changeTrailer sector trailer) c (NothingDone c) := by
  refine ensures_changeTrailer (fun _ _ => nothingDone_self _) (fun _ _ => nothingDone_self _) ?_
  intro address haddress _
  have hsector := (inSector_of_trailerAddress haddress).2.sector_lt
  have hop : Acceptable t (Coupler.writePage address trailer.toBytes) :=
    acceptable_writePage address (by simp [blockSize])
  refine (ensures_withAuthRetry_nothingDone ht hop hc hsector).mono ?_
  rintro (e | _) c' h
  · exact h
  · exact fun hrejected => hrejected.elim

/-- Whatever comes of rolling back, the error of the update is what is reported. -/
theorem ensures_rollBack_nothingDone {e : CardError} (hplain : ¬ Rejected (.error (.error e) : Except Failure Unit))
    (sector address : UInt8) (selector : KeySelector) (previous : SectorTrailer) (c' : Situation Link Card ω) :
    Ensures t.responder (rollBack sector address selector previous) c' fun y c'' => match y with
      | .ok () => NothingDone c (.error (.error e) : Except Failure Unit) c''
      | .error f => NothingDone c (.error f : Except Failure Unit) c'' := by
  refine ensures_rollBack (Ensures.mono (R := fun _ _ => True) trivial ?_)
  intro y c'' _
  rcases y with (_ | d) | ⟨⟩
  · exact fun hrejected => absurd hrejected hplain
  · exact fun hrejected => hrejected.elim
  · exact fun hrejected => absurd hrejected hplain

/-- A policy is rejected before the present trailer is read, or by the reading. -/
theorem ensures_applyPolicy_nothingDone (ht : t.FailsPlainly) (hc : Primed c.state) (sector : UInt8)
    (selector : KeySelector) (keepPrevious : Bool) :
    Ensures t.responder (applyPolicy sector selector keepPrevious) c (NothingDone c) := by
  refine ensures_applyPolicy (R := fun _ c' => Primed c'.state ∧ SameSetup c.state c'.state)
    (fun _ _ => nothingDone_self _) (fun _ _ => nothingDone_self _) ?_ (fun _ => ⟨hc, .refl _⟩) ?_
  · intro _
    refine ((ensures_readTrailer_nothingDone ht hc sector).and (ensures_readTrailer_primed hc sector)).mono ?_
    rintro (e | previous) c' ⟨h, hc'⟩
    · exact h.cast
    · exact hc'
  · rintro address trailer previous c' haddress hplan ⟨hc', hsetup⟩
    rcases plannedTrailer_eq_ok hplan with ⟨-, -, -, entry, -, -, -, -, hkey, -⟩
    have hsector := (inSector_of_trailerAddress haddress).2.sector_lt
    have hop : Acceptable t (Coupler.writePage address trailer.toBytes) :=
      acceptable_writePage address (by simp [blockSize])
    -- The key was found when the trailer was planned, so the update is not rejected.
    have hkey' : c'.state.findKey selector = .ok entry := (hsetup.findKey selector).trans hkey
    refine ensures_writeOrRollBack
      ((ensures_withAuthRetry_of_findKey hop hc' (hsetup.geometry ▸ hsector) hkey').mono ?_)
    intro x c'' hdenied
    have hplain : ¬ Rejected x := hdenied.not_rejected ht
    rcases x with (e | d) | ⟨⟩
    · cases previous with
      | none => exact fun h => absurd h hplain
      | some previous => exact ensures_rollBack_nothingDone hplain sector address selector previous c''
    · cases previous <;> exact fun h => h.elim
    · exact fun h => h.elim

theorem ensures_ensureAuthorized_nothingDone (ht : t.FailsPlainly) (sector : UInt8) (selector : KeySelector)
    (slot : UInt8) : Ensures t.responder (ensureAuthorized sector selector slot) c (NothingDone c) := by
  refine ensures_ensureAuthorized_at (fun _ _ => nothingDone_self _) (fun _ _ _ => nothingDone_self _) ?_
  rintro entry hkey rfl
  refine ensures_ensureAuthorized hkey (fun _ => nothingDone_self _) (fun _ => ?_)
  exact (ensures_authorize_onlyDenied sector selector c).mono fun _ _ h => nothingDone_of_onlyDenied ht h

theorem ensures_change_nothingDone (f : Card → Except CardError Card) :
    Ensures t.responder (Procedure.change f : CardM Unit) c (NothingDone c) :=
  ensures_change (fun _ _ => fun hrejected => hrejected.elim) (fun _ _ => nothingDone_self _)

/-- Operations on runs of blocks, which meet a wrong block only when they get there. -/
def Operation.isLinear : Operation → Bool
  | .readLinear _ _ | .writeLinear _ _ => true
  | _ => false

theorem ensures_perform_nothingDone (ht : t.FailsPlainly) (hc : Primed c.state) {op : Operation}
    (hop : op.isLinear = false) : Ensures t.responder (perform op) c (NothingDone c) := by
  -- Once the last step is done, nothing can be rejected any more.
  have hfinish : ∀ {α : Type} {p : CardM α} {b : α → Operation.Result}, Ensures t.responder p c (NothingDone c) →
      Ensures t.responder (p >>= fun a => pure (b a)) c (NothingDone c) :=
    fun hp => ensures_bind_nothingDone hp fun _ _ => ensures_pure not_false
  cases op with
  | setKey selector key store slot => exact hfinish (ensures_change_nothingDone _)
  | setPolicy sector policy => exact hfinish (ensures_change_nothingDone _)
  | ensureAuthorized sector selector slot =>
    exact hfinish (ensures_ensureAuthorized_nothingDone ht sector selector slot)
  | invalidate sector =>
    refine ensures_modify_bind (ensures_pure ?_)
    exact fun hrejected => hrejected.elim
  | readBlock block =>
    refine Ensures.map ((ensures_readBlock_nothingDone ht hc block).mono ?_)
    rintro (e | data) c' h
    · exact h.cast
    · exact fun hrejected => hrejected.elim
  | writeBlock block data => exact hfinish (ensures_writeBlock_nothingDone ht hc block data)
  | readLinear start length => cases hop
  | writeLinear start data => cases hop
  | readTrailer sector => exact hfinish (ensures_readTrailer_nothingDone ht hc sector)
  | changeTrailer sector trailer => exact hfinish (ensures_changeTrailer_nothingDone ht hc sector trailer)
  | applyPolicy sector selector keepPrevious =>
    exact hfinish (ensures_applyPolicy_nothingDone ht hc sector selector keepPrevious)

/-- A rejected request has sent nothing and changed nothing, wherever the card and its coupler have been led
before. -/
theorem situation_of_rejected (ht : t.FailsPlainly) (hc : Reachable t c) {op : Operation} (hop : op.isLinear = false)
    (hrejected : Rejected (exec t.responder (perform op) c).1) : (exec t.responder (perform op) c).2 = c :=
  ensures_perform_nothingDone ht hc.primed hop hrejected

/-- Nobody may access the data of sector 2, and the reader has refused to read block 4. -/
def afterRefusedRead : Situation Link Card (List Bool × Tag) :=
  after (Tag.transport Tag.hideKeyA).refusing
    [.setKey .a .transport .nonVolatile 0, .setKey .b .transport .nonVolatile 1,
      .setPolicy 2 ⟨false, false, false, false⟩, .readBlock 4]
    (start .small ([false, false, true], Tag.delivered))

/-- There are no access bits for such a policy.  The authentication that is pending stays pending, and the one that is
recorded stays recorded. -/
theorem situation_of_rejected_unsupported :
    let run := exec (Tag.transport Tag.hideKeyA).refusing.responder (perform (.applyPolicy 2 .b true)) afterRefusedRead
    run.1 = .error (.error .unsupportedPolicy) ∧ run.2 = afterRefusedRead ∧
      afterRefusedRead.state.coupler.authPending = true ∧ afterRefusedRead.state.cachedAuth 1 = some ⟨.a, 0⟩ := by
  intro run
  have hresult : run.1 = .error (.error .unsupportedPolicy) := rfl
  have hreachable : Reachable (Tag.transport Tag.hideKeyA).refusing afterRefusedRead := (Reachable.start .small _).after _
  have hrejected : Rejected run.1 := by
    rw [hresult]
    rfl
  exact ⟨hresult, situation_of_rejected (Tag.failsPlainly_refusing Tag.hideKeyA) hreachable rfl hrejected, rfl, rfl⟩

end Card
end SectorCard
