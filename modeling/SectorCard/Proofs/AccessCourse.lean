import SectorCard.Proofs.GatedAccess
import SectorCard.Proofs.Reachability
import SectorCard.Proofs.TrailerCodec

/-!
# The course of an access to a block

An operation on a single block may authenticate in two places: the card authorizes the sector if its cache does not
record the key, and the coupler authenticates if that is pending.  If the access still fails to authenticate, the card
authorizes the sector and tries again.  This module says what is sent on the whole, with a card that is connected
(`course_of_operation`).

The two ways to authenticate do not add up.  Once a sector is authorized nothing is pending, so the coupler
authenticates only on the strength of the cache; and as the key that it remembers was loaded, it never loads a key of
its own accord.  So there are six exchanges at most, and two of them reach the block.
-/

namespace SectorCard.Card

open Procedure
open Coupler (PageAccess)

variable {ω : Type} {t : Transport ω} {c c' : Situation Link Card ω}

/-! ## Cards that are only operated -/

/-- The states to which operations can lead a card, whatever transports they are performed over. -/
inductive Operated : Card → Prop where
  | fresh (g : Geometry) : Operated (fresh .fresh g)
  | perform {ω : Type} (t : Transport ω) (op : Operation) (c : Situation Link Card ω) (h : Operated c.state) :
      Operated (exec t.responder (perform op) c).2.state

theorem Operated.sound {card : Card} (h : Operated card) : Sound card := by
  induction h with
  | fresh g => exact sound_fresh g
  | perform t op c _ ih => exact keeps_sound op c ih

/-! ## What is said -/

/-- An access to a page of a sector that has to be authorized with a certain key, whose selector has a code. -/
structure BlockAccess where
  sector : UInt8
  selector : KeySelector
  code : UInt8
  entry : KeyEntry
  page : PageAccess

namespace BlockAccess

/-- What the cache has to record. -/
def required (a : BlockAccess) : CachedAuth := ⟨a.selector, a.entry.slot⟩

/-- The sector is authorized: the key is loaded and tried at the first block.  Whether it is accepted. -/
inductive Opens (a : BlockAccess) : Bool → List Exchange → Prop where
  | notLoaded {x : Exchange} (hx : x.command = .loading a.entry) (hload : ¬ x.Acknowledged) : Opens a false [x]
  | notAccepted {x y : Exchange} (hx : x.command = .loading a.entry) (hload : x.Acknowledged)
      (hy : y.command = .authenticating (firstAddress a.sector) a.code a.entry.slot) (hauth : ¬ y.Acknowledged) :
      Opens a false [x, y]
  | accepted {x y : Exchange} (hx : x.command = .loading a.entry) (hload : x.Acknowledged)
      (hy : y.command = .authenticating (firstAddress a.sector) a.code a.entry.slot) (hauth : y.Acknowledged) :
      Opens a true [x, y]

/-- The page is authenticated with the key that the coupler remembers. -/
def Renews (a : BlockAccess) (card : Card) (x : Exchange) : Prop :=
  ∃ entry code, card.coupler.key = some entry ∧ card.coupler.selector.code? = some code ∧
    x.command = .authenticating a.page.address code entry.slot

/-- How the way to a page ends: the command can be sent, the remembered key was refused, or another thing failed. -/
inductive Way where
  | clear
  | refused
  | closed

/-- What is said before the command is sent for the first time.  If the key is not recorded, the sector is authorized;
if it is, then only what is pending has to succeed. -/
inductive Approaches (a : BlockAccess) (card : Card) : Way → List Exchange → Prop where
  | opened {said : List Exchange} (hmiss : card.cachedAuth a.sector ≠ some a.required) (hopens : a.Opens true said) :
      Approaches a card .clear said
  | shut {said : List Exchange} (hmiss : card.cachedAuth a.sector ≠ some a.required) (hopens : a.Opens false said) :
      Approaches a card .closed said
  | ready (hhit : card.cachedAuth a.sector = some a.required) (hidle : card.coupler.authPending = false) :
      Approaches a card .clear []
  | renewed {x : Exchange} (hhit : card.cachedAuth a.sector = some a.required)
      (hpending : card.coupler.authPending = true) (hx : a.Renews card x) (hauth : x.Acknowledged) :
      Approaches a card .clear [x]
  | refused {x : Exchange} (hhit : card.cachedAuth a.sector = some a.required)
      (hpending : card.coupler.authPending = true) (hx : a.Renews card x) (hauth : x.Refused) :
      Approaches a card .refused [x]
  | broken {x : Exchange} (hhit : card.cachedAuth a.sector = some a.required)
      (hpending : card.coupler.authPending = true) (hx : a.Renews card x) (hauth : ∀ status, ¬ x.Answered status) :
      Approaches a card .closed [x]

/-- What is said in the first try, and whether it calls for another: the remembered key was refused, or the answer to
the command is a request to authenticate. -/
inductive Tries (a : BlockAccess) (card : Card) : Bool → List Exchange → Prop where
  | closed {said : List Exchange} (h : a.Approaches card .closed said) : Tries a card false said
  | refused {said : List Exchange} (h : a.Approaches card .refused said) : Tries a card true said
  | settled {said : List Exchange} {x : Exchange} (h : a.Approaches card .clear said) (hx : x.command = a.page.command)
      (hanswer : ¬ x.Answered ⟨0x63, 0x00⟩) : Tries a card false (said ++ [x])
  | demanded {said : List Exchange} {x : Exchange} (h : a.Approaches card .clear said) (hx : x.command = a.page.command)
      (hanswer : x.Answered ⟨0x63, 0x00⟩) : Tries a card true (said ++ [x])

/-- What is said in the whole access: one try, and another one if the first calls for it and the sector can be
authorized again. -/
inductive Course (a : BlockAccess) (card : Card) : List Exchange → Prop where
  | once {said : List Exchange} (h : a.Tries card false said) : Course a card said
  | shut {said again : List Exchange} (h : a.Tries card true said) (hopens : a.Opens false again) :
      Course a card (said ++ again)
  | twice {said again : List Exchange} {x : Exchange} (h : a.Tries card true said) (hopens : a.Opens true again)
      (hx : x.command = a.page.command) : Course a card (said ++ again ++ [x])

variable {a : BlockAccess} {card : Card} {said : List Exchange}

theorem Opens.length_le {opened : Bool} (h : a.Opens opened said) : said.length ≤ 2 := by
  cases h <;> simp

theorem Approaches.length_le {way : Way} (h : a.Approaches card way said) : said.length ≤ 2 := by
  cases h with
  | opened _ hopens => exact hopens.length_le
  | shut _ hopens => exact hopens.length_le
  | ready | renewed | refused | broken => simp

theorem Tries.length_le {again : Bool} (h : a.Tries card again said) : said.length ≤ 3 := by
  cases h with
  | closed h => exact Nat.le_succ_of_le h.length_le
  | refused h => exact Nat.le_succ_of_le h.length_le
  | settled h _ _ | demanded h _ _ =>
    rw [List.length_append]
    exact Nat.succ_le_succ h.length_le

/-- However an access goes, it is over after six exchanges. -/
theorem Course.length_le (h : a.Course card said) : said.length ≤ 6 := by
  cases h with
  | once h => exact Nat.le_trans h.length_le (by decide)
  | shut h hopens =>
    have htries := h.length_le
    have hagain := hopens.length_le
    simp only [List.length_append]
    omega
  | twice h hopens _ =>
    have htries := h.length_le
    have hagain := hopens.length_le
    simp only [List.length_append, List.length_singleton]
    omega

end BlockAccess

/-! ## Authorizing -/

/-- The last exchange decides. -/
def Decides (said : List Exchange) (x : Except Failure Bytes) : Prop :=
  ∃ last, said.getLast? = some last ∧ x = Failure.lift last.outcome

theorem decides_append {said : List Exchange} {x : Except Failure Bytes} (h : Decides said x) (before : List Exchange) :
    Decides (before ++ said) x := by
  rcases h with ⟨last, hlast, hx⟩
  exact ⟨last, by simp [List.getLast?_append, hlast], hx⟩

theorem decides_error {said : List Exchange} {last : Exchange} {e : CardError} (hlast : said.getLast? = some last)
    (he : last.outcome = .error e) : Decides said (.error (.error e)) :=
  ⟨last, hlast, by rw [he]; rfl⟩

/-- A card with the key that an access requires. -/
structure BlockAccess.Ready (a : BlockAccess) (card : Card) : Prop where
  authorizable : card.authorizable a.sector a.selector = .ok a.entry
  code : a.selector.code? = some a.code

variable {a : BlockAccess}

theorem BlockAccess.Ready.of_setup {card card' : Card} (h : a.Ready card) (hsetup : SameSetup card card') :
    a.Ready card' where
  authorizable := (hsetup.authorizable _ _).trans h.authorizable
  code := h.code

theorem authorize_opens (hconnected : ∀ w, t.isConnected w = true) (hready : a.Ready c.state) :
    Ensures t.responder (authorize a.sector a.selector) c fun x c' => ∃ said, Conversed said c c' ∧ a.Ready c'.state ∧
      match x with
      | .ok () => a.Opens true said ∧ c'.state.coupler.authPending = false
      | .error e => a.Opens false said ∧ Decides said (.error e) := by
  -- A card is there at all times, so every command is sent and has a reply to speak of.
  have hdemand : ∀ (command : Command) w, t.demand command command.instruction.refusal w = (t.replied command w).outcome :=
    fun command w => Transport.demand_of_connected (hconnected w)
  refine ((authorize_outcome t a.sector a.selector c).and (authorize_setup a.sector a.selector)).mono ?_
  rintro x c' ⟨h, hsetup, -, -⟩
  have hready' := hready.of_setup hsetup
  have hsaid : Conversed [t.replied (.loading a.entry) c.world] c (c.exchanged t (.loading a.entry)) :=
    conversed_exchanged (hconnected _)
  let authenticate : Command := .authenticating (firstAddress a.sector) a.code a.entry.slot
  let loaded := c.exchanged t (.loading a.entry)
  have hopening : Conversed [t.replied authenticate loaded.world] loaded (loaded.exchanged t authenticate) :=
    conversed_exchanged (hconnected _)
  have hboth := hsaid.append hopening
  cases h with
  -- The key can be authorized, so nothing is rejected before it is sent.
  | rejected he => cases hready.authorizable.symm.trans he
  | notLoaded hentry he =>
    cases hready.authorizable.symm.trans hentry
    have hload := (hdemand (.loading a.entry) c.world).symm.trans he
    exact ⟨_, hsaid, hready', .notLoaded rfl (Exchange.not_acknowledged_of_error hload), decides_error rfl hload⟩
  | notAccepted hentry hcode hload he =>
    cases hready.authorizable.symm.trans hentry
    cases hready.code.symm.trans hcode
    have hloaded := (hdemand (.loading a.entry) c.world).symm.trans hload
    have hauth := (hdemand authenticate _).symm.trans he
    exact ⟨_, hboth, hready', .notAccepted rfl (Exchange.acknowledged_iff.2 ⟨_, hloaded⟩) rfl
      (Exchange.not_acknowledged_of_error hauth), decides_error rfl hauth⟩
  | authorized hentry hcode hload hauth =>
    cases hready.authorizable.symm.trans hentry
    cases hready.code.symm.trans hcode
    have hloaded := (hdemand (.loading a.entry) c.world).symm.trans hload
    have hopened := (hdemand authenticate _).symm.trans hauth
    exact ⟨_, hboth, hready', .accepted rfl (Exchange.acknowledged_iff.2 ⟨_, hloaded⟩) rfl
      (Exchange.acknowledged_iff.2 ⟨_, hopened⟩), rfl⟩

/-! ## The first try -/

/-- An access fails to authenticate exactly if the answer is a request to do so. -/
theorem outcome_authFailed_iff {page : PageAccess} {y : Exchange} (hy : y.command = page.command) (hplain : y.Plain) :
    (∃ status, y.outcome = .error (.authFailed status)) ↔ y.Answered ⟨0x63, 0x00⟩ := by
  have hrefusal : y.command.instruction.refusal = Coupler.accessError page.refusal := by
    rw [hy, page.refusal_command]
  constructor
  · rintro ⟨status, he⟩
    rcases hplain.answered he with ⟨hanswered, -, hdenied⟩
    rw [hrefusal] at hdenied
    unfold Coupler.accessError at hdenied
    split at hdenied
    · rename_i hmeaning
      rwa [← StatusWord.meaning_eq_authenticationError_iff.1 hmeaning]
    · -- The refusals of a page's own are errors of reading and writing, never of authentication.
      cases page <;> cases hdenied
  · intro hanswered
    rcases Exchange.outcome_of_answered hanswered with ⟨hsuccess, -⟩ | ⟨-, he⟩
    · cases hsuccess
    · rw [hrefusal] at he
      exact ⟨_, he⟩

/-- What the first try has come to.  The last of its exchanges decides, and there is another try exactly if this one
has failed to authenticate. -/
structure BlockAccess.Tried (a : BlockAccess) (c : Situation Link Card ω) (said : List Exchange) (again : Bool)
    (x : Except Failure Bytes) (d : Situation Link Coupler ω) : Prop where
  conversed : Conversed said c d
  tries : a.Tries c.state again said
  decides : Decides said x
  again_iff : again = true ↔ ∃ status, x = .error (.error (.authFailed status))

variable {said : List Exchange}

theorem lift_eq_authFailed_iff {x : Except CardError Bytes} :
    (∃ status, Failure.lift x = .error (.error (.authFailed status))) ↔ ∃ status, x = .error (.authFailed status) := by
  cases x <;> simp [Failure.lift]

theorem transfer_tried (hconnected : ∀ w, t.isConnected w = true) (ht : t.FailsPlainly)
    {d : Situation Link Coupler ω} (hsaid : Conversed said c d) (hway : a.Approaches c.state .clear said) :
    Ensures t.responder (Coupler.transfer a.page.command a.page.refusal) d fun x d' =>
      ∃ said again, a.Tried c said again x d' := by
  refine (Coupler.transfer_sent hconnected ht a.page d).mono ?_
  rintro x d' ⟨y, hsent⟩
  have hdecides : Decides (said ++ [y]) x := decides_append ⟨y, rfl, hsent.result⟩ said
  have hlost : (∃ status, x = .error (.error (.authFailed status))) ↔ y.Answered ⟨0x63, 0x00⟩ := by
    rw [hsent.result, lift_eq_authFailed_iff, outcome_authFailed_iff hsent.command hsent.plain]
  by_cases hanswer : y.Answered ⟨0x63, 0x00⟩
  · exact ⟨said ++ [y], true, hsaid.append hsent.conversed, .demanded hway hsent.command hanswer, hdecides,
      by simp [hlost, hanswer]⟩
  · exact ⟨said ++ [y], false, hsaid.append hsent.conversed, .settled hway hsent.command hanswer, hdecides,
      by simp [hlost, hanswer]⟩

/-- If the cache records the key, the coupler authenticates only if that is pending, and loads no key. -/
theorem access_tried_of_hit (hconnected : ∀ w, t.isConnected w = true) (ht : t.FailsPlainly) (hc : Sound c.state)
    (hready : a.Ready c.state) (hhit : c.state.cachedAuth a.sector = some a.required) :
    Ensures t.responder (Coupler.access a.page.address a.page.command a.page.refusal) c.below fun x d =>
      ∃ said again, a.Tried c said again x d := by
  have hauth : Authorized a.sector a.selector c.state :=
    ⟨a.entry, (authorizable_eq_ok hready.authorizable).1, hhit⟩
  -- A recorded key is remembered and loaded, so a refused renewal is final: no key is loaded for another one.
  rcases hc.remembered hauth with ⟨entry, code, hkey, hloaded, hcode⟩
  let renewal := t.replied (.authenticating a.page.address code entry.slot) c.world
  have hrenews : a.Renews c.state renewal := ⟨entry, code, hkey, hcode, rfl⟩
  have hsaid : Conversed [renewal] c (c.below.exchanged t (.authenticating a.page.address code entry.slot)) :=
    conversed_exchanged (c := c.below) (hconnected _)
  have hdemand : t.demand (.authenticating a.page.address code entry.slot) .authFailed c.world = renewal.outcome :=
    Transport.demand_of_connected (hconnected _)
  refine Coupler.ensures_access (c := c.below) hkey hloaded hcode (fun hpending e he => ?_) (fun d hd => ?_)
  · have hfailed : renewal.outcome = .error e := hdemand.symm.trans he
    -- Whether the retry follows depends on the way of failing: a refusal calls for it, a missing reply does not.
    by_cases hrefused : renewal.Refused
    · rcases hrefused.outcome with ⟨status, hstatus⟩
      cases hfailed.symm.trans hstatus
      exact ⟨[renewal], true, hsaid, .refused (.refused hhit hpending hrenews hrefused), decides_error rfl hfailed,
        by simp [renewal, Transport.replied, Instruction.refusal]⟩
    · have hunanswered : ∀ status, ¬ renewal.Answered status := by
        intro status hanswered
        rcases Exchange.outcome_of_answered hanswered with ⟨-, data, hdata⟩ | ⟨hfailure, -⟩
        · cases hfailed.symm.trans hdata
        · exact hrefused ⟨status, hanswered, hfailure⟩
      have hplain : ∀ status, e ≠ .authFailed status := by
        rintro status rfl
        exact hrefused ((ht.plain _ _).refused hfailed)
      exact ⟨[renewal], false, hsaid, .closed (.broken hhit hpending hrenews hunanswered), decides_error rfl hfailed,
        by simp [hplain]⟩
  · cases hd with
    | idle hidle => exact transfer_tried hconnected ht (conversed_nil c) (.ready hhit hidle)
    | renewed hpending hok =>
      have haccepted : renewal.Acknowledged := Exchange.acknowledged_iff.2 ⟨_, hdemand.symm.trans hok⟩
      exact transfer_tried hconnected ht hsaid (.renewed hhit hpending hrenews haccepted)

/-! ## The whole access -/

/-- How a sector comes to count as authorized. -/
inductive BlockAccess.Ensured (a : BlockAccess) (c : Situation Link Card ω) : Situation Link Card ω → Prop where
  | opened {c' : Situation Link Card ω} {said : List Exchange} (hmiss : c.state.cachedAuth a.sector ≠ some a.required)
      (hsaid : Conversed said c c') (hopens : a.Opens true said) (hidle : c'.state.coupler.authPending = false) :
      Ensured a c c'
  | recorded (hhit : c.state.cachedAuth a.sector = some a.required) : Ensured a c c

theorem access_tried (hconnected : ∀ w, t.isConnected w = true) (ht : t.FailsPlainly) (hc : Sound c.state)
    (hready : a.Ready c.state) (h : a.Ensured c c') :
    Ensures t.responder (Coupler.access a.page.address a.page.command a.page.refusal) c'.below fun x d =>
      ∃ said again, a.Tried c said again x d := by
  cases h with
  | opened hmiss hsaid hopens hidle =>
    exact Coupler.ensures_access_of_idle hidle
      (transfer_tried (d := c'.below) hconnected ht hsaid (.opened hmiss hopens))
  | recorded hhit => exact access_tried_of_hit hconnected ht hc hready hhit

/-- What an access has come to. -/
def BlockAccess.Concluded {α : Type} (a : BlockAccess) (f : Bytes → α) (c : Situation Link Card ω) (x : Except Failure α)
    (c' : Situation Link Card ω) : Prop :=
  ∃ said y, Conversed said c c' ∧ a.Course c.state said ∧ Decides said y ∧ x = y.map f

theorem tryAgain_concluded {α : Type} {f : Bytes → α} (hconnected : ∀ w, t.isConnected w = true) (ht : t.FailsPlainly)
    (hready : a.Ready c'.state) (hsaid : Conversed said c c') (htries : a.Tries c.state true said) :
    Ensures t.responder
      (tryAgain a.sector a.selector (f <$> Coupler.access a.page.address a.page.command a.page.refusal)) c'
      (a.Concluded f c) := by
  unfold tryAgain
  refine ensures_modify_bind ?_
  let forgotten : Situation Link Card ω := { c' with state := invalidate a.sector c'.state }
  have hready' : a.Ready forgotten.state := hready.of_setup ⟨rfl, rfl, rfl⟩
  refine Ensures.bind (authorize_opens (c := forgotten) hconnected hready') ?_ ?_
  · rintro _ c'' ⟨again, hagain, -, hopens, hidle⟩
    refine ensures_onCoupler (Ensures.map (Coupler.ensures_access_of_idle hidle ?_))
    refine (Coupler.transfer_sent hconnected ht a.page c''.below).mono ?_
    rintro x d ⟨y, hsent⟩
    have hdecides : Decides [y] x := ⟨y, rfl, hsent.result⟩
    exact ⟨said ++ again ++ [y], x, (hsaid.append hagain).append hsent.conversed, .twice htries hopens hsent.command,
      decides_append hdecides _, rfl⟩
  · rintro e c'' ⟨again, hagain, -, hopens, hdecides⟩
    exact ⟨said ++ again, .error e, hsaid.append hagain, .shut htries hopens, decides_append hdecides _, rfl⟩

theorem withAuthRetry_concluded {α : Type} {f : Bytes → α} (hconnected : ∀ w, t.isConnected w = true)
    (ht : t.FailsPlainly) (hc : Sound c.state) (hready : a.Ready c.state) :
    Ensures t.responder
      (withAuthRetry a.sector a.selector (f <$> Coupler.access a.page.address a.page.command a.page.refusal)) c
      (a.Concluded f c) := by
  have hkey := (authorizable_eq_ok hready.authorizable).1
  refine ensures_withAuthRetry (R := fun c' => a.Ensured c c' ∧ a.Ready c'.state) (fun e he => ?_) ?_ ?_
  · cases hkey.symm.trans he
  · -- The way to the first try: the key is recorded, or the sector is opened for it.
    intro entry hentry
    cases hkey.symm.trans hentry
    refine ensures_ensureAuthorized hkey (fun hhit => ⟨hkey, .recorded hhit, hready⟩) fun hmiss => ?_
    refine (authorize_opens hconnected hready).mono ?_
    rintro (e | _) c' ⟨said, hsaid, hready', h⟩
    · exact ⟨said, .error e, hsaid, .once (.closed (.shut hmiss h.1)), h.2, rfl⟩
    · exact ⟨(authorizable_eq_ok hready'.authorizable).1, .opened hmiss hsaid h.1 h.2, hready'⟩
  · -- The first try has been made from there; the retry is decided by what it has come to.
    rintro c' ⟨hensured, hready'⟩
    refine Ensures.map ((access_tried hconnected ht hc hready hensured).mono ?_)
    rintro x d ⟨said, again, htried⟩
    have hsaid : Conversed said c (c'.resume d) := htried.conversed
    cases again with
    | true =>
      rcases htried.again_iff.1 rfl with ⟨status, rfl⟩
      exact tryAgain_concluded hconnected ht (hready'.of_setup ⟨rfl, rfl, rfl⟩) hsaid htried.tries
    | false =>
      have hlost : ∀ status, x ≠ .error (.error (.authFailed status)) :=
        fun status hx => nomatch htried.again_iff.2 ⟨status, hx⟩
      have hdone : a.Concluded f c (x.map f) (c'.resume d) :=
        ⟨said, x, hsaid, .once htried.tries, htried.decides, rfl⟩
      unfold UnlessAuthFailed
      split
      · rename_i hx
        cases x with
        | ok data => cases hx
        | error e =>
          cases hx
          exact absurd rfl (hlost _)
      · exact hdone

/-! ## Operations on a single block -/

/-- The operations on a single block that pass their checks, each with the access that it makes.  The policy calls for
the key, but a trailer is written under key B. -/
inductive Admits (card : Card) : Operation → BlockAccess → Prop where
  | readBlock {block : UInt16} {sector code : UInt8} {selector : KeySelector} {entry : KeyEntry}
      (hblock : card.dataSector block .read = .ok sector) (hpermitted : card.chooseKey sector .read = .ok selector)
      (hkey : card.findKey selector = .ok entry) (hcode : selector.code? = some code) :
      Admits card (.readBlock block) ⟨sector, selector, code, entry, .read (UInt8.ofNat block.toNat) blockLength⟩
  | writeBlock {block : UInt16} {data : Block} {sector code : UInt8} {selector : KeySelector} {entry : KeyEntry}
      {hsize : data.bytes.length ≤ Defect.maxData} (hblock : card.dataSector block .write = .ok sector)
      (hpermitted : card.chooseKey sector .write = .ok selector) (hkey : card.findKey selector = .ok entry)
      (hcode : selector.code? = some code) :
      Admits card (.writeBlock block data)
        ⟨sector, selector, code, entry, .write (UInt8.ofNat block.toNat) data.bytes hsize⟩
  | readTrailer {sector address code : UInt8} {selector : KeySelector} {entry : KeyEntry}
      (haddress : card.trailerAddress sector = .ok address) (hpermitted : card.chooseKey sector .read = .ok selector)
      (hkey : card.findKey selector = .ok entry) (hcode : selector.code? = some code) :
      Admits card (.readTrailer sector) ⟨sector, selector, code, entry, .read address blockLength⟩
  | changeTrailer {sector address code : UInt8} {trailer : SectorTrailer} {entry : KeyEntry}
      {hsize : trailer.toBytes.length ≤ Defect.maxData} (haddress : card.trailerAddress sector = .ok address)
      (hvalid : trailer.validate = .ok ()) (hkey : card.findKey .b = .ok entry)
      (hcode : KeySelector.b.code? = some code) :
      Admits card (.changeTrailer sector trailer) ⟨sector, .b, code, entry, .write address trailer.toBytes hsize⟩

theorem Admits.ready {op : Operation} {card : Card} (h : Admits card op a) (hlegal : Legal card) : a.Ready card := by
  cases h with
  | readBlock hblock _ hkey hcode | writeBlock hblock _ hkey hcode =>
    rcases dataBlock_of_dataSector hblock with ⟨_, -, -, haddress⟩
    exact ⟨hlegal.authorizable haddress.toInSector.sector_lt hkey, hcode⟩
  | readTrailer haddress _ hkey hcode | changeTrailer haddress _ hkey hcode =>
    exact ⟨hlegal.authorizable (inSector_of_trailerAddress haddress).2.sector_lt hkey, hcode⟩

/-- What an operation on a single block makes of the data of the last reply. -/
def Operation.conclude : Operation → Bytes → Except Failure Operation.Result
  | .readBlock _, data => if data.length < blockSize then .error (.error .size) else .ok (some data)
  | .readTrailer _, data =>
    if data.length < blockSize then .error (.error .size) else .ok (some (data.take blockSize))
  | _, _ => .ok none

/-- What an operation on a single block has come to. -/
def BlockAccess.Completed (a : BlockAccess) (op : Operation) (c : Situation Link Card ω)
    (x : Except Failure Operation.Result) (c' : Situation Link Card ω) : Prop :=
  ∃ said last, Conversed said c c' ∧ a.Course c.state said ∧ said.getLast? = some last ∧
    x = (Failure.lift last.outcome).bind op.conclude

theorem BlockAccess.Concluded.completed {α : Type} {f : Bytes → α} {op : Operation} {p : CardM α}
    {g : α → CardM Operation.Result} (h : Ensures t.responder p c (a.Concluded f c))
    (hg : ∀ data c', Ensures t.responder (g (f data)) c' fun x c'' => x = op.conclude data ∧ c''.history = c'.history) :
    Ensures t.responder (p >>= g) c (a.Completed op c) := by
  -- What follows the access sends nothing, so it is said what was said before, and only the result is renamed.
  refine h.bind ?_ ?_
  · rintro b c' ⟨said, y, hsaid, hcourse, ⟨last, hlast, rfl⟩, hb⟩
    cases hout : last.outcome with
    | error e =>
      rw [hout] at hb
      cases hb
    | ok data =>
      rw [hout] at hb
      cases hb
      refine (hg data c').mono ?_
      rintro x c'' ⟨rfl, hsame⟩
      exact ⟨said, last, hsame.trans hsaid, hcourse, hlast, by rw [hout]; rfl⟩
  · rintro e c' ⟨said, y, hsaid, hcourse, ⟨last, hlast, rfl⟩, hb⟩
    refine ⟨said, last, hsaid, hcourse, hlast, ?_⟩
    cases hout : last.outcome with
    | error e =>
      rw [hout] at hb
      cases hb
      rfl
    | ok data =>
      rw [hout] at hb
      cases hb

theorem readPage_eq_map (address : UInt8) :
    Coupler.readPage address blockLength =
      id <$> Coupler.access (PageAccess.read address blockLength).address (PageAccess.read address blockLength).command
        (PageAccess.read address blockLength).refusal := by
  rw [id_map]
  exact Coupler.readPage_eq address blockLength

theorem writePage_eq_map (address : UInt8) {page : Bytes} (hsize : page.length ≤ Defect.maxData) :
    Coupler.writePage address page =
      (fun _ => ()) <$> Coupler.access (PageAccess.write address page hsize).address
        (PageAccess.write address page hsize).command (PageAccess.write address page hsize).refusal := by
  rw [map_eq_pure_bind]
  exact Coupler.writePage_eq address hsize

theorem narrow_of_dataSector {card : Card} {block : UInt16} {access : Access} {sector : UInt8}
    (h : card.dataSector block access = .ok sector) : Checked.narrow block = .ok (UInt8.ofNat block.toNat) := by
  rcases dataBlock_of_dataSector h with ⟨address, hnarrow, heq, -⟩
  rw [hnarrow, ← heq, UInt8.ofNat_toNat]

theorem ensures_perform_completed (hconnected : ∀ w, t.isConnected w = true) (ht : t.FailsPlainly) (hc : Sound c.state)
    {op : Operation} (hop : Admits c.state op a) : Ensures t.responder (perform op) c (a.Completed op c) := by
  have hready := hop.ready hc.legal
  -- One case for each operation on a block: its checks pass, and what is left is an access and a conclusion.
  cases hop with
  | @readBlock block sector code selector entry hblock hpermitted hkey hcode =>
    have hreads := withAuthRetry_concluded (f := id) hconnected ht hc hready
    rw [← readPage_eq_map] at hreads
    simp only [perform, readBlock, readAuthorized, map_bind]
    refine ensures_inspect_lift_bind_of_ok hblock (ensures_inspect_bind_of_ok hpermitted ?_)
    rw [narrow_of_dataSector hblock, ofExcept_ok, pure_bind]
    refine BlockAccess.Concluded.completed hreads fun data c' => ?_
    by_cases hshort : data.length < blockSize <;> simp [Ensures, Operation.conclude, exec_map, hshort, Except.map]
  | @writeBlock block data sector code selector entry hsize hblock hpermitted hkey hcode =>
    have hwrites := withAuthRetry_concluded (f := fun _ => ()) hconnected ht hc hready
    rw [← writePage_eq_map] at hwrites
    simp only [perform, writeBlock, writeAuthorized, bind_assoc]
    refine ensures_inspect_lift_bind_of_ok hblock (ensures_inspect_bind_of_ok hpermitted ?_)
    rw [narrow_of_dataSector hblock, ofExcept_ok, pure_bind]
    exact BlockAccess.Concluded.completed hwrites fun _ c' => ensures_pure ⟨rfl, rfl⟩
  | @readTrailer sector address code selector entry haddress hpermitted hkey hcode =>
    have hreads := withAuthRetry_concluded (f := id) hconnected ht hc hready
    rw [← readPage_eq_map] at hreads
    simp only [perform, readTrailer, bind_assoc]
    refine ensures_inspect_bind_of_ok haddress (ensures_inspect_bind_of_ok hpermitted ?_)
    refine BlockAccess.Concluded.completed hreads fun data c' => ?_
    by_cases hshort : data.length < blockSize
    · simp [Ensures, Operation.conclude, exec_map, hshort, Except.map]
    · have hlong : blockSize ≤ data.length := Nat.le_of_not_lt hshort
      rcases SectorTrailer.ofBytes_block ⟨data.take blockSize, by simp [hlong]⟩ with ⟨trailer, htrailer, hbytes⟩
      simp [Ensures, Operation.conclude, Checked.front, hshort, hlong, htrailer, hbytes]
  | @changeTrailer sector address code trailer entry hsize haddress hvalid hkey hcode =>
    have hwrites := withAuthRetry_concluded (f := fun _ => ()) hconnected ht hc hready
    rw [← writePage_eq_map] at hwrites
    simp only [perform, changeTrailer, bind_assoc]
    refine ensures_inspect_bind_of_ok haddress ?_
    rw [hvalid, require_ok, pure_bind]
    refine BlockAccess.Concluded.completed hwrites fun _ c' => ?_
    simp [Ensures, Operation.conclude, exec_map, Except.map]

/-- Whatever a card was operated for and whatever comes of it now, an operation on a single block of a connected card
authorizes the sector first exactly if the cache does not record the key, and otherwise renews an authentication that
is pending.  It sends its command, and once more after the sector was authorized again exactly if the renewal was
refused or the answer was a request to authenticate.  The last exchange decides. -/
theorem course_of_operation (hconnected : ∀ w, t.isConnected w = true) (ht : t.FailsPlainly) (hc : Operated c.state)
    {op : Operation} (hop : Admits c.state op a) :
    let run := exec t.responder (perform op) c
    ∃ said last, Conversed said c run.2 ∧ a.Course c.state said ∧ said.length ≤ 6 ∧ said.getLast? = some last ∧
      run.1 = (Failure.lift last.outcome).bind op.conclude := by
  intro run
  rcases ensures_perform_completed hconnected ht hc.sound hop with ⟨said, last, hsaid, hcourse, hlast, hresult⟩
  exact ⟨said, last, hsaid, hcourse, hcourse.length_le, hlast, hresult⟩

theorem Operated.after {c : Situation Link Card ω} (h : Operated c.state) (t : Transport ω) (ops : List Operation) :
    Operated (Card.after t ops c).state := by
  induction ops generalizing c with
  | nil =>
    rw [after_nil]
    exact h
  | cons op rest ih =>
    rw [after_cons]
    exact ih (.perform t op c h)

/-- A block could not be read, so authentication is pending.  It will be refused, and the key accepted once it was
loaded again. -/
def beforeRenewal : Situation Link Card (List Bytes) :=
  after .script [.setKey .a .transport .nonVolatile 0, .readBlock 4]
    (start .small [[0x90, 0x00], [0x90, 0x00], [0x6f, 0x00], [0x63, 0x00], [0x90, 0x00], [0x90, 0x00],
      List.replicate 16 0x2a ++ [0x90, 0x00]])

theorem course_of_operation_renewal :
    let t := Transport.script
    let a : BlockAccess := ⟨1, .a, 0x60, ⟨.transport, .nonVolatile, 0⟩, .read 5 16⟩
    let run := exec t.responder (perform (.readBlock 5)) beforeRenewal
    (∀ w, t.isConnected w = true) ∧ t.FailsPlainly ∧ Operated beforeRenewal.state ∧
      Admits beforeRenewal.state (.readBlock 5) a ∧
      (∃ said last, Conversed said beforeRenewal run.2 ∧ a.Course beforeRenewal.state said ∧ said.length ≤ 6 ∧
        said.getLast? = some last ∧ run.1 = (Failure.lift last.outcome).bind (Operation.conclude (.readBlock 5))) ∧
      run.1 = .ok (some (List.replicate 16 0x2a)) ∧
      (run.2.history.drop beforeRenewal.history.length).map (·.request) =
        [.isConnected, .transmit [0xff, 0x88, 0x00, 0x05, 0x60, 0x00],
          .isConnected, .transmit [0xff, 0x82, 0x20, 0x00, 0x06, 0xff, 0xff, 0xff, 0xff, 0xff, 0xff],
          .isConnected, .transmit [0xff, 0x88, 0x00, 0x04, 0x60, 0x00],
          .isConnected, .transmit [0xff, 0xb0, 0x00, 0x05, 0x10]] := by
  intro t a run
  have hconnected : ∀ w, t.isConnected w = true := fun _ => rfl
  have hoperated : Operated beforeRenewal.state := (Operated.fresh .small).after t _
  have hadmits : Admits beforeRenewal.state (.readBlock 5) a := by
    refine @Admits.readBlock _ 5 _ _ _ _ ?_ ?_ ?_ rfl
    all_goals decide +kernel
  exact ⟨hconnected, Transport.failsPlainly_script, hoperated, hadmits,
    course_of_operation hconnected Transport.failsPlainly_script hoperated hadmits, by decide +kernel, by decide +kernel⟩

end SectorCard.Card
