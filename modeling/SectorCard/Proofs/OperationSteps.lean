import SectorCard.Proofs.TrailerSteps

/-!
# Operations as sequences of steps

Every operation of a card is made of a few steps: authorizing a sector, one access to a page of a sector that
counts as authorized, and changes that send nothing.  Which accesses these can be, and under which key, is
fixed by the operation and by the setup of the card: `Operation.Accesses` lists them.

A statement that the steps of an operation keep is kept by the operation (`StepsKeep.perform`).  If it depends on where
the steps are taken, it is enough that they keep it in the sectors that the operation addresses (`StepsKeepIn.perform`).
-/

namespace SectorCard.Card

open Procedure

variable {ω : Type} {t : Transport ω} {I : Situation Link Card ω → Prop} {c : Situation Link Card ω}

/-! ## What accesses leave alone -/

structure SameSetup (card card' : Card) : Prop where
  geometry : card'.geometry = card.geometry
  keys : card'.keys = card.keys
  policies : card'.policies = card.policies

namespace SameSetup

variable {card card' card'' : Card}

theorem refl (card : Card) : SameSetup card card := ⟨rfl, rfl, rfl⟩

theorem trans (h : SameSetup card card') (h' : SameSetup card' card'') : SameSetup card card'' :=
  ⟨h'.geometry.trans h.geometry, h'.keys.trans h.keys, h'.policies.trans h.policies⟩

theorem symm (h : SameSetup card card') : SameSetup card' card :=
  ⟨h.geometry.symm, h.keys.symm, h.policies.symm⟩

theorem findKey (h : SameSetup card card') (selector : KeySelector) :
    card'.findKey selector = card.findKey selector := by
  simp only [Card.findKey, h.keys]

theorem authorizable (h : SameSetup card card') (sector : UInt8) (selector : KeySelector) :
    card'.authorizable sector selector = card.authorizable sector selector := by
  simp only [Card.authorizable, h.findKey, h.geometry]

theorem dataSector (h : SameSetup card card') (block : UInt16) (access : Access) :
    card'.dataSector block access = card.dataSector block access := by
  simp only [Card.dataSector, h.geometry]

theorem policy (h : SameSetup card card') (sector : UInt8) : card'.policy sector = card.policy sector := by
  simp only [Card.policy, h.geometry, h.policies]

theorem chooseKey (h : SameSetup card card') (sector : UInt8) (access : Access) :
    card'.chooseKey sector access = card.chooseKey sector access := by
  simp only [Card.chooseKey, h.policy]

theorem trailerAddress (h : SameSetup card card') (sector : UInt8) :
    card'.trailerAddress sector = card.trailerAddress sector := by
  simp only [Card.trailerAddress, h.geometry]

theorem plannedTrailer (h : SameSetup card card') (sector : UInt8) (selector : KeySelector) :
    card'.plannedTrailer sector selector = card.plannedTrailer sector selector := by
  simp only [Card.plannedTrailer, h.policy, h.findKey]

end SameSetup

def Authorized (sector : UInt8) (selector : KeySelector) (card : Card) : Prop :=
  ∃ entry, card.findKey selector = .ok entry ∧ card.cachedAuth sector = some ⟨selector, entry.slot⟩

theorem authorizable_eq_ok {card : Card} {sector : UInt8} {selector : KeySelector} {entry : KeyEntry}
    (h : card.authorizable sector selector = .ok entry) :
    card.findKey selector = .ok entry ∧ sector.toNat < card.geometry.sectorCount ∧
      entry.store.HasSlot entry.slot := by
  unfold authorizable at h
  split at h
  · cases h
  · rename_i found hkey
    split at h
    · cases h
    · rename_i first hfirst
      split at h
      · cases h
      · rename_i hslot
        cases h
        exact ⟨hkey, (Geometry.toNat_of_firstBlock hfirst).1, (KeyStore.checkSlot_eq_ok_iff _ _).1 hslot⟩

theorem cachedAuth_afterAuthorize (card : Card) (sector other : UInt8) (selector : KeySelector)
    (entry : KeyEntry) :
    (card.afterAuthorize sector selector entry).cachedAuth other =
      if other = sector then some ⟨selector, entry.slot⟩ else card.cachedAuth other :=
  cachedAuth_of_cache_insert rfl other

theorem authorize_setup (sector : UInt8) (selector : KeySelector) :
    Ensures t.responder (authorize sector selector) c fun x c' =>
      SameSetup c.state c'.state ∧ NoDefect x ∧ (x = .ok () → Authorized sector selector c'.state) := by
  refine (authorize_outcome t sector selector c).mono ?_
  intro x c' h
  cases h with
  | rejected he => exact ⟨.refl _, trivial, fun h => nomatch h⟩
  | notLoaded hentry he => exact ⟨.refl _, trivial, fun h => nomatch h⟩
  | notAccepted hentry hcode hload he => exact ⟨⟨rfl, rfl, rfl⟩, trivial, fun h => nomatch h⟩
  | @authorized entry _ _ _ hentry hcode hload hauth =>
    refine ⟨⟨rfl, rfl, rfl⟩, trivial, fun _ => ⟨entry, (authorizable_eq_ok hentry).1, ?_⟩⟩
    simp [cachedAuth_afterAuthorize]

/-- What withstands reaching the first block of a sector is kept by authorizing the sector. -/
theorem ensures_authorize_of_withstandsAt {J : Situation Link Coupler ω → Prop} {sector : UInt8}
    (h : sector.toNat < c.state.geometry.sectorCount → Coupler.WithstandsAt t (firstAddress sector) J)
    (hc : J c.below) (selector : KeySelector) :
    Ensures t.responder (authorize sector selector) c fun _ c' => J c'.below := by
  refine (authorize_outcome t sector selector c).mono ?_
  intro x c' hx
  -- A sector that can be authorized exists, and its key fits its slot.
  have hloaded : ∀ {entry}, c.state.authorizable sector selector = .ok entry →
      Coupler.WithstandsAt t (firstAddress sector) J ∧ J (c.below.exchanged t (.loading entry)) := by
    intro entry hentry
    rcases authorizable_eq_ok hentry with ⟨-, hsector, legal⟩
    exact ⟨h hsector, (h hsector).loading c.below entry legal hc⟩
  cases hx with
  | rejected he => exact hc
  | notLoaded hentry he => exact (hloaded hentry).2
  | notAccepted hentry hcode hload he =>
    rcases hloaded hentry with ⟨hat, hd⟩
    exact hat.state _ _ (hat.authenticating _ _ _ _ hcode hd)
  | authorized hentry hcode hload hauth =>
    rcases hloaded hentry with ⟨hat, hd⟩
    exact hat.state _ _ (hat.authenticating _ _ _ _ hcode hd)

/-- What withstands loading keys and authenticating is kept by authorizing. -/
theorem ensures_authorize_of_withstands {J : Situation Link Coupler ω → Prop} (h : Coupler.Withstands t J)
    (hc : J c.below) (sector : UInt8) (selector : KeySelector) :
    Ensures t.responder (authorize sector selector) c fun _ c' => J c'.below :=
  ensures_authorize_of_withstandsAt (fun _ => h.at _) hc selector

theorem ensureAuthorized_setup (sector : UInt8) (selector : KeySelector) {entry : KeyEntry}
    (hkey : c.state.findKey selector = .ok entry) :
    Ensures t.responder (ensureAuthorized sector selector entry.slot) c fun x c' =>
      SameSetup c.state c'.state ∧ NoDefect x ∧ (x = .ok () → Authorized sector selector c'.state) := by
  refine ensures_ensureAuthorized hkey ?_ ?_
  · intro hit
    exact ⟨.refl _, trivial, fun _ => ⟨entry, hkey, hit⟩⟩
  · intro _
    exact authorize_setup sector selector

theorem UnlessAuthFailed.again {α : Type} {Q : Except Failure α → Situation Link Card ω → Prop}
    {P P' : Situation Link Card ω → Prop} {x : Except Failure α} (h : UnlessAuthFailed Q P x c)
    (again : ∀ c, P c → P' c) : UnlessAuthFailed Q P' x c := by
  unfold UnlessAuthFailed at h
  split at h
  · exact again _ h
  · rename_i hother
    unfold UnlessAuthFailed
    split
    · exact absurd rfl (hother _)
    · exact h

/-- An operation is tried once, and once more if the first try failed to authenticate.  `I` is what holds before the
first try, and `J` what a lost authentication leaves behind. -/
theorem ensures_withAuthRetry_of_tries {α : Type} {sector : UInt8} {selector : KeySelector} {op : CouplerM α}
    {Q : Except Failure α → Situation Link Card ω → Prop} {J : Situation Link Card ω → Prop} (hc : I c)
    (hauthorize : Keeps t.responder I (authorize sector selector))
    (hagain : Keeps t.responder J (authorize sector selector))
    (hforget : ∀ c, J c → J { c with state := invalidate sector c.state })
    (hfail : ∀ e c, I c ∨ J c → Q (.error (.error e)) c)
    (first : ∀ c, I c → Authorized sector selector c.state →
      Ensures t.responder op c.below fun x d => UnlessAuthFailed Q J x (c.resume d))
    (second : ∀ c, J c → Authorized sector selector c.state →
      Ensures t.responder op c.below fun x d => Q x (c.resume d)) :
    Ensures t.responder (withAuthRetry sector selector op) c Q := by
  -- A first try and a second one fail in the same way; they differ in what is known of the state.
  have herror : ∀ (e : Failure) c', I c' ∨ J c' → NoDefect (.error e : Except Failure Unit) → Q (.error e) c' := by
    intro e c' hc' hplain
    cases e with
    | error e => exact hfail e c' hc'
    | defect d => exact hplain.elim
  refine ensures_withAuthRetry (R := fun c' => I c' ∧ Authorized sector selector c'.state)
    (fun e _ => hfail e c (.inl hc)) ?_ ?_
  · intro entry hkey
    have hkeep : Ensures t.responder (ensureAuthorized sector selector entry.slot) c fun _ c' => I c' :=
      ensures_ensureAuthorized hkey (fun _ => hc) (fun _ => hauthorize c hc)
    refine (hkeep.and (ensureAuthorized_setup sector selector hkey)).mono ?_
    rintro x c' ⟨hc', hsetup, hplain, hauth⟩
    cases x with
    | ok _ => exact ⟨by rw [hsetup.findKey, hkey], hc', hauth rfl⟩
    | error e => exact herror e c' (.inl hc') hplain
  · rintro c' ⟨hc', hauth⟩
    refine (first c' hc' hauth).mono fun x d hd => hd.again fun c'' hc'' => ?_
    -- The second try starts from a sector that was authorized anew.
    refine ensures_modify_bind ?_
    refine ((hagain _ (hforget _ hc'')).and (authorize_setup sector selector)).bind ?_ ?_
    · rintro _ c₃ ⟨hc₃, -, -, hauth₃⟩
      exact ensures_onCoupler (second c₃ hc₃ (hauth₃ rfl))
    · rintro e c₃ ⟨hc₃, -, hplain, -⟩
      exact herror e c₃ (.inr hc₃) hplain

/-- What authorizing keeps, and an operation on an authorized sector turns into `Q`, is turned into `Q` by
running the operation with one more try.  A lost authentication may leave no more behind than `I`. -/
theorem ensures_withAuthRetry_of_keeps {α : Type} {sector : UInt8} {selector : KeySelector}
    {op : CouplerM α} {Q : Except Failure α → Situation Link Card ω → Prop} (hc : I c)
    (hauthorize : Keeps t.responder I (authorize sector selector))
    (hforget : ∀ c, I c → I { c with state := invalidate sector c.state })
    (hfail : ∀ e c, I c → Q (.error (.error e)) c)
    (hlost : ∀ status c, Q (.error (.error (.authFailed status))) c → I c)
    (hop : ∀ c, I c → Authorized sector selector c.state →
      Ensures t.responder op c.below fun x d => Q x (c.resume d)) :
    Ensures t.responder (withAuthRetry sector selector op) c Q := by
  refine ensures_withAuthRetry_of_tries (J := I) hc hauthorize hauthorize hforget
    (fun e c h => hfail e c (h.elim id id)) (fun c hc hauth => (hop c hc hauth).mono fun x d hd => ?_) hop
  unfold UnlessAuthFailed
  split
  · exact hlost _ _ hd
  · exact hd

/-! ## Which accesses an operation makes -/

def Operation.reads : Operation → Bool
  | .readBlock _ | .readLinear _ _ | .readTrailer _ | .applyPolicy _ _ true => true
  | _ => false

/-- The sectors that an operation addresses: the one it names, or those of the blocks it reads or writes. -/
def Operation.Addresses : Operation → (sector : UInt8) → Prop
  | .setKey _ _ _ _, _ | .setPolicy _ _, _ => False
  | .ensureAuthorized sector _ _, other | .invalidate sector, other | .readTrailer sector, other
  | .changeTrailer sector _, other | .applyPolicy sector _ _, other => other = sector
  | .readBlock block, other | .writeBlock block _, other => other.toNat = Geometry.sectorIndex block.toNat
  | .readLinear start length, other =>
    ∃ i < Bytes.pieceCount blockSize length, other.toNat = Geometry.sectorIndex (start.toNat + i)
  | .writeLinear start data, other =>
    ∃ i < Bytes.pieceCount blockSize data.length, other.toNat = Geometry.sectorIndex (start.toNat + i)

/-- The pages that an operation writes as data, and where. -/
def Operation.Writes : Operation → (address : UInt8) → (page : Bytes) → Prop
  | .writeBlock block data, address, page => address.toNat = block.toNat ∧ page = data.bytes
  | .writeLinear start data, address, page =>
    ∃ i piece, (Bytes.pieces blockSize data)[i]? = some piece ∧ address.toNat = start.toNat + i ∧
      page = Bytes.fit blockSize piece
  | _, _, _ => False

/-- The accesses that an operation may make: the sector, the key that the sector has to be authorized with,
the address of the page, and the command. -/
inductive Operation.Accesses (card : Card) :
    Operation → (sector : UInt8) → KeySelector → (address : UInt8) → Command → Prop where
  | reading {op : Operation} {sector address : UInt8} {selector : KeySelector} (hreads : op.reads = true)
      (hkey : card.chooseKey sector .read = .ok selector) (haddress : InSector card.geometry sector address) :
      Accesses card op sector selector address (.reading address blockLength)
  | writing {op : Operation} {sector address : UInt8} {selector : KeySelector} {page : Bytes}
      (hwrites : op.Writes address page) (hkey : card.chooseKey sector .write = .ok selector)
      (haddress : DataBlock card.geometry .write sector address) (hpage : page.length = blockSize) :
      Accesses card op sector selector address (.writing address page)
  | changing {sector address : UInt8} {trailer : SectorTrailer}
      (haddress : card.trailerAddress sector = .ok address) (hvalid : trailer.validate = .ok ()) :
      Accesses card (.changeTrailer sector trailer) sector .b address (.writing address trailer.toBytes)
  | applying {sector address : UInt8} {selector : KeySelector} {keepPrevious : Bool} {trailer : SectorTrailer}
      (haddress : card.trailerAddress sector = .ok address)
      (hplan : card.plannedTrailer sector selector = .ok trailer) :
      Accesses card (.applyPolicy sector selector keepPrevious) sector selector address
        (.writing address trailer.toBytes)
  | restoring {sector address : UInt8} {selector : KeySelector} {previous : SectorTrailer}
      (haddress : card.trailerAddress sector = .ok address) :
      Accesses card (.applyPolicy sector selector true) sector selector address
        (.writing address previous.toBytes)

theorem Operation.Accesses.inSector {card : Card} {op : Operation} {sector address : UInt8}
    {selector : KeySelector} {command : Command} (h : op.Accesses card sector selector address command) :
    InSector card.geometry sector address := by
  cases h with
  | reading _ _ haddress => exact haddress
  | writing _ _ haddress _ => exact haddress.toInSector
  | changing haddress _ => exact (inSector_of_trailerAddress haddress).2
  | applying haddress _ => exact (inSector_of_trailerAddress haddress).2
  | restoring haddress => exact (inSector_of_trailerAddress haddress).2

theorem Operation.Accesses.command_eq {card : Card} {op : Operation} {sector address : UInt8}
    {selector : KeySelector} {command : Command} (h : op.Accesses card sector selector address command) :
    command = .reading address blockLength ∨
      ∃ page, page.length = blockSize ∧ command = .writing address page := by
  cases h with
  | reading => exact .inl rfl
  | writing _ _ _ hpage => exact .inr ⟨_, hpage, rfl⟩
  | changing => exact .inr ⟨_, by simp [blockSize], rfl⟩
  | applying => exact .inr ⟨_, by simp [blockSize], rfl⟩
  | restoring => exact .inr ⟨_, by simp [blockSize], rfl⟩

/-! ## Statements kept by the steps -/

/-- The steps of which operations are made keep `I`, as long as accesses are among those of `A`. -/
structure StepsKeep (t : Transport ω) (I : Situation Link Card ω → Prop)
    (A : UInt8 → KeySelector → UInt8 → Command → Prop) : Prop where
  authorize : ∀ sector selector, Keeps t.responder I (authorize sector selector)
  access : ∀ c sector selector address command other, I c → Authorized sector selector c.state →
    A sector selector address command →
    Ensures t.responder (Coupler.access address command other) c.below fun _ d => I (c.resume d)
  forget : ∀ c sector, I c → I { c with state := invalidate sector c.state }

/-- The steps of which operations are made keep `I`, as long as they are taken in sectors of `S` and accesses are among
those of `A`. -/
structure StepsKeepIn (t : Transport ω) (S : UInt8 → Prop) (I : Situation Link Card ω → Prop)
    (A : UInt8 → KeySelector → UInt8 → Command → Prop) : Prop where
  authorize : ∀ sector selector, S sector → Keeps t.responder I (authorize sector selector)
  access : ∀ c sector selector address command other, I c → Authorized sector selector c.state →
    A sector selector address command →
    Ensures t.responder (Coupler.access address command other) c.below fun _ d => I (c.resume d)
  forget : ∀ c sector, S sector → I c → I { c with state := invalidate sector c.state }

section Steps

variable {A : UInt8 → KeySelector → UInt8 → Command → Prop}

theorem StepsKeep.everywhere (h : StepsKeep t I A) : StepsKeepIn t (fun _ => True) I A where
  authorize sector selector _ := h.authorize sector selector
  access := h.access
  forget c sector _ := h.forget c sector

namespace StepsKeepIn

variable {S : UInt8 → Prop}

theorem ensureAuthorized (h : StepsKeepIn t S I A) {sector : UInt8} (hS : S sector) (selector : KeySelector)
    (slot : UInt8) : Keeps t.responder I (ensureAuthorized sector selector slot) := by
  intro c hc
  refine ensures_ensureAuthorized_at (fun _ _ => hc) (fun _ _ _ => hc) ?_
  rintro entry hkey rfl
  exact ensures_ensureAuthorized hkey (fun _ => hc) (fun _ => h.authorize sector selector hS c hc)

theorem withAuthRetry {α : Type} (h : StepsKeepIn t S I A) {sector : UInt8} (hS : S sector) {selector : KeySelector}
    {op : CouplerM α} (hop : ∀ c, I c → Authorized sector selector c.state →
      Ensures t.responder op c.below fun _ d => I (c.resume d)) :
    Keeps t.responder I (withAuthRetry sector selector op) := by
  intro c hc
  exact ensures_withAuthRetry_of_keeps (Q := fun _ c' => I c') hc (h.authorize sector selector hS)
    (fun c hc => h.forget c sector hS hc) (fun _ _ hc => hc) (fun _ _ hc => hc) hop

theorem pageRead (h : StepsKeepIn t S I A) {sector address : UInt8} {selector : KeySelector} (hc : I c)
    (hauth : Authorized sector selector c.state) (hA : A sector selector address (.reading address blockLength)) :
    Ensures t.responder (Coupler.readPage address blockLength) c.below fun _ d => I (c.resume d) := by
  rw [Coupler.readPage_eq]
  exact h.access c sector selector address _ _ hc hauth hA

theorem pageWritten (h : StepsKeepIn t S I A) {sector address : UInt8} {selector : KeySelector} {page : Bytes}
    (hc : I c) (hauth : Authorized sector selector c.state) (hpage : page.length = blockSize)
    (hA : A sector selector address (.writing address page)) :
    Ensures t.responder (Coupler.writePage address page) c.below fun _ d => I (c.resume d) := by
  rw [Coupler.writePage_eq address (by rw [hpage]; decide)]
  exact Ensures.bind (h.access c sector selector address _ _ hc hauth hA) (fun _ d hd => ensures_pure hd)
    (fun _ d hd => hd)

theorem readPage (h : StepsKeepIn t S I A) {sector address : UInt8} (hS : S sector) {selector : KeySelector}
    (hA : A sector selector address (.reading address blockLength)) :
    Keeps t.responder I (Card.withAuthRetry sector selector (Coupler.readPage address blockLength)) :=
  h.withAuthRetry hS fun _ hc hauth => h.pageRead hc hauth hA

theorem writePage (h : StepsKeepIn t S I A) {sector address : UInt8} (hS : S sector) {selector : KeySelector}
    {page : Bytes} (hpage : page.length = blockSize) (hA : A sector selector address (.writing address page)) :
    Keeps t.responder I (Card.withAuthRetry sector selector (Coupler.writePage address page)) :=
  h.withAuthRetry hS fun _ hc hauth => h.pageWritten hc hauth hpage hA

theorem changeTrailer (h : StepsKeepIn t S I A) {sector : UInt8} (hS : S sector) {trailer : SectorTrailer}
    (hA : ∀ c address, I c → c.state.trailerAddress sector = .ok address → trailer.validate = .ok () →
      A sector .b address (.writing address trailer.toBytes)) :
    Keeps t.responder I (changeTrailer sector trailer) := by
  intro c hc
  refine ensures_changeTrailer (fun _ _ => hc) (fun _ _ => hc) ?_
  intro address haddress hvalid
  refine (h.writePage hS (by simp [blockSize]) (hA c address hc haddress hvalid) c hc).mono ?_
  intro x c' hc'
  cases x with
  | ok _ => exact h.forget c' sector hS hc'
  | error e => exact hc'

theorem rollBack (h : StepsKeepIn t S I A) {sector address : UInt8} (hS : S sector) {selector : KeySelector}
    {previous : SectorTrailer} (hA : A sector selector address (.writing address previous.toBytes)) :
    Keeps t.responder I (rollBack sector address selector previous) := by
  intro c hc
  refine ensures_rollBack ?_
  refine ((h.authorize sector selector hS c hc).and (authorize_setup sector selector)).bind ?_ (fun _ _ h => h.1)
  rintro _ c' ⟨hc', -, -, hauth⟩
  exact ensures_onCoupler (h.pageWritten hc' (hauth rfl) (by simp [blockSize]) hA)

theorem readTrailer (h : StepsKeepIn t S I A) {sector : UInt8} (hS : S sector)
    (hA : ∀ c selector address, I c → c.state.chooseKey sector .read = .ok selector →
      InSector c.state.geometry sector address → A sector selector address (.reading address blockLength)) :
    Keeps t.responder I (readTrailer sector) := by
  intro c hc
  refine ensures_readTrailer (fun _ _ => hc) (fun _ _ => hc) ?_
  intro address selector haddress hselector
  have hin := (inSector_of_trailerAddress haddress).2
  refine (h.readPage hS (hA c selector address hc hselector hin) c hc).mono ?_
  intro x c' hc'
  cases x <;> exact hc'

theorem readsKeep (h : StepsKeepIn t S I A) {W : UInt8 → Prop}
    (hS : ∀ (sector address : UInt8), sector.toNat = Geometry.sectorIndex address.toNat → W address → S sector)
    (hA : ∀ c sector selector address, I c → c.state.chooseKey sector .read = .ok selector →
      InSector c.state.geometry sector address → A sector selector address (.reading address blockLength)) :
    ReadsKeep t I W :=
  fun c sector selector address hc hkey haddress hW =>
    h.readPage (hS sector address haddress.toNat_sector hW) (hA c sector selector address hc hkey haddress) c hc

theorem writesKeep (h : StepsKeepIn t S I A) {W : UInt8 → Bytes → Prop}
    (hS : ∀ (sector address : UInt8) page, sector.toNat = Geometry.sectorIndex address.toNat → W address page → S sector)
    (hA : ∀ c sector selector address page, I c → c.state.chooseKey sector .write = .ok selector →
      DataBlock c.state.geometry .write sector address → page.length = blockSize → W address page →
      A sector selector address (.writing address page)) :
    WritesKeep t I W :=
  fun c sector selector address page hc hkey haddress hpage hW =>
    h.writePage (hS sector address page haddress.toNat_sector hW) hpage
      (hA c sector selector address page hc hkey haddress hpage hW) c hc

theorem writeOrRollBack (h : StepsKeepIn t S I A) {sector address : UInt8} (hS : S sector) {selector : KeySelector}
    {trailer : SectorTrailer} {previous : Option SectorTrailer}
    (hwrite : A sector selector address (.writing address trailer.toBytes))
    (hrestore : ∀ p, previous = some p → A sector selector address (.writing address (SectorTrailer.toBytes p))) :
    Keeps t.responder I (writeOrRollBack sector address selector trailer previous) := by
  intro c hc
  refine ensures_writeOrRollBack ((h.writePage hS (by simp [blockSize]) hwrite c hc).mono fun x c' hc' => ?_)
  rcases x with (e | d) | ⟨⟩
  · cases previous with
    | none => exact hc'
    | some previous =>
      simp only [AfterWrite]
      refine (h.rollBack hS (hrestore previous rfl) c' hc').mono ?_
      intro y c'' hc''
      cases y <;> exact hc''
  · cases previous <;> exact hc'
  · exact h.forget c' sector hS hc'

theorem applyPolicy (h : StepsKeepIn t S I A) {sector : UInt8} (hS : S sector) {selector : KeySelector}
    {keepPrevious : Bool} (hread : keepPrevious = true → Keeps t.responder I (Card.readTrailer sector))
    (hwrite : ∀ c address trailer, I c → c.state.trailerAddress sector = .ok address →
      c.state.plannedTrailer sector selector = .ok trailer →
      A sector selector address (.writing address trailer.toBytes))
    (hrestore : keepPrevious = true → ∀ c address previous, I c → c.state.trailerAddress sector = .ok address →
      A sector selector address (.writing address (SectorTrailer.toBytes previous))) :
    Keeps t.responder I (applyPolicy sector selector keepPrevious) := by
  intro c hc
  refine ensures_applyPolicy
    (R := fun previous c' => I c' ∧ (previous.isSome = true → keepPrevious = true))
    (fun _ _ => hc) (fun _ _ => hc) ?_ (fun _ => ⟨hc, by simp⟩) ?_
  · intro hkeep
    refine (hread hkeep c hc).mono ?_
    intro x c' hc'
    cases x with
    | ok _ => exact ⟨hc', fun _ => hkeep⟩
    | error e => exact hc'
  · rintro address trailer previous c' haddress hplan ⟨hc', hprevious⟩
    refine h.writeOrRollBack hS (hwrite c address trailer hc haddress hplan) ?_ c' hc'
    rintro p rfl
    exact hrestore (hprevious rfl) c address p hc haddress

theorem andSetup (h : StepsKeepIn t S I A) (card : Card) :
    StepsKeepIn t S (fun c => I c ∧ SameSetup card c.state) A where
  authorize sector selector hS := by
    rintro c ⟨hc, hcard⟩
    refine ((h.authorize sector selector hS c hc).and (authorize_setup sector selector)).mono ?_
    rintro x c' ⟨hc', hsetup, -⟩
    exact ⟨hc', hcard.trans hsetup⟩
  access := by
    rintro c sector selector address command other ⟨hc, hcard⟩ hauth hA
    refine (h.access c sector selector address command other hc hauth hA).mono ?_
    intro x d hd
    exact ⟨hd, hcard.trans ⟨rfl, rfl, rfl⟩⟩
  forget := by
    rintro c sector hS ⟨hc, hcard⟩
    exact ⟨h.forget c sector hS hc, hcard.trans ⟨rfl, rfl, rfl⟩⟩

end StepsKeepIn

end Steps

/-! ## Every operation -/

theorem ensures_change {f : Card → Except CardError Card} {Q : Except Failure Unit → Situation Link Card ω → Prop}
    (ok : ∀ card, f c.state = .ok card → Q (.ok ()) { c with state := card })
    (error : ∀ e, f c.state = .error e → Q (.error (.error e)) c) :
    Ensures t.responder (Procedure.change f : CardM Unit) c Q := by
  unfold Ensures exec
  cases hx : f c.state with
  | ok card => simpa [Procedure.change_of_ok hx] using ok card hx
  | error e => simpa [Procedure.change_of_error hx] using error e hx

/-- What a procedure ensures of the situation is ensured when only its result is handed on. -/
theorem ensures_bind_pure {α β : Type} {p : CardM α} {f : α → CardM β} (h : Ensures t.responder p c fun _ c' => I c')
    (hf : ∀ a, ∃ b, f a = pure b) : Ensures t.responder (p >>= f) c fun _ c' => I c' := by
  refine Ensures.bind h (fun a c' hc' => ?_) (fun _ _ hc' => hc')
  rcases hf a with ⟨b, hb⟩
  rw [hb]
  exact ensures_pure hc'

/-- Configuring a card keeps what a card that is configured anew still satisfies. -/
theorem ensures_change_pure {β : Type} {f : Card → Except CardError Card} (b : β) (hc : I c)
    (hset : ∀ card, f c.state = .ok card → I { c with state := card }) :
    Ensures t.responder ((Procedure.change f : CardM Unit) >>= fun _ => pure b) c fun _ c' => I c' :=
  ensures_bind_pure (ensures_change hset fun _ _ => hc) fun _ => ⟨b, rfl⟩

/-- What the steps keep is kept by an operation whose accesses are among theirs and whose sectors are among those in
which they may be taken, as far as it is not lost by configuring keys and policies. -/
theorem StepsKeepIn.perform {S : UInt8 → Prop} {op : Operation} (h : StepsKeepIn t S I (op.Accesses c.state))
    (hS : ∀ sector, op.Addresses sector → S sector) (hc : I c)
    (hkey : ∀ selector key store slot card, op = .setKey selector key store slot →
      setKey selector key store slot c.state = .ok card → I { c with state := card })
    (hpolicy : ∀ sector policy card, op = .setPolicy sector policy →
      setPolicy sector policy c.state = .ok card → I { c with state := card }) :
    Ensures t.responder (perform op) c fun _ c' => I c' := by
  -- The accesses depend on the setup alone, which none of the steps changes.
  have h' := h.andSetup c.state
  have hc' : I c ∧ SameSetup c.state c.state := ⟨hc, .refl _⟩
  have hreading : op.reads = true → ∀ c' sector selector address, I c' ∧ SameSetup c.state c'.state →
      c'.state.chooseKey sector .read = .ok selector → InSector c'.state.geometry sector address →
      op.Accesses c.state sector selector address (.reading address blockLength) := by
    rintro hop c' sector selector address ⟨-, hsetup⟩ hkey haddress
    exact .reading hop (hsetup.chooseKey _ _ ▸ hkey) (hsetup.geometry ▸ haddress)
  have hreads : op.reads = true → ReadsKeep t (fun c' => I c' ∧ SameSetup c.state c'.state) fun address =>
      ∀ sector : UInt8, sector.toNat = Geometry.sectorIndex address.toNat → S sector :=
    fun hop => h'.readsKeep (fun sector _ hsector hW => hW sector hsector) (hreading hop)
  have hwrites : WritesKeep t (fun c' => I c' ∧ SameSetup c.state c'.state) fun address page =>
      op.Writes address page ∧ ∀ sector : UInt8, sector.toNat = Geometry.sectorIndex address.toNat → S sector := by
    refine h'.writesKeep (fun sector _ _ hsector hW => hW.2 sector hsector) ?_
    rintro c' sector selector address page ⟨-, hsetup⟩ hkey haddress hpage hW
    exact .writing hW.1 (hsetup.chooseKey _ _ ▸ hkey) (hsetup.geometry ▸ haddress) hpage
  -- Most operations end by giving up what the last step has returned.
  have hfinish : ∀ {α : Type} {p : CardM α} {f : α → CardM Operation.Result},
      Keeps t.responder (fun c' => I c' ∧ SameSetup c.state c'.state) p →
      (∀ a, ∃ b, f a = pure b) → Ensures t.responder (p >>= f) c fun _ c' => I c' :=
    fun hp hf => ensures_bind_pure ((hp c hc').mono fun _ _ h => h.1) hf
  cases op with
  | setKey selector key store slot =>
    exact ensures_change_pure none hc fun card hset => hkey _ _ _ _ card rfl hset
  | setPolicy sector policy =>
    exact ensures_change_pure none hc fun card hset => hpolicy _ _ card rfl hset
  | ensureAuthorized sector selector slot =>
    exact hfinish (h'.ensureAuthorized (hS sector rfl) selector slot) fun _ => ⟨_, rfl⟩
  | invalidate sector =>
    exact hfinish (keeps_modify fun c hc => h'.forget c sector (hS sector rfl) hc) fun _ => ⟨_, rfl⟩
  | readBlock block =>
    have hkeeps : Keeps t.responder (fun c' => I c' ∧ SameSetup c.state c'.state) (readBlock block) :=
      (hreads rfl).readBlock fun address haddress sector hsector => hS sector (hsector.trans (by rw [haddress]))
    exact Ensures.map ((hkeeps c hc').mono fun _ _ h => h.1)
  | writeBlock block data =>
    refine hfinish (hwrites.writeBlock fun address haddress => ?_) fun _ => ⟨_, rfl⟩
    exact ⟨⟨haddress, rfl⟩, fun sector hsector => hS sector (hsector.trans (by rw [haddress]))⟩
  | readLinear start length =>
    have hkeeps : Keeps t.responder (fun c' => I c' ∧ SameSetup c.state c'.state) (readLinear start length) :=
      (hreads rfl).readRun fun i hi address haddress sector hsector =>
        hS sector ⟨i, by simpa [Bytes.pieceLengths] using hi, hsector.trans (by rw [haddress])⟩
    exact Ensures.map ((hkeeps c hc').mono fun _ _ h => h.1)
  | writeLinear start data =>
    refine hfinish (hwrites.writeRun ?_ ?_) fun _ => ⟨_, rfl⟩
    · exact fun piece hpiece => Bytes.length_le_of_mem_pieces hpiece
    · refine fun i piece hpiece address haddress => ⟨⟨i, piece, hpiece, haddress, rfl⟩, fun sector hsector => ?_⟩
      have hi : i < (Bytes.pieces blockSize data).length := (List.getElem?_eq_some_iff.1 hpiece).1
      exact hS sector ⟨i, by simpa using hi, hsector.trans (by rw [haddress])⟩
  | readTrailer sector =>
    exact hfinish (h'.readTrailer (hS sector rfl) fun c' => hreading rfl c' sector) fun _ => ⟨_, rfl⟩
  | changeTrailer sector trailer =>
    refine hfinish (h'.changeTrailer (hS sector rfl) ?_) fun _ => ⟨_, rfl⟩
    rintro c' address ⟨-, hsetup⟩ haddress hvalid
    exact .changing (hsetup.trailerAddress _ ▸ haddress) hvalid
  | applyPolicy sector selector keepPrevious =>
    refine hfinish (h'.applyPolicy (hS sector rfl) ?_ ?_ ?_) fun _ => ⟨_, rfl⟩
    · rintro rfl
      exact h'.readTrailer (hS sector rfl) fun c' => hreading rfl c' sector
    · rintro c' address trailer ⟨-, hsetup⟩ haddress hplan
      exact .applying (hsetup.trailerAddress _ ▸ haddress) (hsetup.plannedTrailer _ _ ▸ hplan)
    · rintro rfl c' address previous ⟨-, hsetup⟩ haddress
      exact .restoring (hsetup.trailerAddress _ ▸ haddress)

/-- What the steps keep in any sector is kept by an operation whose accesses are among theirs. -/
theorem StepsKeep.perform {op : Operation} (h : StepsKeep t I (op.Accesses c.state)) (hc : I c)
    (hkey : ∀ selector key store slot card, op = .setKey selector key store slot →
      setKey selector key store slot c.state = .ok card → I { c with state := card })
    (hpolicy : ∀ sector policy card, op = .setPolicy sector policy →
      setPolicy sector policy c.state = .ok card → I { c with state := card }) :
    Ensures t.responder (perform op) c fun _ c' => I c' :=
  h.everywhere.perform (fun _ _ => trivial) hc hkey hpolicy

end SectorCard.Card
