import SectorCard.Proofs.BlockArray
import SectorCard.Proofs.Exactness
import SectorCard.Simulation.Ciphers

/-!
# Pages store data

Behind a link there may be a memory of pages: it keeps what is written to a page, filled up with zeros, and gives the
front of a page when it is read.  Data that is written to such a memory over several pages, encrypted or not, is read
back as it was (`readDecrypted_writeEncrypted`).  The length of the ciphertext need not be that of the data, and neither
need be a multiple of the page length.
-/

namespace SectorCard

open Procedure
open Tag (update storePieces)

variable {ω : Type} {t : Transport ω} {memory : ω → UInt8 → Block}

/-! ## A memory of pages -/

/-- A transport keeps pages: their contents can be told from its world.  A read gives the front of a page without
authentication, and only acknowledged writes change a page. -/
structure KeepsPages (t : Transport ω) (memory : ω → UInt8 → Block) : Prop where
  connected : ∀ w, t.isConnected w = true
  reading : ∀ w address length, Link.acknowledged? (t.transmit (Command.reading address length).encode w).1 =
    some ((memory w address).bytes.take length.toNat)
  writing : ∀ w address page, page.length ≤ blockSize →
    (Link.acknowledged? (t.transmit (Command.writing address page).encode w).1).isSome = true →
      memory (t.transmit (Command.writing address page).encode w).2 = update (memory w) address (Block.fit page)
  others : ∀ w (command : Command), command.instruction.code ≠ Instruction.updateBinary.code →
    memory (t.transmit command.encode w).2 = memory w

namespace KeepsPages

variable {σ : Type} {c : Situation Link σ ω}

theorem world_exchanged (h : KeepsPages t memory) (command : Command) (c : Situation Link σ ω) :
    (c.exchanged t command).world = (t.transmit command.encode c.world).2 := by
  rw [Situation.exchanged_world, Transport.exchange_world, if_pos (h.connected c.world)]

theorem memory_exchanged (h : KeepsPages t memory) {command : Command}
    (hcommand : command.instruction.code ≠ Instruction.updateBinary.code) (c : Situation Link σ ω) :
    memory (c.exchanged t command).world = memory c.world := by
  rw [h.world_exchanged]
  exact h.others c.world command hcommand

theorem memory_written (h : KeepsPages t memory) {address : UInt8} {page data : Bytes}
    {refusal : StatusWord → CardError} (hpage : page.length ≤ blockSize)
    (hdata : t.demand (.writing address page) refusal c.world = .ok data) :
    memory (c.exchanged t (.writing address page)).world = update (memory c.world) address (Block.fit page) := by
  rw [h.world_exchanged]
  refine h.writing c.world address page hpage ?_
  rw [(Transport.demand_eq_ok_iff.1 hdata).2]
  rfl

theorem demand_reading (h : KeepsPages t memory) (address length : UInt8) (refusal : StatusWord → CardError) (w : ω) :
    t.demand (.reading address length) refusal w = .ok ((memory w address).bytes.take length.toNat) :=
  Transport.demand_eq_ok_iff.2 ⟨h.connected w, h.reading w address length⟩

end KeepsPages

namespace Coupler

variable {c d : Situation Link Coupler ω} {start address : UInt8}

/-! ## Writing pages -/

/-- What has become of the pages and of the coupler after pages were written, one after the other. -/
structure Stored (memory : ω → UInt8 → Block) (start : Nat) (pages : List Bytes) (c d : Situation Link Coupler ω) :
    Prop where
  memory : memory d.world = storePieces (memory c.world) start pages
  pageLength : d.state.pageLength = c.state.pageLength
  idle : pages ≠ [] ∨ c.state.authPending = false → d.state.authPending = false

/-- Authenticating leaves the pages and the page length as they are. -/
theorem RenewalOutcome.unchanged (hpages : KeepsPages t memory) {x : Except Failure Unit}
    (h : RenewalOutcome t address c x d) :
    memory d.world = memory c.world ∧ d.state.pageLength = c.state.pageLength := by
  -- Neither loading a key nor authenticating is a write, so all exchanges leave the pages alone.
  have hloading : ∀ (entry : KeyEntry) (c : Situation Link Coupler ω),
      memory (c.exchanged t (.loading entry)).world = memory c.world :=
    fun entry => hpages.memory_exchanged (show Instruction.loadKey.code ≠ _ by decide)
  have htried : ∀ (code slot : UInt8) (c : Situation Link Coupler ω),
      memory (c.exchanged t (.authenticating address code slot)).world = memory c.world :=
    fun code slot => hpages.memory_exchanged (show Instruction.authenticate.code ≠ _ by decide)
  have hretried : ∀ (code : UInt8) (entry : KeyEntry),
      memory (reloaded t address code entry c).world = memory c.world :=
    fun code entry => (hloading entry _).trans (htried code entry.slot c)
  cases h with
  | keyless _ => exact ⟨rfl, rfl⟩
  | codeless _ _ => exact ⟨rfl, rfl⟩
  | accepted _ _ _ => exact ⟨htried _ _ c, rfl⟩
  | denied _ _ _ _ => exact ⟨htried _ _ c, rfl⟩
  | homeless _ _ => exact ⟨htried _ _ c, rfl⟩
  | notLoaded _ _ _ => exact ⟨hretried _ _, rfl⟩
  | deniedAgain _ _ _ _ => exact ⟨(htried _ _ _).trans (hretried _ _), rfl⟩
  | acceptedAgain _ _ _ _ => exact ⟨(htried _ _ _).trans (hretried _ _), rfl⟩

/-- A page that is written with success is in the memory, and nothing is pending. -/
theorem ensures_writePage (hpages : KeepsPages t memory) {page : Bytes} (hsize : page.length ≤ blockSize) :
    Ensures t.responder (writePage address page) c fun x d => x = .ok () →
      memory d.world = update (memory c.world) address (Block.fit page) ∧
        d.state.pageLength = c.state.pageLength ∧ d.state.authPending = false := by
  rw [writePage_eq address (Nat.le_trans hsize (by decide))]
  have haccess : Ensures t.responder (access address (.writing address page) .writeFailed) c fun x d =>
      (∃ data, x = .ok data) → memory d.world = update (memory c.world) address (Block.fit page) ∧
        d.state.pageLength = c.state.pageLength ∧ d.state.authPending = false := by
    -- Reaching the page leaves the memory; it is the command itself that stores the page.
    refine Ensures.bind (R := fun _ d => memory d.world = memory c.world ∧
      d.state.pageLength = c.state.pageLength) ?_ ?_ ?_
    · refine ensures_authenticateIfPending (fun _ => ⟨rfl, rfl⟩) fun _ => ?_
      exact (performAuth_outcome t address c).mono fun _ _ h => h.unchanged hpages
    · rintro _ d ⟨hmemory, hlength⟩
      refine ensures_transfer_of_demand (fun data hdata _ => ?_) (fun _ _ _ h => nomatch h)
      exact ⟨by rw [← hmemory]; exact hpages.memory_written hsize hdata, hlength, rfl⟩
    · rintro _ _ _ ⟨_, h⟩
      cases h
  refine haccess.bind ?_ ?_
  · intro data d h
    exact ensures_pure fun _ => h ⟨data, rfl⟩
  · rintro _ _ _ h
    cases h

theorem stored_nil (memory : ω → UInt8 → Block) (start : Nat) (c : Situation Link Coupler ω) :
    Stored memory start [] c c where
  memory := by
    funext a
    simp [storePieces]
  pageLength := rfl
  idle h := h.resolve_left fun h => h rfl

/-- Pages that are written with success are in the memory, one after the other. -/
theorem ensures_writePieces (hpages : KeepsPages t memory) {size : Nat} (hsize : size ≤ blockSize) {i : Nat}
    {pieces : List Bytes} (hpieces : ∀ piece ∈ pieces, piece.length ≤ size)
    (hroom : start.toNat + i + pieces.length ≤ 256) :
    Ensures t.responder (writePieces start size i pieces) c fun x d => x = .ok () →
      Stored memory (start.toNat + i) (pieces.map (Bytes.fit size)) c d := by
  -- By induction on the pieces, and what the first page has stored is the memory that the others start from.
  induction pieces generalizing i c with
  | nil => exact ensures_pure fun _ => stored_nil memory _ c
  | cons piece rest ih =>
    rw [List.length_cons] at hroom
    have hfits : start.toNat + i < 256 := by omega
    rcases writePieces_cons (hpieces piece List.mem_cons_self) hfits rest with ⟨address, htoNat, hwrite⟩
    rw [hwrite]
    refine (ensures_writePage hpages (by rw [Bytes.length_fit]; exact hsize)).bind ?_ (fun _ _ _ h => nomatch h)
    intro _ d hd
    rcases hd rfl with ⟨hmemory, hlength, hidle⟩
    refine (ih (fun p hp => hpieces p (List.mem_cons_of_mem _ hp)) (by omega)).mono fun x e h hx => ?_
    have hrest := h hx
    refine ⟨?_, hrest.pageLength.trans hlength, fun _ => hrest.idle (.inr hidle)⟩
    rw [hrest.memory, hmemory, List.map_cons]
    exact Tag.storePieces_cons _ htoNat _ _

/-- Data that is written with success was cut into as many pages as there are addresses for, and these are in the
memory. -/
theorem ensures_writeData (hpages : KeepsPages t memory) (hlength : c.state.pageLength.toNat ≤ blockSize)
    (start : UInt8) (data : Bytes) :
    let pieces := Bytes.pieces c.state.pageLength.toNat data
    Ensures t.responder (writeData start data) c fun x d => x = .ok () →
      start.toNat + pieces.length ≤ 256 ∧
        Stored memory start.toNat (pieces.map (Bytes.fit c.state.pageLength.toNat)) c d := by
  refine ensures_get_bind ?_
  dsimp only
  split
  · rename_i hroom
    refine (ensures_writePieces hpages hlength (fun piece hpiece => Bytes.length_le_of_mem_pieces hpiece) hroom).mono ?_
    exact fun x d h hx => ⟨hroom, h hx⟩
  · exact ensures_throw fun h => nomatch h

/-! ## Reading pages -/

/-- Data stands on pages, from the first of some addresses on; the last of its pages is filled up with zeros. -/
def StandsOn (pages : UInt8 → Block) (size : Nat) (addresses : List UInt8) (data : Bytes) : Prop :=
  ∀ k, size * k < data.length → ∃ address, addresses[k]? = some address ∧
    (pages address).bytes.take size = Bytes.fit size (data.drop (size * k))

/-- Data that is not empty stands on the first page with its front, and with its rest on the pages after it. -/
theorem StandsOn.cons {pages : UInt8 → Block} {size : Nat} {rest : List UInt8} {data : Bytes}
    (h : StandsOn pages size (address :: rest) data) (hdata : 0 < data.length) :
    (pages address).bytes.take size = Bytes.fit size data ∧ StandsOn pages size rest (data.drop size) := by
  refine ⟨?_, fun k hk => ?_⟩
  · rcases h 0 (by rw [Nat.mul_zero]; exact hdata) with ⟨first, hfirst, hfront⟩
    cases hfirst
    rw [Nat.mul_zero, List.drop_zero] at hfront
    exact hfront
  · rw [List.length_drop] at hk
    rw [List.drop_drop, Nat.add_comm, ← Nat.mul_succ]
    exact h (k + 1) (by rw [Nat.mul_succ]; omega)

theorem standsOn_storePieces (pages : UInt8 → Block) {size : Nat} (hpos : 0 < size) (hsize : size ≤ blockSize)
    {data : Bytes} (hroom : start.toNat + (Bytes.pieces size data).length ≤ 256) :
    StandsOn (storePieces pages start.toNat ((Bytes.pieces size data).map (Bytes.fit size))) size
      (addressesFrom start) data := by
  intro k hk
  have hcount : k < Bytes.pieceCount size data.length := (Bytes.lt_pieceCount_iff hpos).2 hk
  rw [Bytes.length_pieces] at hroom
  have haddress : (UInt8.ofNat (start.toNat + k)).toNat = start.toNat + k := by
    rw [UInt8.toNat_ofNat']
    omega
  have hpage : ((Bytes.pieces size data).map (Bytes.fit size))[k]? = some (Bytes.fit size (data.drop (size * k))) := by
    rw [List.getElem?_map, Bytes.getElem?_pieces hcount, Option.map_some, Bytes.fit_take, Nat.mul_comm]
  refine ⟨UInt8.ofNat (start.toNat + k), ?_, ?_⟩
  · have hlast : k < lastAddress + 1 - start.toNat := by
      simp only [lastAddress]
      omega
    simp [addressesFrom, hlast]
  · have hstored : storePieces pages start.toNat ((Bytes.pieces size data).map (Bytes.fit size))
        (UInt8.ofNat (start.toNat + k)) = Block.fit (Bytes.fit size (data.drop (size * k))) := by
      unfold storePieces
      rw [haddress, if_pos (Nat.le_add_right _ _), Nat.add_sub_cancel_left, hpage]
    have hlength : (Bytes.fit size (data.drop (size * k))).length = size := Bytes.length_fit _ _
    calc
      (storePieces pages start.toNat ((Bytes.pieces size data).map (Bytes.fit size))
          (UInt8.ofNat (start.toNat + k))).bytes.take size
          = (Bytes.fit blockSize (Bytes.fit size (data.drop (size * k)))).take
              (Bytes.fit size (data.drop (size * k))).length := by
            rw [hstored, hlength]
            rfl
      _ = Bytes.fit size (data.drop (size * k)) := Bytes.take_fit (by rw [hlength]; exact hsize)

/-- A page is read as it stands, as long as nothing is pending. -/
theorem ensures_readWholePage (hpages : KeepsPages t memory) (hidle : c.state.authPending = false) :
    Ensures t.responder (readWholePage address) c fun x d =>
      x = .ok ((memory c.world address).bytes.take c.state.pageLength.toNat) ∧
        memory d.world = memory c.world ∧ d.state.pageLength = c.state.pageLength ∧ d.state.authPending = false := by
  refine ensures_get_bind ?_
  rw [readPage_eq]
  refine ensures_access_of_idle hidle (ensures_transfer_of_demand (fun data hdata => ?_) fun e _ he => ?_)
  · rw [hpages.demand_reading] at hdata
    cases hdata
    exact ⟨rfl, hpages.memory_exchanged (show Instruction.readBinary.code ≠ _ by decide) c, rfl, rfl⟩
  · rw [hpages.demand_reading] at he
    cases he

/-- A page of data in front of what continues the data. -/
theorem take_fit_append {size : Nat} {data out : Bytes}
    (hout : out.take (data.length - size) = data.drop size) :
    (Bytes.fit size data ++ out).take data.length = data := by
  rcases Nat.le_total data.length size with hshort | hlong
  · rw [List.take_append_of_le_length (by rw [Bytes.length_fit]; exact hshort), Bytes.take_fit hshort]
  · have hfront : Bytes.fit size data = data.take size := by
      rw [Bytes.fit, Nat.sub_eq_zero_of_le hlong, List.replicate_zero, List.append_nil]
    have hwhole : (data.take size).length ≤ data.length := by
      rw [List.length_take_of_le hlong]
      exact hlong
    calc
      (Bytes.fit size data ++ out).take data.length
          = (data.take size ++ out).take data.length := by rw [hfront]
      _ = data.take size ++ out.take (data.length - size) := by
            rw [List.take_append, List.take_of_length_le hwhole, List.length_take_of_le hlong]
      _ = data.take size ++ data.drop size := by rw [hout]
      _ = data := List.take_append_drop size data

/-- Reading as many bytes as data has from the pages on which it stands gives the data, and perhaps what the last page
is filled up with. -/
theorem ensures_gather (hpages : KeepsPages t memory) {addresses : List UInt8} {data : Bytes}
    (hdata : StandsOn (memory c.world) c.state.pageLength.toNat addresses data)
    (hidle : data ≠ [] → c.state.authPending = false) :
    Ensures t.responder (gather addresses data.length) c fun x _ =>
      ∃ out, x = .ok out ∧ out.take data.length = data := by
  induction addresses generalizing data c with
  | nil =>
    cases data with
    | nil => exact ensures_pure ⟨[], rfl, rfl⟩
    | cons byte rest =>
      rcases hdata 0 (by simp) with ⟨address, haddress, -⟩
      cases haddress
  | cons address rest ih =>
    cases hlength : data.length with
    | zero =>
      rw [List.length_eq_zero_iff] at hlength
      exact ensures_pure ⟨[], rfl, hlength.symm⟩
    | succ wanted =>
      have hsome : data ≠ [] := List.length_pos_iff.1 (by omega)
      rcases hdata.cons (List.length_pos_iff.2 hsome) with ⟨hfront, hrest⟩
      rw [gather]
      refine (ensures_readWholePage hpages (hidle hsome)).bind ?_ (fun _ _ h => nomatch h.1)
      rintro page d ⟨hpage, hmemory, hsize, hidle'⟩
      have hpage' : page = Bytes.fit c.state.pageLength.toNat data := (Except.ok.inj hpage).trans hfront
      have hcount : page.length = c.state.pageLength.toNat := by rw [hpage', Bytes.length_fit]
      -- A page has at least one byte, so reading goes on.
      have hempty : ¬ page.isEmpty = true := by
        rw [List.isEmpty_iff_length_eq_zero, hcount]
        exact Nat.pos_iff_ne_zero.1 c.state.pageLength_pos
      rw [if_neg hempty, hcount]
      have hlater := ih (c := d) (by rw [hmemory, hsize]; exact hrest) (fun _ => hidle')
      rw [List.length_drop, hlength] at hlater
      refine hlater.bind ?_ (fun _ _ h => nomatch h.choose_spec.1)
      rintro others _ ⟨_, ⟨⟩, hothers⟩
      refine ensures_pure ⟨page ++ others, rfl, ?_⟩
      rw [← hlength, hpage']
      exact take_fit_append (by rw [hlength]; exact hothers)

/-! ## What is written can be read -/

/-- Data that was written with success is read back. -/
theorem ensures_readData_of_written (hpages : KeepsPages t memory) (hlength : c.state.pageLength.toNat ≤ blockSize)
    (start : UInt8) (data : Bytes) :
    Ensures t.responder (writeData start data) c fun x d => x = .ok () →
      Ensures t.responder (readData start data.length) d fun y _ => y = .ok data := by
  refine (ensures_writeData hpages hlength start data).mono fun x d h hx => ?_
  rcases h hx with ⟨hroom, hstored⟩
  have hstands : StandsOn (memory d.world) d.state.pageLength.toNat (addressesFrom start) data := by
    rw [hstored.memory, hstored.pageLength]
    exact standsOn_storePieces _ c.state.pageLength_pos hlength hroom
  -- If there was anything to write, then the last page has left nothing pending.
  have hidle : data ≠ [] → d.state.authPending = false := by
    intro hdata
    have hfirst : 0 < (Bytes.pieces c.state.pageLength.toNat data).length := by
      rw [Bytes.length_pieces, Bytes.lt_pieceCount_iff c.state.pageLength_pos, Nat.mul_zero]
      exact List.length_pos_iff.2 hdata
    refine hstored.idle (.inl fun hnone => ?_)
    rw [List.map_eq_nil_iff] at hnone
    rw [hnone] at hfirst
    exact Nat.lt_irrefl 0 hfirst
  refine (ensures_gather hpages hstands hidle).bind ?_ (fun _ _ h => nomatch h.choose_spec.1)
  rintro out _ ⟨_, ⟨⟩, hout⟩
  exact ensures_pure (congrArg Except.ok hout)

end Coupler

/-- A mode encrypts data, and as many zeros, to ciphertexts of one length, and decrypts the data again, perhaps with
padding behind it. -/
def CipherMode.Recovers (mode : CipherMode) (data : Bytes) : Prop :=
  ∃ sample ciphertext padding, mode.encrypt (List.replicate data.length 0) = .ok sample ∧
    mode.encrypt data = .ok ciphertext ∧ sample.length = ciphertext.length ∧
      mode.decrypt ciphertext = .ok (data ++ padding)

/-- The cipher that leaves data as it is. -/
def PageCipher.identity : PageCipher := ⟨.ok, .ok, none⟩

theorem CipherMode.recovers_identity (data : Bytes) : (CipherMode.plain .identity).Recovers data :=
  ⟨List.replicate data.length 0, data, [], rfl, rfl, List.length_replicate,
    congrArg Except.ok (List.append_nil data).symm⟩

namespace Coupler

variable {c : Situation Link Coupler ω}

/-- Without encryption, the encrypted forms do what the plain ones do. -/
theorem encrypted_identity (start : UInt8) (data : Bytes) (length : Nat) :
    writeEncrypted start data (.plain .identity) = writeData start data ∧
      readDecrypted start length (.plain .identity) = readData start length := by
  constructor
  · exact pure_bind data (writeData start)
  · have hread : readDecrypted start length (.plain .identity) =
        readData start length >>= fun data => pure (data.take length) := by
      simp only [readDecrypted, CipherMode.encrypt, CipherMode.decrypt, PageCipher.identity, require_ok, pure_bind,
        List.length_replicate]
    rw [hread, readData, bind_assoc]
    simp only [pure_bind, List.take_take, Nat.min_self]

theorem ensures_readDecrypted_of_written (hpages : KeepsPages t memory)
    (hlength : c.state.pageLength.toNat ≤ blockSize) (start : UInt8) {data : Bytes} {mode : CipherMode}
    (hmode : mode.Recovers data) :
    Ensures t.responder (writeEncrypted start data mode) c fun x d => x = .ok () →
      Ensures t.responder (readDecrypted start data.length mode) d fun y _ => y = .ok data := by
  rcases hmode with ⟨sample, ciphertext, padding, hsample, hencrypt, hsame, hdecrypt⟩
  rw [writeEncrypted, hencrypt, require_ok, pure_bind]
  refine (ensures_readData_of_written hpages hlength start ciphertext).mono fun x d h hx => ?_
  rw [readDecrypted, hsample, require_ok, pure_bind, hsame]
  refine (h hx).bind ?_ (fun _ _ h => nomatch h)
  rintro _ _ ⟨⟩
  rw [hdecrypt, require_ok, pure_bind, List.take_left]
  exact ensures_pure rfl

/-- Behind the link is a memory of pages, which are at least as long as those of the coupler.  Whatever is written to it
with success under a mode that recovers it, from any page on, is read back exactly; without encryption, the same holds
of all data. -/
theorem readDecrypted_writeEncrypted (t : Transport ω) (hpages : KeepsPages t memory) (c : Situation Link Coupler ω)
    (hlength : c.state.pageLength.toNat ≤ blockSize) (start : UInt8) (data : Bytes) :
    (∀ mode : CipherMode, mode.Recovers data →
      let written := exec t.responder (writeEncrypted start data mode) c
      written.1 = .ok () →
        (exec t.responder (readDecrypted start data.length mode) written.2).1 = .ok data) ∧
      let written := exec t.responder (writeData start data) c
      written.1 = .ok () → (exec t.responder (readData start data.length) written.2).1 = .ok data := by
  have hmodes : ∀ mode : CipherMode, mode.Recovers data →
      let written := exec t.responder (writeEncrypted start data mode) c
      written.1 = .ok () →
        (exec t.responder (readDecrypted start data.length mode) written.2).1 = .ok data :=
    fun mode hmode => ensures_readDecrypted_of_written hpages hlength start hmode
  refine ⟨hmodes, ?_⟩
  have hplain := hmodes (.plain .identity) (CipherMode.recovers_identity data)
  rw [(encrypted_identity start data data.length).1, (encrypted_identity start data data.length).2] at hplain
  exact hplain

/-- A memory of pages that answers without authentication. -/
def openPages : Transport (UInt8 → Block) where
  isConnected _ := true
  transmit command pages :=
    match command with
    | [0xff, 0xb0, _, address, length] => (Tag.accepted ((pages address).bytes.take length.toNat), pages)
    | 0xff :: 0xd6 :: _ :: address :: _ :: page => (Tag.accepted [], update pages address (Block.fit page))
    | _ => (.ok [0x6d, 0x00], pages)

theorem keepsPages_openPages : KeepsPages openPages id where
  connected _ := rfl
  reading w address length := Tag.acknowledged?_accepted _
  writing w address page _ _ := rfl
  others w command hcommand := by
    unfold openPages Command.encode
    dsimp only
    split
    · rfl
    · rename_i hencode
      exact absurd (List.cons.inj (List.cons.inj hencode).2).1 hcommand
    · rfl

/-- Data whose ciphertext is one byte longer, and which with it fills the last two pages but for two bytes. -/
theorem readDecrypted_writeEncrypted_tagged :
    let mode : CipherMode := .bound (Simulation.CipherKind.taggedCipher 0x5a) [0x11, 0x22]
    let data : Bytes := [0x01, 0x02, 0x03, 0x04, 0x05]
    let blank : Situation Link Coupler (UInt8 → Block) := ⟨.fresh, fun _ => Block.fit [], []⟩
    let written := exec openPages.responder (writeEncrypted 254 data mode) blank
    written.1 = .ok () ∧ (exec openPages.responder (readDecrypted 254 5 mode) written.2).1 = .ok data := by
  intro mode data blank written
  have hmode : mode.Recovers data := ⟨_, _, [], rfl, rfl, rfl, rfl⟩
  have hwritten : written.1 = .ok () := by decide
  rcases readDecrypted_writeEncrypted openPages keepsPages_openPages blank (by decide) 254 data with ⟨hread, -⟩
  exact ⟨hwritten, hread mode hmode hwritten⟩

end Coupler
end SectorCard
