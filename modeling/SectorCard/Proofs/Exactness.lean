import SectorCard.Proofs.Defects
import SectorCard.Coupler.Operation

/-!
# Nothing breaks and nothing is cut

A coupler, and a card with its coupler, may be asked for anything and in any order.  Whatever they are asked, whatever
state they are in and whatever is on the other side of the link, none of it ends in a defect.  That is worth something
because the places where a number could be cut, or a list be too short, either give the exact result or are a defect
(`Checked.Exact`), and because the arithmetic that is not checked while it runs never leaves its range
(`Geometry.Exact`, `Span.Exact`).

Main statement: `callAll_exact`.
-/

namespace SectorCard

open Procedure

variable {ω : Type} {t : Transport ω}

/-! ## What a coupler is asked for -/

namespace Coupler

theorem faultless_send_bind {α : Type} (command : Command) {f : Reply → CouplerM α}
    (hf : ∀ reply, Faultless t.responder (f reply)) : Faultless t.responder (send (.ok command) >>= f) := by
  have hexchange : Faultless t.responder (Link.exchange command.encode : CouplerM Reply) := by
    intro c
    simpa only [Ensures, exec_exchange] using noDefect_lift _
  rw [send_ok]
  exact hexchange.bind hf

theorem faultless_demanded (status : StatusWord) (e : CardError) :
    Faultless t.responder (if status.isSuccess then pure () else throw (.error e) : CouplerM Unit) := by
  split
  · exact faultless_pure ()
  · exact faultless_throw e

theorem faultless_loadKey (entry : KeyEntry) : Faultless t.responder (loadKey entry) := by
  have hsend : Faultless t.responder (sendLoadKey entry) := by
    refine (faultless_require _).bind fun _ => ?_
    rw [Command.loadKey_eq]
    exact faultless_send_bind _ fun reply => faultless_demanded reply.status _
  exact hsend.bind fun _ => faultless_modify _

theorem faultless_authenticate (address : UInt8) (selector : KeySelector) (slot : UInt8) :
    Faultless t.responder (authenticate address selector slot) := by
  have hsend : Faultless t.responder (sendAuthenticate address selector slot) := by
    refine (faultless_require _).bind fun code => ?_
    rw [Command.authenticate_eq]
    exact faultless_send_bind _ fun reply => faultless_demanded reply.status _
  refine (faultless_require _).bind fun _ => (faultless_modify _).bind fun _ => ?_
  exact hsend.bind fun _ => faultless_modify _

theorem faultless_performAuth (address : UInt8) : Faultless t.responder (performAuth address) :=
  fun _ => (ensures_performAuth_of_withstands (withstands_true.at address) trivial).mono fun _ _ h => h.2

/-- Data that is too long for its length byte is refused before it is put into a command. -/
theorem faultless_writePage_any (address : UInt8) (data : Bytes) : Faultless t.responder (writePage address data) := by
  by_cases hdata : data.length ≤ Defect.maxData
  · rw [writePage_eq address hdata]
    exact (faultless_access _ _ _).bind fun _ => faultless_pure ()
  · rw [writePage, if_neg hdata]
    exact faultless_throw .size

/-! ## Runs of pages -/

theorem faultless_readWholePage (address : UInt8) : Faultless t.responder (readWholePage address) :=
  faultless_get_bind fun c => faultless_readPage address c.pageLength

theorem faultless_scan (addresses : List UInt8) : Faultless t.responder (scan addresses) := by
  induction addresses with
  | nil => exact faultless_pure []
  | cons address rest ih =>
    refine (faultless_readWholePage address).attempt_bind fun x hx => ?_
    rcases x with (e | d) | (_ | ⟨byte, page⟩)
    · exact faultless_pure []
    · exact hx.elim
    · exact faultless_pure []
    · exact ih.bind fun others => faultless_pure _

theorem faultless_gather (addresses : List UInt8) (wanted : Nat) :
    Faultless t.responder (gather addresses wanted) := by
  induction addresses generalizing wanted with
  | nil =>
    cases wanted with
    | zero => exact faultless_pure []
    | succ wanted => exact faultless_throw .size
  | cons address rest ih =>
    cases wanted with
    | zero => exact faultless_pure []
    | succ wanted =>
      refine (faultless_readWholePage address).bind fun page => ?_
      split
      · exact faultless_throw .size
      · exact (ih _).bind fun others => faultless_pure _

theorem faultless_readData (start : UInt8) (length : Nat) : Faultless t.responder (readData start length) :=
  (faultless_gather _ _).bind fun _ => faultless_pure _

/-- A piece that fits its page is written to its address, if there is one. -/
theorem writePieces_cons {start : UInt8} {size i : Nat} {piece : Bytes} (hsize : piece.length ≤ size)
    (hroom : start.toNat + i < 256) (rest : List Bytes) :
    ∃ address, address.toNat = start.toNat + i ∧ writePieces start size i (piece :: rest) =
      writePage address (Bytes.fit size piece) >>= fun _ => writePieces start size (i + 1) rest := by
  have hpage : Checked.page size piece = .ok (Bytes.fit size piece) := if_pos hsize
  rcases Checked.advance_eq_ok hroom with ⟨address, haddress, htoNat⟩
  refine ⟨address, htoNat, ?_⟩
  rw [writePieces, hpage, haddress, ofExcept_ok, pure_bind, ofExcept_ok, pure_bind]

/-- Pieces that fit their pages can be written as long as there are addresses for them. -/
theorem faultless_writePieces {start : UInt8} {size i : Nat} {pieces : List Bytes}
    (hsize : ∀ piece ∈ pieces, piece.length ≤ size) (hroom : start.toNat + i + pieces.length ≤ 256) :
    Faultless t.responder (writePieces start size i pieces) := by
  induction pieces generalizing i with
  | nil => exact faultless_pure ()
  | cons piece rest ih =>
    rw [List.length_cons] at hroom
    have hfits : start.toNat + i < 256 := by omega
    rcases writePieces_cons (hsize piece List.mem_cons_self) hfits rest with ⟨address, -, hwrite⟩
    rw [hwrite]
    refine (faultless_writePage_any _ _).bind fun _ => ?_
    exact ih (fun p hp => hsize p (List.mem_cons_of_mem _ hp)) (by omega)

theorem faultless_writeData (start : UInt8) (data : Bytes) : Faultless t.responder (writeData start data) := by
  refine faultless_get_bind fun c => ?_
  dsimp only
  split
  · rename_i hroom
    refine faultless_writePieces (fun piece hpiece => Bytes.length_le_of_mem_pieces hpiece) ?_
    simpa only [Nat.add_zero, lastAddress] using hroom
  · exact faultless_throw .size

/-- No operation of a coupler breaks a rule of the library. -/
theorem faultless_perform (op : Operation) : Faultless t.responder (perform op) := by
  cases op with
  | setAuth selector entry => exact (faultless_change _).bind fun _ => faultless_pure _
  | setPageLength length => exact (faultless_change _).bind fun _ => faultless_pure _
  | requestAuth => exact (faultless_modify _).bind fun _ => faultless_pure _
  | loadKey entry => exact (faultless_loadKey entry).bind fun _ => faultless_pure _
  | authenticate address selector slot =>
    exact (faultless_authenticate address selector slot).bind fun _ => faultless_pure _
  | performAuth address => exact (faultless_performAuth address).bind fun _ => faultless_pure _
  | readPage address length => exact (faultless_readPage address length).map some
  | writePage address data => exact (faultless_writePage_any address data).bind fun _ => faultless_pure _
  | readAll start => exact (faultless_scan _).map some
  | readData start length => exact (faultless_readData start length).map some
  | writeData start data => exact (faultless_writeData start data).bind fun _ => faultless_pure _
  | writeEncrypted start data mode =>
    have hwrite : Faultless t.responder (writeEncrypted start data mode) :=
      (faultless_require _).bind fun ciphertext => faultless_writeData start ciphertext
    exact hwrite.bind fun _ => faultless_pure _
  | readDecrypted start length mode =>
    have hread : Faultless t.responder (readDecrypted start length mode) :=
      (faultless_require _).bind fun sample => (faultless_readData start sample.length).bind fun ciphertext =>
        (faultless_require _).bind fun plaintext => faultless_pure _
    exact hread.map some

end Coupler
/-! ## Numbers that are checked while they are used -/

/-- A number that is checked is exact, or its use is a defect. -/
structure Checked.Exact : Prop where
  narrow : ∀ block address, narrow block = .ok address → address.toNat = block.toNat
  next : ∀ block other, next block = .ok other → other.toNat = block.toNat + 1
  advance : ∀ start i address, advance start i = .ok address → address.toNat = start.toNat + i
  front : ∀ n data part, front n data = .ok part → part.length = n ∧ part <+: data
  page : ∀ size data filled, page size data = .ok filled → filled.length = size ∧ data <+: filled
  item : ∀ {α : Type} (items : List α) i a, item items i = .ok a → items[i]? = some a

namespace Checked

theorem exact : Exact where
  narrow block address h := by
    unfold Checked.narrow at h
    split at h
    · cases h
      rw [UInt8.toNat_ofNat']
      omega
    · cases h
  next block other h := by
    unfold Checked.next at h
    split at h
    · rename_i hroom
      cases h
      exact (next_eq_ok hroom).2
    · cases h
  advance start i address h := by
    unfold Checked.advance at h
    split at h
    · cases h
      rw [UInt8.toNat_ofNat']
      omega
    · cases h
  front n data part h := by
    unfold Checked.front at h
    split at h
    · cases h
      exact ⟨List.length_take_of_le ‹_›, List.take_prefix n data⟩
    · cases h
  page size data filled h := by
    unfold Checked.page at h
    split at h
    · rename_i hlength
      cases h
      exact ⟨Bytes.length_fit size data, List.prefix_iff_eq_take.2 (Bytes.take_fit hlength).symm⟩
    · cases h
  item items i a h := by
    unfold Checked.item at h
    split at h
    · rename_i found hfound
      cases h
      exact hfound
    · cases h

end Checked

/-! ## Numbers that follow from the geometry -/

namespace Geometry

/-- The numbers of sectors and blocks are those of the arithmetic, which never leaves its range. -/
structure Exact (g : Geometry) : Prop where
  sectorOf : ∀ block sector, g.sectorOf block = .ok sector → sector.toNat = sectorIndex block.toNat
  firstBlock : ∀ sector block, g.firstBlock sector = .ok block →
    block.toNat = firstIndex sector.toNat ∧ block.toNat < 256
  trailerBlock : ∀ sector block, g.trailerBlock sector = .ok block →
    block.toNat + 1 = firstIndex sector.toNat + lengthOf sector.toNat ∧ block.toNat < 256
  between : ∀ block, firstIndex (sectorIndex block) ≤ block ∧ block ≤ trailerIndex (sectorIndex block)

theorem trailerIndex_succ (sector : Nat) : trailerIndex sector + 1 = firstIndex sector + lengthOf sector := by
  grind [trailerIndex, lengthOf]

theorem exact (g : Geometry) : g.Exact where
  sectorOf _ _ h := (toNat_of_sectorOf h).2
  firstBlock sector block h := by
    rcases toNat_of_firstBlock h with ⟨hsector, hblock⟩
    have hfirst := firstIndex_le_trailerIndex sector.toNat
    have htrailer := trailerIndex_lt hsector
    have hcount := g.blockCount_le
    exact ⟨hblock, by omega⟩
  trailerBlock sector block h := by
    rcases toNat_of_trailerBlock h with ⟨hsector, hblock⟩
    have htrailer := trailerIndex_lt hsector
    have hcount := g.blockCount_le
    exact ⟨by rw [hblock, trailerIndex_succ], by omega⟩
  between block := by
    grind [sectorIndex, trailerIndex, firstIndex, lengthOf, firstWideBlock, firstWideSector]

end Geometry

/-! ## Numbers that come with lengths -/

namespace Bytes

theorem getElem?_pieceLengths {size length i : Nat} (h : i < pieceCount size length) :
    (pieceLengths size length)[i]? = some (min size (length - size * i)) := by
  simp [pieceLengths, h, Nat.mul_comm]

/-- A part of a run is taken after parts that are whole, and less was taken with them than is wanted. -/
theorem part_of_pieceLengths {size length i take : Nat} (hsize : 0 < size)
    (h : (pieceLengths size length)[i]? = some take) :
    size * i < length ∧ take = min size (length - size * i) ∧ ∀ j < i, (pieceLengths size length)[j]? = some size := by
  have hcount : i < pieceCount size length := by
    have hlength := (List.getElem?_eq_some_iff.1 h).1
    simpa [pieceLengths] using hlength
  have hbefore : size * i < length := (lt_pieceCount_iff hsize).1 hcount
  rw [getElem?_pieceLengths hcount] at h
  refine ⟨hbefore, (Option.some.inj h).symm, fun j hj => ?_⟩
  have hwhole : size * j + size ≤ size * i := by
    rw [← Nat.mul_succ]
    exact Nat.mul_le_mul_left size hj
  rw [getElem?_pieceLengths (Nat.lt_trans hj hcount), Nat.min_eq_left (by omega)]

theorem pieceCount_le {size : Nat} (hsize : 0 < size) (length : Nat) : pieceCount size length ≤ length := by
  refine Nat.le_of_not_lt fun h => ?_
  have hlast := (lt_pieceCount_iff hsize).1 h
  have hgrows := Nat.le_mul_of_pos_left length hsize
  omega

end Bytes

/-- The sums and differences that come with cutting data into pieces never leave their range: what is taken from a
block, the addresses from a page on, the number of pages if words have room for twice the length, and where commands
and replies are split. -/
structure ExactSpans : Prop where
  taken : ∀ length i take : Nat, (Bytes.pieceLengths blockSize length)[i]? = some take →
    blockSize * i < length ∧ take = min blockSize (length - blockSize * i) ∧
      ∀ j < i, (Bytes.pieceLengths blockSize length)[j]? = some blockSize
  address : ∀ start i address, (Coupler.addressesFrom start)[i]? = some address → address.toNat = start.toNat + i
  pages : ∀ (start : UInt8) (coupler : Coupler) (data : Bytes) (room : Nat), 65536 ≤ room →
    2 * data.length < room → start.toNat + (Bytes.pieces coupler.pageLength.toNat data).length < room
  reply : ∀ bytes reply, Reply.parse bytes = .ok reply → bytes = reply.data ++ [reply.status.sw1, reply.status.sw2]
  data : ∀ (command sent : Command) (bytes : Bytes), command.data bytes = .ok sent →
    ∃ length : UInt8, length.toNat = bytes.length ∧
      sent.encode = [Command.readerClass, command.instruction.code, command.p1, command.p2, length] ++ bytes

theorem exactSpans : ExactSpans where
  taken _ _ _ h := Bytes.part_of_pieceLengths (by decide) h
  address start i address h := by
    have hstart := start.toNat_lt
    simp only [Coupler.addressesFrom, Coupler.lastAddress, List.getElem?_map, Option.map_eq_some_iff,
      List.getElem?_eq_some_iff, List.length_range, List.getElem_range] at h
    rcases h with ⟨_, ⟨hi, rfl⟩, rfl⟩
    rw [UInt8.toNat_ofNat']
    omega
  pages start coupler data room hroom hdata := by
    -- A page holds at least one byte, so there are no more pages than bytes.
    have hcount := Bytes.pieceCount_le coupler.pageLength_pos data.length
    have hstart := start.toNat_lt
    rw [Bytes.length_pieces]
    omega
  reply _ _ h := (Reply.encode_of_parse h).symm
  data command sent bytes h := by
    unfold Command.data Command.withBody at h
    split at h
    · cases h
    · split at h
      · rename_i hlength
        split at h
        · cases h
          refine ⟨UInt8.ofNat bytes.length, ?_, rfl⟩
          rw [UInt8.toNat_ofNat']
          exact Nat.mod_eq_of_lt (Nat.lt_succ_of_le hlength)
        · cases h
      · cases h

/-! ## What a card is asked for -/

namespace Card

/-- What can be called on a card: one of its own operations, or one of the coupler below it. -/
inductive Call where
  | card (op : Operation)
  | coupler (op : Coupler.Operation)

def call : Call → CardM (Option Bytes)
  | .card op => perform op
  | .coupler op => onCoupler (Coupler.perform op)

/-- Calls one after the other, each made whatever came of those before it. -/
def callAll : List Call → CardM (List (Except Failure (Option Bytes)))
  | [] => pure []
  | request :: rest => do
    let result ← Procedure.attempt (call request)
    let results ← callAll rest
    pure (result :: results)

theorem faultless_call (request : Call) : Faultless t.responder (call request) := by
  cases request with
  | card op => exact faultless_perform op
  | coupler op => exact faultless_onCoupler (Coupler.faultless_perform op)

/-- However many calls are made, each of them comes to a result, and none of the results is a defect. -/
theorem ensures_callAll (calls : List Call) (c : Situation Link Card ω) :
    Ensures t.responder (callAll calls) c fun x _ =>
      ∃ results, x = .ok results ∧ results.length = calls.length ∧ ∀ result ∈ results, NoDefect result := by
  induction calls generalizing c with
  | nil => exact ensures_pure ⟨[], rfl, rfl, fun _ h => nomatch h⟩
  | cons request rest ih =>
    refine (faultless_call request c).bind_attempt ?_
    intro result c' hresult
    refine (ih c').bind_of_exists ?_
    rintro results _ ⟨hlength, hresults⟩
    refine ensures_pure ⟨result :: results, rfl, congrArg (· + 1) hlength, ?_⟩
    exact List.forall_mem_cons.2 ⟨hresult, hresults⟩

/-- Whatever is called on a card or on a coupler, in any state and in any order, and whatever the transport does: no
call ends in a defect, no question about the state does, and no number is cut on the way. -/
theorem callAll_exact (t : Transport ω) :
    (∀ (calls : List Call) (c : Situation Link Card ω), Ensures t.responder (callAll calls) c fun x _ =>
      ∃ results, x = .ok results ∧ results.length = calls.length ∧ ∀ result ∈ results, NoDefect result) ∧
      (∀ (op : Coupler.Operation) (c : Situation Link Coupler ω),
        Ensures t.responder (Coupler.perform op) c fun x _ => NoDefect x) ∧
      (∀ (card : Card) (sector : UInt8) (access : Access),
        NoDefect (card.policy sector) ∧ NoDefect (card.chooseKey sector access) ∧
          ∀ policy changed, setPolicy sector policy card = .ok changed → sector.toNat < card.policies.length) ∧
      Checked.Exact ∧ (∀ g : Geometry, g.Exact) ∧ ExactSpans := by
  refine ⟨ensures_callAll, Coupler.faultless_perform, fun card sector access => ?_,
    Checked.exact, Geometry.exact, exactSpans⟩
  refine ⟨card.noDefect_policy sector, card.noDefect_chooseKey sector access, fun policy changed h => ?_⟩
  unfold setPolicy at h
  split at h
  · rename_i hsector
    rw [card.length_policies]
    exact hsector
  · cases h

end Card
end SectorCard
