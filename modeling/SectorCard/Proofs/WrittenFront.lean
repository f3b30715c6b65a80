import SectorCard.Proofs.BlockArray
import SectorCard.Proofs.Rollback
import SectorCard.Proofs.SentCommands
import SectorCard.Proofs.SingleBlocks

/-!
# How far a run of writes comes

Data is written block by block, and each block can fail: because it may not be written, because there is no key for it, or
because the reader or the card refuses something.  The blocks before it are then stored and the blocks after it are not
reached.  So whatever happens, a front of the data is stored, and nothing else is (`writeLinear_stores_front`).
-/

namespace SectorCard

open Procedure
open Tag (update storePieces)

/-- Data may be written to a block that is on the card, is no trailer and is not the manufacturer's. -/
structure Geometry.Writable (g : Geometry) (block : Nat) : Prop where
  exists_block : block < g.blockCount
  no_trailer : trailerIndex (sectorIndex block) ≠ block
  no_manufacturer : block ≠ 0

namespace Card

variable {ω : Type} {t : Transport ω} {stored : ω → UInt8 → Block} {c c' c'' : Situation Link Card ω}

theorem writable_of_dataSector {card : Card} {block : UInt16} {sector : UInt8}
    (h : card.dataSector block .write = .ok sector) : card.geometry.Writable block.toNat := by
  rcases dataBlock_of_dataSector h with ⟨address, -, htoNat, hdata⟩
  rw [← htoNat]
  exact ⟨hdata.exists_block, hdata.toNat_sector ▸ hdata.no_trailer, hdata.no_manufacturer rfl⟩

/-! ## One block -/

/-- What has become of a page that was to be written: it was sent `n` times, at most twice, and stored or not. -/
structure Attempted (stored : ω → UInt8 → Block) (address : UInt8) (page : Block) (n : Nat) (c : Situation Link Card ω)
    (x : Except Failure Unit) (c' : Situation Link Card ω) : Prop where
  setup : SameSetup c.state c'.state
  few : n ≤ 2
  sent : SentSince .updateBinary c.history (List.replicate n (WireCommand.write address page).bytes) c'
  blocks : match x with
    | .ok () => 0 < n ∧ stored c'.world = update (stored c.world) address page
    | .error _ => stored c'.world = stored c.world

/-- A page that was not sent. -/
theorem attempted_unsent (stored : ω → UInt8 → Block) (address : UInt8) (page : Block) (c : Situation Link Card ω)
    (e : Failure) : Attempted stored address page 0 c (.error e) c :=
  ⟨.refl _, Nat.zero_le 2, sentSince_history .updateBinary c, rfl⟩

theorem ensures_writeAuthorized_attempted (card : t.StoresWrites stored) {block : UInt16} {address : UInt8}
    (hnarrow : Checked.narrow block = .ok address) (sector : UInt8) (page : Block) (c : Situation Link Card ω) :
    Ensures t.responder (writeAuthorized sector block page.bytes) c fun x c' =>
      ∃ n, Attempted stored address page n c x c' := by
  refine ensures_inspect_bind (fun selector _ => ?_) (fun e _ => ⟨0, attempted_unsent stored address page c e⟩)
  rw [hnarrow, ofExcept_ok, pure_bind]
  have hstart : Unstored stored c.state (stored c.world) c := ⟨.refl _, rfl⟩
  refine ((ensures_withAuthRetry_sent sector selector address page c).and
    (ensures_withAuthRetry_writePage_stored card hstart sector address selector page)).mono ?_
  rintro x c' ⟨⟨n, hn, hpos, hsent⟩, hstored⟩
  refine ⟨n, ?_⟩
  match x with
  | .ok () => exact ⟨hstored.1, hn, hsent, hpos rfl, hstored.2⟩
  | .error (.error _) => exact ⟨hstored.setup, hn, hsent, hstored.same⟩
  | .error (.defect _) => exact hstored.elim

/-! ## All blocks -/

/-- The updates that are sent when pieces are written to consecutive blocks, the `i`-th one `tries i` times. -/
def updates (start : Nat) (pieces : List Bytes) (tries : Nat → Nat) : List Bytes :=
  (pieces.mapIdx fun i piece =>
    List.replicate (tries i) (WireCommand.write (UInt8.ofNat (start + i)) (Block.fit piece)).bytes).flatten

/-- One more number in front. -/
def firstThen (n : Nat) (tries : Nat → Nat) : Nat → Nat
  | 0 => n
  | i + 1 => tries i

theorem updates_cons (start : Nat) (piece : Bytes) (rest : List Bytes) (n : Nat) (tries : Nat → Nat) :
    updates start (piece :: rest) (firstThen n tries) =
      List.replicate n (WireCommand.write (UInt8.ofNat start) (Block.fit piece)).bytes ++
        updates (start + 1) rest tries := by
  simp only [updates, List.mapIdx_cons, List.flatten_cons, Nat.add_zero, firstThen]
  congr 2
  refine List.mapIdx_eq_mapIdx_iff.2 fun i _ => ?_
  rw [Nat.add_assoc, Nat.add_comm 1 i]

theorem updates_unsent (start : Nat) (pieces : List Bytes) : updates start pieces (fun _ => 0) = [] := by
  simp [updates]

/-- How far a run of writes came.  The pieces were to be written from block `start` on.  The first `k` of them were
stored, and the `i`-th one was sent `tries i` times; behind the first one that was not stored, none was sent.  If data
may not be written to the next block, nothing was sent for it either, and the error names it. -/
structure WrittenFront (stored : ω → UInt8 → Block) (start : Nat) (pieces : List Bytes) (k : Nat) (tries : Nat → Nat)
    (c : Situation Link Card ω) (x : Except Failure Unit) (c' : Situation Link Card ω) : Prop where
  le : k ≤ pieces.length
  ok_iff : x = .ok () ↔ k = pieces.length
  blocks : stored c'.world = storePieces (stored c.world) start (pieces.take k)
  sent : SentSince .updateBinary c.history (updates start pieces tries) c'
  few : ∀ i, tries i ≤ 2
  tried : ∀ i < k, 0 < tries i
  unsent : ∀ i, k < i → tries i = 0
  writable : ∀ i < k, c.state.geometry.Writable (start + i)
  barred : k < pieces.length → ¬ c.state.geometry.Writable (start + k) →
    tries k = 0 ∧ x = .error (.error (.invalidBlock (UInt16.ofNat (start + k))))

section WrittenFront

variable {start : Nat} {piece : Bytes} {rest : List Bytes} {x : Except Failure Unit} {n : Nat}

theorem writtenFront_nil (stored : ω → UInt8 → Block) (start : Nat) (c : Situation Link Card ω) :
    WrittenFront stored start [] 0 (fun _ => 0) c (.ok ()) c where
  le := Nat.le_refl 0
  ok_iff := ⟨fun _ => rfl, fun _ => rfl⟩
  blocks := by
    funext a
    simp [storePieces]
  sent := sentSince_history .updateBinary c
  few _ := Nat.zero_le 2
  tried _ h := absurd h (Nat.not_lt_zero _)
  unsent _ _ := rfl
  writable _ h := absurd h (Nat.not_lt_zero _)
  barred h := absurd h (Nat.not_lt_zero _)

/-- A run that stops at its first block has stored nothing. -/
theorem Attempted.stopped {e : Failure} (h : Attempted stored (UInt8.ofNat start) (Block.fit piece) n c (.error e) c')
    (hbarred : ¬ c.state.geometry.Writable start → n = 0 ∧ e = .error (.invalidBlock (UInt16.ofNat start))) :
    WrittenFront stored start (piece :: rest) 0 (firstThen n fun _ => 0) c (.error e) c' where
  le := Nat.zero_le _
  ok_iff := ⟨nofun, nofun⟩
  blocks := by
    rw [List.take_zero, h.blocks]
    funext a
    simp [storePieces]
  sent := by
    rw [updates_cons, updates_unsent, List.append_nil]
    exact h.sent
  few i := by
    cases i with
    | zero => exact h.few
    | succ i => exact Nat.zero_le 2
  tried _ hi := absurd hi (Nat.not_lt_zero _)
  unsent i hi := by
    cases i with
    | zero => exact absurd hi (Nat.lt_irrefl 0)
    | succ i => rfl
  writable _ hi := absurd hi (Nat.not_lt_zero _)
  barred _ hno := by
    rcases hbarred hno with ⟨hn, rfl⟩
    exact ⟨hn, rfl⟩

/-- A run that stores its first block has stored one more than the rest of it. -/
theorem WrittenFront.cons {k : Nat} {tries : Nat → Nat}
    (h : Attempted stored (UInt8.ofNat start) (Block.fit piece) n c (.ok ()) c')
    (hwritable : c.state.geometry.Writable start) (hrest : WrittenFront stored (start + 1) rest k tries c' x c'') :
    WrittenFront stored start (piece :: rest) (k + 1) (firstThen n tries) c x c'' where
  le := Nat.succ_le_succ hrest.le
  ok_iff := by
    rw [hrest.ok_iff, List.length_cons]
    omega
  blocks := by
    -- A block that may be written has a number that is an address.
    have haddress : (UInt8.ofNat start).toNat = start := by
      have hlt := hwritable.exists_block
      have hcount := c.state.geometry.blockCount_le
      rw [UInt8.toNat_ofNat']
      omega
    rw [hrest.blocks, h.blocks.2, List.take_succ_cons, Tag.storePieces_cons _ haddress]
  sent := by
    rcases h.sent with ⟨said, hsaid, hsent⟩
    rcases hrest.sent with ⟨later, hlater, hsent'⟩
    refine ⟨said ++ later, by rw [hlater, hsaid, List.append_assoc], ?_⟩
    rw [sent_append, hsent, hsent', updates_cons]
  few i := by
    cases i with
    | zero => exact h.few
    | succ i => exact hrest.few i
  tried i hi := by
    cases i with
    | zero => exact h.blocks.1
    | succ i => exact hrest.tried i (Nat.lt_of_succ_lt_succ hi)
  unsent i hi := by
    cases i with
    | zero => exact absurd hi (Nat.not_lt_zero _)
    | succ i => exact hrest.unsent i (Nat.lt_of_succ_lt_succ hi)
  writable i hi := by
    cases i with
    | zero => exact hwritable
    | succ i =>
      have hlater := hrest.writable i (Nat.lt_of_succ_lt_succ hi)
      rwa [h.setup.geometry, Nat.add_right_comm] at hlater
  barred hk hno := by
    have hlater := hrest.barred (Nat.lt_of_succ_lt_succ hk)
    rw [h.setup.geometry, Nat.add_right_comm] at hlater
    exact hlater hno

/-- The blocks outside the front are as before. -/
theorem WrittenFront.unchanged {pieces : List Bytes} {k : Nat} {tries : Nat → Nat}
    (h : WrittenFront stored start pieces k tries c x c') (a : UInt8) (ha : a.toNat < start ∨ start + k ≤ a.toNat) :
    stored c'.world a = stored c.world a := by
  rw [h.blocks]
  unfold storePieces
  split
  · have hnone : (pieces.take k)[a.toNat - start]? = none := List.getElem?_take_eq_none (by omega)
    rw [hnone]
  · rfl

end WrittenFront

/-- Whatever becomes of the single blocks, a run of writes stores a front of its pieces. -/
theorem ensures_writeRun_front (card : t.StoresWrites stored) {pieces : List Bytes}
    (hsize : ∀ piece ∈ pieces, piece.length ≤ blockSize) (block : UInt16) (c : Situation Link Card ω) :
    Ensures t.responder (writeRun block pieces) c fun x c' =>
      ∃ k tries, WrittenFront stored block.toNat pieces k tries c x c' := by
  induction pieces generalizing block c with
  | nil => exact ensures_pure ⟨0, _, writtenFront_nil stored block.toNat c⟩
  -- A block that fails ends the run; one that is stored is one more in front of what the rest has stored.
  | cons piece rest ih =>
    refine ensures_inspect_lift_bind (fun sector hsector => ?_) (fun e he => ?_)
    · have hwritable := writable_of_dataSector hsector
      rcases dataBlock_of_dataSector hsector with ⟨address, hnarrow, htoNat, -⟩
      have haddress : address = UInt8.ofNat block.toNat := by rw [← htoNat, UInt8.ofNat_toNat]
      rw [page_eq_ok (hsize piece List.mem_cons_self), ofExcept_ok, pure_bind]
      have hattempt := ensures_writeAuthorized_attempted card hnarrow sector (Block.fit piece) c
      rw [haddress] at hattempt
      refine hattempt.bind ?_ ?_
      · rintro _ c' ⟨n, hn⟩
        rcases next_of_dataSector hsector with ⟨next, hnext, hsucc⟩
        rw [hnext, ofExcept_ok, pure_bind]
        refine (ih (fun p hp => hsize p (List.mem_cons_of_mem _ hp)) next c').mono ?_
        rintro x c'' ⟨k, tries, hrest⟩
        rw [hsucc] at hrest
        exact ⟨k + 1, _, .cons hn hwritable hrest⟩
      · rintro e c' ⟨n, hn⟩
        exact ⟨0, _, hn.stopped fun hno => absurd hwritable hno⟩
    · refine ⟨0, _, (attempted_unsent stored _ _ c _).stopped fun _ => ⟨rfl, ?_⟩⟩
      rw [dataSector_eq_error he, UInt16.ofNat_toNat]

/-- Whatever a reader does, and wherever a run has led, writing data stores a front of its pieces in consecutive blocks
and changes no other block.  It succeeds exactly if that is all of them. -/
theorem writeLinear_stores_front (card : t.StoresWrites stored) (c : Situation Link Card ω) (start : UInt16)
    (data : Bytes) :
    let run := exec t.responder (writeLinear start data) c
    ∃ k tries, WrittenFront stored start.toNat (Bytes.pieces blockSize data) k tries c run.1 run.2 :=
  ensures_writeRun_front card (fun _ => Bytes.length_le_of_mem_pieces) start c

/-- Sector 1 and then sector 2 were written under key B.  The cache vouches for both. -/
def movedOn : Situation Link Card (List Bool × Tag) :=
  after (Tag.transport Tag.hideKeyA).refusing
    [.setKey .a .transport .nonVolatile 0, .setKey .b .transport .nonVolatile 1, .writeBlock 4 (Block.fit []),
      .writeBlock 8 (Block.fit [])]
    (start .small ([], Tag.delivered))

/-- The card has given up sector 1, so the first block is sent twice.  The third one is a trailer. -/
theorem writeLinear_stores_front_movedOn :
    let run := exec (Tag.transport Tag.hideKeyA).refusing.responder (writeLinear 5 (List.replicate 40 7)) movedOn
    run.1 = .error (.error (.invalidBlock 7)) ∧
      (∃ tries, WrittenFront (fun w => w.2.memory) 5 (Bytes.pieces blockSize (List.replicate 40 7)) 2 tries movedOn
        run.1 run.2) ∧
      SentSince .updateBinary movedOn.history
        [(WireCommand.write 5 (Block.fit (List.replicate 16 7))).bytes,
          (WireCommand.write 5 (Block.fit (List.replicate 16 7))).bytes,
          (WireCommand.write 6 (Block.fit (List.replicate 16 7))).bytes] run.2 := by
  intro run
  have hrun : run.1 = .error (.error (.invalidBlock 7)) := by decide +kernel
  have hcard := (Tag.fronts_refusing Tag.hideKeyA).hidesKeyA.storesWrites
  rcases writeLinear_stores_front hcard movedOn 5 (List.replicate 40 7) with ⟨k, tries, hfront⟩
  have hk : k = 2 := by
    have hle : k ≤ 3 := hfront.le
    have hne : k ≠ 3 := by
      intro h
      have hok := hfront.ok_iff.2 h
      rw [hrun] at hok
      cases hok
    have hlt : 1 < k := by
      refine Nat.lt_of_not_le fun hfew => ?_
      have hchanged : run.2.world.2.memory 6 ≠ movedOn.world.2.memory 6 := by decide +kernel
      exact hchanged (hfront.unchanged 6 (.inr (Nat.add_le_add_left hfew 5)))
    omega
  subst hk
  exact ⟨hrun, ⟨tries, hfront⟩, run.2.history.drop movedOn.history.length, by decide +kernel, by decide +kernel⟩

end Card
end SectorCard
