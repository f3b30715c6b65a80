import SectorCard.Proofs.BlockArray
import SectorCard.Proofs.TrailerWrites

/-!
# Single blocks and runs of one block

A block can be read and written by itself, or as a run that fills one block or less.  Both ways make the same requests
and leave the same state, whatever the reader replies.  Written, a short run is its block filled up with zeros.  Read, it
is the front of what the single read gives (`readBlock_writeBlock_as_runs`).

The single read does not cut what it gives.  A reply that is longer than a block comes through as it is, and is cut only
when it is read as a run.
-/

namespace SectorCard

/-! ## Runs of one piece -/

namespace Bytes

variable {data : Bytes} {length : Nat}

theorem pieceCount_of_le (hpos : 0 < length) (hle : length ≤ blockSize) : pieceCount blockSize length = 1 := by
  unfold pieceCount blockSize at *
  omega

theorem pieces_of_le (hpos : 0 < data.length) (hle : data.length ≤ blockSize) : pieces blockSize data = [data] := by
  simp [pieces, pieceCount_of_le hpos hle, List.take_of_length_le hle]

theorem pieceLengths_of_le (hpos : 0 < length) (hle : length ≤ blockSize) : pieceLengths blockSize length = [length] := by
  simp [pieceLengths, pieceCount_of_le hpos hle, hle]

end Bytes

namespace Card

open Procedure

variable {ω : Type}

theorem next_of_dataSector {card : Card} {block : UInt16} {access : Access} {sector : UInt8}
    (h : card.dataSector block access = .ok sector) :
    ∃ next, Checked.next block = .ok next ∧ next.toNat = block.toNat + 1 := by
  rcases dataBlock_of_dataSector h with ⟨address, -, htoNat, -⟩
  have hlt := address.toNat_lt
  exact ⟨_, Checked.next_eq_ok (by omega)⟩

/-- A run of one block reads the block and cuts what it is given. -/
theorem exec_readRun_single (t : Transport ω) (c : Situation Link Card ω) (block : UInt16) {take : Nat}
    (htake : take ≤ blockSize) :
    exec t.responder (readRun block [take]) c =
      ((exec t.responder (readBlock block) c).1.map (List.take take), (exec t.responder (readBlock block) c).2) := by
  unfold readRun readBlock inspect
  cases hsector : c.state.dataSector block .read with
  | error e => simp [exec_bind, hsector, Failure.lift, Except.map]
  | ok sector =>
    rcases dataBlock_of_dataSector hsector with ⟨address, hnarrow, -⟩
    rcases next_of_dataSector hsector with ⟨next, hnext, -⟩
    have hlength : Ensures t.responder (readAuthorized sector block) c _ := ensures_readAuthorized_length hnarrow c
    unfold Ensures at hlength
    simp only [exec_bind, exec_get, exec_ofExcept, hsector, Failure.lift]
    rcases hread : exec t.responder (readAuthorized sector block) c with ⟨e | data, c'⟩
    · rfl
    · rw [hread] at hlength
      have hfront : Checked.front take data = .ok (data.take take) := if_pos (Nat.le_trans htake (hlength.2 data rfl))
      simp [hfront, hnext, readRun, Except.map]

/-- A run of one piece writes the piece, filled up with zeros. -/
theorem exec_writeRun_single (t : Transport ω) (c : Situation Link Card ω) (block : UInt16) {piece : Bytes}
    (hpiece : piece.length ≤ blockSize) :
    exec t.responder (writeRun block [piece]) c = exec t.responder (writeBlock block (Block.fit piece)) c := by
  unfold writeRun writeBlock inspect
  cases hsector : c.state.dataSector block .write with
  | error e => simp [exec_bind, hsector, Failure.lift]
  | ok sector =>
    rcases next_of_dataSector hsector with ⟨next, hnext, -⟩
    simp only [exec_bind, exec_get, exec_ofExcept, hsector, Failure.lift, page_eq_ok hpiece, Block.fit]
    rcases hwritten : exec t.responder (writeAuthorized sector block (Bytes.fit blockSize piece)) c with ⟨e | _, c'⟩
    · rfl
    · simp [hnext, writeRun]

theorem exec_readLinear_single (t : Transport ω) (c : Situation Link Card ω) (block : UInt16) {length : Nat}
    (hpos : 0 < length) (hle : length ≤ blockSize) :
    exec t.responder (readLinear block length) c =
      ((exec t.responder (readBlock block) c).1.map (List.take length), (exec t.responder (readBlock block) c).2) := by
  rw [readLinear, Bytes.pieceLengths_of_le hpos hle]
  exact exec_readRun_single t c block hle

theorem exec_writeLinear_single (t : Transport ω) (c : Situation Link Card ω) (block : UInt16) {data : Bytes}
    (hpos : 0 < data.length) (hle : data.length ≤ blockSize) :
    exec t.responder (writeLinear block data) c = exec t.responder (writeBlock block (Block.fit data)) c := by
  rw [writeLinear, Bytes.pieces_of_le hpos hle]
  exact exec_writeRun_single t c block hle

/-! ## What a single read gives -/

/-- What a single read gives is all that the card has shown, and fills a block at least. -/
theorem ensures_readBlock_shown (t : Transport ω) (c : Situation Link Card ω) (block : UInt16) :
    Ensures t.responder (readBlock block) c fun x c' => ∃ said, c'.history = c.history ++ said ∧
      ∀ data, x = .ok data → blockSize ≤ data.length ∧ Shown (UInt8.ofNat block.toNat) data said := by
  have hnone : c.history = c.history ++ [] := (List.append_nil _).symm
  -- The checks send nothing; only behind them is there something that the card can have shown.
  refine ensures_inspect_lift_bind (fun sector hsector => ?_) (fun _ _ => ⟨[], hnone, fun _ h => nomatch h⟩)
  rcases dataBlock_of_dataSector hsector with ⟨address, hnarrow, htoNat, -⟩
  have haddress : UInt8.ofNat block.toNat = address := by rw [← htoNat, UInt8.ofNat_toNat]
  rw [haddress]
  refine ensures_inspect_bind (fun selector _ => ?_) (fun _ _ => ⟨[], hnone, fun _ h => nomatch h⟩)
  rw [hnarrow, ofExcept_ok, pure_bind]
  refine (ensures_withAuthRetry_shown sector selector address c).bind ?_ ?_
  · rintro data c' ⟨said, hsaid, hshown⟩
    split
    · exact ensures_throw ⟨said, hsaid, fun _ h => nomatch h⟩
    · rename_i hlong
      refine ensures_pure ⟨said, hsaid, ?_⟩
      rintro _ ⟨⟩
      exact ⟨Nat.le_of_not_lt hlong, hshown data rfl⟩
  · rintro e c' ⟨said, hsaid, -⟩
    exact ⟨said, hsaid, fun _ h => nomatch h⟩

/-! ## Both ways -/

theorem map_take_eq_self_iff {x : Except Failure Bytes} (h : ∀ data, x = .ok data → blockSize ≤ data.length) :
    x.map (List.take blockSize) = x ↔ ∀ data, x = .ok data → data.length = blockSize := by
  cases x with
  | error e => exact ⟨fun _ => nofun, fun _ => rfl⟩
  | ok data =>
    have hle := h data rfl
    constructor
    · rintro hsame _ ⟨⟩
      have hlength := congrArg List.length (Except.ok.inj hsame)
      rw [List.length_take] at hlength
      omega
    · intro hlength
      exact congrArg Except.ok (List.take_of_length_le (Nat.le_of_eq (hlength data rfl)))

/-- Whatever the reader replies, a block that is read or written by itself is requested as it is as a run of one block,
and the same state is left.  A write has the same result.  A read has the same result, cut after a block: so it is the
same exactly if the single read gives no more than a block, while a run gives a block and no more in any case. -/
theorem readBlock_writeBlock_as_runs (t : Transport ω) (c : Situation Link Card ω) (block : UInt16) (data : Block) :
    let single := exec t.responder (readBlock block) c
    let run := exec t.responder (readLinear block blockSize) c
    run.2 = single.2 ∧ run.1 = single.1.map (List.take blockSize) ∧
      (run.1 = single.1 ↔ ∀ bytes, single.1 = .ok bytes → bytes.length = blockSize) ∧
      (∀ bytes, run.1 = .ok bytes → bytes.length = blockSize) ∧
      (∃ said, single.2.history = c.history ++ said ∧ ∀ bytes, single.1 = .ok bytes →
        blockSize ≤ bytes.length ∧ Shown (UInt8.ofNat block.toNat) bytes said) ∧
      exec t.responder (writeLinear block data.bytes) c = exec t.responder (writeBlock block data) c := by
  intro single run
  have hrun : run = (single.1.map (List.take blockSize), single.2) :=
    exec_readLinear_single t c block (by decide) (Nat.le_refl _)
  -- A run that is a single block makes the same access, so it can only differ in the cut of the reply.
  have hshown := ensures_readBlock_shown t c block
  have hlong : ∀ bytes, single.1 = .ok bytes → blockSize ≤ bytes.length := by
    rcases hshown with ⟨_, -, h⟩
    exact fun bytes hbytes => (h bytes hbytes).1
  have hfit : Block.fit data.bytes = data := Block.ext (Bytes.fit_of_length data.length_bytes)
  have hlength := data.length_bytes
  rw [hrun]
  refine ⟨rfl, rfl, map_take_eq_self_iff hlong, ?_, hshown, ?_⟩
  · intro bytes hbytes
    cases hsingle : single.1 with
    | error e =>
      rw [hsingle] at hbytes
      cases hbytes
    | ok found =>
      rw [hsingle] at hbytes
      cases hbytes
      rw [List.length_take, Nat.min_eq_left (hlong found hsingle)]
  · rw [exec_writeLinear_single t c block (by rw [hlength]; decide) (Nat.le_of_eq hlength), hfit]

/-- A card that shows seventeen bytes for every block. -/
def talkative : Transport Unit := ⟨fun _ => true, fun _ w => (Tag.accepted (List.replicate 17 0xab), w)⟩

example :
    let c := after talkative [.setKey .a .transport .nonVolatile 0] (start .small ())
    (exec talkative.responder (readBlock 4) c).1 = .ok (List.replicate 17 0xab) ∧
      (exec talkative.responder (readLinear 4 16) c).1 = .ok (List.replicate 16 0xab) := by
  decide +kernel

end Card
end SectorCard
