import SectorCard.Proofs.Exactness
import SectorCard.Proofs.AccessTraces

/-!
# Data that is written page by page

Data is cut into pages, the last one filled up with zeros.  If there are not enough addresses for all of them, nothing
is written.  Otherwise the pages are written in order, each under an address of its own, up to the first one that fails
(`pages_of_writeData`).  This holds for every length of data, every page length and every address to start from, and
whatever the transport does.
-/

namespace SectorCard

open Procedure

variable {ω : Type} {t : Transport ω} {said : List (Event Link)}

namespace Coupler

variable {c d : Situation Link Coupler ω}

/-- The command of a page is sent at most once, and the page counts as written exactly if it is acknowledged. -/
theorem writePage_trace {page : Bytes} (hsize : page.length ≤ Defect.maxData) (address : UInt8)
    (c : Situation Link Coupler ω) :
    Ensures t.responder (writePage address page) c fun x d =>
      ∃ said, d.history = c.history ++ said ∧ AccessTrace (.writing address page) x said := by
  have hother : ∀ status, CardError.writeFailed status ≠ .size := fun _ h => nomatch h
  rw [writePage_eq address hsize]
  refine Ensures.bind (access_trace isAccess_updateBinary hother address c) ?_ ?_
  · rintro data d ⟨-, said, hsaid, htrace⟩
    exact ensures_pure ⟨said, hsaid, htrace.map fun _ => ()⟩
  · rintro e d ⟨-, said, hsaid, htrace⟩
    exact ⟨said, hsaid, htrace.map fun _ => ()⟩

/-! ## All pages -/

/-- The pages that data fills from an address on, each with its address; the last one is filled up with zeros. -/
def pagesFrom (start : UInt8) (size : Nat) (data : Bytes) : List (UInt8 × Bytes) :=
  (Bytes.pieces size data).mapIdx fun i piece => (UInt8.ofNat (start.toNat + i), Bytes.fit size piece)

/-- Writes pages one after the other, each to its address. -/
def writePages : List (UInt8 × Bytes) → CouplerM Unit
  | [] => pure ()
  | page :: rest => do
    writePage page.1 page.2
    writePages rest

/-- The command that writes a page. -/
def pageCommand (page : UInt8 × Bytes) : Bytes := (Command.writing page.1 page.2).encode

@[simp] theorem length_pagesFrom (start : UInt8) (size : Nat) (data : Bytes) :
    (pagesFrom start size data).length = Bytes.pieceCount size data.length := by
  simp [pagesFrom]

theorem length_of_mem_pagesFrom {start : UInt8} {size : Nat} {data : Bytes} {page : UInt8 × Bytes}
    (h : page ∈ pagesFrom start size data) : page.2.length = size := by
  rcases List.mem_mapIdx.1 h with ⟨i, hi, rfl⟩
  exact Bytes.length_fit _ _

/-- The pages of data are the pieces of it, one after the other, under addresses that do not wrap around. -/
theorem getElem?_pagesFrom {start : UInt8} {size i : Nat} {data : Bytes} {page : UInt8 × Bytes}
    (hroom : start.toNat + Bytes.pieceCount size data.length ≤ 256) (h : (pagesFrom start size data)[i]? = some page) :
    page.1.toNat = start.toNat + i ∧ page.2 = Bytes.fit size (data.drop (size * i)) := by
  rcases List.getElem?_eq_some_iff.1 h with ⟨hi, rfl⟩
  rw [length_pagesFrom] at hi
  have hpiece := Bytes.getElem?_pieces hi
  rcases List.getElem?_eq_some_iff.1 hpiece with ⟨hbound, hget⟩
  simp only [pagesFrom, List.getElem_mapIdx, hget]
  refine ⟨?_, by rw [Bytes.fit_take, Nat.mul_comm]⟩
  rw [UInt8.toNat_ofNat']
  omega

/-- Pieces that fit their pages are written as pages, as long as there are addresses for them. -/
theorem writePieces_eq {start : UInt8} {size i : Nat} {pieces : List Bytes}
    (hsize : ∀ piece ∈ pieces, piece.length ≤ size) (hroom : start.toNat + i + pieces.length ≤ 256) :
    writePieces start size i pieces =
      writePages (pieces.mapIdx fun j piece => (UInt8.ofNat (start.toNat + (i + j)), Bytes.fit size piece)) := by
  induction pieces generalizing i with
  | nil => rfl
  | cons piece rest ih =>
    rw [List.length_cons] at hroom
    have hfits : start.toNat + i < 256 := by omega
    rcases writePieces_cons (hsize piece List.mem_cons_self) hfits rest with ⟨address, haddress, hwrite⟩
    have hrest := ih (i := i + 1) (fun p hp => hsize p (List.mem_cons_of_mem _ hp)) (by omega)
    have hsame : UInt8.ofNat (start.toNat + (i + 0)) = address := by
      rw [Nat.add_zero, ← haddress, UInt8.ofNat_toNat]
    rw [hwrite, hrest, List.mapIdx_cons, hsame]
    simp only [writePages, Nat.add_assoc, Nat.add_comm 1]

/-- All that writing pages one after the other can come to: all are written, or the first page that fails is the last
one that is tried. -/
inductive WriteOutcome (t : Transport ω) (pages : List (UInt8 × Bytes)) (c : Situation Link Coupler ω) :
    Except Failure Unit → Situation Link Coupler ω → List (Event Link) → Prop where
  | complete {d : Situation Link Coupler ω} {said : List (Event Link)}
      (hsent : sent .updateBinary said = pages.map pageCommand)
      (hdone : acknowledged .updateBinary said = pages.map pageCommand) : WriteOutcome t pages c (.ok ()) d said
  | stopped {first rest : List (UInt8 × Bytes)} {page : UInt8 × Bytes} {f : Failure}
      {a d : Situation Link Coupler ω} {said : List (Event Link)} (hpages : pages = first ++ page :: rest)
      (hfirst : exec t.responder (writePages first) c = (.ok (), a))
      (hlast : exec t.responder (writePage page.1 page.2) a = (.error f, d))
      (hsent : sent .updateBinary said <+: (first ++ [page]).map pageCommand)
      (hdone : acknowledged .updateBinary said = first.map pageCommand)
      (hsize : f = .error .size → ReportsSize said) : WriteOutcome t pages c (.error f) d said

/-- What follows a page that was written is what comes of the pages after it. -/
theorem WriteOutcome.cons {page : UInt8 × Bytes} {rest : List (UInt8 × Bytes)} {x : Except Failure Unit}
    {a d : Situation Link Coupler ω} {said later : List (Event Link)} (h : WriteOutcome t rest a x d later)
    (hpage : exec t.responder (writePage page.1 page.2) c = (.ok (), a))
    (hsent : sent .updateBinary said = [pageCommand page]) (hdone : acknowledged .updateBinary said = [pageCommand page]) :
    WriteOutcome t (page :: rest) c x d (said ++ later) := by
  cases h with
  | complete hsent' hdone' =>
    exact .complete (by rw [sent_append, hsent, hsent']; rfl) (by rw [acknowledged_append, hdone, hdone']; rfl)
  | @stopped first rest' last f b d _ hpages hfirst hlast hsent' hdone' hsize =>
    have hpages' : page :: rest = (page :: first) ++ last :: rest' := by rw [hpages, List.cons_append]
    refine .stopped hpages' ?_ hlast ?_ ?_ fun hf => (hsize hf).append_left said
    · rw [writePages, exec_bind, hpage]
      exact hfirst
    · rw [sent_append, hsent]
      exact (List.prefix_append_right_inj [pageCommand page]).2 hsent'
    · rw [acknowledged_append, hdone, hdone']
      rfl

theorem writePages_outcome {pages : List (UInt8 × Bytes)} (hsize : ∀ page ∈ pages, page.2.length ≤ Defect.maxData)
    (c : Situation Link Coupler ω) :
    Ensures t.responder (writePages pages) c fun x d =>
      ∃ said, d.history = c.history ++ said ∧ WriteOutcome t pages c x d said := by
  induction pages generalizing c with
  | nil => exact ensures_pure ⟨[], (List.append_nil _).symm, .complete rfl rfl⟩
  -- The run itself is kept for the first page, since the outcome tells where each page was written from.
  | cons page rest ih =>
    refine Ensures.bind (R := fun x a => exec t.responder (writePage page.1 page.2) c = (x, a) ∧
      ∃ said, a.history = c.history ++ said ∧ AccessTrace (.writing page.1 page.2) x said)
      ⟨rfl, writePage_trace (hsize page List.mem_cons_self) page.1 c⟩ ?_ ?_
    · rintro _ a ⟨hpage, said, hsaid, htrace⟩
      cases htrace with
      | done hsent hdone =>
        refine (ih (fun p hp => hsize p (List.mem_cons_of_mem _ hp)) a).mono ?_
        rintro x d ⟨later, hlater, h⟩
        exact ⟨said ++ later, by rw [hlater, hsaid, List.append_assoc], h.cons hpage hsent hdone⟩
    · rintro f d ⟨hpage, said, hsaid, htrace⟩
      cases htrace with
      | failed hsent hdone hsize =>
        have hpages : page :: rest = [] ++ page :: rest := rfl
        exact ⟨said, hsaid, .stopped hpages (exec_pure () c) hpage hsent hdone hsize⟩

/-- Writing succeeds exactly if all pages are acknowledged. -/
theorem WriteOutcome.ok_iff {pages : List (UInt8 × Bytes)} {x : Except Failure Unit}
    (h : WriteOutcome t pages c x d said) : x = .ok () ↔ acknowledged .updateBinary said = pages.map pageCommand := by
  cases h with
  | complete _ hdone => simp [hdone]
  | stopped hpages _ _ _ hdone _ =>
    constructor
    · intro hok
      cases hok
    · intro hall
      have hlength := congrArg List.length (hdone.symm.trans hall)
      simp [hpages] at hlength

/-- Data is written exactly if it ends at or before the last address. -/
theorem exec_writeData (t : Transport ω) (start : UInt8) (data : Bytes) (c : Situation Link Coupler ω) :
    exec t.responder (writeData start data) c =
      if start.toNat + Bytes.pieceCount c.state.pageLength.toNat data.length ≤ 256 then
        exec t.responder (writePages (pagesFrom start c.state.pageLength.toNat data)) c
      else (.error (.error .size), c) := by
  have hpieces : ∀ piece ∈ Bytes.pieces c.state.pageLength.toNat data, piece.length ≤ c.state.pageLength.toNat :=
    fun piece hpiece => Bytes.length_le_of_mem_pieces hpiece
  unfold writeData
  rw [exec_bind, exec_get]
  simp only [Bytes.length_pieces, lastAddress]
  split
  · rename_i hroom
    rw [writePieces_eq hpieces (by simpa using hroom)]
    simp [pagesFrom]
  · exact exec_throw _ c

/-- Data that is not empty and would run past the last address is refused, and nothing is sent.  Otherwise the pages of
the data are written, each once and in order under addresses that do not wrap around, up to the first one that fails.
A page is its piece of the data, with zeros behind a piece that is too short.  Writing succeeds exactly if all pages are
acknowledged, and fails with an error of size only if the transport has reported one. -/
theorem pages_of_writeData (t : Transport ω) (start : UInt8) (data : Bytes) (c : Situation Link Coupler ω) :
    let size := c.state.pageLength.toNat
    let pages := pagesFrom start size data
    let run := exec t.responder (writeData start data) c
    let overflows := data ≠ [] ∧ 256 < start.toNat + Bytes.pieceCount size data.length
    (overflows → run = (.error (.error .size), c)) ∧
      (¬ overflows → pages.length = Bytes.pieceCount size data.length ∧
        (∀ i page, pages[i]? = some page →
          page.1.toNat = start.toNat + i ∧ page.2 = Bytes.fit size (data.drop (size * i)) ∧
            page.2 = (data.drop (size * i)).take size ++ List.replicate (size - (data.length - size * i)) 0) ∧
        ∃ said, run.2.history = c.history ++ said ∧ WriteOutcome t pages c run.1 run.2 said ∧
          (run.1 = .ok () ↔ acknowledged .updateBinary said = pages.map pageCommand)) := by
  intro size pages run overflows
  have hrun := exec_writeData t start data c
  refine ⟨fun hover => hrun.trans (if_neg (Nat.not_le.2 hover.2)), fun hfits => ?_⟩
  have hroom : start.toNat + Bytes.pieceCount size data.length ≤ 256 := by
    refine Nat.le_of_not_lt fun hfar => hfits ⟨?_, hfar⟩
    rintro rfl
    have hnone : Bytes.pieceCount size ([] : Bytes).length = 0 := by
      rw [← Bytes.length_pieces, Bytes.pieces_nil, List.length_nil]
    have hstart := start.toNat_lt
    omega
  have hsizes : ∀ page ∈ pages, page.2.length ≤ Defect.maxData := by
    intro page hpage
    rw [length_of_mem_pagesFrom hpage]
    exact Nat.le_of_lt_succ c.state.pageLength.toNat_lt
  have hwrites : run = exec t.responder (writePages pages) c := hrun.trans (if_pos hroom)
  rcases writePages_outcome (t := t) hsizes c with ⟨said, hsaid, houtcome⟩
  rw [← hwrites] at hsaid houtcome
  refine ⟨length_pagesFrom _ _ _, fun i page hpage => ?_, said, hsaid, houtcome, houtcome.ok_iff⟩
  rcases getElem?_pagesFrom hroom hpage with ⟨haddress, hpiece⟩
  exact ⟨haddress, hpiece, hpiece.trans (Bytes.fit_drop _ _ _)⟩

/-- The last page is filled up, and lies at the last address. -/
example : pagesFrom 0xfe 4 [1, 2, 3, 4, 5] = [(0xfe, [1, 2, 3, 4]), (0xff, [5, 0, 0, 0])] := by decide

end Coupler
end SectorCard
