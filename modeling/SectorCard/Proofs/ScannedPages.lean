import SectorCard.Proofs.AccessTraces
import SectorCard.Proofs.Exactness

/-!
# Data that is read page by page

Pages can be read up to the end, as far as that goes, or until a certain number of bytes has come.  Both read the same
pages: one after the other, each under an address of its own, until something stops them.  So the second gives the front
of what the first gives, and if that is too short, it fails for the reason that has stopped the first
(`readData_of_readAll`).  Nothing is supposed of the lengths of pages, nor of what the transport does.

A `Scan` is what both have in common.
-/

namespace SectorCard

open Procedure

variable {ω : Type} {t : Transport ω}

namespace Coupler

variable {c d : Situation Link Coupler ω} {addresses : List UInt8} {pages : List Bytes} {stop : CardError}

/-! ## What stops a scan -/

/-- Pages that are read from addresses, one after the other, and what has stopped it: there are no more addresses, a
page is empty, or it cannot be read. -/
inductive Scan (t : Transport ω) :
    List UInt8 → Situation Link Coupler ω → List Bytes → CardError → Situation Link Coupler ω → Prop where
  | exhausted (c : Situation Link Coupler ω) : Scan t [] c [] .size c
  | empty {address : UInt8} {rest : List UInt8} {c d : Situation Link Coupler ω}
      (hpage : exec t.responder (readWholePage address) c = (.ok [], d)) : Scan t (address :: rest) c [] .size d
  | failed {address : UInt8} {rest : List UInt8} {e : CardError} {c d : Situation Link Coupler ω}
      (hpage : exec t.responder (readWholePage address) c = (.error (.error e), d)) : Scan t (address :: rest) c [] e d
  | page {address : UInt8} {rest : List UInt8} {page : Bytes} {pages : List Bytes} {stop : CardError}
      {c a d : Situation Link Coupler ω} (hpage : exec t.responder (readWholePage address) c = (.ok page, a))
      (hsome : page ≠ []) (hrest : Scan t rest a pages stop d) : Scan t (address :: rest) c (page :: pages) stop d

theorem Scan.length_le (h : Scan t addresses c pages stop d) : pages.length ≤ addresses.length := by
  induction h with
  | exhausted _ => exact Nat.le_refl _
  | empty _ | failed _ => exact Nat.zero_le _
  | page _ _ _ ih => exact Nat.succ_le_succ ih

/-- As many pages are read as can be. -/
theorem exec_scan (t : Transport ω) (addresses : List UInt8) (c : Situation Link Coupler ω) :
    ∃ pages stop d, exec t.responder (scan addresses) c = (.ok pages.flatten, d) ∧ Scan t addresses c pages stop d := by
  induction addresses generalizing c with
  | nil => exact ⟨[], .size, c, exec_pure [] c, .exhausted c⟩
  | cons address rest ih =>
    have hnodefect := faultless_readWholePage (t := t) address c
    unfold Ensures at hnodefect
    rw [scan, exec_bind, exec_attempt]
    rcases hpage : exec t.responder (readWholePage address) c with ⟨(e | defect) | (_ | ⟨byte, page⟩), a⟩
    · exact ⟨[], e, a, exec_pure [] a, .failed hpage⟩
    · rw [hpage] at hnodefect
      exact hnodefect.elim
    · exact ⟨[], .size, a, exec_pure [] a, .empty hpage⟩
    · rcases ih a with ⟨pages, stop, d, hrest, hscan⟩
      refine ⟨(byte :: page) :: pages, stop, d, ?_, .page hpage (List.cons_ne_nil _ _) hscan⟩
      simp only [exec_bind, hrest, exec_pure, List.flatten_cons]

/-! ## What is said meanwhile -/

theorem readWholePage_trace {address : UInt8} {x : Except Failure Bytes} {a : Situation Link Coupler ω}
    (h : exec t.responder (readWholePage address) c = (x, a)) : a.state.pageLength = c.state.pageLength ∧
      ∃ said, a.history = c.history ++ said ∧ AccessTrace (.reading address c.state.pageLength) x said := by
  have hother : ∀ status, CardError.readFailed status ≠ .size := fun _ h => nomatch h
  have htrace : Ensures t.responder (readWholePage address) c fun x a => a.state.pageLength = c.state.pageLength ∧
      ∃ said, a.history = c.history ++ said ∧ AccessTrace (.reading address c.state.pageLength) x said := by
    refine ensures_get_bind ?_
    rw [readPage_eq]
    exact access_trace isAccess_readBinary hother address c
  rw [Ensures, h] at htrace
  exact htrace

/-- A scan sends the commands that read its addresses, in order and each once, and stops somewhere. -/
theorem Scan.sent_inOrder (h : Scan t addresses c pages stop d) :
    ∃ said, d.history = c.history ++ said ∧
      sent .readBinary said <+: addresses.map fun address => (Command.reading address c.state.pageLength).encode := by
  -- By induction on the scan: what has stopped it is the last thing that was asked for.
  induction h with
  | exhausted c => exact ⟨[], (List.append_nil _).symm, List.nil_prefix⟩
  | @empty address rest c d hpage | @failed address rest _ c d hpage =>
    rcases readWholePage_trace hpage with ⟨-, said, hsaid, htrace⟩
    refine ⟨said, hsaid, htrace.sent_atMost.trans ?_⟩
    exact List.prefix_append [_] _
  | @page address rest page pages stop c a d hpage _ _ ih =>
    rcases readWholePage_trace hpage with ⟨hlength, said, hsaid, htrace⟩
    rcases ih with ⟨later, hlater, hsent⟩
    rw [hlength] at hsent
    refine ⟨said ++ later, by rw [hlater, hsaid, List.append_assoc], ?_⟩
    cases htrace with
    | done hone _ =>
      have hone' : sent .readBinary said = [(Command.reading address c.state.pageLength).encode] := hone
      rw [sent_append, hone', List.map_cons]
      exact (List.prefix_append_right_inj [_]).2 hsent

/-! ## A certain number of bytes -/

/-- What a read of a certain length comes to if no more than some bytes can be read. -/
def frontOf (out : Bytes) (stop : CardError) (length : Nat) : Except Failure Bytes :=
  if length ≤ out.length then .ok (out.take length) else .error (.error stop)

/-- A page that comes first is taken first, and what it lacks from the rest. -/
theorem frontOf_append (page out : Bytes) (stop : CardError) (length : Nat) :
    frontOf (page ++ out) stop length = (frontOf out stop (length - page.length)).map (page.take length ++ ·) := by
  have hlength : length ≤ (page ++ out).length ↔ length - page.length ≤ out.length := by
    rw [List.length_append]
    omega
  unfold frontOf
  by_cases h : length - page.length ≤ out.length
  · rw [if_pos h, if_pos (hlength.2 h), List.take_append]
    rfl
  · rw [if_neg h, if_neg fun h' => h (hlength.1 h')]
    rfl

/-- Reading a certain length says what a scan says, or stops before it, and gives the front of what the scan gives. -/
def GathersFront (t : Transport ω) (addresses : List UInt8) (wanted : Nat) (c : Situation Link Coupler ω) (out : Bytes)
    (stop : CardError) (d : Situation Link Coupler ω) : Prop :=
  Ensures t.responder (gather addresses wanted) c fun x a =>
    a.history <+: d.history ∧ x.map (·.take wanted) = frontOf out stop wanted

theorem Scan.history_grows (h : Scan t addresses c pages stop d) : c.history <+: d.history := by
  rcases h.sent_inOrder with ⟨said, hsaid, -⟩
  exact ⟨said, hsaid.symm⟩

theorem Scan.gathersFront_zero (h : Scan t addresses c pages stop d) : GathersFront t addresses 0 c pages.flatten stop d := by
  have hnone : gather addresses 0 = pure [] := by
    cases addresses <;> rfl
  unfold GathersFront
  rw [hnone]
  exact ensures_pure ⟨h.history_grows, rfl⟩

theorem Scan.gathersFront (h : Scan t addresses c pages stop d) (wanted : Nat) :
    GathersFront t addresses wanted c pages.flatten stop d := by
  -- Wherever enough was read, reading the front stops; as long as not, it goes with the scan.
  induction h generalizing wanted with
  | exhausted c =>
    cases wanted with
    | zero => exact (Scan.exhausted c).gathersFront_zero
    | succ wanted => exact ensures_throw ⟨List.prefix_rfl, rfl⟩
  | @empty address rest c d hpage =>
    cases wanted with
    | zero => exact (Scan.empty hpage).gathersFront_zero
    | succ wanted =>
      refine Ensures.bind_of_ok (a := []) (P := fun a => a = d) (ensures_of_exec hpage) ?_
      rintro a rfl
      exact ensures_throw ⟨List.prefix_rfl, rfl⟩
  | @failed address rest e c d hpage =>
    cases wanted with
    | zero => exact (Scan.failed hpage).gathersFront_zero
    | succ wanted =>
      refine Ensures.bind_of_error (e := .error e) (P := fun a => a = d) (ensures_of_exec hpage) ?_
      rintro a rfl
      exact ⟨List.prefix_rfl, rfl⟩
  | @page address rest page pages stop c a d hpage hsome hrest ih =>
    cases wanted with
    | zero => exact (Scan.page hpage hsome hrest).gathersFront_zero
    | succ wanted =>
      refine Ensures.bind_of_ok (a := page) (P := fun b => b = a) (ensures_of_exec hpage) ?_
      rintro b rfl
      rw [if_neg (by simpa using hsome), List.flatten_cons]
      -- What the page lacks has to come from the pages after it.
      refine Ensures.bind (ih (wanted + 1 - page.length)) ?_ ?_
      · rintro others d' ⟨hstart, hfront⟩
        refine ensures_pure ⟨hstart, ?_⟩
        rw [frontOf_append, ← hfront]
        exact congrArg Except.ok List.take_append
      · rintro e d' ⟨hstart, hfront⟩
        refine ⟨hstart, ?_⟩
        rw [frontOf_append, ← hfront]
        rfl

theorem Scan.readData {start : UInt8} (h : Scan t (addressesFrom start) c pages stop d) (length : Nat) :
    Ensures t.responder (readData start length) c fun x a =>
      a.history <+: d.history ∧ x = frontOf pages.flatten stop length := by
  refine Ensures.bind (h.gathersFront length) ?_ ?_
  · rintro data a ⟨hstart, hfront⟩
    exact ensures_pure ⟨hstart, hfront⟩
  · rintro e a ⟨hstart, hfront⟩
    exact ⟨hstart, hfront⟩

/-! ## Both together -/

theorem length_addressesFrom (start : UInt8) : (addressesFrom start).length = 256 - start.toNat := by
  simp [addressesFrom, lastAddress]

/-- Reading all that there is gives the pages of a scan over the addresses from the first one to the last.  It sends one
command for each page, under addresses that follow each other and do not wrap around.  Reading a certain length from the
same situation says a front of the same, and gives the front of the same bytes; or if there are not as many, the reason
for which the scan has stopped. -/
theorem readData_of_readAll (t : Transport ω) (start : UInt8) (c : Situation Link Coupler ω) :
    let all := exec t.responder (readAll start) c
    ∃ pages stop said, all.1 = .ok pages.flatten ∧ Scan t (addressesFrom start) c pages stop all.2 ∧
      all.2.history = c.history ++ said ∧ pages.length ≤ 256 - start.toNat ∧
      (sent .readBinary said).length ≤ 256 - start.toNat ∧
      (∀ i command, (sent .readBinary said)[i]? = some command → ∃ address, address.toNat = start.toNat + i ∧
        command = (Command.reading address c.state.pageLength).encode) ∧
      ∀ length,
        let part := exec t.responder (readData start length) c
        part.1 = frontOf pages.flatten stop length ∧ ∃ front, part.2.history = c.history ++ front ∧ front <+: said := by
  intro all
  rcases exec_scan t (addressesFrom start) c with ⟨pages, stop, d, hall, hscan⟩
  have hend : all.2 = d := congrArg Prod.snd hall
  rcases hscan.sent_inOrder with ⟨said, hsaid, hsent⟩
  have hpages := hscan.length_le
  have hcount := hsent.length_le
  rw [List.length_map] at hcount
  rw [length_addressesFrom] at hpages hcount
  refine ⟨pages, stop, said, congrArg Prod.fst hall, hend ▸ hscan, hend ▸ hsaid, hpages, hcount, ?_, fun length => ?_⟩
  · intro i command hcommand
    rcases List.getElem?_eq_some_iff.1 hcommand with ⟨hi, rfl⟩
    -- A front of the commands has the same commands, so each is that of its own address.
    have hread := List.prefix_iff_getElem?.1 hsent i hi
    rw [List.getElem?_map, Option.map_eq_some_iff] at hread
    rcases hread with ⟨address, haddress, hencode⟩
    exact ⟨address, exactSpans.address start i address haddress, hencode.symm⟩
  · rcases hscan.readData length with ⟨hstart, hfront⟩
    refine ⟨hfront, _, rfl, ?_⟩
    rw [hsaid] at hstart
    exact (List.prefix_append_right_inj c.history).1 hstart

end Coupler
end SectorCard
