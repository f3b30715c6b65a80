import Mathlib.Logic.ExistsUnique
import SectorCard.Proofs.Defects
import SectorCard.Proofs.Reachability
import SectorCard.Proofs.Tag

/-!
# What goes over the wire

A card sends four kinds of commands, and each of them names a block that exists and a slot that exists.  Data is
never written to a trailer or to the manufacturer's block, and an update of a trailer writes no other block
(`perform_sends_proper`).

This holds for every reader: the replies, the state of the coupler at the start and what failed before make no
difference.
-/

namespace SectorCard

/-- The commands that a card sends to its reader. -/
inductive WireCommand where
  | read (block : UInt8)
  | write (block : UInt8) (page : Block)
  | load (store : KeyStore) (slot : UInt8) (key : Key)
  | authenticate (block code slot : UInt8)

theorem Key.ext {key other : Key} (h : key.bytes = other.bytes) : key = other := by
  cases key
  cases other
  cases h
  rfl

namespace WireCommand

def bytes : WireCommand → Bytes
  | read block => [0xff, 0xb0, 0x00, block, 0x10]
  | write block page => [0xff, 0xd6, 0x00, block, 0x10] ++ page.bytes
  | load store slot key => [0xff, 0x82, store.code, slot, 0x06] ++ key.bytes
  | authenticate block code slot => [0xff, 0x88, 0x00, block, code, slot]

/-- The blocks of a command exist on a card, its slot exists in its store, and its code is that of a key. -/
def Proper (g : Geometry) : WireCommand → Prop
  | read block => block.toNat < g.blockCount
  | write block _ => block.toNat < g.blockCount
  | load store slot _ => store.HasSlot slot
  | authenticate block code _ => block.toNat < g.blockCount ∧ (code = 0x60 ∨ code = 0x61)

theorem bytes_injective : Function.Injective bytes := by
  intro sent other h
  -- The length and the first bytes tell the commands apart, and the rest gives back what they carry.
  cases sent with
  | read block =>
    cases other with
    | read block' => simpa [bytes] using h
    | _ => simp [bytes] at h
  | write block page =>
    cases other with
    | write block' page' =>
      simp only [bytes, List.cons_append, List.nil_append, List.cons.injEq, true_and] at h
      rw [h.1, Block.ext h.2]
    | _ => simp [bytes] at h
  | load store slot key =>
    cases other with
    | load store' slot' key' =>
      simp only [bytes, List.cons_append, List.nil_append, List.cons.injEq, true_and] at h
      rcases h with ⟨hcode, hslot, hkey⟩
      have hstore : store = store' := by
        cases store <;> cases store' <;> first | rfl | cases hcode
      rw [hstore, hslot, Key.ext hkey]
    | _ => simp [bytes] at h
  | authenticate block code slot =>
    cases other with
    | authenticate block' code' slot' => simpa [bytes] using h
    | _ => simp [bytes] at h

theorem eq_write_of_bytes {p1 block : UInt8} {rest : Bytes} {sent : WireCommand}
    (h : 0xff :: 0xd6 :: p1 :: block :: rest = sent.bytes) : ∃ page, sent = write block page := by
  cases sent with
  | write block' page =>
    simp only [bytes, List.cons_append, List.cons.injEq] at h
    exact ⟨page, by rw [h.2.2.2.1]⟩
  | _ => simp [bytes] at h

/-! ## The commands of the library -/

theorem encode_reading (address : UInt8) : (Command.reading address Card.blockLength).encode = (read address).bytes := rfl

theorem encode_writing (address : UInt8) (page : Block) :
    (Command.writing address page.bytes).encode = (write address page).bytes := by
  show 0xff :: 0xd6 :: 0x00 :: address :: UInt8.ofNat page.bytes.length :: page.bytes = _
  rw [page.length_bytes]
  rfl

theorem encode_loading (entry : KeyEntry) :
    (Command.loading entry).encode = (load entry.store entry.slot entry.key).bytes := by
  show 0xff :: 0x82 :: entry.store.code :: entry.slot :: UInt8.ofNat entry.key.bytes.length :: entry.key.bytes = _
  rw [entry.key.length_bytes]
  rfl

theorem encode_authenticating (address code slot : UInt8) :
    (Command.authenticating address code slot).encode = (authenticate address code slot).bytes := rfl

end WireCommand

namespace Card

open Procedure

/-! ## What an operation may write -/

/-- The blocks that an operation may write: data neither to the manufacturer's block nor to a trailer, and a
trailer only where it belongs. -/
def Operation.MayWrite (g : Geometry) : Operation → (block : Nat) → Prop
  | .writeBlock _ _, block | .writeLinear _ _, block =>
    block ≠ 0 ∧ ∀ sector trailer, g.trailerBlock sector = .ok trailer → trailer.toNat ≠ block
  | .changeTrailer sector _, block | .applyPolicy sector _ _, block =>
    ∃ trailer, g.trailerBlock sector = .ok trailer ∧ trailer.toNat = block
  | _, _ => False

/-- An event that an operation may give rise to. -/
def Operation.MaySay (g : Geometry) (op : Operation) : Event Link → Prop
  | ⟨.isConnected, _⟩ => True
  | ⟨.transmit command, _⟩ =>
    ∃ sent : WireCommand, command = sent.bytes ∧ sent.Proper g ∧
      ∀ block page, sent = .write block page → op.MayWrite g block.toNat

theorem permitsKeys_maySay (g : Geometry) (op : Operation) : PermitsKeys g (op.MaySay g) where
  asked _ := trivial
  loaded entry _ legal := ⟨_, WireCommand.encode_loading entry, legal, fun _ _ h => nomatch h⟩
  authenticated address selector code slot _ haddress hcode := by
    refine ⟨_, WireCommand.encode_authenticating address code slot, ⟨haddress, ?_⟩, fun _ _ h => nomatch h⟩
    cases selector <;> cases hcode
    · exact .inl rfl
    · exact .inr rfl

theorem mayWrite_of_writes {g : Geometry} {op : Operation} {sector address : UInt8} {page : Bytes}
    (hwrites : op.Writes address page) (haddress : DataBlock g .write sector address) :
    op.MayWrite g address.toNat := by
  have hdata : address.toNat ≠ 0 ∧
      ∀ other trailer, g.trailerBlock other = .ok trailer → trailer.toNat ≠ address.toNat := by
    refine ⟨haddress.no_manufacturer rfl, fun other trailer htrailer hsame => haddress.no_trailer ?_⟩
    -- A trailer lies in its own sector, which is that of the address.
    have htoNat := (Geometry.toNat_of_trailerBlock htrailer).2
    rw [haddress.toNat_sector, ← hsame, htoNat, Geometry.sectorIndex_trailerIndex]
  cases op with
  | writeBlock block data => exact hdata
  | writeLinear start data => exact hdata
  | _ => exact hwrites.elim

theorem trailerBlock_of_trailerAddress {card : Card} {sector address : UInt8}
    (h : card.trailerAddress sector = .ok address) :
    ∃ trailer, card.geometry.trailerBlock sector = .ok trailer ∧ trailer.toNat = address.toNat := by
  have htoNat := (inSector_of_trailerAddress h).1
  unfold trailerAddress at h
  cases hblock : card.geometry.trailerBlock sector with
  | error e =>
    rw [hblock] at h
    cases h
  | ok trailer => exact ⟨trailer, rfl, (Geometry.toNat_of_trailerBlock hblock).2.trans htoNat.symm⟩

theorem maySay_of_accesses {card : Card} {op : Operation} {sector address : UInt8} {selector : KeySelector}
    {command : Command} (h : op.Accesses card sector selector address command) (reply : Except CardError Bytes) :
    op.MaySay card.geometry ⟨.transmit command.encode, reply⟩ := by
  have hblock := h.inSector.exists_block
  have hwritten : ∀ page : Block, op.MayWrite card.geometry address.toNat →
      op.MaySay card.geometry ⟨.transmit (Command.writing address page.bytes).encode, reply⟩ := by
    intro page hmay
    refine ⟨.write address page, WireCommand.encode_writing address page, hblock, ?_⟩
    rintro _ _ ⟨⟩
    exact hmay
  cases h with
  | reading => exact ⟨.read address, rfl, hblock, fun _ _ h => nomatch h⟩
  | writing hwrites _ haddress hpage => exact hwritten ⟨_, hpage⟩ (mayWrite_of_writes hwrites haddress)
  | changing haddress _ => exact hwritten (SectorTrailer.toBlock _) (trailerBlock_of_trailerAddress haddress)
  | applying haddress _ => exact hwritten (SectorTrailer.toBlock _) (trailerBlock_of_trailerAddress haddress)
  | restoring haddress => exact hwritten (SectorTrailer.toBlock _) (trailerBlock_of_trailerAddress haddress)

/-! ## Every run -/

variable {ω : Type} {t : Transport ω} {c : Situation Link Card ω}

theorem perform_maySay (op : Operation) (c : Situation Link Card ω) :
    Ensures t.responder (perform op) c fun _ c' => c'.state.geometry = c.state.geometry ∧
      SaidSince c.history (op.MaySay c.state.geometry) c' := by
  have hsteps : StepsKeep t (fun c' => c'.state.geometry = c.state.geometry ∧
      SaidSince c.history (op.MaySay c.state.geometry) c') (op.Accesses c.state) :=
    stepsKeep_saidSince (permitsKeys_maySay c.state.geometry op) fun _ _ _ _ h =>
      ⟨h.inSector.exists_block, maySay_of_accesses h⟩
  refine hsteps.perform ⟨rfl, saidSince_history _ c⟩ ?_ ?_
  · intro selector key store slot card _ hset
    exact ⟨(setup_setKey hset).1, saidSince_history _ c⟩
  · intro sector policy card _ hset
    exact ⟨(setup_setPolicy hset).1, saidSince_history _ c⟩

/-- Whatever is said in a run, some operation may say it. -/
theorem maySay_of_after {g : Geometry} (hg : c.state.geometry = g) (hquiet : c.history = []) (ops : List Operation) :
    (after t ops c).state.geometry = g ∧ ∀ event ∈ (after t ops c).history, ∃ op : Operation, op.MaySay g event := by
  have hkeeps : Keeps t.responder
      (fun c : Situation Link Card ω => c.state.geometry = g ∧ ∀ event ∈ c.history, ∃ op : Operation, op.MaySay g event)
      (performAll ops) := by
    refine keeps_performAll fun op _ c hc => ?_
    rcases hc with ⟨rfl, hsaid⟩
    refine (perform_maySay op c).mono ?_
    rintro x c' ⟨hg', said, hhistory, hnew⟩
    refine ⟨hg', fun event hevent => ?_⟩
    rw [hhistory] at hevent
    rcases List.mem_append.1 hevent with hold | hlater
    · exact hsaid event hold
    · exact ⟨op, hnew event hlater⟩
  refine hkeeps c ⟨hg, ?_⟩
  rw [hquiet]
  exact fun _ h => nomatch h

/-- Whatever a reader replies, no operation of a run breaks a rule of the library, everything that is sent is
exactly one of the commands of a card, naming a block and a slot that exist, and an operation writes no block that
it may not write. -/
theorem perform_sends_proper (t : Transport ω) (coupler : Coupler) (g : Geometry) (w : ω) (ops : List Operation)
    (op : Operation) :
    let c := after t ops ⟨fresh coupler g, w, []⟩
    let run := exec t.responder (perform op) c
    NoDefect run.1 ∧
      (∀ command reply, (⟨.transmit command, reply⟩ : Event Link) ∈ run.2.history →
        ∃! sent : WireCommand, sent.Proper g ∧ command = sent.bytes) ∧
      ∃ said, run.2.history = c.history ++ said ∧ ∀ block page reply,
        (⟨.transmit (WireCommand.write block page).bytes, reply⟩ : Event Link) ∈ said → op.MayWrite g block.toNat := by
  intro c run
  have hrun := maySay_of_after (t := t) (c := ⟨fresh coupler g, w, []⟩) rfl rfl ops
  have hg : c.state.geometry = g := hrun.1
  rcases perform_maySay (t := t) op c with ⟨-, said, hhistory, hnew⟩
  rw [hg] at hnew
  refine ⟨faultless_perform op c, ?_, said, hhistory, ?_⟩
  · intro command reply hevent
    -- An event was said in this operation or in one before it, and each says only what it may.
    have hmaySay : ∃ o : Operation, o.MaySay g ⟨.transmit command, reply⟩ := by
      rw [hhistory] at hevent
      rcases List.mem_append.1 hevent with hold | hlater
      · exact hrun.2 _ hold
      · exact ⟨op, hnew _ hlater⟩
    rcases hmaySay with ⟨o, sent, hbytes, hproper, -⟩
    refine ⟨sent, ⟨hproper, hbytes⟩, ?_⟩
    rintro other ⟨-, hother⟩
    exact WireCommand.bytes_injective (hother.symm.trans hbytes)
  · intro block page reply hevent
    rcases hnew _ hevent with ⟨sent, hbytes, -, hmay⟩
    exact hmay block page (WireCommand.bytes_injective hbytes).symm

end Card
end SectorCard
