import SectorCard.Proofs.Rollback
import SectorCard.Proofs.WireContract

/-!
# What is written to trailers

A trailer with access bits that contradict their inverted copy locks its sector for ever.  Every trailer that an
operation is given or puts together passes the check of its access bits before anything is sent.  One that is read
back to be restored does not: whatever the card has shown is written back as it is (`checked_or_writtenBack`).
-/

namespace SectorCard

open Procedure

variable {ω : Type} {t : Transport ω}

/-! ## Access bits in a page -/

/-- The access bits in a page agree with their inverted copy. -/
def Block.Checked (page : Block) : Prop :=
  ∃ bits, AccessBits.ofBytes ((page.bytes.drop 6).take 4) = .ok bits ∧ bits.isValid = true

theorem SectorTrailer.checked_toBlock {trailer : SectorTrailer} (h : trailer.validate = .ok ()) :
    trailer.toBlock.Checked := by
  refine ⟨trailer.access, congrArg AccessBits.ofBytes trailer.accessPart_toBytes, ?_⟩
  unfold SectorTrailer.validate AccessBits.validate at h
  split at h
  · assumption
  · cases h

/-- If an event writes a page to a block, the page satisfies `Q`. -/
def WritesOnly (block : UInt8) (Q : Block → Prop) (event : Event Link) : Prop :=
  ∀ page, event.request = .transmit (WireCommand.write block page).bytes → Q page

section WritesOnly

variable {block : UInt8} {Q : Block → Prop} {reply : Except CardError Bytes}

theorem writesOnly_of_noWrite (event : Event Link) (h : Card.NoWrite event) : WritesOnly block Q event := by
  intro page hpage
  rw [← WireCommand.encode_writing] at hpage
  exact absurd hpage (h block page.bytes)

theorem writesOnly_writing {address : UInt8} (page : Block) (h : address = block → Q page) :
    WritesOnly block Q ⟨.transmit (Command.writing address page.bytes).encode, reply⟩ := by
  intro other hother
  rw [WireCommand.encode_writing] at hother
  have hsame := WireCommand.bytes_injective (Link.Request.transmit.inj hother)
  cases hsame
  exact h rfl

theorem permitsKeys_writesOnly (g : Geometry) : Card.PermitsKeys g (WritesOnly block Q) :=
  Card.permitsKeys_of_noWrite writesOnly_of_noWrite g

end WritesOnly

namespace Card

variable {c : Situation Link Card ω} {sector block : UInt8}

/-! ## Trailers that are checked -/

theorem sector_of_trailerAddress {card : Card} {sector sector' address : UInt8}
    (h : card.trailerAddress sector = .ok address) (h' : InSector card.geometry sector' address) : sector' = sector :=
  UInt8.toNat_inj.1 (h'.toNat_sector.trans (inSector_of_trailerAddress h).2.toNat_sector.symm)

/-- Unless the trailer may be restored, it is only replaced by one that was checked. -/
theorem writesOnly_checked {card : Card} {op : Operation} {sector' address : UInt8} {selector : KeySelector}
    {command : Command} (hblock : card.trailerAddress sector = .ok block)
    (hop : ∀ selector, op ≠ .applyPolicy sector selector true)
    (h : op.Accesses card sector' selector address command) (reply : Except CardError Bytes) :
    WritesOnly block Block.Checked ⟨.transmit command.encode, reply⟩ := by
  cases h with
  | reading => exact writesOnly_of_noWrite _ (noWrite_reading _ blockLength reply)
  | @writing _ _ _ _ page _ _ haddress hpage =>
    refine writesOnly_writing ⟨page, hpage⟩ ?_
    rintro rfl
    -- A data block is not the trailer of its sector.
    have hsame := sector_of_trailerAddress hblock haddress.toInSector
    refine absurd ?_ haddress.no_trailer
    rw [hsame, (inSector_of_trailerAddress hblock).1]
  | @changing _ _ trailer _ hvalid =>
    exact writesOnly_writing trailer.toBlock fun _ => SectorTrailer.checked_toBlock hvalid
  | @applying _ _ _ _ trailer _ hplan =>
    exact writesOnly_writing trailer.toBlock fun _ =>
      SectorTrailer.checked_toBlock (validate_of_plannedTrailer hplan)
  -- A trailer that is restored may be anything, but then it is another one, or the operation may restore it.
  | restoring haddress =>
    refine writesOnly_writing (SectorTrailer.toBlock _) ?_
    rintro rfl
    have hsame := sector_of_trailerAddress hblock (inSector_of_trailerAddress haddress).2
    subst hsame
    exact absurd rfl (hop selector)

theorem perform_writesOnly_checked {op : Operation} (hblock : c.state.trailerAddress sector = .ok block)
    (hop : ∀ selector, op ≠ .applyPolicy sector selector true) :
    Ensures t.responder (perform op) c fun _ c' => SaidSince c.history (WritesOnly block Block.Checked) c' := by
  have hsteps : StepsKeep t (fun c' => c'.state.geometry = c.state.geometry ∧
      SaidSince c.history (WritesOnly block Block.Checked) c') (op.Accesses c.state) :=
    stepsKeep_saidSince (permitsKeys_writesOnly _) fun _ _ _ _ h =>
      ⟨h.inSector.exists_block, writesOnly_checked hblock hop h⟩
  refine (hsteps.perform ⟨rfl, saidSince_history _ c⟩ ?_ ?_).mono fun _ _ h => h.2
  · intro selector key store slot card _ hset
    exact ⟨(setup_setKey hset).1, saidSince_history _ c⟩
  · intro sector policy card _ hset
    exact ⟨(setup_setPolicy hset).1, saidSince_history _ c⟩

/-! ## Trailers that are written back -/

/-- Among what was said, a block was read and shown as `data`. -/
def Shown (block : UInt8) (data : Bytes) (said : List (Event Link)) : Prop :=
  ∃ answer, (⟨.transmit (WireCommand.read block).bytes, answer⟩ : Event Link) ∈ said ∧
    Link.acknowledged? answer = some data

theorem withstands_extending (before : List (Event Link)) :
    Coupler.Withstands t fun d : Situation Link Coupler ω => before <+: d.history where
  loading _ _ h := h.trans (List.prefix_append _ _)
  authenticating _ _ _ _ h := h.trans (List.prefix_append _ _)
  state _ _ h := h

theorem ensures_readPage_shown {before : List (Event Link)} {d : Situation Link Coupler ω} (block : UInt8)
    (hd : before <+: d.history) :
    Ensures t.responder (Coupler.readPage block blockLength) d fun x d' =>
      ∃ said, d'.history = before ++ said ∧ ∀ data, x = .ok data → Shown block data said := by
  rw [Coupler.readPage_eq]
  refine Coupler.ensures_access_of_withstands (withstands_extending before) hd ?_ ?_
  · rintro e d ⟨said, hsaid⟩
    exact ⟨said, hsaid.symm, fun _ h => nomatch h⟩
  · -- Only the last exchange can show the block, and it is the read of the page.
    rintro d ⟨said, hsaid⟩
    have hhistory : ∀ events, d.history ++ events = before ++ (said ++ events) := by
      intro events
      rw [← hsaid, List.append_assoc]
    refine Coupler.ensures_transfer_of_demand ?_ ?_
    · intro data hdata
      refine ⟨_, hhistory _, ?_⟩
      rintro _ ⟨⟩
      refine ⟨_, ?_, (Transport.demand_eq_ok_iff.1 hdata).2⟩
      rw [Transport.exchangeEvents_of_ok hdata, WireCommand.encode_reading]
      simp
    · intro e pending _
      exact ⟨_, hhistory _, fun _ h => nomatch h⟩

/-- A block that is read under a key, with one more try, is what the card has shown. -/
theorem ensures_withAuthRetry_shown (sector : UInt8) (selector : KeySelector) (block : UInt8)
    (c : Situation Link Card ω) :
    Ensures t.responder (withAuthRetry sector selector (Coupler.readPage block blockLength)) c fun x c' =>
      ∃ said, c'.history = c.history ++ said ∧ ∀ data, x = .ok data → Shown block data said := by
  refine ensures_withAuthRetry_of_keeps (I := fun c' => c.history <+: c'.history) List.prefix_rfl ?_ (fun _ h => h)
    ?_ ?_ ?_
  · intro c' hc'
    exact ensures_authorize_of_withstands (withstands_extending c.history) hc' sector selector
  · rintro e c' ⟨said, hsaid⟩
    exact ⟨said, hsaid.symm, fun _ h => nomatch h⟩
  · rintro status c' ⟨said, hsaid, -⟩
    exact ⟨said, hsaid.symm⟩
  · intro c' hc' _
    exact ensures_readPage_shown block hc'

/-- A trailer that was read is the front of what its block was shown as. -/
theorem ensures_readTrailer_shown (hblock : c.state.trailerAddress sector = .ok block) :
    Ensures t.responder (readTrailer sector) c fun x c' => ∃ said, c'.history = c.history ++ said ∧
      ∀ previous, x = .ok previous → ∃ data, Shown block data said ∧ previous.toBytes = data.take blockSize := by
  have hnone : c.history = c.history ++ [] := (List.append_nil _).symm
  refine ensures_readTrailer ?_ ?_ ?_
  · exact fun _ _ => ⟨[], hnone, fun _ h => nomatch h⟩
  · exact fun _ _ => ⟨[], hnone, fun _ h => nomatch h⟩
  · intro found selector hfound _
    cases hblock.symm.trans hfound
    refine (ensures_withAuthRetry_shown sector selector block c).mono ?_
    rintro (e | data) c' ⟨said, hsaid, hshown⟩
    · exact ⟨said, hsaid, fun _ h => nomatch h⟩
    · exact ⟨said, hsaid, fun previous h => ⟨data, hshown data rfl, toBytes_of_trailerFrom h⟩⟩

theorem ensures_writeOrRollBack_writesOnly {selector : KeySelector} {trailer : SectorTrailer}
    (hblock : block.toNat < c.state.geometry.blockCount) (hvalid : trailer.validate = .ok ())
    (previous : Option SectorTrailer) :
    Ensures t.responder (writeOrRollBack sector block selector trailer previous) c fun _ c' =>
      SaidSince c.history
        (WritesOnly block fun page => page.Checked ∨ ∃ p, previous = some p ∧ page = SectorTrailer.toBlock p) c' := by
  have hsteps : StepsKeep t
      (fun c' => c'.state.geometry = c.state.geometry ∧ SaidSince c.history (WritesOnly block fun page =>
        page.Checked ∨ ∃ p, previous = some p ∧ page = SectorTrailer.toBlock p) c')
      fun _ _ address command => address = block ∧ ∃ page : Block, command = .writing address page.bytes ∧
        (page.Checked ∨ ∃ p, previous = some p ∧ page = SectorTrailer.toBlock p) := by
    refine stepsKeep_saidSince (permitsKeys_writesOnly _) ?_
    rintro sector' selector' address command ⟨rfl, page, rfl, hpage⟩
    exact ⟨hblock, fun reply => writesOnly_writing page fun _ => hpage⟩
  refine (hsteps.everywhere.writeOrRollBack trivial ?_ ?_ c ⟨rfl, saidSince_history _ c⟩).mono fun _ _ h => h.2
  · exact ⟨rfl, trailer.toBlock, rfl, .inl (SectorTrailer.checked_toBlock hvalid)⟩
  · exact fun p hp => ⟨rfl, p.toBlock, rfl, .inr ⟨p, hp, rfl⟩⟩

/-- What was said on top of `before` has two parts.  In the first one nothing is written.  What is written to a block
in the second one was checked, or is the front of what the block was shown as in the first one. -/
def WritesBack (block : UInt8) (before history : List (Event Link)) : Prop :=
  ∃ read said, history = before ++ read ++ said ∧ (∀ event ∈ read, NoWrite event) ∧ ∀ event ∈ said, WritesOnly block
    (fun page => page.Checked ∨ ∃ data, Shown block data read ∧ page.bytes = data.take blockSize) event

theorem writesBack_of_noWrite {before read history : List (Event Link)} (hhistory : history = before ++ read)
    (hread : ∀ event ∈ read, NoWrite event) : WritesBack block before history :=
  ⟨read, [], by rw [hhistory, List.append_nil], hread, fun _ h => nomatch h⟩

theorem perform_applyPolicy_writesBack (hblock : c.state.trailerAddress sector = .ok block)
    (selector : KeySelector) :
    Ensures t.responder (perform (.applyPolicy sector selector true)) c fun _ c' =>
      WritesBack block c.history c'.history := by
  have hquiet : WritesBack block c.history c.history :=
    writesBack_of_noWrite (List.append_nil _).symm fun _ h => nomatch h
  refine Ensures.bind (R := fun _ c' => WritesBack block c.history c'.history) ?_ (fun _ _ h => ensures_pure h)
    (fun _ _ h => h)
  refine ensures_applyPolicy (R := fun previous c' => c'.state.geometry = c.state.geometry ∧
    ∃ read, c'.history = c.history ++ read ∧ (∀ event ∈ read, NoWrite event) ∧
      ∀ p, previous = some p → ∃ data, Shown block data read ∧ p.toBytes = data.take blockSize)
    (fun _ _ => hquiet) (fun _ _ => hquiet) ?_ (fun h => nomatch h) ?_
  · intro _
    refine ((ensures_readTrailer_noWrite sector c).and (ensures_readTrailer_shown hblock)).mono ?_
    rintro x c' ⟨⟨hg, read, hread, hsilent⟩, said, hsaid, hshown⟩
    have hsame : said = read := List.append_cancel_left (hsaid.symm.trans hread)
    subst hsame
    cases x with
    | error e => exact writesBack_of_noWrite hread hsilent
    | ok previous => exact ⟨hg, said, hread, hsilent, fun p hp => hshown p (by rw [Option.some.inj hp])⟩
  · rintro address trailer previous c' haddress hplan ⟨hg, read, hread, hsilent, hprevious⟩
    cases hblock.symm.trans haddress
    have hon : block.toNat < c'.state.geometry.blockCount := hg ▸ (inSector_of_trailerAddress hblock).2.exists_block
    refine (ensures_writeOrRollBack_writesOnly hon (validate_of_plannedTrailer hplan) previous).mono ?_
    rintro _ c'' ⟨said, hsaid, hwrites⟩
    refine ⟨read, said, by rw [hsaid, hread], hsilent, fun event hevent page hpage => ?_⟩
    -- A page that is not checked is one that was kept, and that is what was shown.
    rcases hwrites event hevent page hpage with hchecked | ⟨p, hp, rfl⟩
    · exact .inl hchecked
    · exact .inr (hprevious p hp)

/-- An element of a list that is put together from two parts is in one of them. -/
theorem split_of_append {α : Type} {x : α} {before after first rest : List α}
    (h : before ++ x :: after = first ++ rest) :
    (∃ middle, first = before ++ x :: middle ∧ after = middle ++ rest) ∨
      ∃ middle, before = first ++ middle ∧ rest = middle ++ x :: after := by
  rcases List.append_eq_append_iff.1 h with ⟨middle, hfirst, hrest⟩ | ⟨middle, hbefore, hrest⟩
  · cases middle with
    | nil => exact .inr ⟨[], by simp [hfirst], by simpa using hrest.symm⟩
    | cons y middle =>
      rcases List.cons.inj hrest with ⟨rfl, hafter⟩
      exact .inl ⟨middle, hfirst, hafter⟩
  · exact .inr ⟨middle, hbefore, hrest⟩

theorem split_of_not_mem {α : Type} {x : α} {before after first rest : List α}
    (h : before ++ x :: after = first ++ rest) (hx : x ∉ first) :
    ∃ middle, before = first ++ middle ∧ rest = middle ++ x :: after := by
  rcases split_of_append h with ⟨middle, rfl, -⟩ | hlater
  · exact absurd (by simp) hx
  · exact hlater

/-- An operation that sends an update of a trailer sends exactly one block.  Either the access bits in it agree with
their inverted copy, or the operation applies a policy to the sector and writes back, as it was, the front of what
the card has shown when the trailer was read. -/
theorem checked_or_writtenBack (op : Operation) {p1 : UInt8} {rest : Bytes} {reply : Except CardError Bytes}
    {earlier later : List (Event Link)} (hblock : c.state.trailerAddress sector = .ok block)
    (hsaid : (exec t.responder (perform op) c).2.history =
      c.history ++ earlier ++ ⟨.transmit (0xff :: 0xd6 :: p1 :: block :: rest), reply⟩ :: later) :
    ∃ page : Block, 0xff :: 0xd6 :: p1 :: block :: rest = (WireCommand.write block page).bytes ∧
      (page.Checked ∨ ∃ selector data, op = .applyPolicy sector selector true ∧ Shown block data earlier ∧
        page.bytes = data.take blockSize) := by
  -- What is sent is a write of one block.
  rcases perform_maySay (t := t) op c with ⟨-, said, hhistory, hmaySay⟩
  have hlater : said = earlier ++ ⟨.transmit (0xff :: 0xd6 :: p1 :: block :: rest), reply⟩ :: later := by
    rw [hhistory, List.append_assoc] at hsaid
    exact List.append_cancel_left hsaid
  rcases hmaySay ⟨.transmit (0xff :: 0xd6 :: p1 :: block :: rest), reply⟩ (by simp [hlater]) with ⟨sent, hbytes, -⟩
  rcases WireCommand.eq_write_of_bytes hbytes with ⟨page, rfl⟩
  refine ⟨page, hbytes, ?_⟩
  rw [hbytes] at hlater
  by_cases hop : ∃ selector, op = .applyPolicy sector selector true
  · rcases hop with ⟨selector, rfl⟩
    rcases perform_applyPolicy_writesBack (t := t) hblock selector with ⟨read, said', hhistory', hsilent, hwrites⟩
    -- Nothing is written while the trailer is read, so the update was sent after what it can be a copy of.
    have hparts : said = read ++ said' := by
      rw [hhistory', List.append_assoc] at hhistory
      exact (List.append_cancel_left hhistory).symm
    have hnot : ⟨.transmit (WireCommand.write block page).bytes, reply⟩ ∉ read := fun hmem =>
      hsilent _ hmem block page.bytes (congrArg Link.Request.transmit (WireCommand.encode_writing block page).symm)
    rcases split_of_not_mem (hlater.symm.trans hparts) hnot with ⟨middle, rfl, hsaid'⟩
    have hevent : ⟨.transmit (WireCommand.write block page).bytes, reply⟩ ∈ said' := by simp [hsaid']
    rcases hwrites _ hevent page rfl with hchecked | ⟨data, ⟨answer, hmem, hdata⟩, hpage⟩
    · exact .inl hchecked
    · exact .inr ⟨selector, data, rfl, ⟨answer, List.mem_append_left _ hmem, hdata⟩, hpage⟩
  · left
    rcases perform_writesOnly_checked (t := t) hblock fun selector h => hop ⟨selector, h⟩ with
      ⟨said', hhistory', hchecked⟩
    have hsame : said' = said := List.append_cancel_left (hhistory'.symm.trans hhistory)
    exact hchecked ⟨.transmit (WireCommand.write block page).bytes, reply⟩ (by simp [hsame, hlater]) page rfl

/-- A delivered card with both keys configured, which shows zeros for every block, and a reader that will refuse the
sixth command. -/
def beforeGarbled : Situation Link Card (List Bool × Tag) :=
  after (Tag.transport fun _ _ => List.replicate 16 0).refusing
    [.setKey .a .transport .nonVolatile 0, .setKey .b .transport .nonVolatile 1]
    (start .small ([false, false, false, false, false, true], .delivered))

/-- The new trailer of sector 1 is refused, and the zeros that were read are written back: now the access bits of the
stored trailer contradict their inverted copy. -/
theorem checked_or_writtenBack_garbled :
    let run := exec (Tag.transport fun _ _ => List.replicate 16 0).refusing.responder
      (perform (.applyPolicy 1 .b true)) beforeGarbled
    ∃ earlier later, ∃ page : Block, run.2.history = beforeGarbled.history ++ earlier ++
        ⟨.transmit (0xff :: 0xd6 :: 0x00 :: 7 :: 0x10 :: page.bytes), Tag.accepted []⟩ :: later ∧
      ¬ page.Checked ∧ run.2.world.2.memory 7 = page ∧ ∃ data, Shown 7 data earlier ∧ page.bytes = data.take blockSize := by
  intro run
  have hsaid : run.2.history = beforeGarbled.history ++ run.2.history.take 17 ++
      ⟨.transmit (0xff :: 0xd6 :: 0x00 :: 7 :: 0x10 :: (Block.fit []).bytes), Tag.accepted []⟩ ::
        run.2.history.drop 18 := by
    decide +kernel
  have hbad : ¬ (Block.fit []).Checked := by
    rintro ⟨bits, hbits, hvalid⟩
    cases hbits
    revert hvalid
    decide
  have haddress : beforeGarbled.state.trailerAddress 1 = .ok 7 := by decide +kernel
  rcases checked_or_writtenBack (.applyPolicy 1 .b true) haddress hsaid with ⟨page, hpage, hwritten⟩
  have hsame : Block.fit [] = page := Block.ext (by simpa [WireCommand.bytes] using hpage)
  subst hsame
  rcases hwritten with hchecked | ⟨selector, data, -, hshown, hdata⟩
  · exact absurd hchecked hbad
  · exact ⟨_, _, Block.fit [], hsaid, hbad, by decide +kernel, data, hshown, hdata⟩

end Card
end SectorCard
