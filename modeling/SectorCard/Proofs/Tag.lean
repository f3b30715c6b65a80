import SectorCard.Proofs.DataOperations
import SectorCard.Simulation.Chip

/-!
# Tags

A tag is what an ordinary card and the reader in front of it come to: bytes in blocks, keys in the slots of
the reader, and at most one sector that is authenticated.  Only that sector is served.  An authentication is
accepted if the key in the named slot is the one stored in the trailer of the sector, and otherwise leaves no
sector authenticated.

How much of a stored block a reader gets to see is a parameter, since cards hide key A of their trailers.

A transport *fronts* a tag if each command is answered by the tag or refused without any effect on it.

Main statements: one equation per command says what an exchange with a tag gives; `Tag.ofChip_respond`, the
simulated chip that enforces authentication is a tag that hides key A.
-/

namespace SectorCard

/-- The block that holds some bytes, cut off or filled up with zeros. -/
def Block.fit (bytes : Bytes) : Block := ⟨Bytes.fit blockSize bytes, Bytes.length_fit _ _⟩

@[simp] theorem Block.fit_bytes (block : Block) : Block.fit block.bytes = block := by
  cases block with
  | mk bytes h => simp [Block.fit, Bytes.fit_of_length h]

theorem Block.ext {block other : Block} (h : block.bytes = other.bytes) : block = other := by
  cases block
  cases other
  cases h
  rfl

/-- The key that cards show in place of key A. -/
def Key.zero : Key := ⟨[0, 0, 0, 0, 0, 0], rfl⟩

def SectorTrailer.toBlock (trailer : SectorTrailer) : Block := ⟨trailer.toBytes, trailer.length_toBytes⟩

/-- A card and the key slots of the reader in front of it, with the sector that is authenticated. -/
structure Tag where
  memory : UInt8 → Block
  slots : UInt8 → Option Bytes
  authed : Option Nat

namespace Tag

open Simulation.Chip (sectorOf trailerOf isTrailer)

def storedKey (memory : UInt8 → Block) (sector : Nat) (code : UInt8) : Bytes :=
  if code = 0x60 then (memory (trailerOf sector)).bytes.take 6 else (memory (trailerOf sector)).bytes.drop 10

def update (memory : UInt8 → Block) (address : UInt8) (block : Block) : UInt8 → Block :=
  fun a => if a = address then block else memory a

@[simp] theorem update_self (memory : UInt8 → Block) (address : UInt8) (block : Block) :
    update memory address block address = block := by
  simp [update]

theorem update_of_ne {memory : UInt8 → Block} {a address : UInt8} (h : a ≠ address) (block : Block) :
    update memory address block a = memory a := by
  simp [update, h]

/-! ## Answers -/

def accepted (data : Bytes) : Except CardError Bytes := .ok (data ++ [0x90, 0x00])

/-- The reply to a command that asks for a sector that is not authenticated, or for a key that is not
accepted. -/
def denied : Except CardError Bytes := .ok [0x63, 0x00]

@[simp] theorem acknowledged?_accepted (data : Bytes) : Link.acknowledged? (accepted data) = some data := by
  have hparse : (accepted data).bind Reply.parse = .ok ⟨data, ⟨0x90, 0x00⟩⟩ :=
    Reply.parse_encode ⟨data, ⟨0x90, 0x00⟩⟩
  unfold Link.acknowledged?
  rw [hparse]
  rfl

@[simp] theorem acknowledged?_denied : Link.acknowledged? denied = none := rfl

/-- The reply to a command and the tag after it.  `shown` tells what a reader gets to see of a block. -/
def answer (shown : UInt8 → Block → Bytes) (command : Bytes) (tag : Tag) : Except CardError Bytes × Tag :=
  match command with
  | [0xff, 0xb0, _, address, length] =>
    if tag.authed = some (sectorOf address) then
      (accepted ((shown address (tag.memory address)).take length.toNat), tag)
    else (denied, tag)
  | 0xff :: 0xd6 :: _ :: address :: _ :: page =>
    if tag.authed = some (sectorOf address) then
      (accepted [], { tag with memory := update tag.memory address (Block.fit page) })
    else (denied, tag)
  | 0xff :: 0x82 :: _ :: slot :: _ :: key =>
    (accepted [], { tag with slots := fun s => if s = slot then some key else tag.slots s })
  | [0xff, 0x88, _, address, code, slot] =>
    if tag.slots slot = some (storedKey tag.memory (sectorOf address) code) then
      (accepted [], { tag with authed := some (sectorOf address) })
    else (denied, { tag with authed := none })
  | _ => (.ok [0x6d, 0x00], tag)

def transport (shown : UInt8 → Block → Bytes) : Transport Tag where
  isConnected _ := true
  transmit := answer shown

section Answers

variable {shown : UInt8 → Block → Bytes} {tag : Tag}

theorem answer_reading (address length : UInt8) :
    answer shown (Command.reading address length).encode tag =
      if tag.authed = some (sectorOf address) then
        (accepted ((shown address (tag.memory address)).take length.toNat), tag)
      else (denied, tag) := rfl

theorem answer_writing (address : UInt8) (block : Block) :
    answer shown (Command.writing address block.bytes).encode tag =
      if tag.authed = some (sectorOf address) then
        (accepted [], { tag with memory := update tag.memory address block })
      else (denied, tag) := by
  have hanswer : answer shown (Command.writing address block.bytes).encode tag =
      if tag.authed = some (sectorOf address) then
        (accepted [], { tag with memory := update tag.memory address (Block.fit block.bytes) })
      else (denied, tag) := rfl
  simpa only [Block.fit_bytes] using hanswer

theorem answer_loading (entry : KeyEntry) :
    answer shown (Command.loading entry).encode tag =
      (accepted [], { tag with
        slots := fun s => if s = entry.slot then some entry.key.bytes else tag.slots s }) := rfl

theorem answer_authenticating (address code slot : UInt8) :
    answer shown (Command.authenticating address code slot).encode tag =
      if tag.slots slot = some (storedKey tag.memory (sectorOf address) code) then
        (accepted [], { tag with authed := some (sectorOf address) })
      else (denied, { tag with authed := none }) := rfl

end Answers

/-! ## Exchanges -/

def success (data : Bytes) : Except CardError Reply := .ok ⟨data, ⟨0x90, 0x00⟩⟩

def denial : Except CardError Reply := .ok ⟨[], ⟨0x63, 0x00⟩⟩

section Exchanges

variable {shown : UInt8 → Block → Bytes} {tag : Tag}

theorem accepted_parse (data : Bytes) : (accepted data).bind Reply.parse = success data :=
  Reply.parse_encode ⟨data, ⟨0x90, 0x00⟩⟩

theorem exchange_eq (command : Command) (tag : Tag) :
    (transport shown).exchange command tag =
      ((answer shown command.encode tag).1.bind Reply.parse, (answer shown command.encode tag).2) := rfl

theorem exchange_reading (address length : UInt8) :
    (transport shown).exchange (.reading address length) tag =
      if tag.authed = some (sectorOf address) then
        (success ((shown address (tag.memory address)).take length.toNat), tag)
      else (denial, tag) := by
  simp only [exchange_eq, answer_reading]
  split
  · rw [accepted_parse]
  · rfl

theorem exchange_writing (address : UInt8) (block : Block) :
    (transport shown).exchange (.writing address block.bytes) tag =
      if tag.authed = some (sectorOf address) then
        (success [], { tag with memory := update tag.memory address block })
      else (denial, tag) := by
  simp only [exchange_eq, answer_writing]
  split <;> rfl

theorem exchange_loading (entry : KeyEntry) :
    (transport shown).exchange (.loading entry) tag =
      (success [], { tag with
        slots := fun s => if s = entry.slot then some entry.key.bytes else tag.slots s }) := rfl

theorem exchange_authenticating (address code slot : UInt8) :
    (transport shown).exchange (.authenticating address code slot) tag =
      if tag.slots slot = some (storedKey tag.memory (sectorOf address) code) then
        (success [], { tag with authed := some (sectorOf address) })
      else (denial, { tag with authed := none }) := by
  simp only [exchange_eq, answer_authenticating]
  split <;> rfl

end Exchanges

/-! ## What cards show -/

/-- The bytes of a block, with zeros in place of key A if it is the trailer of its sector. -/
def hideKeyA (address : UInt8) (block : Block) : Bytes :=
  if isTrailer address then List.replicate 6 0 ++ block.bytes.drop 6 else block.bytes

@[simp] theorem length_hideKeyA (address : UInt8) (block : Block) :
    (hideKeyA address block).length = blockSize := by
  unfold hideKeyA
  split
  · simp [block.length_bytes, blockSize]
  · exact block.length_bytes

/-- A card as it is delivered: zeros in its data blocks, and all bits set in its keys. -/
def delivered : Tag where
  memory a := Block.fit (Simulation.Chip.blank true a)
  slots _ := none
  authed := none

theorem sectorOf_eq {g : Geometry} {sector address : UInt8} (h : Card.InSector g sector address) :
    sectorOf address = sector.toNat :=
  h.toNat_sector.symm

theorem sectorOf_firstAddress {g : Geometry} {sector : UInt8} (h : sector.toNat < g.sectorCount) :
    sectorOf (Card.firstAddress sector) = sector.toNat := by
  have hlt : Geometry.firstIndex sector.toNat < 256 := by
    have h1 := Geometry.firstIndex_le_trailerIndex sector.toNat
    have h2 := Geometry.trailerIndex_lt h
    have h3 := g.blockCount_le
    omega
  have haddress : (Card.firstAddress sector).toNat = Geometry.firstIndex sector.toNat := by
    rw [Card.firstAddress, UInt8.toNat_ofNat']
    exact Nat.mod_eq_of_lt hlt
  simp only [sectorOf, haddress, Geometry.sectorIndex_firstIndex]

theorem trailerOf_eq {card : Card} {sector address : UInt8} (h : card.trailerAddress sector = .ok address) :
    trailerOf sector.toNat = address := by
  have haddress := (Card.inSector_of_trailerAddress h).1
  simp [trailerOf, ← haddress]

theorem isTrailer_of_trailerAddress {card : Card} {sector address : UInt8}
    (h : card.trailerAddress sector = .ok address) : isTrailer address = true := by
  have hsector := sectorOf_eq (Card.inSector_of_trailerAddress h).2
  simp [isTrailer, hsector, trailerOf_eq h]

end Tag

/-! ## Transports in front of a tag -/

inductive Command.Issued : Command → Prop where
  | reading (address : UInt8) : Issued (.reading address 16)
  | writing (address : UInt8) (block : Block) : Issued (.writing address block.bytes)
  | loading (entry : KeyEntry) : Issued (.loading entry)
  | authenticating (address code slot : UInt8) : Issued (.authenticating address code slot)

section Fronts

variable {ω : Type}

/-- A command is answered by the tag behind a transport. -/
def Transport.Answers (t : Transport ω) (shown : UInt8 → Block → Bytes) (view : ω → Tag) (command : Bytes)
    (w : ω) : Prop :=
  (t.transmit command w).1 = (Tag.answer shown command (view w)).1 ∧
    view (t.transmit command w).2 = (Tag.answer shown command (view w)).2

/-- A command is refused, in any way, and leaves the tag behind a transport as it was. -/
def Transport.Refuses (t : Transport ω) (view : ω → Tag) (command : Bytes) (w : ω) : Prop :=
  Link.acknowledged? (t.transmit command w).1 = none ∧ view (t.transmit command w).2 = view w

/-- A transport behind which a tag answers each command that it does not refuse. -/
def Transport.Fronts (t : Transport ω) (shown : UInt8 → Block → Bytes) (view : ω → Tag) : Prop :=
  ∀ (command : Command) (w : ω), command.Issued → t.Answers shown view command.encode w ∨ t.Refuses view command.encode w

theorem Transport.Fronts.answers {t : Transport ω} {shown : UInt8 → Block → Bytes} {view : ω → Tag}
    (h : t.Fronts shown view) {command : Command} (hissued : command.Issued) {w : ω} {data : Bytes}
    (hdata : Link.acknowledged? (t.transmit command.encode w).1 = some data) :
    t.Answers shown view command.encode w := by
  rcases h command w hissued with hanswers | hrefuses
  · exact hanswers
  · rw [hrefuses.1] at hdata
    cases hdata

/-- An exchange either goes as with the tag alone, or comes to an error without effect. -/
theorem Transport.Fronts.exchange {t : Transport ω} {shown : UInt8 → Block → Bytes} {view : ω → Tag}
    (h : t.Fronts shown view) {command : Command} (hissued : command.Issued) (w : ω) :
    ((t.exchange command w).1 = ((Tag.transport shown).exchange command (view w)).1 ∧
      view (t.exchange command w).2 = ((Tag.transport shown).exchange command (view w)).2) ∨
    ((∀ refusal data, t.demand command refusal w ≠ .ok data) ∧ view (t.exchange command w).2 = view w) := by
  have hdemand : ∀ refusal data, t.demand command refusal w = .ok data →
      t.isConnected w = true ∧ Link.acknowledged? (t.transmit command.encode w).1 = some data :=
    fun _ _ => Transport.demand_eq_ok_iff.1
  cases hc : t.isConnected w with
  | false =>
    right
    refine ⟨fun refusal data hok => ?_, by simp [Transport.exchange, hc]⟩
    have := (hdemand refusal data hok).1
    rw [hc] at this
    cases this
  | true =>
    have hexchange : t.exchange command w =
        ((t.transmit command.encode w).1.bind Reply.parse, (t.transmit command.encode w).2) := by
      simp [Transport.exchange, hc]
    -- With a card there, it is the reply that decides: it is the tag's, or nothing was done.
    rcases h command w hissued with ⟨hreply, hview⟩ | ⟨hnone, hview⟩
    · left
      rw [hexchange, Tag.exchange_eq]
      exact ⟨by rw [hreply], hview⟩
    · right
      refine ⟨fun refusal data hok => ?_, by rw [hexchange]; exact hview⟩
      have := (hdemand refusal data hok).2
      rw [hnone] at this
      cases this

/-- A transport that refuses the commands marked in a plan and passes on all others. -/
def Transport.refusing (t : Transport ω) : Transport (List Bool × ω) where
  isConnected s := t.isConnected s.2
  transmit command s :=
    if s.1.headD false then (.ok [0x6f, 0x00], (s.1.tail, s.2))
    else ((t.transmit command s.2).1, (s.1.tail, (t.transmit command s.2).2))

theorem Tag.fronts_refusing (shown : UInt8 → Block → Bytes) :
    (Tag.transport shown).refusing.Fronts shown Prod.snd := by
  rintro command ⟨plan, tag⟩ _
  match plan with
  | [] => exact .inl ⟨rfl, rfl⟩
  | false :: rest => exact .inl ⟨rfl, rfl⟩
  | true :: rest => exact .inr ⟨rfl, rfl⟩

end Fronts

/-! ## The simulated chip is a tag -/

namespace Tag

open Simulation (Chip Prepared)
open Simulation.Chip (sectorOf)

def ofChip (chip : Chip) : Tag := ⟨fun a => Block.fit (chip.load a), fun slot => chip.slots.lookup slot, chip.authed⟩

private theorem lookup_filter_ne {β : Type} (entries : List (UInt8 × β)) {key other : UInt8} (h : other ≠ key) :
    (entries.filter fun entry => entry.1 != key).lookup other = entries.lookup other := by
  induction entries with
  | nil => rfl
  | cons entry rest ih => grind

theorem load_store (chip : Chip) (address a : UInt8) (block : Block) :
    Block.fit ((chip.store address block.bytes).load a) =
      update (fun a => Block.fit (chip.load a)) address block a := by
  unfold Chip.store Chip.load update
  by_cases h : a = address
  · subst h
    simp [Bytes.fit_of_length block.length_bytes]
  · have hne : (a == address) = false := by simpa using h
    simp [List.lookup_cons, hne, h, lookup_filter_ne _ h]

theorem respond_plain {chip : Chip} (hplain : chip.glitches = []) (instruction p1 address first : UInt8)
    (rest : Bytes) :
    chip.respond (Command.readerClass :: instruction :: p1 :: address :: first :: rest) =
      chip.carryOut instruction address first (first :: rest) := by
  have hsame : { chip with glitches := [] } = chip := by
    cases chip
    cases hplain
    rfl
  simp [Chip.respond, Command.readerClass, hplain, Simulation.Glitch.strike, hsame]

/-- A strict chip without planned misbehaviour answers as the tag that it holds. -/
theorem ofChip_respond {chip : Chip} {command : Command} (hstrict : chip.strict = true)
    (hplain : chip.glitches = []) (hload : ∀ a, (chip.load a).length = blockSize) (h : command.Issued) :
    ((chip.respond command.encode).1.onLink, ofChip (chip.respond command.encode).2) =
      answer hideKeyA command.encode (ofChip chip) := by
  -- A strict chip serves the sector that is authenticated, as the tag does.
  have hserves : ∀ address, chip.serves address = true ↔ chip.authed = some (sectorOf address) := by
    intro address
    simp [Chip.serves, hstrict]
  have hbytes : ∀ a, (Block.fit (chip.load a)).bytes = chip.load a := fun a => Bytes.fit_of_length (hload a)
  cases h with
  | reading address =>
    have hvisible : (chip.visible address).take (min (16 : UInt8).toNat blockSize) =
        (hideKeyA address (Block.fit (chip.load address))).take (16 : UInt8).toNat := by
      simp [Chip.visible, hideKeyA, hstrict, blockSize, hbytes]
    have hrespond : chip.respond (Command.reading address 16).encode =
        if chip.serves address then
          (.success ((hideKeyA address (Block.fit (chip.load address))).take (16 : UInt8).toNat), chip)
        else (.status 0x63 0x00, chip) := by
      rw [← hvisible]
      exact respond_plain hplain 0xb0 0 address 16 []
    rw [hrespond, answer_reading]
    by_cases hserved : chip.authed = some (sectorOf address)
    · simp [hserves, hserved, ofChip, Prepared.success, Prepared.onLink, accepted]
    · simp [hserves, hserved, ofChip, Prepared.status, Prepared.onLink, denied]
  | writing address block =>
    have hrespond : chip.respond (Command.writing address block.bytes).encode =
        if chip.serves address then (.success [], chip.store address block.bytes)
        else (.status 0x63 0x00, chip) :=
      respond_plain hplain 0xd6 0 address (UInt8.ofNat block.bytes.length) block.bytes
    have hstored : (fun a => Block.fit ((chip.store address block.bytes).load a)) =
        update (fun a => Block.fit (chip.load a)) address block := by
      funext a
      exact load_store chip address a block
    rw [hrespond, answer_writing]
    by_cases hserved : chip.authed = some (sectorOf address)
    · simp only [hserves, hserved, ofChip, if_true, hstored]
      rw [← hserved]
      rfl
    · simp [hserves, hserved, ofChip, Prepared.status, Prepared.onLink, denied]
  | loading entry =>
    have hrespond : chip.respond (Command.loading entry).encode = (.success [], { chip with
        slots := (entry.slot, entry.key.bytes) :: chip.slots.filter fun e => e.1 != entry.slot }) :=
      respond_plain hplain 0x82 entry.store.code entry.slot (UInt8.ofNat entry.key.bytes.length) entry.key.bytes
    have hslots : (fun s => ((entry.slot, entry.key.bytes) ::
          chip.slots.filter fun e => e.1 != entry.slot).lookup s) =
        fun s => if s = entry.slot then some entry.key.bytes else chip.slots.lookup s := by
      funext s
      by_cases h : s = entry.slot
      · simp [h]
      · have hne : (s == entry.slot) = false := by simpa using h
        simp [List.lookup_cons, hne, h, lookup_filter_ne _ h]
    rw [hrespond, answer_loading]
    simp only [ofChip, hslots]
    rfl
  | authenticating address code slot =>
    have hrespond : chip.respond (Command.authenticating address code slot).encode =
        if chip.keyMatches (sectorOf address) code slot then
          (.success [], { chip with authed := some (sectorOf address) })
        else (.status 0x63 0x00, { chip with authed := none }) := by
      refine (respond_plain hplain 0x88 0 address code [slot]).trans ?_
      simp [Chip.carryOut, hstrict]
    have hmatches : chip.keyMatches (sectorOf address) code slot = true ↔ chip.slots.lookup slot =
        some (storedKey (fun a => Block.fit (chip.load a)) (sectorOf address) code) := by
      simp [Chip.keyMatches, storedKey, hbytes]
    rw [hrespond, answer_authenticating]
    by_cases hkey : chip.slots.lookup slot =
        some (storedKey (fun a => Block.fit (chip.load a)) (sectorOf address) code)
    · simp only [hmatches, hkey, ofChip, if_true]
      rfl
    · simp only [hmatches, hkey, ofChip, if_false]
      rfl

end Tag
end SectorCard
