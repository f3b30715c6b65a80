import SectorCard.Proofs.EncodedText
import SectorCard.Simulation.Desk

/-!
# Names of readers

The names of the readers are shown as text, and a reader is asked for by a text.  What the text is compared with is not
what is shown but the bytes of the name.  So a reader can be opened by the name under which it is listed exactly if its
name is a text; otherwise it is another reader that is opened, or none (`openOn_listed`).
-/

namespace SectorCard.Connection

open Utf8 (IsText)

variable {ω α β : Type} {r : Responder Service ω} {readers : List Bytes} {Ready : ω → Prop} {w : ω}

/-- A service to which these readers are attached, and whose calls succeed as long as its world is ready. -/
structure Attached (r : Responder Service ω) (readers : List Bytes) (Ready : ω → Prop) : Prop where
  named : ∀ reader ∈ readers, reader ≠ []
  establish : ∀ w, Ready w → (r.answer .establish w).1 = .ok () ∧ Ready (r.answer .establish w).2
  release : ∀ w, Ready w → Ready (r.answer .release w).2
  isValid : ∀ w, Ready w → (r.answer .isValid w).1 = .ok () ∧ Ready (r.answer .isValid w).2
  listLength : ∀ w, Ready w → Ready (r.answer .listLength w).2 ∧
    if readers = [] then (r.answer .listLength w).1 = .error .noReadersAvailable
    else ∃ n, (r.answer .listLength w).1 = .ok (n + 1)
  listReaders : ∀ w, Ready w → readers ≠ [] →
    (r.answer .listReaders w).1 = .ok readers ∧ Ready (r.answer .listReaders w).2
  connect : ∀ w, Ready w → ∀ reader ∈ readers,
    (∃ card, (r.answer (.connect reader) w).1 = .ok card) ∧ Ready (r.answer (.connect reader) w).2

/-! ## What calls come to -/

/-- While its world is ready, a service brings a dialogue to a value of which `P` holds, and stays ready. -/
def Yields (r : Responder Service ω) (Ready : ω → Prop) (d : ServiceM α) (P : α → Prop) : Prop :=
  ∀ w, Ready w → P (Dialogue.run r d w).value ∧ Ready (Dialogue.run r d w).world

section Yields

variable {P : α → Prop} {Q : β → Prop}

theorem yields_pure {a : α} (h : P a) : Yields r Ready (pure a) P := fun _ hw => ⟨h, hw⟩

theorem Yields.bind {d : ServiceM α} {f : α → ServiceM β} (h : Yields r Ready d P)
    (hf : ∀ a, P a → Yields r Ready (f a) Q) : Yields r Ready (d >>= f) Q := by
  intro w hw
  rcases h w hw with ⟨hvalue, hready⟩
  rw [Dialogue.bind_eq, Dialogue.run_bind]
  exact hf _ hvalue _ hready

theorem yields_ask {q : Service.Request} {next : Service.Reply q → ServiceM α} {R : Service.Reply q → Prop}
    (h : ∀ w, Ready w → R (r.answer q w).1 ∧ Ready (r.answer q w).2)
    (hnext : ∀ reply, R reply → Yields r Ready (next reply) P) : Yields r Ready (.ask q next) P := by
  intro w hw
  rcases h w hw with ⟨hreply, hready⟩
  rw [Dialogue.run_ask]
  exact hnext _ hreply _ hready

theorem yields_call {q : Service.Request} {a : Service.Gain q}
    (h : ∀ w, Ready w → (r.answer q w).1 = .ok a ∧ Ready (r.answer q w).2) :
    Yields r Ready (call q) fun x => x = .ok a := by
  refine yields_ask (R := fun reply => reply = .ok a) h ?_
  rintro _ rfl
  exact yields_pure rfl

/-- A context that is established makes no difference to what is done in it. -/
theorem yields_withContext {body : ServiceM (Except CardError α)} {keep : Bool} {P : Except CardError α → Prop}
    (establish : ∀ w, Ready w → (r.answer .establish w).1 = .ok () ∧ Ready (r.answer .establish w).2)
    (release : ∀ w, Ready w → Ready (r.answer .release w).2) (hbody : Yields r Ready body P) :
    Yields r Ready (withContext body keep) P := by
  have hrelease : Yields r Ready Connection.release fun _ => True :=
    yields_ask (R := fun _ => True) (fun w hw => ⟨trivial, release w hw⟩) fun _ _ => yields_pure trivial
  refine (yields_call establish).bind ?_
  rintro _ rfl
  refine hbody.bind fun result hresult => ?_
  cases result with
  | error e => exact hrelease.bind fun _ _ => yields_pure hresult
  | ok a =>
    cases keep with
    | true => exact yields_pure hresult
    | false => exact hrelease.bind fun _ _ => yields_pure hresult

end Yields

theorem namesOf_eq (h : ∀ reader ∈ readers, reader ≠ []) : namesOf readers = readers := by
  unfold namesOf
  induction readers with
  | nil => rfl
  | cons reader rest ih =>
    have hreader : reader ≠ [] := h reader List.mem_cons_self
    rw [List.takeWhile_cons_of_pos (by simpa using hreader), ih fun name hname => h name (List.mem_cons_of_mem _ hname)]

namespace Attached

variable (h : Attached r readers Ready)
include h

/-- What is replied when the length of the list is asked for, with no length where there are no readers. -/
theorem yields_listLength :
    Yields r Ready (listCall .listLength 0) fun x => ∃ n, x = .ok n ∧ (n = 0 ↔ readers = []) := by
  refine yields_ask (R := fun reply => if readers = [] then reply = .error .noReadersAvailable
    else ∃ n, reply = .ok (n + 1)) (fun w hw => (h.listLength w hw).symm) fun reply hreply => ?_
  by_cases hnone : readers = []
  · rw [if_pos hnone] at hreply
    subst hreply
    exact yields_pure ⟨0, rfl, by simp [hnone]⟩
  · rw [if_neg hnone] at hreply
    rcases hreply with ⟨n, rfl⟩
    exact yields_pure ⟨n + 1, rfl, by simp [hnone]⟩

theorem yields_readerNames : Yields r Ready readerNames fun x => x = .ok readers := by
  refine (yields_call h.isValid).bind ?_
  rintro _ rfl
  refine h.yields_listLength.bind ?_
  rintro _ ⟨_ | n, rfl, hlength⟩
  · -- There are no readers, and asking once more finds none either.
    refine h.yields_listLength.bind ?_
    rintro _ ⟨m, rfl, hagain⟩
    have hnone : readers = [] := hlength.1 rfl
    have hm : m = 0 := hagain.2 hnone
    subst hm
    exact yields_pure (by rw [hnone])
  · have hsome : readers ≠ [] := fun hnone => Nat.succ_ne_zero n (hlength.2 hnone)
    refine yields_ask (R := fun reply => reply = .ok readers) (fun w hw => h.listReaders w hw hsome) ?_
    rintro _ rfl
    exact yields_pure (congrArg Except.ok (namesOf_eq h.named))

theorem yields_listReaders : Yields r Ready Connection.listReaders fun x => x = .ok (readers.map Utf8.lossy) := by
  refine yields_withContext h.establish h.release (h.yields_readerNames.bind ?_)
  rintro _ rfl
  exact yields_pure rfl

theorem yields_findReader (wanted : Option String) : Yields r Ready (findReader wanted) fun x =>
    (∃ reader, readers.find? (isWanted wanted) = some reader ∧ x = .ok reader) ∨
      (readers.find? (isWanted wanted) = none ∧ x = .error (.transport none)) := by
  refine h.yields_readerNames.bind ?_
  rintro _ rfl
  dsimp only
  split
  · rename_i reader hfound
    exact yields_pure (.inl ⟨reader, hfound, rfl⟩)
  · rename_i hnone
    exact yields_pure (.inr ⟨hnone, rfl⟩)

/-- What is opened is the first reader that is wanted. -/
theorem yields_openOn (wanted : Option String) : Yields r Ready (openOn wanted) fun x =>
    (∃ reader card, readers.find? (isWanted wanted) = some reader ∧ x = .ok ⟨some card, reader⟩) ∨
      (readers.find? (isWanted wanted) = none ∧ x = .error (.transport none)) := by
  refine yields_withContext h.establish h.release ((h.yields_findReader wanted).bind ?_)
  rintro _ (⟨reader, hfound, rfl⟩ | ⟨hnone, rfl⟩)
  · have hconnect : Yields r Ready (call (.connect reader)) fun x => ∃ card, x = .ok card := by
      refine yields_ask (R := fun reply => ∃ card, reply = .ok card)
        (fun w hw => h.connect w hw reader (List.mem_of_find?_eq_some hfound)) ?_
      rintro _ ⟨card, rfl⟩
      exact yields_pure ⟨card, rfl⟩
    refine hconnect.bind ?_
    rintro _ ⟨card, rfl⟩
    exact yields_pure (.inl ⟨reader, card, hfound, rfl⟩)
  · exact yields_pure (.inr ⟨hnone, rfl⟩)

end Attached

/-! ## What was connected to -/

/-- Whoever is on the other side, a connection that a dialogue opens has its handle from the reader that it is bound to. -/
def Connects (d : ServiceM (Except CardError Connection)) : Prop :=
  ∀ (ω : Type) (r : Responder Service ω) (w : ω) (c : Connection), (Dialogue.run r d w).value = .ok c →
    ∃ card, c.card = some card ∧ ⟨.connect c.reader, .ok card⟩ ∈ (Dialogue.run r d w).events

theorem connects_failed (e : CardError) : Connects (pure (.error e)) := fun _ _ _ _ h => nomatch h

theorem connects_bind {d : ServiceM α} {f : α → ServiceM (Except CardError Connection)} (hf : ∀ a, Connects (f a)) :
    Connects (d >>= f) := by
  intro ω r w c hc
  rw [Dialogue.bind_eq, Dialogue.run_bind] at hc ⊢
  rcases hf _ ω r _ c hc with ⟨card, hcard, hmem⟩
  exact ⟨card, hcard, List.mem_append_right _ hmem⟩

theorem connects_connect (reader : Bytes) :
    Connects (call (.connect reader) >>= fun handle => pure (handle.map fun card => ⟨some card, reader⟩)) := by
  intro ω r w c hc
  rw [Dialogue.bind_eq, Dialogue.run_bind, call, Dialogue.run_ask] at hc ⊢
  cases hreply : (r.answer (.connect reader) w).1 with
  | error f =>
    rw [hreply] at hc
    cases hc
  | ok card =>
    rw [hreply] at hc
    cases hc
    exact ⟨card, rfl, by simp⟩

theorem connects_withContext {body : ServiceM (Except CardError Connection)} (h : Connects body) :
    Connects (withContext body true) := by
  refine connects_bind fun established => ?_
  cases established with
  | error e => exact connects_failed e
  | ok _ =>
    -- The connection comes from the middle of the dialogue, and nothing is said after that.
    intro ω r w c hc
    dsimp only at hc ⊢
    rw [Dialogue.bind_eq, Dialogue.run_bind] at hc ⊢
    cases hvalue : (Dialogue.run r body w).value with
    | error e =>
      rw [hvalue] at hc
      cases hc
    | ok opened =>
      rw [hvalue] at hc
      cases hc
      rcases h ω r w _ hvalue with ⟨card, hcard, hmem⟩
      exact ⟨card, hcard, List.mem_append_left _ hmem⟩

theorem connects_openOn (wanted : Option String) : Connects (openOn wanted) := by
  refine connects_withContext (connects_bind fun found => ?_)
  cases found with
  | error e => exact connects_failed e
  | ok reader => exact connects_connect reader

/-! ## Listed names -/

/-- A name opens the reader whose name it is in bytes. -/
theorem Attached.openOn_named (h : Attached r readers Ready) (hw : Ready w) (name : String) :
    let opened := Dialogue.run r (openOn (some name)) w
    (Utf8.encode name ∈ readers ∧ ∃ card, opened.value = .ok ⟨some card, Utf8.encode name⟩) ∨
      (Utf8.encode name ∉ readers ∧ opened.value = .error (.transport none)) := by
  intro opened
  rcases (h.yields_openOn (some name) w hw).1 with ⟨reader, card, hfound, hopened⟩ | ⟨hnone, hfailed⟩
  · have hwanted : isWanted (some name) reader = true := List.find?_some hfound
    have hreader : reader = Utf8.encode name := beq_iff_eq.1 hwanted
    subst hreader
    exact .inl ⟨List.mem_of_find?_eq_some hfound, card, hopened⟩
  · refine .inr ⟨fun hmem => ?_, hfailed⟩
    have hwanted : isWanted (some name) (Utf8.encode name) = true := beq_self_eq_true _
    exact List.find?_eq_none.1 hnone _ hmem hwanted

/-- The readers are listed by what is shown of their names.  A name opens the reader, if any, whose name it is in bytes;
without one nothing is opened.  So the first reader that is listed by a name is the one that is opened exactly if the name
of the reader is a text. -/
theorem openOn_listed (h : Attached r readers Ready) (hw : Ready w) {name : String} {first : Bytes}
    (hfirst : readers.find? (fun reader => Utf8.lossy reader == name) = some first) :
    let opened := Dialogue.run r (openOn (some name)) w
    (Dialogue.run r listReaders w).value = .ok (readers.map Utf8.lossy) ∧
      ((∃ card, opened.value = .ok ⟨some card, first⟩ ∧ ⟨.connect first, .ok card⟩ ∈ opened.events) ↔ IsText first) ∧
      ((∃ c, opened.value = .ok c) ↔ Utf8.encode name ∈ readers) ∧
      (∀ c, opened.value = .ok c → c.reader = Utf8.encode name ∧ c.readerName = name ∧ c.isConnected = true) ∧
      (Utf8.encode name ∉ readers → opened.value = .error (.transport none)) := by
  intro opened
  have hshown : Utf8.lossy first == name := List.find?_some (p := fun reader => Utf8.lossy reader == name) hfirst
  have hname : Utf8.lossy first = name := beq_iff_eq.1 hshown
  subst hname
  have hlisted := (h.yields_listReaders w hw).1
  -- Whether the reader is found is a question of bytes, and it has been listed by what is shown of them.
  rcases h.openOn_named hw (Utf8.lossy first) with ⟨hmem, card, hopened⟩ | ⟨hmem, hfailed⟩
  · have hevent := connects_openOn (some (Utf8.lossy first)) ω r w _ hopened
    refine ⟨hlisted, ⟨?_, ?_⟩, ⟨fun _ => hmem, fun _ => ⟨_, hopened⟩⟩, ?_, fun hno => absurd hmem hno⟩
    · rintro ⟨card', hfirst', -⟩
      exact congrArg Connection.reader (Except.ok.inj (hopened.symm.trans hfirst'))
    · intro htext
      rw [htext] at hopened hevent
      rcases hevent with ⟨_, ⟨⟩, hevent⟩
      exact ⟨card, hopened, hevent⟩
    · rintro c hc
      cases hopened.symm.trans hc
      exact ⟨rfl, Utf8.lossy_encode _, rfl⟩
  · refine ⟨hlisted, ⟨?_, ?_⟩, ⟨?_, fun hyes => absurd hyes hmem⟩, ?_, fun _ => hfailed⟩
    · rintro ⟨card, hopened, -⟩
      cases hfailed.symm.trans hopened
    · -- A text is the encoding of what is shown of it, so the reader would have been found.
      intro htext
      refine absurd ?_ hmem
      rw [htext]
      exact List.mem_of_find?_eq_some hfirst
    · rintro ⟨c, hc⟩
      cases hfailed.symm.trans hc
    · intro c hc
      cases hfailed.symm.trans hc

/-! ## A desk as a service -/

theorem cutAtZeros_eq {name : Bytes} (h : 0 ∉ name) : Simulation.Desk.cutAtZeros name = [name] := by
  unfold Simulation.Desk.cutAtZeros
  induction name with
  | nil => rfl
  | cons b rest ih =>
    have hb : b ≠ 0 := fun hb => h (hb ▸ List.mem_cons_self)
    rw [List.foldr_cons, ih fun hrest => h (List.mem_cons_of_mem _ hrest), if_neg hb]
    rfl

theorem listed_eq (h : ∀ reader ∈ readers, 0 ∉ reader) : Simulation.Desk.listed readers = readers := by
  unfold Simulation.Desk.listed
  induction readers with
  | nil => rfl
  | cons reader rest ih =>
    rw [List.flatMap_cons, cutAtZeros_eq (h reader List.mem_cons_self),
      ih fun name hname => h name (List.mem_cons_of_mem _ hname)]
    rfl

/-- A desk at which no fault is planned is such a service, whatever the names of its readers. -/
theorem attached_desk (hnamed : ∀ reader ∈ readers, reader ≠ [] ∧ 0 ∉ reader) :
    Attached Simulation.Desk.responder readers fun d => d.readers = readers ∧ d.plans = [] where
  named reader hreader := (hnamed reader hreader).1
  establish := by
    rintro ⟨⟩ ⟨rfl, rfl⟩
    exact ⟨rfl, rfl, rfl⟩
  release := by
    rintro ⟨⟩ ⟨rfl, rfl⟩
    exact ⟨rfl, rfl⟩
  isValid := by
    rintro ⟨⟩ ⟨rfl, rfl⟩
    exact ⟨rfl, rfl, rfl⟩
  listLength := by
    rintro ⟨readers⟩ ⟨rfl, rfl⟩
    refine ⟨⟨rfl, rfl⟩, ?_⟩
    cases readers with
    | nil => rfl
    | cons reader rest =>
      rw [if_neg (List.cons_ne_nil reader rest)]
      exact ⟨reader.length + Simulation.Desk.listSize rest, congrArg Except.ok (Nat.add_right_comm _ _ _)⟩
  listReaders := by
    rintro ⟨readers⟩ ⟨rfl, rfl⟩ hsome
    refine ⟨?_, rfl, rfl⟩
    cases readers with
    | nil => exact absurd rfl hsome
    | cons reader rest => exact congrArg Except.ok (listed_eq fun name hname => (hnamed name hname).2)
  connect := by
    rintro ⟨⟩ ⟨rfl, rfl⟩ reader hreader
    exact ⟨⟨_, rfl⟩, rfl, rfl⟩

/-- Two readers, the first of which has a name that is no text. -/
def garbled : Simulation.Desk :=
  ⟨[[0xff], [0x52]], ⟨true, [], .script [] (.status 0x90 0x00)⟩, .t1, none, [], [], 0⟩

/-- The first reader is listed, but its name opens nothing.  The other one is opened by its name. -/
theorem openOn_listed_garbled :
    let responder := Simulation.Desk.responder
    (Dialogue.run responder listReaders garbled).value = .ok ["\ufffd", "R"] ∧
      (Dialogue.run responder (openOn (some "\ufffd")) garbled).value = .error (.transport none) ∧
      ∃ card, (Dialogue.run responder (openOn (some "R")) garbled).value = .ok ⟨some card, [0x52]⟩ := by
  intro responder
  have hattached : Attached responder [[0xff], [0x52]] fun d => d.readers = [[0xff], [0x52]] ∧ d.plans = [] :=
    attached_desk (by decide)
  have hready : garbled.readers = [[0xff], [0x52]] ∧ garbled.plans = [] := ⟨rfl, rfl⟩
  have hbroken : [[0xff], [0x52]].find? (fun reader => Utf8.lossy reader == "\ufffd") = some [0xff] := by decide +kernel
  have htext : [[0xff], [0x52]].find? (fun reader => Utf8.lossy reader == "R") = some [0x52] := by decide +kernel
  rcases openOn_listed hattached hready hbroken with ⟨hlisted, -, -, -, hfailed⟩
  rcases openOn_listed hattached hready htext with ⟨-, hopened, -⟩
  have hnames : List.map Utf8.lossy [[0xff], [0x52]] = ["\ufffd", "R"] := by decide +kernel
  refine ⟨hlisted.trans (congrArg Except.ok hnames), hfailed ?_, ?_⟩
  · rw [Utf8.encode_eq]
    decide +kernel
  · rcases hopened.2 (Utf8.isText_iff.2 ⟨"R", by rw [Utf8.encode_eq]; decide +kernel⟩) with ⟨card, hcard, -⟩
    exact ⟨card, hcard⟩

end SectorCard.Connection
