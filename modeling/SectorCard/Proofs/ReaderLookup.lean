import SectorCard.Service.Connection

/-!
# Looking up readers

What a dialogue may ask for is settled before any reply: it asks only for things of a certain kind if every request
that it can come to is of that kind (`Dialogue.AsksOnly`).  Then so is everything that was said in any of its runs.

The reader of a card is looked up in this way, by asking for the list of readers and for nothing else
(`Connection.asksOnly_findReader`).
-/

namespace SectorCard

namespace Dialogue

variable {S : Signature} {ω α β : Type} {H H' : S.Request → Prop}

/-- Whatever is replied, nothing but requests of a certain kind is made. -/
def AsksOnly (H : S.Request → Prop) : Dialogue S α → Prop
  | .done _ => True
  | .ask q next => H q ∧ ∀ reply, (next reply).AsksOnly H

theorem asksOnly_pure (a : α) : (pure a : Dialogue S α).AsksOnly H := trivial

theorem AsksOnly.bind {d : Dialogue S α} {f : α → Dialogue S β} (h : d.AsksOnly H) (hf : ∀ a, (f a).AsksOnly H) :
    (d >>= f).AsksOnly H := by
  induction d with
  | done a => exact hf a
  | ask q next ih => exact ⟨h.1, fun reply => ih reply (h.2 reply)⟩

theorem AsksOnly.mono {d : Dialogue S α} (h : d.AsksOnly H) (hkind : ∀ q, H q → H' q) : d.AsksOnly H' := by
  induction d with
  | done a => trivial
  | ask q next ih => exact ⟨hkind q h.1, fun reply => ih reply (h.2 reply)⟩

/-- What is asked for through another dialogue is asked for by what carries the requests out. -/
theorem AsksOnly.through {T : Signature} {τ : Type} {K : T.Request → Prop}
    {carry : (q : S.Request) → τ → Dialogue T (S.Reply q × τ)} (hcarry : ∀ q t, (carry q t).AsksOnly K)
    (d : Dialogue S α) (t : τ) : (d.through carry t).AsksOnly K := by
  induction d generalizing t with
  | done a => trivial
  | ask q next ih => exact (hcarry q t).bind fun answer => ih answer.1 answer.2

/-- What is said in a run was asked for. -/
theorem AsksOnly.events {d : Dialogue S α} (h : d.AsksOnly H) (r : Responder S ω) (w : ω) :
    ∀ event ∈ (run r d w).events, H event.request := by
  induction d generalizing w with
  | done a => exact fun _ hevent => nomatch hevent
  | ask q next ih =>
    rw [run_ask]
    exact List.forall_mem_cons.2 ⟨h.1, ih _ (h.2 _) _⟩

end Dialogue

namespace Connection

open Dialogue

/-- A request by which readers are looked up. -/
def LooksUp : Service.Request → Prop
  | .isValid | .listLength | .listReaders => True
  | _ => False

variable {H : Service.Request → Prop} {q : Service.Request}

theorem asksOnly_call (hq : H q) : (call q).AsksOnly H := by
  refine ⟨hq, fun reply => ?_⟩
  cases reply with
  | ok a => exact asksOnly_pure _
  | error f => exact asksOnly_pure _

theorem asksOnly_listCall {none : Service.Gain q} (hq : H q) : (listCall q none).AsksOnly H := by
  refine ⟨hq, fun reply => ?_⟩
  cases reply with
  | ok a => exact asksOnly_pure _
  | error f => exact asksOnly_pure _

theorem asksOnly_readerNames : readerNames.AsksOnly LooksUp := by
  refine (asksOnly_call trivial).bind fun valid => ?_
  cases valid with
  | error e => exact asksOnly_pure _
  | ok _ =>
    refine (asksOnly_listCall trivial).bind fun length => ?_
    -- A list without any bytes is asked for once more before it counts as empty.
    rcases length with e | (_ | length)
    · exact asksOnly_pure _
    · refine (asksOnly_listCall trivial).bind fun again => ?_
      rcases again with e | (_ | again)
      · exact asksOnly_pure _
      · exact asksOnly_pure _
      · exact asksOnly_pure _
    · refine (asksOnly_listCall trivial).bind fun list => ?_
      cases list with
      | error e => exact asksOnly_pure _
      | ok list => exact asksOnly_pure _

/-- Finding a reader takes nothing but the list of readers. -/
theorem asksOnly_findReader (wanted : Option String) : (findReader wanted).AsksOnly LooksUp := by
  refine asksOnly_readerNames.bind fun names => ?_
  cases names with
  | error e => exact asksOnly_pure _
  | ok names =>
    dsimp only
    split
    · exact asksOnly_pure _
    · exact asksOnly_pure _

end Connection
end SectorCard
