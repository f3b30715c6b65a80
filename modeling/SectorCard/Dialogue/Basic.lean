/-!
# Dialogues

A program that talks to something outside is a *dialogue*: either it is done with a value, or it makes a
request and goes on in a way that depends on the reply.  Which requests there are, and what replies each can
have, is fixed by a signature.  What stands on the other side is a *responder*: any function that answers a
request and moves on to another state of its world.  A statement about all responders is a statement about
every behaviour of the outside.

Running a dialogue gives its value, the world at the end and the list of all requests with their replies.

Main statements: dialogues form a lawful monad; `Dialogue.run_bind`, running a composed dialogue runs the
parts one after the other and joins their lists of events.
-/

namespace SectorCard

/-- The requests that can be made, and the replies that each can have. -/
structure Signature where
  Request : Type
  Reply : Request → Type

/-- A program that makes requests and ends with a value. -/
inductive Dialogue (S : Signature) (α : Type) where
  | done (value : α)
  | ask (request : S.Request) (next : S.Reply request → Dialogue S α)

/-- A request together with the reply it had. -/
structure Event (S : Signature) where
  request : S.Request
  reply : S.Reply request

/-- The other side of a dialogue: it answers requests and may change its world in doing so. -/
structure Responder (S : Signature) (ω : Type) where
  answer : (request : S.Request) → ω → S.Reply request × ω

/-- What running a dialogue gives: its value, the world after the last reply, and all requests and
replies in order. -/
structure Outcome (S : Signature) (ω α : Type) where
  value : α
  world : ω
  events : List (Event S)

namespace Dialogue

variable {S T : Signature} {ω τ α β γ : Type}

/-! ## Composition -/

def bind (d : Dialogue S α) (f : α → Dialogue S β) : Dialogue S β :=
  match d with
  | .done a => f a
  | .ask q next => .ask q fun reply => (next reply).bind f

instance : Monad (Dialogue S) where
  pure := .done
  bind := bind

def request (q : S.Request) : Dialogue S (S.Reply q) := .ask q .done

@[simp] theorem done_bind (a : α) (f : α → Dialogue S β) : (done a).bind f = f a := rfl

@[simp] theorem ask_bind (q : S.Request) (next : S.Reply q → Dialogue S α) (f : α → Dialogue S β) :
    (ask q next).bind f = ask q fun reply => (next reply).bind f := rfl

@[simp] theorem bind_done (d : Dialogue S α) : d.bind done = d := by
  induction d with
  | done a => rfl
  | ask q next ih => simp only [ask_bind, ih]

theorem bind_assoc (d : Dialogue S α) (f : α → Dialogue S β) (g : β → Dialogue S γ) :
    (d.bind f).bind g = d.bind fun a => (f a).bind g := by
  induction d with
  | done a => rfl
  | ask q next ih => simp only [ask_bind, ih]

theorem pure_eq (a : α) : (pure a : Dialogue S α) = done a := rfl

theorem bind_eq (d : Dialogue S α) (f : α → Dialogue S β) : (d >>= f) = d.bind f := rfl

instance : LawfulMonad (Dialogue S) :=
  LawfulMonad.mk' (Dialogue S) (fun d => bind_done d) (fun _ _ => rfl) bind_assoc

/-! ## Running -/

def run (r : Responder S ω) : Dialogue S α → ω → Outcome S ω α
  | .done a, w => ⟨a, w, []⟩
  | .ask q next, w =>
    let (reply, w') := r.answer q w
    let rest := run r (next reply) w'
    ⟨rest.value, rest.world, ⟨q, reply⟩ :: rest.events⟩

@[simp] theorem run_done (r : Responder S ω) (a : α) (w : ω) : run r (done a) w = ⟨a, w, []⟩ := rfl

theorem run_ask (r : Responder S ω) (q : S.Request) (next : S.Reply q → Dialogue S α) (w : ω) :
    run r (ask q next) w =
      ⟨(run r (next (r.answer q w).1) (r.answer q w).2).value,
        (run r (next (r.answer q w).1) (r.answer q w).2).world,
        ⟨q, (r.answer q w).1⟩ :: (run r (next (r.answer q w).1) (r.answer q w).2).events⟩ := rfl

/-- Running a composed dialogue runs its parts one after the other. -/
theorem run_bind (r : Responder S ω) (d : Dialogue S α) (f : α → Dialogue S β) (w : ω) :
    run r (d.bind f) w =
      ⟨(run r (f (run r d w).value) (run r d w).world).value,
        (run r (f (run r d w).value) (run r d w).world).world,
        (run r d w).events ++ (run r (f (run r d w).value) (run r d w).world).events⟩ := by
  induction d generalizing w with
  | done a => rfl
  | ask q next ih => simp only [ask_bind, run_ask, ih, List.cons_append]

/-! ## Speaking through another dialogue -/

/-- Carries out every request of a dialogue by a dialogue over another signature, which keeps a state of its
own between the requests. -/
def through (carry : (q : S.Request) → τ → Dialogue T (S.Reply q × τ)) :
    Dialogue S α → τ → Dialogue T (α × τ)
  | .done a, t => .done (a, t)
  | .ask q next, t => (carry q t).bind fun (reply, t') => through carry (next reply) t'

theorem through_bind (carry : (q : S.Request) → τ → Dialogue T (S.Reply q × τ))
    (d : Dialogue S α) (f : α → Dialogue S β) (t : τ) :
    through carry (d.bind f) t =
      (through carry d t).bind fun (a, t') => through carry (f a) t' := by
  induction d generalizing t with
  | done a => rfl
  | ask q next ih => simp only [ask_bind, through, bind_assoc, ih]

end Dialogue
end SectorCard
