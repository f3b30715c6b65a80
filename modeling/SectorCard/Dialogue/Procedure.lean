import SectorCard.Dialogue.Basic

/-!
# Procedures

A procedure is a dialogue that reads and changes a state and may fail.  The state outlives a failure: what a
procedure has changed before it failed stays changed.

Main statements: procedures form a lawful monad, and one equation per building block says what it does to
the state (`Procedure.bind_apply`, `Procedure.pure_apply`, `Procedure.throw_apply`, and so on).
-/

namespace SectorCard

/-- A dialogue over a state `σ` that ends with a value or with a failure of type `ε`. -/
def Procedure (S : Signature) (σ ε α : Type) : Type := σ → Dialogue S (Except ε α × σ)

namespace Procedure

variable {S : Signature} {σ τ ε α β : Type}

/-- Goes on with `f` if a procedure has succeeded, and keeps its failure otherwise. -/
def andThen (f : α → Procedure S σ ε β) : Except ε α × σ → Dialogue S (Except ε β × σ)
  | (.ok a, s) => f a s
  | (.error e, s) => .done (.error e, s)

instance : Monad (Procedure S σ ε) where
  pure a := fun s => .done (.ok a, s)
  bind p f := fun s => (p s).bind (andThen f)

instance : MonadStateOf σ (Procedure S σ ε) where
  get := fun s => .done (.ok s, s)
  set s := fun _ => .done (.ok (), s)
  modifyGet f := fun s => .done (.ok (f s).1, (f s).2)

instance : MonadExceptOf ε (Procedure S σ ε) where
  throw e := fun s => .done (.error e, s)
  tryCatch p h := fun s => (p s).bind fun
    | (.ok a, s') => .done (.ok a, s')
    | (.error e, s') => h e s'

def ask (q : S.Request) : Procedure S σ ε (S.Reply q) :=
  fun s => .ask q fun reply => .done (.ok reply, s)

def ofExcept : Except ε α → Procedure S σ ε α
  | .ok a => pure a
  | .error e => throw e

/-- Turns a failure into a value. -/
def attempt (p : Procedure S σ ε α) : Procedure S σ ε (Except ε α) :=
  fun s => (p s).bind fun (result, s') => .done (.ok result, s')

/-- Runs a procedure on a part of a larger state. -/
def focus (view : τ → σ) (update : σ → τ → τ) (p : Procedure S σ ε α) : Procedure S τ ε α :=
  fun t => (p (view t)).bind fun (result, s) => .done (result, update s t)

/-! ## What the building blocks do -/

@[simp] theorem pure_apply (a : α) (s : σ) : (pure a : Procedure S σ ε α) s = .done (.ok a, s) := rfl

theorem bind_apply (p : Procedure S σ ε α) (f : α → Procedure S σ ε β) (s : σ) :
    (p >>= f) s = (p s).bind (andThen f) := rfl

@[simp] theorem andThen_ok (f : α → Procedure S σ ε β) (a : α) (s : σ) : andThen f (.ok a, s) = f a s := rfl

@[simp] theorem andThen_error (f : α → Procedure S σ ε β) (e : ε) (s : σ) :
    andThen f (.error e, s) = .done (.error e, s) := rfl

@[simp] theorem get_apply (s : σ) : (get : Procedure S σ ε σ) s = .done (.ok s, s) := rfl

@[simp] theorem set_apply (s t : σ) : (set s : Procedure S σ ε PUnit) t = .done (.ok (), s) := rfl

@[simp] theorem modify_apply (f : σ → σ) (s : σ) :
    (modify f : Procedure S σ ε PUnit) s = .done (.ok (), f s) := rfl

@[simp] theorem throw_apply (e : ε) (s : σ) :
    (throw e : Procedure S σ ε α) s = .done (.error e, s) := rfl

@[simp] theorem ask_apply (q : S.Request) (s : σ) :
    (ask q : Procedure S σ ε (S.Reply q)) s = .ask q fun reply => .done (.ok reply, s) := rfl

@[simp] theorem ofExcept_ok (a : α) : (ofExcept (.ok a) : Procedure S σ ε α) = pure a := rfl

@[simp] theorem ofExcept_error (e : ε) : (ofExcept (.error e) : Procedure S σ ε α) = throw e := rfl

theorem attempt_apply (p : Procedure S σ ε α) (s : σ) :
    attempt p s = (p s).bind fun (result, s') => .done (.ok result, s') := rfl

theorem focus_apply (view : τ → σ) (update : σ → τ → τ) (p : Procedure S σ ε α) (t : τ) :
    focus view update p t = (p (view t)).bind fun (result, s) => .done (result, update s t) := rfl

/-! ## Laws -/

private theorem andThen_pure : andThen (pure : α → Procedure S σ ε α) = Dialogue.done := by
  funext x
  rcases x with ⟨_ | _, _⟩ <;> rfl

instance : LawfulMonad (Procedure S σ ε) :=
  LawfulMonad.mk' (Procedure S σ ε)
    (fun p => by
      funext s
      show (p s).bind (andThen pure) = p s
      rw [andThen_pure, Dialogue.bind_done])
    (fun _ _ => rfl)
    (fun p f g => by
      funext s
      show ((p s).bind (andThen f)).bind (andThen g) = (p s).bind (andThen fun a => f a >>= g)
      rw [Dialogue.bind_assoc]
      congr 1
      funext x
      rcases x with ⟨_ | _, _⟩ <;> rfl)

end Procedure
end SectorCard
