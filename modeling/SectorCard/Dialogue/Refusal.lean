import SectorCard.Dialogue.Procedure
import SectorCard.Failure

/-!
# Procedures that can be refused

Most procedures of the library fail with a `Failure`.  This module lets them use checks that know only of
errors, and changes of state that can be refused.
-/

namespace SectorCard.Procedure

variable {S : Signature} {σ α : Type}

/-- Goes on with the result of a check, or stops with its error. -/
def require (check : Except CardError α) : Procedure S σ Failure α := ofExcept (Failure.lift check)

/-- Replaces the state, unless the change is refused. -/
def change (f : σ → Except CardError σ) : Procedure S σ Failure Unit := fun s =>
  match f s with
  | .ok s' => .done (.ok (), s')
  | .error e => .done (.error (.error e), s)

@[simp] theorem require_ok (a : α) : (require (.ok a) : Procedure S σ Failure α) = pure a := rfl

@[simp] theorem require_error (e : CardError) :
    (require (.error e) : Procedure S σ Failure α) = throw (.error e) := rfl

theorem change_of_ok {f : σ → Except CardError σ} {s s' : σ} (h : f s = .ok s') :
    (change f : Procedure S σ Failure Unit) s = .done (.ok (), s') := by
  simp [change, h]

/-- A change that is refused leaves the state as it was. -/
theorem change_of_error {f : σ → Except CardError σ} {s : σ} {e : CardError} (h : f s = .error e) :
    (change f : Procedure S σ Failure Unit) s = .done (.error (.error e), s) := by
  simp [change, h]

end SectorCard.Procedure
