import SectorCard.Console.Line
import SectorCard.Card.State

/-!
# Reports

A run of the command line ends with a status and has said some lines.  A run that fails says why in its last
line and stops at once.
-/

namespace SectorCard.Console

/-- What a run said, and the status it ended with: zero if it did what it was asked. -/
structure Report where
  lines : List Line
  status : Nat
  deriving DecidableEq, Repr

namespace Report

def finished (lines : List Line) : Report := ⟨lines, 0⟩

/-- A run that stopped after it said a last line. -/
def stopped (line : Line) : Report := ⟨[line], 1⟩

def failed (text : String) : Report := stopped (.error text)

/-- A run that met a defect of the library. -/
def crashed (defect : Defect) : Report := ⟨[.error defect.message], 101⟩

def after (lines : List Line) (r : Report) : Report := ⟨lines ++ r.lines, r.status⟩

def text (coloured : Bool) (channel : Channel) (r : Report) : String :=
  Line.renderAll coloured channel r.lines

@[simp] theorem status_after (lines : List Line) (r : Report) : (r.after lines).status = r.status := rfl

@[simp] theorem lines_after (lines : List Line) (r : Report) : (r.after lines).lines = lines ++ r.lines := rfl

end Report

/-! ## Reporting procedures -/

variable {α : Type}

/-- Goes on with the result of a procedure, or stops with its error, put into words. -/
def reporting (p : CardM α) (words : String → String) (next : α → CardM Report) : CardM Report := do
  match ← Procedure.attempt p with
  | .ok a => next a
  | .error (.error e) => pure (.failed (words e.message))
  | .error (.defect d) => throw (.defect d)

/-- The result of a procedure, or nothing if it failed with an error. -/
def ifPossible (p : CardM α) : CardM (Option α) := do
  match ← Procedure.attempt p with
  | .ok a => pure (some a)
  | .error (.error _) => pure none
  | .error (.defect d) => throw (.defect d)

end SectorCard.Console
