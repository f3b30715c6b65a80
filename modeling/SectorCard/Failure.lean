import SectorCard.CardError
import SectorCard.Bytes

/-!
# Failures and checked arithmetic

An operation can stop for two reasons of different standing.  An *error* is an answer: the caller asked for
something that cannot be done, or the card refused.  A *defect* is a broken rule of the library itself: a
command put together wrongly, an index outside its range, a number that does not fit.  Keeping defects as
values, instead of wrapping or cutting silently, makes "no operation has a defect" a statement that can be
proved.

The functions of `Checked` are the places where fixed-width arithmetic and cutting of byte strings happen.
Main statements: each of them gives the exact result exactly when that result fits.
-/

namespace SectorCard

/-- A broken rule of the library: a second body for a command, more data than its length byte can count,
an index or a cut beyond the end, or a number that does not fit its width. -/
inductive Defect where
  | bodyAlreadySet
  | dataTooLong (length : Nat)
  | outOfRange
  | overflow
  deriving DecidableEq, Repr

namespace Defect

def maxData : Nat := 255

def message : Defect → String
  | .bodyAlreadySet => "APDU body already set!"
  | .dataTooLong length =>
    "APDU command data too long: " ++ toString length ++ " (max: " ++ toString maxData ++ ")"
  | .outOfRange => "index out of range"
  | .overflow => "number out of range"

end Defect

/-- Why an operation stopped without a result. -/
inductive Failure where
  | error (cause : CardError)
  | defect (rule : Defect)
  deriving DecidableEq, Repr

namespace Failure

def lift {α : Type} : Except CardError α → Except Failure α
  | .ok a => .ok a
  | .error e => .error (.error e)

theorem lift_eq_ok_iff {α : Type} {x : Except CardError α} {a : α} : lift x = .ok a ↔ x = .ok a := by
  cases x <;> simp [lift]

def liftDefect {α : Type} : Except Defect α → Except Failure α
  | .ok a => .ok a
  | .error d => .error (.defect d)

end Failure

namespace Checked

/-- The block number as a page address, which has only eight bits. -/
def narrow (n : UInt16) : Except Failure UInt8 :=
  if n.toNat < 256 then .ok (UInt8.ofNat n.toNat) else .error (.defect .overflow)

def next (n : UInt16) : Except Failure UInt16 :=
  if n.toNat + 1 < 65536 then .ok (n + 1) else .error (.defect .overflow)

/-- The page address that lies `i` after `start`. -/
def advance (start : UInt8) (i : Nat) : Except Failure UInt8 :=
  if start.toNat + i < 256 then .ok (UInt8.ofNat (start.toNat + i)) else .error (.defect .overflow)

def front (n : Nat) (data : Bytes) : Except Failure Bytes :=
  if n ≤ data.length then .ok (data.take n) else .error (.defect .outOfRange)

/-- A page of `size` bytes that starts with `data` and goes on with zeros. -/
def page (size : Nat) (data : Bytes) : Except Failure Bytes :=
  if data.length ≤ size then .ok (Bytes.fit size data) else .error (.defect .outOfRange)

def item {α : Type} (items : List α) (i : Nat) : Except Failure α :=
  match items[i]? with
  | some a => .ok a
  | none => .error (.defect .outOfRange)

theorem narrow_eq_ok {n : UInt16} (h : n.toNat < 256) :
    ∃ m : UInt8, narrow n = .ok m ∧ m.toNat = n.toNat := by
  refine ⟨UInt8.ofNat n.toNat, if_pos h, ?_⟩
  rw [UInt8.toNat_ofNat']
  omega

theorem next_eq_ok {n : UInt16} (h : n.toNat + 1 < 65536) :
    next n = .ok (n + 1) ∧ (n + 1).toNat = n.toNat + 1 := by
  refine ⟨if_pos h, ?_⟩
  rw [UInt16.toNat_add]
  exact Nat.mod_eq_of_lt h

theorem advance_eq_ok {start : UInt8} {i : Nat} (h : start.toNat + i < 256) :
    ∃ m : UInt8, advance start i = .ok m ∧ m.toNat = start.toNat + i := by
  refine ⟨UInt8.ofNat (start.toNat + i), if_pos h, ?_⟩
  rw [UInt8.toNat_ofNat']
  omega

theorem item_eq_ok {α : Type} {items : List α} {i : Nat} (h : i < items.length) :
    item items i = .ok items[i] := by
  simp [item, h]

end Checked
end SectorCard
