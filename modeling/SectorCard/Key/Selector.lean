/-!
# Key selectors

A sector has two keys, A and B.  Where an operation addresses part of a sector trailer it may also name the
access bytes, both keys together, or the whole trailer, so one type covers all five.  Only the two keys
themselves can authenticate.
-/

namespace SectorCard

/-- Which key, or which region of a sector trailer, an operation addresses: key A, key B, the access
bytes, both keys together, or all sixteen bytes. -/
inductive KeySelector where
  | a
  | b
  | access
  | both
  | all
  deriving DecidableEq, Repr

namespace KeySelector

def name : KeySelector → String
  | .a => "A"
  | .b => "B"
  | .access => "Access"
  | .both => "Both"
  | .all => "All"

/-- The code the authenticate command carries for a key; regions have none. -/
def code? : KeySelector → Option UInt8
  | .a => some 0x60
  | .b => some 0x61
  | _ => none

def authenticates : KeySelector → Bool
  | .a => true
  | .b => true
  | _ => false

theorem authenticates_eq (k : KeySelector) : k.authenticates = k.code?.isSome := by
  cases k <;> rfl

/-- The byte ranges of a trailer that the selector addresses, each as first byte and end. -/
def regions : KeySelector → List (Nat × Nat)
  | .a => [(0, 6)]
  | .b => [(10, 16)]
  | .access => [(6, 10)]
  | .both => [(0, 6), (10, 16)]
  | .all => [(0, 16)]

end KeySelector
end SectorCard
