import SectorCard.CardError

/-!
# Access policies

A policy says which of the two keys may read and which may write the data blocks of a sector.  An access
condition is what the card itself understands: three bits per block position.  Only four policies have an
unambiguous access condition.

Main statement: `AccessPolicy.ofCondition?_eq_some_iff`, the two directions of the correspondence agree.
-/

namespace SectorCard

/-- The access condition of one block position.  Only the lowest bit of each part counts. -/
structure Condition where
  c1 : UInt8
  c2 : UInt8
  c3 : UInt8
  deriving DecidableEq, Repr

namespace Condition

def reduce (c : Condition) : Condition := ⟨c.c1 &&& 1, c.c2 &&& 1, c.c3 &&& 1⟩

/-- The condition of the trailer: key A may only read, key B may replace the trailer. -/
def trailer : Condition := ⟨1, 1, 0⟩

def digits (c : Condition) : String :=
  toString c.c1.toNat ++ toString c.c2.toNat ++ toString c.c3.toNat

end Condition

/-- What each key is meant to be allowed to do with the data blocks of a sector. -/
structure AccessPolicy where
  aReads : Bool
  aWrites : Bool
  bReads : Bool
  bWrites : Bool
  deriving DecidableEq, Repr

namespace AccessPolicy

/-- The policy of a sector about which nothing was said: key A reads, key B reads and writes. -/
def standard : AccessPolicy := ⟨true, false, true, true⟩

instance : Inhabited AccessPolicy := ⟨standard⟩

/-- The policies that have an access condition, each with its condition. -/
def supported : List (AccessPolicy × Condition) :=
  [(⟨true, false, true, true⟩, ⟨0, 1, 0⟩),
   (⟨true, true, true, true⟩, ⟨0, 0, 0⟩),
   (⟨true, true, true, false⟩, ⟨1, 0, 0⟩),
   (⟨true, false, true, false⟩, ⟨1, 1, 0⟩)]

def condition (p : AccessPolicy) : Except CardError Condition :=
  match supported.find? fun entry => entry.1 == p with
  | some entry => .ok entry.2
  | none => .error .unsupportedPolicy

def ofCondition? (c : Condition) : Option AccessPolicy :=
  (supported.find? fun entry => entry.2 == c).map Prod.fst

def describe (p : AccessPolicy) : String :=
  "SectorKeyConfig \x7b key_a_read: " ++ toString p.aReads ++ ", key_a_write: " ++ toString p.aWrites
    ++ ", key_b_read: " ++ toString p.bReads ++ ", key_b_write: " ++ toString p.bWrites ++ " \x7d"

theorem mem_supported {p : AccessPolicy} {c : Condition} (h : p.condition = .ok c) : (p, c) ∈ supported := by
  unfold condition at h
  split at h
  · rename_i entry found
    cases h
    have hp : entry.1 = p := by simpa using List.find?_some found
    subst hp
    exact List.mem_of_find?_eq_some found
  · cases h

/-- Whatever policy a card can express, key A reads under it. -/
theorem aReads_of_condition {p : AccessPolicy} {c : Condition} (h : p.condition = .ok c) : p.aReads = true := by
  have hall : ∀ entry ∈ supported, entry.1.aReads = true := by decide
  exact hall (p, c) (mem_supported h)

theorem ofCondition?_eq_some_iff {c : Condition} {p : AccessPolicy} :
    ofCondition? c = some p ↔ p.condition = .ok c := by
  constructor
  · intro h
    obtain ⟨entry, found, rfl⟩ := Option.map_eq_some_iff.1 h
    have hc : entry.2 = c := by simpa using List.find?_some found
    have listed := List.mem_of_find?_eq_some found
    -- Each of the four entries is found again by its policy.
    simp only [supported, List.mem_cons, List.not_mem_nil, or_false] at listed
    subst hc
    rcases listed with rfl | rfl | rfl | rfl <;> rfl
  · intro h
    have hall : ∀ entry ∈ supported, ofCondition? entry.2 = some entry.1 := by decide
    exact hall (p, c) (mem_supported h)

end AccessPolicy
end SectorCard
