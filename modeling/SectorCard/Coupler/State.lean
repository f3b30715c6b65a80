import SectorCard.Key.Slot
import SectorCard.Wire.Link

/-!
# The coupler

A coupler is the reader as the library sees it.  It remembers the key with which it authenticates when a page
asks for it, whether that key is known to be in the reader's slot, and whether the next access has to
authenticate first.
-/

namespace SectorCard

/-- What is remembered about the reader between accesses: the bytes per page in accesses that span
several pages, the key to authenticate with, whether that key is known to be in its slot, and whether the
next access has to authenticate first. -/
structure Coupler where
  pageLength : UInt8
  pageLength_pos : 0 < pageLength.toNat
  selector : KeySelector
  key : Option KeyEntry
  keyLoaded : Bool
  authPending : Bool
  deriving DecidableEq

abbrev CouplerM := Procedure Link Coupler Failure

namespace Coupler

def fresh : Coupler where
  pageLength := 4
  pageLength_pos := by decide
  selector := .a
  key := none
  keyLoaded := false
  authPending := false

instance : Inhabited Coupler := ⟨fresh⟩

/-- Sets the key that is used when authentication is pending; it counts as not yet loaded. -/
def setAuth (selector : KeySelector) (entry : KeyEntry) (c : Coupler) : Except CardError Coupler :=
  if !selector.authenticates then .error (.notAuthenticating selector)
  else if entry.store.HasSlot entry.slot then
    .ok { c with selector := selector, key := some entry, keyLoaded := false }
  else .error (.invalidKeySlot entry.slot)

def setPageLength (length : UInt8) (c : Coupler) : Except CardError Coupler :=
  if h : 0 < length.toNat then .ok { c with pageLength := length, pageLength_pos := h }
  else .error .size

/-- Makes the next access authenticate first. -/
def requestAuth (c : Coupler) : Coupler := { c with authPending := true }

def withAuth (selector : KeySelector) (entry : KeyEntry) (c : Coupler) : Except CardError Coupler :=
  (c.setAuth selector entry).map requestAuth

end Coupler
end SectorCard
