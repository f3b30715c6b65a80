import SectorCard.Card.State

/-!
# Authorization

Before a block is accessed its sector has to be authenticated with the right key.  `ensureAuthorized` trusts
the cache; `authorize` does not.  A cached authentication can be stale, since a card holds only one
authenticated sector at a time: when an access is answered with a failed authentication, the cache entry is
dropped, the sector is authorized again and the access is repeated once.
-/

namespace SectorCard.Card

def onCoupler {α : Type} (op : CouplerM α) : CardM α :=
  Procedure.focus Card.coupler (fun coupler card => { card with coupler := coupler }) op

def inspect {α : Type} (question : Card → Except Failure α) : CardM α := do
  let card ← get
  Procedure.ofExcept (question card)

/-- Loads the configured key and authenticates the first block of a sector, whatever the cache says. -/
def authorize (sector : UInt8) (selector : KeySelector) : CardM Unit := do
  let entry ← inspect fun card => Failure.lift (card.findKey selector)
  let first ← inspect fun card => Failure.lift (card.geometry.firstBlock sector)
  let address ← Procedure.ofExcept (Checked.narrow first)
  onCoupler (Coupler.loadKey entry)
  onCoupler (Coupler.authenticate address selector entry.slot)
  modify fun card => { card with cache := card.cache.insert sector ⟨selector, entry.slot⟩ }

/-- Makes sure that a sector is authenticated with a key in its configured slot.  Nothing is sent if the
cache records just that. -/
def ensureAuthorized (sector : UInt8) (selector : KeySelector) (slot : UInt8) : CardM Unit := do
  let entry ← inspect fun card => Failure.lift (card.findKey selector)
  if entry.slot = slot then
    let card ← get
    if card.cachedAuth sector = some ⟨selector, slot⟩ then pure ()
    else authorize sector selector
  else throw (.error (.invalidKeySlot slot))

/-- Runs an operation under a key, and once more under a fresh authentication if it fails to
authenticate. -/
def withAuthRetry {α : Type} (sector : UInt8) (selector : KeySelector) (op : CouplerM α) : CardM α := do
  let entry ← inspect fun card => Failure.lift (card.findKey selector)
  ensureAuthorized sector selector entry.slot
  match ← Procedure.attempt (onCoupler op) with
  | .ok a => pure a
  | .error (.error (.authFailed _)) => do
    modify (invalidate sector)
    ensureAuthorized sector selector entry.slot
    onCoupler op
  | .error failure => throw failure

end SectorCard.Card
