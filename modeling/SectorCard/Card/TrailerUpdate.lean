import SectorCard.Card.Blocks

/-!
# Trailers

A trailer is read like a data block.  It is replaced only by one whose access bits pass their check, since
a trailer with contradictory bits locks its sector for ever.

`applyPolicy` builds the trailer of a sector from the configured keys and the sector's policy and writes it.
On request it first reads the present trailer, and writes that back once if writing the new one fails; the
error reported is always the one of the first write.
-/

namespace SectorCard.Card

def trailerAddress (card : Card) (sector : UInt8) : Except Failure UInt8 :=
  match card.geometry.trailerBlock sector with
  | .ok block => Checked.narrow block
  | .error e => .error (.error e)

def readTrailer (sector : UInt8) : CardM SectorTrailer := do
  let address ← inspect fun card => card.trailerAddress sector
  let selector ← inspect fun card => card.chooseKey sector .read
  let data ← withAuthRetry sector selector (Coupler.readPage address blockLength)
  if data.length < blockSize then throw (.error .size)
  else
    let bytes ← Procedure.ofExcept (Checked.front blockSize data)
    Procedure.require (SectorTrailer.ofBytes bytes)

/-- Writes a complete trailer under key B, after checking its access bits. -/
def changeTrailer (sector : UInt8) (trailer : SectorTrailer) : CardM Unit := do
  let address ← inspect fun card => card.trailerAddress sector
  Procedure.require trailer.validate
  withAuthRetry sector .b (Coupler.writePage address trailer.toBytes)
  modify (invalidate sector)

/-- Writes a trailer back after a failed update.  Errors are swallowed. -/
def rollBack (sector address : UInt8) (selector : KeySelector) (previous : SectorTrailer) :
    CardM Unit := do
  let result ← Procedure.attempt do
    authorize sector selector
    onCoupler (Coupler.writePage address previous.toBytes)
  match result with
  | .error (.defect d) => throw (.defect d)
  | _ => pure ()

/-- The trailer that a card's keys and the policy of a sector call for. -/
def plannedTrailer (card : Card) (sector : UInt8) (selector : KeySelector) :
    Except Failure SectorTrailer := do
  let policy ← card.policy sector
  let keyA ← Failure.lift (card.findKey .a)
  let keyB ← Failure.lift (card.findKey .b)
  let _ ← Failure.lift (Coupler.authCode selector)
  let _ ← Failure.lift (card.findKey selector)
  let access ← Failure.lift (AccessBits.make policy)
  Failure.lift access.validate
  pure ⟨keyA.key, access, keyB.key⟩

/-- Writes the configured keys and the policy of a sector into its trailer, under the selected key. -/
def applyPolicy (sector : UInt8) (selector : KeySelector) (keepPrevious : Bool) : CardM Unit := do
  let address ← inspect fun card => card.trailerAddress sector
  let trailer ← inspect fun card => card.plannedTrailer sector selector
  let previous ← if keepPrevious then some <$> readTrailer sector else pure none
  let written ← Procedure.attempt
    (withAuthRetry sector selector (Coupler.writePage address trailer.toBytes))
  match written, previous with
  | .ok (), _ => modify (invalidate sector)
  | .error (.error e), some previous => do
    rollBack sector address selector previous
    throw (.error e)
  | .error failure, _ => throw failure

end SectorCard.Card
