import SectorCard.Card.TrailerUpdate

/-!
# The operations of a card

Everything that can be asked of a card, as data, apart from questions that its state answers alone.  A run of
a card is a list of operations, each performed whatever came of those before it.
-/

namespace SectorCard.Card

/-- A request to a card. -/
inductive Operation where
  | setKey (selector : KeySelector) (key : Key) (store : KeyStore) (slot : UInt8)
  | setPolicy (sector : UInt8) (policy : AccessPolicy)
  | ensureAuthorized (sector : UInt8) (selector : KeySelector) (slot : UInt8)
  | invalidate (sector : UInt8)
  | readBlock (block : UInt16)
  | writeBlock (block : UInt16) (data : Block)
  | readLinear (start : UInt16) (length : Nat)
  | writeLinear (start : UInt16) (data : Bytes)
  | readTrailer (sector : UInt8)
  | changeTrailer (sector : UInt8) (trailer : SectorTrailer)
  | applyPolicy (sector : UInt8) (selector : KeySelector) (keepPrevious : Bool)
  deriving DecidableEq

/-- What an operation gives back: bytes if it reads, nothing otherwise. -/
abbrev Operation.Result := Option Bytes

def perform : Operation → CardM Operation.Result
  | .setKey selector key store slot => do
    Procedure.change (setKey selector key store slot)
    pure none
  | .setPolicy sector policy => do
    Procedure.change (setPolicy sector policy)
    pure none
  | .ensureAuthorized sector selector slot => do
    ensureAuthorized sector selector slot
    pure none
  | .invalidate sector => do
    modify (Card.invalidate sector)
    pure none
  | .readBlock block => some <$> readBlock block
  | .writeBlock block data => do
    writeBlock block data
    pure none
  | .readLinear start length => some <$> readLinear start length
  | .writeLinear start data => do
    writeLinear start data
    pure none
  | .readTrailer sector => do
    let trailer ← readTrailer sector
    pure (some trailer.toBytes)
  | .changeTrailer sector trailer => do
    changeTrailer sector trailer
    pure none
  | .applyPolicy sector selector keepPrevious => do
    applyPolicy sector selector keepPrevious
    pure none

def performAll : List Operation → CardM (List (Except Failure Operation.Result))
  | [] => pure []
  | op :: rest => do
    let result ← Procedure.attempt (perform op)
    let results ← performAll rest
    pure (result :: results)

end SectorCard.Card
