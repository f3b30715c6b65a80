import SectorCard.Coupler.Span

/-!
# The operations of a coupler

Everything that can be asked of a coupler, as data.  A run of a coupler is a list of operations, each
performed whatever came of those before it.
-/

namespace SectorCard.Coupler

/-- A request to a coupler. -/
inductive Operation where
  | setAuth (selector : KeySelector) (entry : KeyEntry)
  | setPageLength (length : UInt8)
  | requestAuth
  | loadKey (entry : KeyEntry)
  | authenticate (address : UInt8) (selector : KeySelector) (slot : UInt8)
  | performAuth (address : UInt8)
  | readPage (address length : UInt8)
  | writePage (address : UInt8) (data : Bytes)
  | readAll (start : UInt8)
  | readData (start : UInt8) (length : Nat)
  | writeData (start : UInt8) (data : Bytes)
  | writeEncrypted (start : UInt8) (data : Bytes) (mode : CipherMode)
  | readDecrypted (start : UInt8) (length : Nat) (mode : CipherMode)

/-- What an operation gives back: bytes if it reads, nothing otherwise. -/
abbrev Operation.Result := Option Bytes

def perform : Operation → CouplerM Operation.Result
  | .setAuth selector entry => do
    Procedure.change (setAuth selector entry)
    pure none
  | .setPageLength length => do
    Procedure.change (setPageLength length)
    pure none
  | .requestAuth => do
    modify Coupler.requestAuth
    pure none
  | .loadKey entry => do
    loadKey entry
    pure none
  | .authenticate address selector slot => do
    authenticate address selector slot
    pure none
  | .performAuth address => do
    performAuth address
    pure none
  | .readPage address length => some <$> readPage address length
  | .writePage address data => do
    writePage address data
    pure none
  | .readAll start => some <$> readAll start
  | .readData start length => some <$> readData start length
  | .writeData start data => do
    writeData start data
    pure none
  | .writeEncrypted start data mode => do
    writeEncrypted start data mode
    pure none
  | .readDecrypted start length mode => some <$> readDecrypted start length mode

def performAll : List Operation → CouplerM (List (Except Failure Operation.Result))
  | [] => pure []
  | op :: rest => do
    let result ← Procedure.attempt (perform op)
    let results ← performAll rest
    pure (result :: results)

end SectorCard.Coupler
