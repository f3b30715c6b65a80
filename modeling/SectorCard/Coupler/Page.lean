import SectorCard.Coupler.State
import SectorCard.Wire.Command

/-!
# Access to single pages

Reading or writing a page authenticates first if that is pending, then sends one command, and sorts the status
word of its reply.  Success clears the pending mark; any other status sets it.

When authentication is pending and the first attempt is refused although the key was never loaded, the key is
loaded and the attempt is repeated once.
-/

namespace SectorCard.Coupler

def send (command : Except Defect Command) : CouplerM Reply := do
  let command ← Procedure.ofExcept (Failure.liftDefect command)
  Link.exchange command.encode

/-! ## Keys and authentication -/

def sendLoadKey (entry : KeyEntry) : CouplerM Unit := do
  Procedure.require (entry.store.checkSlot entry.slot)
  let reply ← send (Command.loadKey entry)
  if reply.status.isSuccess then pure ()
  else throw (.error (.loadKeyFailed reply.status))

def authCode (selector : KeySelector) : Except CardError UInt8 :=
  match selector.code? with
  | some code => .ok code
  | none => .error (.notAuthenticating selector)

def sendAuthenticate (address : UInt8) (selector : KeySelector) (slot : UInt8) : CouplerM Unit := do
  let code ← Procedure.require (authCode selector)
  let reply ← send (Command.authenticate address code slot)
  if reply.status.isSuccess then pure ()
  else throw (.error (.authFailed reply.status))

/-- Loads a key into its slot; from then on it is the key used when authentication is pending. -/
def loadKey (entry : KeyEntry) : CouplerM Unit := do
  sendLoadKey entry
  modify fun c => { c with key := some entry, keyLoaded := true }

/-- Authenticates a page with the key in a slot.  The selector is remembered whatever comes of it. -/
def authenticate (address : UInt8) (selector : KeySelector) (slot : UInt8) : CouplerM Unit := do
  let _ ← Procedure.require (authCode selector)
  modify fun c => { c with selector := selector }
  sendAuthenticate address selector slot
  modify fun c => { c with authPending := false }

/-- Loads a key that was refused, and authenticates once more. -/
def loadAndRetry (address : UInt8) (selector : KeySelector) (entry : KeyEntry) : CouplerM Unit := do
  sendLoadKey entry
  modify fun c => { c with keyLoaded := true }
  sendAuthenticate address selector entry.slot

/-- Authenticates a page with the remembered key, loading it once if it is refused. -/
def performAuth (address : UInt8) : CouplerM Unit := do
  let c ← get
  match c.key with
  | none => throw (.error (.keyNotConfigured c.selector))
  | some entry =>
    match ← Procedure.attempt (sendAuthenticate address c.selector entry.slot) with
    | .ok () => pure ()
    | .error (.error (.authFailed status)) =>
      if c.keyLoaded then throw (.error (.authFailed status))
      else loadAndRetry address c.selector entry
    | .error failure => throw failure
    modify fun c => { c with authPending := false }

def authenticateIfPending (address : UInt8) : CouplerM Unit := do
  let c ← get
  if c.authPending then performAuth address else pure ()

/-! ## Reading and writing -/

/-- Marks authentication as pending or not by the status word of an access; `other` is the error of a status
that is neither success nor a request to authenticate. -/
def classify (status : StatusWord) (other : StatusWord → CardError) : CouplerM Unit := do
  if status.isSuccess then modify fun c => { c with authPending := false }
  else
    modify fun c => { c with authPending := true }
    match status.meaning with
    | .authenticationError => throw (.error (.authFailed status))
    | _ => throw (.error (other status))

def readPage (address length : UInt8) : CouplerM Bytes := do
  authenticateIfPending address
  let reply ← send (Command.readBinary address length)
  classify reply.status .readFailed
  pure reply.data

/-- Writes data at a page address; more than 255 bytes are refused at once. -/
def writePage (address : UInt8) (data : Bytes) : CouplerM Unit := do
  if data.length ≤ Defect.maxData then
    authenticateIfPending address
    let reply ← send (Command.updateBinary address data)
    classify reply.status .writeFailed
  else throw (.error .size)

end SectorCard.Coupler
