import SectorCard.Service.Request
import SectorCard.Wire.Link
import SectorCard.Text.Quoted

/-!
# Connections

A connection is bound to one reader and holds the handle of the card on it, or none once it was disconnected.
It is the transport of a card on a real reader: `Connection.carry` carries what is asked of a link out through
the service.

A connection is opened on the reader with a given name, or on the first reader.  `Connection.wait` tries again
as long as no card is there.  Closing a connection disconnects the card, without power, and releases the
context.
-/

namespace SectorCard

/-- A connection to the card on a reader, with a handle while the card is connected. -/
structure Connection where
  card : Option Handle
  reader : Bytes
  deriving DecidableEq, Repr

namespace Connection

abbrev ServiceM (α : Type) := Dialogue Service α

/-- Makes a call and reads its fault as an error. -/
def call (q : Service.Request) : ServiceM (Except CardError (Service.Gain q)) :=
  .ask q fun
    | .ok a => .done (.ok a)
    | .error f => .done (.error (.ofFault f))

/-! ## Readers -/

/-- A call about the list of readers, which has a value of its own if there are no readers. -/
def listCall (q : Service.Request) (none : Service.Gain q) :
    ServiceM (Except CardError (Service.Gain q)) :=
  .ask q fun
    | .ok a => .done (.ok a)
    | .error f => .done (if f = .noReadersAvailable then .ok none else .error (.ofFault f))

/-- The names that a list of readers holds: an empty name ends it. -/
def namesOf (list : List Bytes) : List Bytes := list.takeWhile (· ≠ [])

/-- The names of the attached readers.  The service is asked for the length of the list first; if that is
nothing, asking again with no room must find nothing either. -/
def readerNames : ServiceM (Except CardError (List Bytes)) := do
  match ← call .isValid with
  | .error e => pure (.error e)
  | .ok () =>
    match ← listCall .listLength 0 with
    | .error e => pure (.error e)
    | .ok 0 =>
      match ← listCall .listLength 0 with
      | .error e => pure (.error e)
      | .ok 0 => pure (.ok [])
      | .ok (_ + 1) => pure (.error (.ofFault .insufficientBuffer))
    | .ok (_ + 1) =>
      match ← listCall .listReaders [] with
      | .error e => pure (.error e)
      | .ok list => pure (.ok (namesOf list))

def isWanted (wanted : Option String) (reader : Bytes) : Bool :=
  match wanted with
  | none => true
  | some name => reader == Utf8.encode name

/-- The first reader that is wanted. -/
def findReader (wanted : Option String) : ServiceM (Except CardError Bytes) := do
  match ← readerNames with
  | .error e => pure (.error e)
  | .ok names =>
    match names.find? (isWanted wanted) with
    | some name => pure (.ok name)
    | none => pure (.error (.transport none))

/-- Releases the context; whatever comes of that is ignored. -/
def release : ServiceM Unit := .ask .release fun _ => .done ()

/-- Does something within a context that is released afterwards if nothing is kept open. -/
def withContext {α : Type} (body : ServiceM (Except CardError α)) (keep : Bool) :
    ServiceM (Except CardError α) := do
  match ← call .establish with
  | .error e => pure (.error e)
  | .ok () =>
    match ← body with
    | .error e => do
      release
      pure (.error e)
    | .ok a => do
      if keep then pure () else release
      pure (.ok a)

def listReaders : ServiceM (Except CardError (List String)) :=
  withContext
    (do
      let names ← readerNames
      pure (names.map fun list => list.map Utf8.lossy))
    false

/-! ## Opening -/

def openOn (wanted : Option String) : ServiceM (Except CardError Connection) :=
  withContext
    (do
      match ← findReader wanted with
      | .error e => pure (.error e)
      | .ok reader =>
        let handle ← call (.connect reader)
        pure (handle.map fun card => ⟨some card, reader⟩))
    true

/-- The greatest number of attempts that is counted; further ones count as this many. -/
def mostAttempts : Nat := UInt32.size - 1

def countAttempt (attempts : Nat) : Nat := min (attempts + 1) mostAttempts

/-- Connects to a reader, again and again while no card is there, at most `limit` times, or without limit if
that is zero.  The program loses patience after `patience` attempts: then there is no result yet. -/
def poll (reader : Bytes) (limit : Nat) : (patience attempts : Nat) → ServiceM (Option (Except CardError Handle))
  | 0, _ => .done none
  | patience + 1, attempts =>
    .ask (.connect reader) fun
      | .ok card => .done (some (.ok card))
      | .error f =>
        if CardError.ofFault f = .notConnected ∧ (limit = 0 ∨ countAttempt attempts < limit) then
          poll reader limit patience (countAttempt attempts)
        else .done (some (.error (.ofFault f)))

/-- Opens a connection on the wanted reader, waiting for a card.  There is no result yet if patience was lost
while waiting. -/
def wait (wanted : Option String) (limit patience : Nat) :
    ServiceM (Option (Except CardError Connection)) := do
  match ← call .establish with
  | .error e => pure (some (.error e))
  | .ok () =>
    match ← findReader wanted with
    | .error e => do
      release
      pure (some (.error e))
    | .ok reader =>
      match ← poll reader limit patience 0 with
      | none => pure none
      | some (.error e) => do
        release
        pure (some (.error e))
      | some (.ok card) => pure (some (.ok ⟨some card, reader⟩))

/-! ## Using and closing -/

def readerName (c : Connection) : String := Utf8.lossy c.reader

def isConnected (c : Connection) : Bool := c.card.isSome

def describe (c : Connection) : String :=
  "Session \x7b reader: " ++ Quoted.quote c.reader ++ ", connected: " ++ toString c.isConnected ++ " \x7d"

/-- Resets the card and connects to it again, or connects anew after a disconnection. -/
def reconnect (c : Connection) : ServiceM (Except CardError Unit × Connection) := do
  match c.card with
  | some card =>
    match ← call (.reconnect card) with
    | .error e => pure (.error e, c)
    | .ok protocol => pure (.ok (), { c with card := some { card with protocol := protocol } })
  | none =>
    match ← call (.connect c.reader) with
    | .error e => pure (.error e, c)
    | .ok card => pure (.ok (), { c with card := some card })

/-- Disconnects the card and takes its power.  If the service refuses, the handle is given up all the same,
with a reset. -/
def disconnect (c : Connection) : ServiceM (Except CardError Unit × Connection) := do
  match c.card with
  | none => pure (.ok (), c)
  | some card =>
    match ← call (.disconnect card .unpower) with
    | .ok () => pure (.ok (), { c with card := none })
    | .error e => do
      -- Giving up the handle disconnects once more, and nobody is told of the outcome.
      let _ ← call (.disconnect card .reset)
      pure (.error e, { c with card := none })

def close (c : Connection) : ServiceM Unit := do
  let _ ← disconnect c
  release

def protocol (c : Connection) : ServiceM (Option Protocol) := do
  match c.card with
  | none => pure none
  | some card =>
    match ← call (.statusLengths card) with
    | .error _ => pure none
    | .ok () =>
      match ← call (.status card) with
      | .error _ => pure none
      | .ok protocol => pure protocol

/-- The longest reply there is room for: 256 bytes and a status word. -/
def replyRoom : Nat := 258

def transmit (c : Connection) (command : Bytes) : ServiceM (Except CardError Bytes) :=
  match c.card with
  | none => .done (.error .notConnected)
  | some card => call (.transmit card command replyRoom)

/-- Carries out through the service what is asked of a link. -/
def carry : (q : Link.Request) → Connection → ServiceM (Link.Answer q × Connection)
  | .isConnected, c => .done (c.isConnected, c)
  | .transmit command, c => (c.transmit command).bind fun answer => .done (answer, c)

/-- Runs a dialogue with a card over a connection. -/
def converse {α : Type} (d : Dialogue Link α) (c : Connection) : ServiceM (α × Connection) :=
  d.through carry c

end Connection
end SectorCard
