import SectorCard.Service.Connection

/-!
# The operations of a connection

Everything that can be asked of a connection, and the ways to open one, as data.  A connection lives from its opening
until it is closed: operations are performed in between, each whatever came of those before it.
-/

namespace SectorCard.Connection

/-- A request to a connection. -/
inductive Operation where
  | transmit (command : Bytes)
  | reconnect
  | disconnect
  | protocol
  | isConnected
  deriving DecidableEq, Repr

/-- What an operation gives back. -/
abbrev Operation.Result : Operation → Type
  | .transmit _ => Except CardError Bytes
  | .reconnect => Except CardError Unit
  | .disconnect => Except CardError Unit
  | .protocol => Option Protocol
  | .isConnected => Bool

def perform : (op : Operation) → Connection → ServiceM (op.Result × Connection)
  | .transmit command, c => do
    let reply ← c.transmit command
    pure (reply, c)
  | .reconnect, c => c.reconnect
  | .disconnect, c => c.disconnect
  | .protocol, c => do
    let protocol ← c.protocol
    pure (protocol, c)
  | .isConnected, c => pure (c.isConnected, c)

def performAll : List Operation → Connection → ServiceM (List (Sigma Operation.Result) × Connection)
  | [], c => pure ([], c)
  | op :: rest, c => do
    let (result, c) ← perform op c
    let (results, c) ← performAll rest c
    pure (⟨op, result⟩ :: results, c)

/-- A way to open a connection on the wanted reader: a card must be there, or is waited for. -/
inductive Opening where
  | now (wanted : Option String)
  | waiting (wanted : Option String) (limit patience : Nat)
  deriving DecidableEq, Repr

def Opening.perform : Opening → ServiceM (Option (Except CardError Connection))
  | .now wanted => some <$> openOn wanted
  | .waiting wanted limit patience => wait wanted limit patience

/-- Opens a connection and performs operations on it. -/
def useAll (opening : Opening) (ops : List Operation) : ServiceM (Option (Except CardError Connection)) := do
  match ← opening.perform with
  | some (.ok c) =>
    let (_, c) ← performAll ops c
    pure (some (.ok c))
  | failed => pure failed

/-- Opens a connection, performs operations on it and closes it. -/
def lifetime (opening : Opening) (ops : List Operation) : ServiceM Unit := do
  match ← useAll opening ops with
  | some (.ok c) => close c
  | _ => pure ()

end SectorCard.Connection
