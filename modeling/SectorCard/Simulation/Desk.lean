import SectorCard.Simulation.Bench
import SectorCard.Service.Connection

/-!
# A simulated smart-card service

A desk stands for the smart-card service with its readers.  One device, on a bench, serves whichever reader is
connected.  For every kind of call a queue of results can be laid out in advance; a call takes the next entry
of its queue and succeeds when the queue has run out.  The desk keeps a log of the calls that touch a card or
a context.
-/

namespace SectorCard.Simulation

/-- The kinds of calls that have a queue. -/
inductive Call where
  | establish
  | release
  | isValid
  | list
  | listFill
  | connect
  | reconnect
  | disconnect
  | status
  | statusFill
  deriving DecidableEq, Repr

/-- A simulated service: readers in front of a bench.  For each call, results are laid out in advance, a
fault or none for success.  The latest of the logged calls comes first.  The protocol that a status names
need not be the one that connecting agrees on. -/
structure Desk where
  readers : List Bytes
  bench : Bench
  protocol : Protocol
  statusProtocol : Option Protocol
  plans : List (Call × List (Option ServiceFault))
  log : List String
  handles : Nat
  deriving DecidableEq, Repr

namespace Desk

/-- The next result of a call, taken from its queue. -/
def take (call : Call) (d : Desk) : Option ServiceFault × Desk :=
  match d.plans.lookup call with
  | some (result :: rest) =>
    (result, { d with plans := (call, rest) :: d.plans.filter fun plan => plan.1 != call })
  | _ => (none, d)

def note (line : String) (fault : Option ServiceFault) (d : Desk) : Desk :=
  let line := match fault with
    | none => line
    | some f => line ++ " -> " ++ f.name
  { d with log := line :: d.log }

def calls (d : Desk) : List String := d.log.reverse

/-- A call that takes its result from a queue and, if it succeeds, gives a value and changes the desk. -/
def queued {α : Type} (call : Call) (line : Option String) (success : Desk → α × Desk) (d : Desk) :
    Except ServiceFault α × Desk :=
  let (fault, d) := d.take call
  let d := match line with
    | none => d
    | some line => d.note line fault
  match fault with
  | some f => (.error f, d)
  | none =>
    let (a, d) := success d
    (.ok a, d)

def connected (d : Desk) : Desk :=
  { d with bench := { d.bench with device := d.bench.device.loseAuth } }

def listSize (readers : List Bytes) : Nat := readers.foldr (fun name rest => name.length + 1 + rest) 1

/-- A name cut at its zero bytes. -/
def cutAtZeros (name : Bytes) : List Bytes :=
  name.foldr (fun b pieces => if b = 0 then [] :: pieces else (b :: pieces.headD []) :: pieces.tail) [[]]

/-- The names that a list of readers shows: in the list a zero byte ends a name, so a name that holds one comes
out as two. -/
def listed (readers : List Bytes) : List Bytes := readers.flatMap cutAtZeros

/-- A call about the list, which fails if there are no readers. -/
def listing {α : Type} (call : Call) (value : List Bytes → α) (d : Desk) : Except ServiceFault α × Desk :=
  let (result, d) := queued call none (fun d => (value d.readers, d)) d
  match result with
  | .error f => (.error f, d)
  | .ok a => (if d.readers.isEmpty then .error .noReadersAvailable else .ok a, d)

/-- How sharing and protocols are named in the log. -/
def terms : String := "share=2 protocols=3"

/-- Carries a command to the device. -/
def transmit (card : Handle) (command : Bytes) (room : Nat) (d : Desk) : Except ServiceFault Bytes × Desk :=
  let (answer, device) := d.bench.device.respond command
  let d := { d with bench := { d.bench with device := device } }
  let line := "transmit pci=" ++ toString card.protocol.code ++ " " ++ Hex.lower command
  match answer.onService with
  | .error f => (.error f, d.note line (some f))
  | .ok data =>
    if data.length ≤ room then (.ok data, d.note line none)
    else (.error .insufficientBuffer, d.note line (some .insufficientBuffer))

/-- The answer of the desk to a call. -/
def answer : (q : Service.Request) → Desk → Except ServiceFault (Service.Gain q) × Desk
  | .establish, d => queued .establish (some "establish scope=2") (fun d => ((), d)) d
  | .release, d => queued .release (some "release") (fun d => ((), d)) d
  | .isValid, d => queued .isValid none (fun d => ((), d)) d
  | .listLength, d => listing .list listSize d
  | .listReaders, d => listing .listFill listed d
  | .connect reader, d =>
    queued .connect (some ("connect " ++ Utf8.lossy reader ++ " " ++ terms))
      (fun d => (⟨d.handles, d.protocol⟩, { d.connected with handles := d.handles + 1 })) d
  | .reconnect _, d =>
    queued .reconnect (some ("reconnect " ++ terms ++ " init=1")) (fun d => (d.protocol, d.connected)) d
  | .disconnect _ disposition, d =>
    queued .disconnect (some ("disconnect disposition=" ++ toString disposition.code))
      (fun d => ((), d)) d
  | .statusLengths _, d => queued .status none (fun d => ((), d)) d
  | .status _, d => queued .statusFill none (fun d => (d.statusProtocol, d)) d
  | .transmit card command room, d => transmit card command room d

def responder : Responder Service Desk := ⟨answer⟩

/-- More attempts to connect than the desk can answer with a fault. -/
def patience (d : Desk) : Nat := ((d.plans.lookup .connect).getD []).length + 1

end Desk
end SectorCard.Simulation
