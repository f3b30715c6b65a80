import SectorCard.Console.Arguments
import SectorCard.Card.TrailerUpdate
import SectorCard.Text.Numeral

/-!
# Invocations

An invocation is what the arguments of the command line ask for: a task, and for a task on a card the reader,
the size of the card, the keys and the slot to load them into.  General options may stand before or after the
word that names the task; an option given in both places takes its later value.

Main statement: `Invocation.ofArguments_nil`, no arguments are no invocation.
-/

namespace SectorCard.Console

/-! ## Settings -/

/-- What a single option or place contributes. -/
inductive Setting where
  | reader (name : String)
  | wait
  | large
  | keyA (key : Key)
  | keyB (key : Key)
  | slot (slot : UInt8)
  | nonVolatile
  | block (block : UInt16)
  | count (count : UInt16)
  | data (text : String)
  | sector (sector : UInt8)
  | aWrites (allowed : Bool)
  | bWrites (allowed : Bool)
  | auth (selector : KeySelector)
  | noRollback
  | confirmed
  deriving DecidableEq

/-! ## Values -/

/-- A decimal number of at most `bound`.  A minus sign is allowed if the number is zero. -/
def readCount (bound : Nat) (text : String) : Option Nat :=
  match text.toList with
  | '-' :: digits => (Numeral.readDigits 10 0 0 digits).toOption.filter fun _ => !digits.isEmpty
  | _ => (Numeral.readDecimal bound text).toOption

/-- What a key is allowed, as to writing. -/
def readPermission : String → Option Bool
  | "read" => some false
  | "read-write" => some true
  | _ => none

/-- The key named by a letter. -/
def readKeyLetter : String → Option KeySelector
  | "a" => some .a
  | "b" => some .b
  | _ => none

/-- Reads a numeral of at most `bound`, or says what is wrong with it; `noun` is what the number is of. -/
def parseNumber (noun : String) (bound : Nat) (text : String) : Except String Nat :=
  (Numeral.read bound text).mapError fun fault => "invalid " ++ noun ++ " '" ++ text ++ "': " ++ fault.message

def parseByte (text : String) : Except String UInt8 := (parseNumber "byte" 255 text).map UInt8.ofNat

def parseBlockNumber (text : String) : Except String UInt16 := (parseNumber "block" 65535 text).map UInt16.ofNat

def readByte (text : String) : Option UInt8 := (parseByte text).toOption

def readBlockNumber (text : String) : Option UInt16 := (parseBlockNumber text).toOption

def readSector (text : String) : Option UInt8 := (readCount 255 text).map UInt8.ofNat

/-! ## Options and places -/

/-- The options that every task takes. -/
def generalChoices : List (Choice Setting) :=
  [⟨some 'r', "reader", .value fun text => some (.reader text)⟩,
   ⟨some 'w', "wait", .flag .wait⟩,
   ⟨none, "4k", .flag .large⟩,
   ⟨some 'a', "key-a", .value fun text => (Key.parse text).toOption.map .keyA⟩,
   ⟨some 'b', "key-b", .value fun text => (Key.parse text).toOption.map .keyB⟩,
   ⟨none, "slot", .value fun text => (readByte text).map .slot⟩,
   ⟨none, "non-volatile", .flag .nonVolatile⟩,
   ⟨some 'h', "help", .leave .help⟩]

/-- The options before the name of a task. -/
def outerChoices : List (Choice Setting) := generalChoices ++ [⟨some 'V', "version", .leave .version⟩]

inductive TaskName where
  | version
  | readers
  | read
  | write
  | dump
  | trailer
  | apply
  deriving DecidableEq, Repr

namespace TaskName

def ofWord? : String → Option TaskName
  | "version" => some .version
  | "readers" => some .readers
  | "read" => some .read
  | "write" => some .write
  | "dump" => some .dump
  | "trailer" => some .trailer
  | "apply" => some .apply
  | _ => none

def choices : TaskName → List (Choice Setting)
  | .read => [⟨some 'n', "count", .value fun text => (readCount 65535 text).map fun n => .count (UInt16.ofNat n)⟩]
  | .dump => [⟨some 's', "sector", .value fun text => (readSector text).map .sector⟩]
  | .apply =>
    [⟨none, "a-access", .value fun text => (readPermission text).map .aWrites⟩,
     ⟨none, "b-access", .value fun text => (readPermission text).map .bWrites⟩,
     ⟨none, "auth", .value fun text => (readKeyLetter text).map .auth⟩,
     ⟨none, "no-rollback", .flag .noRollback⟩,
     ⟨none, "yes", .flag .confirmed⟩]
  | _ => []

def places : TaskName → List (Place Setting)
  | .read => [fun text => (readBlockNumber text).map .block]
  | .write => [fun text => (readBlockNumber text).map .block, fun text => some (.data text)]
  | .trailer | .apply => [fun text => (readSector text).map .sector]
  | _ => []

end TaskName

/-! ## Tasks -/

/-- What is done with a card.  Data to write is still the text that was typed in; a dump shows one
sector, or all. -/
inductive CardTask where
  | read (block count : UInt16)
  | write (block : UInt16) (text : String)
  | dump (sector : Option UInt8)
  | trailer (sector : UInt8)
  | apply (sector : UInt8) (policy : AccessPolicy) (selector : KeySelector) (keepPrevious confirmed : Bool)
  deriving DecidableEq, Repr

inductive Task where
  | version
  | readers
  | onCard (task : CardTask)
  deriving DecidableEq, Repr

/-- What the arguments ask for.  If no reader is named, the first one will do.  Both keys go into the
same slot. -/
structure Invocation where
  reader : Option String
  wait : Bool
  geometry : Geometry
  keyA : Key
  keyB : Key
  store : KeyStore
  slot : UInt8
  task : Task
  deriving DecidableEq

def pick {α : Type} (value : Setting → Option α) (settings : List Setting) : Option α :=
  settings.findSome? value

/-- The task that a name and settings describe, if no place was left empty. -/
def TaskName.task? (name : TaskName) (settings : List Setting) : Option Task :=
  let block := pick (fun | .block b => some b | _ => none) settings
  let sector := pick (fun | .sector s => some s | _ => none) settings
  match name with
  | .version => some .version
  | .readers => some .readers
  | .read => do
    let count := (pick (fun | .count n => some n | _ => none) settings).getD 1
    pure (.onCard (.read (← block) count))
  | .write => do
    let text ← pick (fun | .data text => some text | _ => none) settings
    pure (.onCard (.write (← block) text))
  | .dump => some (.onCard (.dump sector))
  | .trailer => sector.map fun s => .onCard (.trailer s)
  | .apply => do
    let aWrites := (pick (fun | .aWrites w => some w | _ => none) settings).getD false
    let bWrites := (pick (fun | .bWrites w => some w | _ => none) settings).getD true
    let selector := (pick (fun | .auth s => some s | _ => none) settings).getD .b
    pure (.onCard (.apply (← sector) ⟨true, aWrites, true, bWrites⟩ selector
      (.noRollback ∉ settings) (.confirmed ∈ settings)))

namespace Invocation

def ofSettings (task : Task) (settings : List Setting) : Invocation where
  reader := pick (fun | .reader name => some name | _ => none) settings
  wait := .wait ∈ settings
  geometry := if .large ∈ settings then .large else .small
  keyA := (pick (fun | .keyA key => some key | _ => none) settings).getD .transport
  keyB := (pick (fun | .keyB key => some key | _ => none) settings).getD .transport
  store := if .nonVolatile ∈ settings then .nonVolatile else .volatile
  slot := (pick (fun | .slot slot => some slot | _ => none) settings).getD KeyStore.volatileSlot
  task := task

/-- Help on the program or on one of its tasks is asked for by a word as well. -/
def helpFor : List String → Stop
  | [] => .help
  | [word] => if word == "help" || (TaskName.ofWord? word).isSome then .help else .rejected
  | _ => .rejected

/-- Reads the arguments of the command line. -/
def ofArguments (arguments : List String) : Except Stop Invocation := do
  let (outer, word, rest) ← Reading.takeUntilWord outerChoices arguments (.start [])
  match TaskName.ofWord? word with
  | none => .error (if word == "help" then helpFor rest else .rejected)
  | some name =>
    let inner ← (Reading.start name.places).takeAll (generalChoices ++ name.choices) rest
    match name.task? inner with
    | none => .error .rejected
    -- What stands after the name of the task counts before what stands in front of it.
    | some task => .ok (ofSettings task (inner ++ outer))

theorem ofArguments_nil : ofArguments [] = .error .rejected := rfl

end Invocation
end SectorCard.Console
