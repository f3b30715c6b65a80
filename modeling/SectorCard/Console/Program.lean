import SectorCard.Console.CardTask
import SectorCard.Service.Connection

/-!
# The program

The program reads its arguments, performs the task they name, and ends with a report.  A task on a card first
opens a connection, waiting for a card if asked to, and configures both keys.  A task that was finished closes
the connection; one that stopped does not.
-/

namespace SectorCard.Console

def version : String := "0.1.0"

/-- What the program answers when its version is asked for. -/
def programName : String := "mifare"

/-- What the task for the version answers. -/
def packageName : String := "mifare-cli"

def usage : List String :=
  ["Usage: mifare [OPTIONS] <COMMAND>",
   "",
   "Commands:",
   "  version                     Display version information",
   "  readers                     List detected readers",
   "  read BLOCK [-n COUNT]       Read data blocks",
   "  write BLOCK DATA            Write data blocks",
   "  dump [-s SECTOR]            Dump every readable block of the card",
   "  trailer SECTOR              Show a sector trailer",
   "  apply SECTOR [--a-access P] [--b-access P] [--auth K] [--no-rollback] [--yes]",
   "                              Write sector permissions into a trailer",
   "",
   "Options:",
   "  -r, --reader NAME           Name of the PC/SC reader to use",
   "  -w, --wait                  Wait for a card to be presented",
   "      --4k                    Treat the card as a MIFARE Classic 4K",
   "  -a, --key-a KEY             Key A as 12 hex digits",
   "  -b, --key-b KEY             Key B as 12 hex digits",
   "      --slot SLOT             Reader key slot",
   "      --non-volatile          Store keys in the reader's non-volatile memory",
   "  -h, --help                  Print help",
   "  -V, --version               Print version"]

/-- How a run of the program ended, unless it is still waiting for a card. -/
inductive Ending where
  | rejected
  | reported (report : Report)
  | waiting
  deriving DecidableEq, Repr

def usageStatus : Nat := 2

def rejection : Report := ⟨[.error "invalid arguments; try --help"], usageStatus⟩

open Connection (ServiceM)

/-! ## Tasks -/

def listReaders : ServiceM Report := do
  match ← Connection.listReaders with
  | .error e => pure (.failed ("couldn't enumerate PC/SC readers: " ++ e.message))
  | .ok [] => pure (.failed "no readers detected!")
  | .ok names => pure (.finished (names.zipIdx.map fun (name, i) => .entry (i + 1) name))

def Invocation.connect (i : Invocation) (patience : Nat) : ServiceM (Option (Except CardError Connection)) :=
  if i.wait then Connection.wait i.reader 0 patience else some <$> Connection.openOn i.reader

def Invocation.configure (i : Invocation) (selector : KeySelector) (key : Key) (card : Card) :
    Except Report Card :=
  match card.setKey selector key i.store i.slot with
  | .ok card => .ok card
  | .error e => .error (.failed ("invalid key " ++ selector.name ++ " configuration: " ++ e.message))

def Invocation.card (i : Invocation) : Except Report Card := do
  let card ← i.configure .a i.keyA (.fresh .fresh i.geometry)
  i.configure .b i.keyB card

/-- Performs a task over an open connection, which is closed if the task was finished. -/
def Invocation.performOn (i : Invocation) (task : CardTask) (c : Connection) : ServiceM Report :=
  match i.card with
  | .error report => pure report
  | .ok card => do
    let ((result, _), c) ← c.converse (task.perform card)
    match result with
    | .ok report => do
      -- A run that stopped ends at once and leaves the connection as it is.
      if report.status = 0 then c.close else pure ()
      pure report
    | .error (.error e) => pure (.failed e.message)
    | .error (.defect d) => do
      c.close
      pure (.crashed d)

def Invocation.perform (i : Invocation) (patience : Nat) : ServiceM Ending := do
  match i.task with
  | .version => pure (.reported (.finished [.plain (packageName ++ " " ++ version)]))
  | .readers => .reported <$> listReaders
  | .onCard task =>
    match ← i.connect patience with
    | none => pure .waiting
    | some (.error e) => pure (.reported (.failed ("couldn't connect to card: " ++ e.message)))
    | some (.ok c) => .reported <$> i.performOn task c

/-- Runs the program on its arguments.  While it waits for a card, the program makes at most `patience`
attempts to connect. -/
def run (arguments : List String) (patience : Nat) : ServiceM Ending :=
  match Invocation.ofArguments arguments with
  | .ok i => i.perform patience
  | .error .rejected => pure .rejected
  | .error .version => pure (.reported (.finished [.plain (programName ++ " " ++ version)]))
  | .error .help => pure (.reported (.finished (usage.map .plain)))

end SectorCard.Console
