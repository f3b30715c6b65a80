import SectorCard.Console.Program
import SectorCard.Service.Absent

/-!
# The executable

The executable passes its arguments to the program and prints the report.  It is not linked to a smart-card
service, so tasks that need one end with the service's fault.
-/

open SectorCard SectorCard.Console

/-- Prints the lines of a report and gives its exit status. -/
def printReport (coloured : Bool) (report : Report) : IO UInt32 := do
  (← IO.getStdout).putStr (report.text coloured .results)
  (← IO.getStderr).putStr (report.text coloured .complaints)
  pure (UInt32.ofNat report.status)

def main (arguments : List String) : IO UInt32 := do
  let coloured := Line.wantsColour (← IO.getEnv "TERM") (← IO.getEnv "NO_COLOR")
  match ((Console.run arguments 1).run Service.absent ()).value with
  | .rejected => printReport coloured rejection
  | .reported report => printReport coloured report
  | .waiting => pure 1
