import GameBoy.Cli.Session
import GameBoy.Console.Pacing
import GameBoy.Text.Elapsed

/-!
# `GameBoy.Main`: the program

Reads the files a session asks for, paces the frames, and prints what the
session has to tell: its output to standard output, records and failures to
standard error.
-/

set_option autoImplicit false

namespace GameBoy

/-- The reason behind a failed read. -/
def FileError.ofError : IO.Error → FileError
  | .noFileOrDirectory .. => .missing
  | .permissionDenied .. => .noPermission
  | .inappropriateType _ code _ =>
    if code = 21 ∨ 0 - code = 21 then .isDirectory else .notDirectory
  | error => .other error.toString

/-- What a file holds. -/
def fetchFile (path : String) : IO FileContent := do
  try
    return .ok (← IO.FS.readBinFile path).data
  catch error =>
    return .error (.ofError error)

/-- Prints records, one after another. -/
def printRecords (records : List Record) : IO Unit := do
  for record in records do
    let label := String.ofList (record.level.label.toList.rightpad 5 ' ')
    IO.eprintln ("[" ++ label ++ " " ++ record.target ++ "] " ++ "\n".intercalate record.lines)

/-- Prints what a session came to, and gives its exit code. -/
def finish (outcome : Outcome) : IO UInt32 := do
  IO.print outcome.output
  printRecords outcome.records
  for line in (outcome.failure.map Failure.lines).getD [] do
    IO.eprintln line
  return outcome.code.toUInt32

/-- Waits until a time, and gives the time from which the next frame counts. -/
def pace (deadline : Nat) : IO Nat := do
  let (wait, start) := pause deadline (← IO.monoNanosNow)
  IO.sleep (wait / 1000000).toUInt32
  return start

/-- Prints the records of a console, and gives the console with none of them. -/
def printJournal (console : Console) : IO Console := do
  let journal := console.machine.journal
  printRecords journal.records
  return { console with machine.journal := .start journal.config }

/-- Runs frame after frame and prints the records of each. -/
partial def play (console : Console) (left : Option Nat) (paced : Bool) (start : Nat)
    (summary : RunSummary) : IO (RunSummary × Option Trap × Console) := do
  let console ← printJournal console
  if left == some 0 then
    return (summary, none, console)
  match console.frame none with
  | (.error trap, console) => return (summary, some trap, ← printJournal console)
  | (.ok report, console) =>
    let start ← if paced then pace (start + FrameTiming.frameNanoseconds) else pure start
    play console (left.map (· - 1)) paced start (summary.add report)

/-- Runs a console that is ready. -/
def launchConsole (launch : Launch) : IO UInt32 := do
  printRecords launch.opening
  let start ← IO.monoNanosNow
  let (summary, trap, console) ← play launch.console launch.frames launch.paced start .zero
  let took := (← IO.monoNanosNow) - start
  printRecords (launch.closing summary (" in " ++ elapsed took))
  finish { launch.conclude summary trap console "" with records := [] }

end GameBoy

/-- Runs the program on a command line. -/
def main (words : List String) : IO UInt32 := do
  match ← (GameBoy.Session.prepare GameBoy.fetchFile words).run with
  | .ok launch => GameBoy.launchConsole launch
  | .error outcome => GameBoy.finish outcome
