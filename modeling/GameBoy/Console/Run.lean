import GameBoy.Console.Frame

/-!
# `GameBoy.Console.Run`: frame after frame

A run makes frames until it has made as many as it was asked for, until it is
asked to stop, or until a trap. It reports the frames that were completed, and the
steps and cycles in them. A frame that is interrupted counts with its steps and
cycles, but not as a frame; one that ends in a trap counts for nothing, though what
it did to the machine stays.

A request to stop comes from outside while the run goes on, so when it is seen
depends on how often it is looked for. It is modelled by the number of looks that
find nothing: one before every frame, and one before every step in a frame. A run
without such a number is never asked.
-/

set_option autoImplicit false

namespace GameBoy

/-- What a run has done, but for a frame that traps. -/
structure RunSummary where
  frames : Nat
  cycles : Nat
  instructions : Nat
deriving DecidableEq

namespace RunSummary

/-- Nothing was run. -/
def zero : RunSummary := ⟨0, 0, 0⟩

/-- One more frame. Only a completed one is counted. -/
def add (summary : RunSummary) (report : FrameReport) : RunSummary where
  frames := summary.frames + if report.interrupted then 0 else 1
  cycles := summary.cycles + report.cycles
  instructions := summary.instructions + report.instructions

end RunSummary

namespace Console

/-- Frames are counted in a word of this many values, which bounds a run that
was given no limit. -/
def frameCounter : Nat := 0x10000000000000000

/-- Makes up to `left` more frames. The request to stop is looked at before every
frame as it is before every step in one, and comes after as many looks as it is
allowed. -/
def runFrames (console : Console) (left : Nat) (allowance : Option Nat) (summary : RunSummary) :
    RunSummary × Option Trap × Console :=
  match left with
  | 0 => (summary, none, console)
  | left + 1 =>
    if allowance = some 0 then (summary, none, console)
    else
      match console.frame (allowance.map (· - 1)) with
      | (.error trap, console) => (summary, some trap, console)
      | (.ok report, console) =>
        if report.interrupted then (summary.add report, none, console)
        else
          console.runFrames left (allowance.map (· - (report.instructions + 1)))
            (summary.add report)

/-- Runs a console for a number of frames, or as long as it goes, until it is asked
to stop. -/
def runUntil (console : Console) (limit allowance : Option Nat) :
    RunSummary × Option Trap × Console :=
  console.runFrames (limit.getD frameCounter) allowance .zero

/-- Runs a console for a number of frames, or as long as it goes. Nothing
happens if it was asked to stop before it started. -/
def run (console : Console) (limit : Option Nat) (running : Bool) :
    RunSummary × Option Trap × Console :=
  console.runUntil limit (if running then none else some 0)

end Console

end GameBoy
