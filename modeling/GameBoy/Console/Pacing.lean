import GameBoy.Console.Run

/-!
# `GameBoy.Console.Pacing`: frames at their own speed

A paced run waits after each completed frame until the frame's time is over. It reads a
clock before the first frame and after each completed one. `Console.runPaced` takes these
readings as they come, so that it says of any clock how long the waits are.

A wait is until the end of the frame's time, counted from when the frame before it was due. A
frame that is over too late is not waited for, and the next one counts from when it was over, so
a run that has fallen behind does not catch up. Main statement: the pace does not show in what a
run does (`Console.runPaced_fst`).
-/

set_option autoImplicit false

namespace GameBoy

/-- How long to wait at the end of a frame, and the time from which the next frame counts: a
frame that came too late does not shorten the ones after it. -/
def pause (deadline now : Nat) : Nat × Nat :=
  if now < deadline then (deadline - now, deadline) else (0, now)

namespace Console

/-- Makes up to `left` more frames as `runFrames` does, and waits after each that was
completed if a frame is to take some time. The waits come with the outcome, first one first. -/
def pacedFrames (pacing : Option Nat) (clock : Nat → Nat) (console : Console) (left : Nat)
    (allowance : Option Nat) (summary : RunSummary) (start : Nat) :
    (RunSummary × Option Trap × Console) × List Nat :=
  match left with
  | 0 => ((summary, none, console), [])
  | left + 1 =>
    if allowance = some 0 then ((summary, none, console), [])
    else
      match console.frame (allowance.map (· - 1)) with
      | (.error trap, console) => ((summary, some trap, console), [])
      | (.ok report, console) =>
        let summary := summary.add report
        if report.interrupted then ((summary, none, console), [])
        else
          let allowance := allowance.map (· - (report.instructions + 1))
          match pacing with
          | none => console.pacedFrames none clock left allowance summary start
          | some frameTime =>
            let (wait, start) := pause (start + frameTime) (clock summary.frames)
            let (outcome, waits) :=
              console.pacedFrames (some frameTime) clock left allowance summary start
            (outcome, wait :: waits)

/-- Runs a console as `run` does, each frame stretched to the given number of nanoseconds, if
any. The clock gives its reading after each number of completed frames. -/
def runPaced (console : Console) (limit : Option Nat) (running : Bool) (pacing : Option Nat)
    (clock : Nat → Nat) : (RunSummary × Option Trap × Console) × List Nat :=
  console.pacedFrames pacing clock (limit.getD frameCounter) (if running then none else some 0)
    .zero (clock 0)

/-- Waiting between frames does not change what they do. By induction on the frames that are
left: both loops look at the same things and end in the same places. -/
theorem pacedFrames_fst (pacing : Option Nat) (clock : Nat → Nat) (console : Console) (left : Nat)
    (allowance : Option Nat) (summary : RunSummary) (start : Nat) :
    (console.pacedFrames pacing clock left allowance summary start).1 =
      console.runFrames left allowance summary := by
  induction left generalizing console allowance summary start with
  | zero => rfl
  | succ left ih =>
    unfold pacedFrames runFrames
    split
    · rfl
    · rcases console.frame (allowance.map (· - 1)) with ⟨trap | report, next⟩
      · rfl
      · dsimp only
        split
        · rfl
        · cases pacing with
          | none => exact ih next _ _ start
          | some frameTime => exact ih next _ _ _

/-- A run does the same at any pace and by any clock. -/
theorem runPaced_fst (console : Console) (limit : Option Nat) (running : Bool)
    (pacing : Option Nat) (clock : Nat → Nat) :
    (console.runPaced limit running pacing clock).1 = console.run limit running :=
  console.pacedFrames_fst pacing clock _ _ _ _

end Console

end GameBoy
