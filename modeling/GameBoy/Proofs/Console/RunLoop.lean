import GameBoy.Console.Run

/-!
# `GameBoy.Proofs.Console.RunLoop`: a run, frame by frame

The loop of a run goes on after a frame only if it was completed. A request to stop is looked
for before each frame and, within a frame, before each step. So how far a request is away is
counted in looks: what a run is allowed is the number of looks that find none, and a completed
frame of `n` steps has made `n + 1` of them.

`Console.Completes` says that the loop has come past some frames in this way, and how often it
has looked. It says it by the loop itself, made to end there: limited to these frames, it ends
with all of them counted and without a trap. That a request was looked for and not found is a
hypothesis of its own, since a run which is limited does not look once more at its end.

Main statements:

* `Console.runFrames_of_asked`, `Console.runFrames_succ_of_completed` and the two beside it: what
  one round of the loop does.
* `Console.Completes.runFrames_add`: what the loop does after these frames is what it does from
  there on.
-/

set_option autoImplicit false

namespace GameBoy

namespace Console

/-! ### The loop -/

section

variable {console next : Console} {allowance : Option Nat} {report : FrameReport} {trap : Trap}

/-- A run that is asked to stop before a frame does not begin it. -/
theorem runFrames_of_asked (left : Nat) (sum : RunSummary) (asked : allowance = some 0) :
    console.runFrames left allowance sum = (sum, none, console) := by
  cases left with
  | zero => rfl
  | succ left => rw [runFrames, if_pos asked]

/-- A run goes on after a frame that was completed. -/
theorem runFrames_succ_of_completed (left : Nat) (sum : RunSummary) (unasked : allowance ≠ some 0)
    (frame : console.frame (allowance.map (· - 1)) = (.ok report, next))
    (completed : report.interrupted = false) :
    console.runFrames (left + 1) allowance sum =
      next.runFrames left (allowance.map (· - (report.instructions + 1))) (sum.add report) := by
  rw [runFrames, if_neg unasked, frame]
  simp only [completed]
  rfl

/-- A run ends with a frame that was interrupted. -/
theorem runFrames_succ_of_interrupted (left : Nat) (sum : RunSummary)
    (unasked : allowance ≠ some 0)
    (frame : console.frame (allowance.map (· - 1)) = (.ok report, next))
    (interrupted : report.interrupted = true) :
    console.runFrames (left + 1) allowance sum = (sum.add report, none, next) := by
  rw [runFrames, if_neg unasked, frame]
  simp only [interrupted, if_true]

/-- A run ends with a frame that traps. -/
theorem runFrames_succ_of_trap (left : Nat) (sum : RunSummary) (unasked : allowance ≠ some 0)
    (frame : console.frame (allowance.map (· - 1)) = (.error trap, next)) :
    console.runFrames (left + 1) allowance sum = (sum, some trap, next) := by
  rw [runFrames, if_neg unasked, frame]

end

/-! ### Completed frames -/

/-- A request to stop that is yet to come when some looks were made and others will be is
yet to come after all of them. -/
theorem unasked_map_sub_iff {allowance : Option Nat} {made more : Nat} :
    (∀ i ≤ more, allowance.map (· - made) ≠ some i) ↔ ∀ i ≤ more + made, allowance ≠ some i := by
  cases allowance with
  | none => simp
  | some limit =>
    have later (bound rest : Nat) : (∀ i ≤ bound, some rest ≠ some i) ↔ bound < rest := by
      simp only [ne_eq, Option.some.injEq]
      exact ⟨fun h => Nat.lt_of_not_le fun le => h rest le rfl, fun lt i le same => by omega⟩
    rw [Option.map_some, later, later]
    omega

/-- A run completes some frames and goes on: it was not asked to stop at any look that was
made, one before each frame and one before each step, nor at the next. -/
structure Completes (start : Console) (allowance : Option Nat) (sum : RunSummary)
    (frames looks : Nat) (summary : RunSummary) (last : Console) : Prop where
  made : start.runFrames frames allowance sum = (summary, none, last)
  counted : summary.frames = sum.frames + frames
  looked : summary.instructions + frames = sum.instructions + looks
  unasked : ∀ i ≤ looks, allowance ≠ some i

/-- As many looks as were made in completed frames are taken from what is allowed when the
run goes on. By induction on the frames, from the first on. A run can end before the last of
them in three ways, and each leaves a trap or counts fewer frames, which the hypotheses exclude. -/
theorem exists_looks {start last : Console} {allowance : Option Nat} {sum summary : RunSummary}
    {frames : Nat} (made : start.runFrames frames allowance sum = (summary, none, last))
    (counted : summary.frames = sum.frames + frames) :
    ∃ looks, summary.instructions + frames = sum.instructions + looks ∧
      ∀ more, start.runFrames (frames + more) allowance sum =
        last.runFrames more (allowance.map (· - looks)) summary := by
  -- On the frames. That all of them count rules out each way to end before the last.
  induction frames generalizing start allowance sum with
  | zero =>
    cases made
    refine ⟨0, rfl, fun more => ?_⟩
    rw [Nat.zero_add]
    simp only [Nat.sub_zero, Option.map_id']
  | succ frames ih =>
    by_cases asked : allowance = some 0
    · rw [runFrames_of_asked _ _ asked] at made
      cases made
      omega
    rcases first : start.frame (allowance.map (· - 1)) with ⟨trap | report, next⟩
    · rw [runFrames_succ_of_trap frames sum asked first] at made
      cases made
    cases interrupted : report.interrupted with
    | true =>
      rw [runFrames_succ_of_interrupted frames sum asked first interrupted] at made
      cases made
      simp only [RunSummary.add, interrupted, if_true] at counted
      omega
    | false =>
      rw [runFrames_succ_of_completed frames sum asked first interrupted] at made
      have rest : summary.frames = (sum.add report).frames + frames := by
        simp only [counted, RunSummary.add, interrupted, Bool.false_eq_true, if_false]
        omega
      obtain ⟨looks, looked, onwards⟩ := ih made rest
      have steps : (sum.add report).instructions = sum.instructions + report.instructions := rfl
      refine ⟨report.instructions + 1 + looks, by omega, fun more => ?_⟩
      rw [Nat.add_right_comm, runFrames_succ_of_completed _ sum asked first interrupted, onwards,
        Option.map_map]
      simp only [Function.comp_def, Nat.sub_sub]

namespace Completes

variable {start next last : Console} {allowance : Option Nat} {sum summary : RunSummary}
  {frames looks : Nat} {report : FrameReport}

/-- At its start, a run that is not asked to stop has completed no frames. -/
theorem zero (unasked : allowance ≠ some 0) : Completes start allowance sum 0 0 sum start where
  made := rfl
  counted := rfl
  looked := rfl
  unasked := fun _ le => Nat.le_zero.mp le ▸ unasked

/-- One completed frame and then others. -/
theorem succ (unasked : allowance ≠ some 0)
    (frame : start.frame (allowance.map (· - 1)) = (.ok report, next))
    (completed : report.interrupted = false)
    (rest : Completes next (allowance.map (· - (report.instructions + 1))) (sum.add report)
      frames looks summary last) :
    Completes start allowance sum (frames + 1) (looks + (report.instructions + 1)) summary
      last where
  made := (runFrames_succ_of_completed frames sum unasked frame completed).trans rest.made
  counted := by
    rw [rest.counted, RunSummary.add, completed]
    simp only [Bool.false_eq_true, if_false]
    omega
  looked := by
    have looked := rest.looked
    simp only [RunSummary.add] at looked
    omega
  unasked := unasked_map_sub_iff.mp rest.unasked

/-- What a run does after some completed frames is what it does from there on, with the looks
that were made taken from what it is allowed and the sum that they have come to. -/
theorem runFrames_add (h : Completes start allowance sum frames looks summary last) (more : Nat) :
    start.runFrames (frames + more) allowance sum =
      last.runFrames more (allowance.map (· - looks)) summary := by
  obtain ⟨looks', looked, onwards⟩ := exists_looks h.made h.counted
  obtain rfl : looks' = looks := by
    have same := h.looked
    omega
  exact onwards more

end Completes

end Console

end GameBoy
