import GameBoy.Console.Pacing
import GameBoy.Proofs.Console.FrameLoop
import GameBoy.Proofs.Console.RunLoop

/-!
# `GameBoy.Proofs.Console.RunReport`: a run reports exactly what it ran

The single steps of a machine are cut into frames: each frame ends with the step that spends
its budget. `Machine.Frames` says that some steps make up some number of whole frames, and
`Machine.TrapsIn` that a step traps before the next one is whole. One of the two becomes of
every run that is not asked to stop.

Both are said of single steps from the start of the run, and not of the loop: a frame is the next
piece of one long trajectory. So the cost of a run is that of its steps, and the bounds on it are
those of one frame, as many times as there are frames. Pacing makes the run wait between frames
and leaves alone what it does, so it is put aside at the start (`Console.runPaced_fst`).

Main statements:

* `Machine.frames_or_trapsIn`: a machine makes any number of whole frames unless it traps in
  one of them.
* `Console.run_exact`: a run ends where its frames do and reports them, or ends with the trap
  and reports the whole frames before it.
-/

set_option autoImplicit false

namespace GameBoy

namespace Machine

variable {M : Type} [Memory M] {start : Machine M} {budget frames whole count length : Nat}
  {trap : Trap}

/-! ### One whole frame -/

/-- Steps that make up a whole frame: all of them succeed, and the last one spends the
budget. -/
structure IsFrame (start : Machine M) (budget length : Nat) : Prop where
  succeeds : start.Succeeds length
  short : ∀ i < length, start.spent i < budget
  enough : budget ≤ start.spent length

/-- A frame that is not interrupted makes a whole frame, or ends with the first trap. Of the
three exits of the loop, that of the request cannot be taken. -/
theorem frame_none_cases (start : Machine M) (budget : Nat) :
    (∃ length, start.IsFrame budget length ∧
      start.frame budget none =
        (.ok ⟨start.spent length, length, false⟩, start.trajectory length)) ∨
    (∃ count trap, start.Succeeds count ∧ start.spent count < budget ∧
      (start.trajectory count).step.1 = .error trap ∧
      start.frame budget none = (.error trap, (start.trajectory count).step.2)) := by
  obtain ⟨count, reached, exit⟩ := start.frame_end budget none
  generalize start.frame budget none = outcome at exit ⊢
  cases exit with
  | stopped short due => cases due
  | finished enough => exact .inl ⟨count, ⟨reached.succeeds, reached.short, enough⟩, rfl⟩
  | @trapped trap short undue traps =>
    exact .inr ⟨count, trap, reached.succeeds, short, traps, rfl⟩

/-- Where steps make up a whole frame, the frame loop makes exactly these. The loop makes a whole
frame or traps. A whole frame is determined by its start, and a trap within it would contradict
that its steps succeed. -/
theorem frame_of_isFrame (h : start.IsFrame budget length) :
    start.frame budget none =
      (.ok ⟨start.spent length, length, false⟩, start.trajectory length) := by
  rcases start.frame_none_cases budget with
    ⟨length', h', frame⟩ | ⟨count, trap, succeeds, short, traps, -⟩
  · -- Both are the first number of steps that spends the budget.
    have le : length ≤ length' := by
      by_contra lt
      exact absurd h'.enough (Nat.not_le_of_lt (h.short length' (Nat.lt_of_not_le lt)))
    have ge : length' ≤ length := by
      by_contra lt
      exact absurd h.enough (Nat.not_le_of_lt (h'.short length (Nat.lt_of_not_le lt)))
    rw [frame, Nat.le_antisymm le ge]
  · -- The trap would be one of the steps of the frame.
    have late := h.succeeds.le_of_trap traps
    have more := h.enough.trans (spent_mono late)
    omega

/-- Where a step traps before the budget is spent, the frame loop ends with the trap. -/
theorem frame_of_trap (succeeds : start.Succeeds count) (short : start.spent count < budget)
    (traps : (start.trajectory count).step.1 = .error trap) :
    start.frame budget none = (.error trap, (start.trajectory count).step.2) := by
  rcases start.frame_none_cases budget with
    ⟨length, h, -⟩ | ⟨count', trap', succeeds', -, traps', frame⟩
  · have late := h.succeeds.le_of_trap traps
    have more := h.enough.trans (spent_mono late)
    omega
  · obtain rfl : count' = count :=
      Nat.le_antisymm (succeeds'.le_of_trap traps) (succeeds.le_of_trap traps')
    rw [traps] at traps'
    cases traps'
    exact frame

/-- The last step of a whole frame takes it past its budget by five cycles at most. -/
theorem IsFrame.spent_le (h : start.IsFrame budget length) :
    start.spent length ≤ budget + 5 := by
  have reached : FrameReaches start budget none length := ⟨h.succeeds, h.short, nofun⟩
  exact reached.spent_le

/-! ### One frame after another -/

/-- The first `count` steps make up `frames` whole frames. -/
inductive Frames (start : Machine M) (budget : Nat) : (frames count : Nat) → Prop where
  | none : Frames start budget 0 0
  | next {frames count length : Nat} (before : Frames start budget frames count)
      (last : (start.trajectory count).IsFrame budget length) :
    Frames start budget (frames + 1) (count + length)

/-- Step number `count` is the first that traps. It is part of the frame after the first
`frames`, which take `whole` steps. -/
structure TrapsIn (start : Machine M) (budget frames whole count : Nat) (trap : Trap) : Prop where
  before : start.Frames budget frames whole
  later : whole ≤ count
  succeeds : start.Succeeds count
  short : start.spent count < start.spent whole + budget
  traps : (start.trajectory count).step.1 = .error trap

namespace Frames

theorem succeeds (h : start.Frames budget frames count) : start.Succeeds count := by
  induction h with
  | none => exact .zero
  | next before last ih => exact ih.add last.succeeds

/-- Every frame spends its budget, and five cycles more at most. -/
theorem spent_bounds (h : start.Frames budget frames count) :
    frames * budget ≤ start.spent count ∧ start.spent count ≤ frames * (budget + 5) := by
  induction h with
  | none =>
    rw [Nat.zero_mul, Nat.zero_mul]
    exact ⟨Nat.zero_le _, Nat.le_refl 0⟩
  | next before last ih =>
    have enough := last.enough
    have most := last.spent_le
    rw [spent_add, Nat.succ_mul, Nat.succ_mul]
    omega

end Frames

/-- A machine makes any number of whole frames, unless one of its steps traps before. The frame
in which it does is told, with where that frame starts. -/
theorem frames_or_trapsIn (start : Machine M) (budget limit : Nat) :
    (∃ count, start.Frames budget limit count) ∨
      ∃ frames < limit, ∃ whole count trap, start.TrapsIn budget frames whole count trap := by
  -- On the number of frames. A trap in an earlier one stays where it is; else the next frame
  -- starts where the ones before it end.
  induction limit with
  | zero => exact .inl ⟨0, .none⟩
  | succ limit ih =>
    rcases ih with ⟨whole, before⟩ | ⟨frames, lt, trapped⟩
    · rcases (start.trajectory whole).frame_none_cases budget with
        ⟨length, last, -⟩ | ⟨more, trap, succeeds, short, traps, -⟩
      · exact .inl ⟨whole + length, before.next last⟩
      · refine .inr ⟨limit, Nat.lt_succ_self limit, whole, whole + more, trap, before,
          Nat.le_add_right _ _, before.succeeds.add succeeds, ?_, ?_⟩
        · rw [spent_add]
          omega
        · rw [← trajectory_add]
          exact traps
    · exact .inr ⟨frames, Nat.lt_succ_of_lt lt, trapped⟩

end Machine

namespace Console

open Machine (Frames TrapsIn IsFrame)

variable {console : Console} {frames whole count length : Nat} {trap : Trap}

/-- A run that is not asked to stop goes past a whole frame. -/
theorem runFrames_succ_of_isFrame (more : Nat) (sum : RunSummary)
    (h : console.machine.IsFrame console.timing.budget length) :
    console.runFrames (more + 1) none sum =
      runFrames { console with machine := console.machine.trajectory length } more none
        ⟨sum.frames + 1, sum.cycles + console.machine.spent length, sum.instructions + length⟩ := by
  have unasked : (none : Option Nat) ≠ some 0 := nofun
  have frame : console.frame none = _ := frame_eq (Machine.frame_of_isFrame h)
  exact runFrames_succ_of_completed more sum unasked frame rfl

/-- A run goes past whole frames, and has counted them and what is in them. What it does then
starts from there, with that sum. -/
theorem runFrames_of_frames (h : console.machine.Frames console.timing.budget frames count)
    (more : Nat) :
    console.runFrames (frames + more) none .zero =
      runFrames { console with machine := console.machine.trajectory count } more none
        ⟨frames, console.machine.spent count, count⟩ := by
  -- On the frames. What comes after them is generalized: for the frames before the last, that
  -- is the last one too.
  induction h generalizing more with
  | none => rw [Nat.zero_add]; rfl
  | @next frames count length before last ih =>
    rw [Nat.add_right_comm, Nat.add_assoc, ih, runFrames_succ_of_isFrame more _ last,
      Machine.trajectory_add, Machine.spent_add]

/-- A run reports exactly what it ran, at any pace and with any clock.

1. If as many whole frames as it is limited to are there to be made, it makes them and reports
   their number, cycles and steps. The machine is where that many single steps lead, its counter
   has grown by the cycles, and these are the budget of each frame or at most five more.
2. If a step traps before, the run ends with the trap, in the state that step left, and reports
   the whole frames before it with their cycles and steps. What the counter has grown beyond
   these is less than a budget: the frame that traps is not reported.
3. One of the two is the case.
4. A run that is asked to stop before it starts does nothing.
5. Nor does one that is limited to no frames.

In the first two clauses the loop goes past the whole frames (`runFrames_of_frames`); what is left
is no frame, or one that traps (`Machine.frame_of_trap`). -/
theorem run_exact (console : Console) (limit : Nat) (pacing : Option Nat) (clock : Nat → Nat) :
    let start := console.machine
    let budget := console.timing.budget
    let run (running : Bool) := (console.runPaced (some limit) running pacing clock).1
    (∀ count, start.Frames budget limit count →
      run true =
          (⟨limit, start.spent count, count⟩, none,
            { console with machine := start.trajectory count }) ∧
        start.Succeeds count ∧
        (start.trajectory count).cpu.cycles = start.cpu.cycles + start.spent count ∧
        limit * budget ≤ start.spent count ∧ start.spent count ≤ limit * (budget + 5)) ∧
    (∀ frames < limit, ∀ whole count trap, start.TrapsIn budget frames whole count trap →
      run true =
          (⟨frames, start.spent whole, whole⟩, some trap,
            { console with machine := (start.trajectory count).step.2 }) ∧
        ∃ partly < budget, (start.trajectory count).step.2.cpu.cycles =
          start.cpu.cycles + start.spent whole + partly) ∧
    ((∃ count, start.Frames budget limit count) ∨
      ∃ frames < limit, ∃ whole count trap, start.TrapsIn budget frames whole count trap) ∧
    run false = (.zero, none, console) ∧
    (limit = 0 → ∀ running, run running = (.zero, none, console)) := by
  intro start budget run
  have paced (running : Bool) : run running = console.run (some limit) running :=
    console.runPaced_fst (some limit) running pacing clock
  refine ⟨?_, ?_, start.frames_or_trapsIn budget limit, ?_, ?_⟩
  · intro count made
    refine ⟨?_, made.succeeds, start.cycles_trajectory count, made.spent_bounds⟩
    rw [paced]
    exact runFrames_of_frames made 0
  · intro frames lt whole count trap trapped
    obtain ⟨partly, rfl⟩ := Nat.exists_eq_add_of_le trapped.later
    have traps := trapped.traps
    have succeeds : (start.trajectory whole).Succeeds partly := fun i before => by
      rw [Machine.trajectory_add]
      exact trapped.succeeds (whole + i) (Nat.add_lt_add_left before whole)
    have short := trapped.short
    rw [Machine.spent_add, Nat.add_lt_add_iff_left] at short
    rw [← Machine.trajectory_add] at traps ⊢
    constructor
    · obtain ⟨more, rfl⟩ := Nat.exists_eq_add_of_lt lt
      rw [paced]
      show console.runFrames (frames + more + 1) none .zero = _
      rw [Nat.add_assoc, runFrames_of_frames trapped.before]
      have unasked : (none : Option Nat) ≠ some 0 := nofun
      have frame : Console.frame { console with machine := start.trajectory whole } none = _ :=
        frame_eq (Machine.frame_of_trap succeeds short traps)
      exact runFrames_succ_of_trap more _ unasked frame
    · refine ⟨(start.trajectory whole).spent partly, short, ?_⟩
      rw [Machine.cycles_step, Machine.cost, traps, Machine.cycles_trajectory,
        Machine.cycles_trajectory]
      rfl
  · rw [paced]
    exact runFrames_of_asked limit .zero rfl
  · rintro rfl running
    rw [paced]
    rfl

end Console

end GameBoy
