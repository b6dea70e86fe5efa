import Mathlib.Data.ENat.Lattice
import GameBoy.Console.Frame
import GameBoy.Proofs.Cpu.Trajectory

/-!
# `GameBoy.Proofs.Console.FrameLoop`: how a frame ends

The frame loop has three exits: it is asked to stop, the budget is spent, or a step
traps. `FrameEnd` gives what each of them leaves, in terms of single steps, and
`FrameReaches` says that the loop has come past some number of steps and found no exit
before any of them. The second is the invariant of the loop, and one induction on its
recursion takes it to one of the exits.

The loop counts down what is left of the steps it is allowed and adds up cycles. The
theory has neither: the machine after `count` steps is `trajectory count`, what they
cost is `spent count`, and the request to stop is due when `count` is the number of
steps allowed. That the loop's numbers are those is part of the invariant.

How long a frame is can be said without the loop. It is the least number of steps that
all succeed and spend the budget (`frameLength`), a number in `ℕ∞`, as there is none if
a step traps before. The request to stop has its own place in `ℕ∞`, which is infinite if
it never comes (`stepLimit`). The frame then makes the smaller of the two numbers of
steps, and each exit of the loop settles which of them that is.

A budget is spent at the latest when as many steps were made as it has cycles, because
every step costs one at least. So the loop ends, whatever the program does. Main
statements:

* `Machine.frame_end`: every frame takes one of the exits, at the first step at which it
  can.
* `Console.frame_exact`: a frame makes the smaller of two numbers of steps, the one it is
  allowed and the least one that spends the budget.
-/

set_option autoImplicit false

namespace GameBoy

namespace Machine

variable {M : Type} [Memory M] {start : Machine M} {budget : Nat} {allowance : Option Nat}

/-! ### The loop -/

section

variable {machine : Machine M} {left : Option Nat} {cycles count : Nat}

/-- Short of the budget and of the request to stop, the loop makes a step and goes on. -/
theorem frame_go_of_ok {cost : Nat} (short : cycles < budget) (more : left ≠ some 0)
    (outcome : machine.step.1 = .ok cost) :
    frame.go budget machine left cycles count =
      frame.go budget machine.step.2 (left.map (· - 1)) (cycles + cost) (count + 1) := by
  rw [frame.go.eq_def, if_pos short, if_neg more]
  split
  · next step =>
    rw [step] at outcome
    cases outcome
    rw [step]
  · next step =>
    rw [step] at outcome
    cases outcome

/-- If that step traps, the loop ends with the trap. -/
theorem frame_go_of_trap {trap : Trap} (short : cycles < budget) (more : left ≠ some 0)
    (outcome : machine.step.1 = .error trap) :
    frame.go budget machine left cycles count = (.error trap, machine.step.2) := by
  rw [frame.go.eq_def, if_pos short, if_neg more]
  split
  · next step =>
    rw [step] at outcome
    cases outcome
  · next step =>
    rw [step] at outcome
    cases outcome
    rw [step]

end

/-- The loop comes to the test after `count` steps: none of them trapped, and there was
no exit before any of them. -/
structure FrameReaches (start : Machine M) (budget : Nat) (allowance : Option Nat)
    (count : Nat) : Prop where
  succeeds : start.Succeeds count
  short : ∀ i < count, start.spent i < budget
  undue : ∀ i < count, allowance ≠ some i

/-- The exits of the loop after `count` steps, and what each of them leaves. -/
inductive FrameEnd (start : Machine M) (budget : Nat) (allowance : Option Nat) (count : Nat) :
    Except Trap FrameReport × Machine M → Prop where
  /-- The request to stop has come. -/
  | stopped (short : start.spent count < budget) (due : allowance = some count) :
    FrameEnd start budget allowance count
      (.ok ⟨start.spent count, count, true⟩, start.trajectory count)
  /-- The budget is spent, and the request is not looked at any more. -/
  | finished (enough : budget ≤ start.spent count) :
    FrameEnd start budget allowance count
      (.ok ⟨start.spent count, count, false⟩, start.trajectory count)
  /-- The next step traps. -/
  | trapped {trap : Trap} (short : start.spent count < budget) (undue : allowance ≠ some count)
    (traps : (start.trajectory count).step.1 = .error trap) :
    FrameEnd start budget allowance count (.error trap, (start.trajectory count).step.2)

theorem FrameReaches.zero : FrameReaches start budget allowance 0 where
  succeeds := .zero
  short := fun _ lt => absurd lt (Nat.not_lt_zero _)
  undue := fun _ lt => absurd lt (Nat.not_lt_zero _)

/-- The loop goes on with a step that succeeds. -/
theorem FrameReaches.succ {count cost : Nat} (h : FrameReaches start budget allowance count)
    (short : start.spent count < budget) (undue : allowance ≠ some count)
    (next : (start.trajectory count).step.1 = .ok cost) :
    FrameReaches start budget allowance (count + 1) where
  succeeds := h.succeeds.succ next
  short := fun i lt => (Nat.lt_succ_iff_lt_or_eq.mp lt).elim (h.short i) fun same => same ▸ short
  undue := fun i lt => (Nat.lt_succ_iff_lt_or_eq.mp lt).elim (h.undue i) fun same => same ▸ undue

/-- What is left of an allowance is used up exactly when the request is due, if it was
not due before. The hypothesis is what the loop has looked at so far. Without it the count
may be beyond the allowance, and what is left is zero though the request is not due now. -/
theorem left_eq_zero_iff {count : Nat} (undue : ∀ i < count, allowance ≠ some i) :
    allowance.map (· - count) = some 0 ↔ allowance = some count := by
  cases allowance with
  | none => simp
  | some limit =>
    have reached : count ≤ limit := by
      by_contra lt
      exact undue limit (Nat.lt_of_not_le lt) rfl
    simp only [Option.map_some, Option.some.injEq]
    omega

/-- From wherever the loop is, it goes on to one of its exits. By induction on the
recursion of the loop, with where it is in single steps kept as hypotheses: the machine,
what is left of the allowance, the cycles so far, and that there was no exit before. -/
theorem frame_go_end (machine : Machine M) (left : Option Nat) (cycles count : Nat)
    (here : machine = start.trajectory count) (rest : left = allowance.map (· - count))
    (sum : cycles = start.spent count) (reached : FrameReaches start budget allowance count) :
    ∃ last, FrameReaches start budget allowance last ∧
      FrameEnd start budget allowance last (frame.go budget machine left cycles count) := by
  -- On the recursion of the loop. The four equations say where it is, and each step that
  -- succeeds carries them on to the next count.
  induction machine, left, cycles, count using frame.go.induct (M := M) budget with
  | case1 machine cycles count short =>
    subst here sum
    have due : allowance = some count := (left_eq_zero_iff reached.undue).mp rest.symm
    refine ⟨count, reached, ?_⟩
    rw [frame.go.eq_def, if_pos short, if_pos rfl]
    exact .stopped short due
  | case2 machine left cycles count short more cost after step ih =>
    subst here sum
    have outcome : (start.trajectory count).step.1 = .ok cost := by rw [step]
    obtain rfl : (start.trajectory count).step.2 = after := by rw [step]
    have undue : allowance ≠ some count := mt (left_eq_zero_iff reached.undue).mpr (rest ▸ more)
    have used : left.map (· - 1) = allowance.map (· - (count + 1)) := by
      simp only [rest, Option.map_map, Function.comp_def, Nat.sub_sub]
    have sum : start.spent count + cost = start.spent (count + 1) := by
      rw [spent_succ, Machine.cost, outcome]
      rfl
    rw [frame_go_of_ok short more outcome]
    exact ih rfl used sum (reached.succ short undue outcome)
  | case3 machine left cycles count short more trap after step =>
    subst here sum
    have outcome : (start.trajectory count).step.1 = .error trap := by rw [step]
    have undue : allowance ≠ some count := mt (left_eq_zero_iff reached.undue).mpr (rest ▸ more)
    refine ⟨count, reached, ?_⟩
    rw [frame_go_of_trap short more outcome]
    exact .trapped short undue outcome
  | case4 machine left cycles count enough =>
    subst here sum
    refine ⟨count, reached, ?_⟩
    rw [frame.go.eq_def, if_neg enough]
    exact .finished (Nat.le_of_not_lt enough)

/-- Every frame takes one of the exits, at the first step at which it can. At its start
no step was made, so nothing has to be known of the machine. -/
theorem frame_end (start : Machine M) (budget : Nat) (allowance : Option Nat) :
    ∃ last, FrameReaches start budget allowance last ∧
      FrameEnd start budget allowance last (start.frame budget allowance) := by
  refine frame_go_end start allowance 0 0 rfl ?_ rfl .zero
  cases allowance <;> rfl

/-- What every step keeps, a frame keeps, however it ends. A trap ends it behind one step
more than those that succeed. -/
theorem frame_preserves {property : Machine M → Prop}
    (step : ∀ machine : Machine M, property machine → property machine.step.2)
    {start : Machine M} (h : property start) (budget : Nat) (allowance : Option Nat) :
    property (start.frame budget allowance).2 := by
  obtain ⟨count, -, exit⟩ := start.frame_end budget allowance
  generalize start.frame budget allowance = outcome at exit ⊢
  cases exit with
  | stopped | finished => exact trajectory_preserves step h count
  | trapped => exact trajectory_preserves step h (count + 1)

/-! ### The length of a frame -/

/-- How many steps a request to stop leaves time for. -/
def stepLimit : Option Nat → ℕ∞
  | none => ⊤
  | some limit => limit

/-- The least number of steps that all succeed and spend the budget, infinite if there is
none. -/
noncomputable def frameLength (start : Machine M) (budget : Nat) : ℕ∞ :=
  sInf ((↑) '' {count : ℕ | start.Succeeds count ∧ budget ≤ start.spent count})

/-- Steps that all succeed and spend the budget are as many as the least such number, or
more. -/
theorem frameLength_le {count : Nat} (succeeds : start.Succeeds count)
    (enough : budget ≤ start.spent count) : start.frameLength budget ≤ count :=
  sInf_le ⟨count, ⟨succeeds, enough⟩, rfl⟩

/-- What every such number reaches, the least one does. -/
theorem le_frameLength {count : Nat}
    (h : ∀ n, start.Succeeds n → budget ≤ start.spent n → count ≤ n) :
    (count : ℕ∞) ≤ start.frameLength budget := by
  refine le_sInf ?_
  rintro _ ⟨n, ⟨succeeds, enough⟩, rfl⟩
  exact Nat.cast_le.mpr (h n succeeds enough)

/-- While the budget is not spent, the frame is longer. What was spent only grows, so fewer
steps cannot have spent it either. -/
theorem lt_frameLength {count : Nat} (short : start.spent count < budget) :
    (count : ℕ∞) < start.frameLength budget := by
  have next : ((count + 1 : ℕ) : ℕ∞) ≤ start.frameLength budget := by
    refine le_frameLength fun n _ enough => ?_
    by_contra fewer
    have le : start.spent n ≤ start.spent count := spent_mono (by omega)
    omega
  exact lt_of_lt_of_le (Nat.cast_lt.mpr (Nat.lt_succ_self count)) next

namespace FrameReaches

variable {count : Nat} (h : FrameReaches start budget allowance count)

include h

/-- The loop does not go past the request to stop. -/
theorem le_stepLimit : (count : ℕ∞) ≤ stepLimit allowance := by
  cases allowance with
  | none => exact le_top
  | some limit =>
    refine Nat.cast_le.mpr ?_
    by_contra past
    exact h.undue limit (Nat.lt_of_not_le past) rfl

/-- The loop does not go past the length of the frame. -/
theorem le_length : (count : ℕ∞) ≤ start.frameLength budget := by
  refine le_frameLength fun n _ enough => ?_
  by_contra fewer
  have short := h.short n (Nat.lt_of_not_le fewer)
  omega

/-- Before a request that is not due, the loop could go on. -/
theorem lt_stepLimit (undue : allowance ≠ some count) : (count : ℕ∞) < stepLimit allowance := by
  refine lt_of_le_of_ne h.le_stepLimit ?_
  cases allowance with
  | none => exact ENat.natCast_ne_top count
  | some limit => exact fun same => undue (congrArg some (Nat.cast_injective same).symm)

/-- The loop has made no more steps than the budget has cycles. -/
theorem le_budget : count ≤ budget := by
  cases count with
  | zero => exact Nat.zero_le _
  | succ count =>
    have short := h.short count (Nat.lt_succ_self count)
    have sum := (h.succeeds.mono (Nat.le_succ count)).le_spent
    omega

/-- The last step takes the loop past its budget by five cycles at most: the budget was not
spent before it, and it costs six at most. -/
theorem spent_le : start.spent count ≤ budget + 5 := by
  cases count with
  | zero => exact Nat.zero_le _
  | succ count =>
    have short := h.short count (Nat.lt_succ_self count)
    have most := (h.succeeds.isCost (Nat.lt_succ_self count)).2
    rw [spent_succ]
    omega

end FrameReaches

/-- A frame makes the steps it is allowed and needs, or ends with the first that traps. The
three exits of the loop are told apart by the two numbers. If it is asked to stop, the
request comes before the length; if it is finished, the length comes before the request or
with it; and a step that traps comes before both. -/
theorem frame_cases (start : Machine M) (budget : Nat) (allowance : Option Nat) :
    ∃ count ≤ budget, start.Succeeds count ∧
      ((count : ℕ∞) = min (stepLimit allowance) (start.frameLength budget) ∧
          start.frame budget allowance =
            (.ok ⟨start.spent count, count, stepLimit allowance < start.frameLength budget⟩,
              start.trajectory count) ∨
        count < budget ∧
          (count : ℕ∞) < min (stepLimit allowance) (start.frameLength budget) ∧
          ∃ trap, (start.trajectory count).step.1 = .error trap ∧
            start.frame budget allowance = (.error trap, (start.trajectory count).step.2)) := by
  obtain ⟨count, reached, exit⟩ := frame_end start budget allowance
  refine ⟨count, reached.le_budget, reached.succeeds, ?_⟩
  generalize start.frame budget allowance = outcome at exit ⊢
  -- Each exit settles which of the two numbers is the smaller one, or that both are still
  -- ahead.
  cases exit with
  | stopped short due =>
    have limit : stepLimit allowance = count := by rw [due]; rfl
    have longer := lt_frameLength short
    rw [limit, min_eq_left longer.le, decide_eq_true longer]
    exact .inl ⟨rfl, rfl⟩
  | finished enough =>
    have length : start.frameLength budget = count :=
      le_antisymm (frameLength_le reached.succeeds enough) reached.le_length
    have allowed := reached.le_stepLimit
    rw [length, min_eq_right allowed, decide_eq_false (not_lt_of_ge allowed)]
    exact .inl ⟨rfl, rfl⟩
  | @trapped trap short undue traps =>
    have before := lt_min (reached.lt_stepLimit undue) (lt_frameLength short)
    exact .inr ⟨Nat.lt_of_le_of_lt reached.succeeds.le_spent short, before, trap, traps, rfl⟩

/-- If none of the steps traps that a frame is allowed and needs, it makes exactly them. -/
theorem frame_eq_of_succeeds {count : Nat}
    (last : (count : ℕ∞) = min (stepLimit allowance) (start.frameLength budget))
    (succeeds : start.Succeeds count) :
    start.frame budget allowance =
      (.ok ⟨start.spent count, count, stepLimit allowance < start.frameLength budget⟩,
        start.trajectory count) := by
  obtain ⟨n, -, -, ⟨same, frame⟩ | ⟨-, before, trap, traps, -⟩⟩ :=
    frame_cases start budget allowance
  · obtain rfl : n = count := Nat.cast_injective (same.trans last.symm)
    exact frame
  · -- The trap comes too late to be one of the steps.
    rw [← last, Nat.cast_lt] at before
    exact absurd (succeeds.le_of_trap traps) (Nat.not_le_of_lt before)

/-- If one of the steps traps that a frame is allowed and needs, it ends with the trap. -/
theorem frame_eq_of_trap {count : Nat} {trap : Trap}
    (before : (count : ℕ∞) < min (stepLimit allowance) (start.frameLength budget))
    (succeeds : start.Succeeds count) (traps : (start.trajectory count).step.1 = .error trap) :
    start.frame budget allowance = (.error trap, (start.trajectory count).step.2) := by
  obtain ⟨n, -, made, ⟨same, -⟩ | ⟨-, -, trap', traps', frame⟩⟩ :=
    frame_cases start budget allowance
  · rw [← same, Nat.cast_lt] at before
    exact absurd (made.le_of_trap traps) (Nat.not_le_of_lt before)
  · -- Both are the first step that traps.
    obtain rfl : n = count := Nat.le_antisymm (made.le_of_trap traps) (succeeds.le_of_trap traps')
    rw [traps] at traps'
    cases traps'
    exact frame

end Machine

namespace Console

open Machine (stepLimit)

/-- A frame of a console is one of its machine, and changes nothing else. -/
theorem frame_eq {console : Console} {allowance : Option Nat} {result : Except Trap FrameReport}
    {after : Machine Bus}
    (h : console.machine.frame console.timing.budget allowance = (result, after)) :
    console.frame allowance = (result, { console with machine := after }) := by
  obtain ⟨machine, cartridge, boot, timing⟩ := console
  have inner : machine.frame timing.budget allowance = (result, after) := h
  simp only [frame, inner]

/-- The frame loop is exact. Let the frame's length be the least number of steps that all
succeed and spend the budget, and the limit the number of steps before the request to stop.
Either may be infinite.

1. If the steps up to the smaller of the two all succeed, the frame makes exactly these. It
   reports their cost and their number, and that it was interrupted if the limit is the
   smaller one. The machine is where that many single steps lead, its counter has grown by
   the cost, and the rest of the console is as it was.
2. If a step before that traps, the frame ends with the trap of the first one, in the state
   which that step left.
3. One of the two is the case, after no more steps than the budget has cycles. So the first
   two clauses leave no frame out, and every frame ends.
4. Without a request, a frame that does not trap spends its budget, exceeds it by five cycles
   at most and is not interrupted.

The clauses read `Machine.frame_cases` off for the console: it says how every frame ends, and
that there is only one number of steps of either kind turns it into the first two
(`Machine.frame_eq_of_succeeds`, `Machine.frame_eq_of_trap`). -/
theorem frame_exact (console : Console) (allowance : Option Nat) :
    let start := console.machine
    let budget := console.timing.budget
    let length := start.frameLength budget
    let limit := stepLimit allowance
    (∀ count : ℕ, (count : ℕ∞) = min limit length → start.Succeeds count →
      console.frame allowance =
          (.ok ⟨start.spent count, count, limit < length⟩,
            { console with machine := start.trajectory count }) ∧
        (start.trajectory count).cpu.cycles = start.cpu.cycles + start.spent count) ∧
    (∀ count : ℕ, (count : ℕ∞) < min limit length → start.Succeeds count →
      ∀ trap, (start.trajectory count).step.1 = .error trap →
        console.frame allowance =
          (.error trap, { console with machine := (start.trajectory count).step.2 })) ∧
    (∃ count ≤ budget, start.Succeeds count ∧
      ((count : ℕ∞) = min limit length ∨
        count < budget ∧ (count : ℕ∞) < min limit length ∧
          ∃ trap, (start.trajectory count).step.1 = .error trap)) ∧
    (∀ report after, console.frame none = (.ok report, after) →
      report.interrupted = false ∧ budget ≤ report.cycles ∧ report.cycles ≤ budget + 5) := by
  intro start budget length limit
  refine ⟨?_, ?_, ?_, ?_⟩
  · intro count last succeeds
    exact ⟨frame_eq (Machine.frame_eq_of_succeeds last succeeds),
      start.cycles_trajectory count⟩
  · intro count before succeeds trap traps
    exact frame_eq (Machine.frame_eq_of_trap before succeeds traps)
  · obtain ⟨count, le, succeeds, ⟨last, -⟩ | ⟨lt, before, trap, traps, -⟩⟩ :=
      start.frame_cases budget allowance
    · exact ⟨count, le, succeeds, .inl last⟩
    · exact ⟨count, le, succeeds, .inr ⟨lt, before, trap, traps⟩⟩
  · intro report after done
    obtain ⟨last, reached, exit⟩ := start.frame_end budget none
    generalize frame : start.frame budget none = outcome at exit
    cases exit with
    | stopped short due => cases due
    | finished enough =>
      rw [frame_eq frame] at done
      cases done
      exact ⟨rfl, enough, reached.spent_le⟩
    | trapped short undue traps =>
      rw [frame_eq frame] at done
      cases done

end Console

end GameBoy
