import Mathlib.Algebra.Order.BigOperators.Group.Finset
import GameBoy.Cpu.Cost
import GameBoy.Proofs.Cpu.Turn

/-!
# `GameBoy.Proofs.Cpu.Trajectory`: step after step

`Machine.trajectory` is a machine after each number of steps. Whether its first steps
succeed and what they cost together is told by `Machine.Succeeds` and `Machine.spent`.
A step that traps is a step like any other: the trajectory goes on behind the opcode, with
nothing spent. Loops that stop at a trap, at a budget or when they are told are compared with
the trajectory and not with each other.

The cycle counter is written where the cost is given, by each kind of step for itself. That it
grows by just that cost is told once, for a step (`Machine.cycles_step`), and then summed.
Main statements:

* `Machine.cycles_step`: a step adds its cost to the cycle counter, and a trap nothing.
* `Machine.cycles_trajectory`: the cycle counter grows by what was spent.
* `Machine.Succeeds.le_spent`: as many cycles are spent as steps are made, or more.
-/

set_option autoImplicit false

namespace GameBoy

open Transaction

/-- What a step that ended with a result has cost. A trap costs nothing. -/
def costOf : Except Trap Nat → Nat
  | .ok cost => cost
  | .error _ => 0

namespace Cpu

/-! ### The cycle counter -/

/-- A pending enable that comes closer leaves the cycle counter alone. -/
theorem cycles_settleEnable (cpu : Cpu) : cpu.settleEnable.cycles = cpu.cycles := by
  unfold settleEnable
  split <;> rfl

/-- An opcode that is run adds its cost to the cycle counter. No instruction touches the counter
on its own (`isCost_of_perform`), and the cost is added at the end. -/
theorem cycles_execute (cpu : Cpu) (opcode : UInt8) :
    (cpu.execute opcode).Always fun result =>
      result.2.cycles = cpu.cycles + costOf result.1 := by
  unfold execute
  split
  · next instruction _ =>
    refine Always.bind_iff.2 (Always.mono ?_ (isCost_of_perform cpu instruction))
    rintro ⟨cost, after⟩ ⟨-, same⟩
    show after.settleEnable.cycles + cost = cpu.cycles + cost
    rw [cycles_settleEnable, same]
  · rfl

end Cpu

namespace Machine

variable {M : Type} [Memory M]

/-- What the next step costs. -/
def cost (machine : Machine M) : Nat := costOf machine.step.1

/-- A step adds its cost to the cycle counter, and a trap leaves it as it was. -/
theorem cycles_step (machine : Machine M) :
    machine.step.2.cpu.cycles = machine.cpu.cycles + machine.cost := by
  obtain ⟨outcome, cpu, -⟩ := machine.step_eq
  rw [cost, outcome, cpu]
  -- An entry and a slot of sleep count their own cycles; an instruction's are counted for it.
  cases turn : machine.turn with
  | entry source =>
    rw [seen_entry turn]
    rfl
  | idle =>
    rw [seen_idle turn]
    rfl
  | instruction opcode =>
    rw [seen_instruction turn, ← perform_fst _ _ machine.journal]
    exact (Cpu.cycles_execute _ opcode).perform machine.memory machine.journal

/-! ### Step after step -/

/-- The run of a machine that is left to itself. -/
def trajectory (start : Machine M) : Nat → Machine M
  | 0 => start
  | n + 1 => (start.trajectory n).step.2

/-- What every step keeps, any number of steps keeps. The induction that every invariant of a
machine left to itself goes through. -/
theorem trajectory_preserves {property : Machine M → Prop}
    (step : ∀ machine : Machine M, property machine → property machine.step.2)
    {start : Machine M} (h : property start) (count : Nat) :
    property (start.trajectory count) := by
  induction count with
  | zero => exact h
  | succ count ih => exact step _ ih

/-- Going on from where some steps have led is making more steps. -/
theorem trajectory_add (start : Machine M) (first more : Nat) :
    (start.trajectory first).trajectory more = start.trajectory (first + more) := by
  induction more with
  | zero => rfl
  | succ more ih => exact congrArg (fun machine : Machine M => machine.step.2) ih

/-- Whether the first steps of a machine all succeed. -/
def Succeeds (start : Machine M) (count : Nat) : Prop :=
  ∀ i < count, ∃ cost, (start.trajectory i).step.1 = .ok cost

/-- What the first steps of a machine cost together. -/
def spent (start : Machine M) (count : Nat) : Nat :=
  ∑ i ∈ Finset.range count, (start.trajectory i).cost

section

variable {start : Machine M} {count : Nat}

theorem spent_succ : start.spent (count + 1) = start.spent count + (start.trajectory count).cost :=
  Finset.sum_range_succ _ _

theorem spent_add (start : Machine M) (first more : Nat) :
    start.spent (first + more) = start.spent first + (start.trajectory first).spent more := by
  unfold spent
  rw [Finset.sum_range_add]
  simp only [trajectory_add]

/-- The cycle counter grows by what was spent. -/
theorem cycles_trajectory (start : Machine M) (count : Nat) :
    (start.trajectory count).cpu.cycles = start.cpu.cycles + start.spent count := by
  induction count with
  | zero => rfl
  | succ count ih => rw [trajectory, cycles_step, ih, spent_succ, Nat.add_assoc]

/-- More steps cost no less. -/
theorem spent_mono {fewer more : Nat} (le : fewer ≤ more) : start.spent fewer ≤ start.spent more :=
  Finset.sum_le_sum_of_subset (Finset.range_mono le)

namespace Succeeds

theorem zero : start.Succeeds 0 := fun _ lt => absurd lt (Nat.not_lt_zero _)

theorem mono {fewer more : Nat} (h : start.Succeeds more) (le : fewer ≤ more) :
    start.Succeeds fewer := fun i lt => h i (Nat.lt_of_lt_of_le lt le)

theorem succ {cost : Nat} (h : start.Succeeds count)
    (next : (start.trajectory count).step.1 = .ok cost) : start.Succeeds (count + 1) := by
  intro i lt
  rcases Nat.lt_succ_iff_lt_or_eq.mp lt with earlier | rfl
  · exact h i earlier
  · exact ⟨cost, next⟩

theorem add {more : Nat} (h : start.Succeeds count)
    (next : (start.trajectory count).Succeeds more) : start.Succeeds (count + more) := by
  intro i lt
  by_cases before : i < count
  · exact h i before
  · obtain ⟨later, rfl⟩ := Nat.exists_eq_add_of_le (Nat.le_of_not_lt before)
    rw [← trajectory_add]
    exact next later (Nat.lt_of_add_lt_add_left lt)

/-- Each of them costs one to six cycles. -/
theorem isCost (h : start.Succeeds count) {i : Nat} (lt : i < count) :
    IsCost (start.trajectory i).cost := by
  obtain ⟨cost, outcome⟩ := h i lt
  rw [Machine.cost, outcome]
  exact cost_of_step (Prod.ext outcome rfl)

/-- As many cycles are spent as steps are made, or more, since each costs one at least. This is
why a loop with a budget comes to its end. -/
theorem le_spent (h : start.Succeeds count) : count ≤ start.spent count := by
  induction count with
  | zero => exact Nat.zero_le _
  | succ count ih =>
    have before := ih (h.mono (Nat.le_succ count))
    have one := (h.isCost (Nat.lt_succ_self count)).1
    rw [spent_succ]
    omega

/-- Steps that succeed and a first step that traps are not the same steps: the trap comes after
them. -/
theorem le_of_trap {i : Nat} {trap : Trap} (h : start.Succeeds count)
    (traps : (start.trajectory i).step.1 = .error trap) : count ≤ i := by
  by_contra lt
  obtain ⟨cost, outcome⟩ := h i (Nat.lt_of_not_le lt)
  rw [outcome] at traps
  cases traps

end Succeeds

end

end Machine

end GameBoy
