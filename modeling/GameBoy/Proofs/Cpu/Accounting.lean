import GameBoy.Proofs.Cpu.Calls

/-!
# `GameBoy.Proofs.Cpu.Accounting`: the cycle counter keeps exact accounts

The counter is written in one place for instructions, in another for entries and in a third for
idle slots, and a trap passes by all of them. Whichever way a call goes, the counter grows by what
the call answers.

A caller that adds up the answers and one that reads the counter must come to the same figure.
That the two agree for one call is a case analysis over the calls (`Machine.cycles_call`), and for
a sequence an induction. The bounds, one to six, come from a law about all instructions
(`IsCost`), under whatever they read; the five of an entry and the one of an idle slot lie within
them. Main statements:

* `Machine.cycles_execute`, `Machine.isCost_of_execute`: what an opcode that is told adds to the
  counter, and its bounds. For steps these are `Machine.cycles_step` and `Machine.cost_of_step`.
* `Machine.cycles_calls`: any sequence of calls adds what its answers come to.
* `Machine.cycles_accounted`: the accounts of one call and of all.
-/

set_option autoImplicit false

namespace GameBoy

namespace Machine

variable {M : Type} [Memory M]

/-! ### One call -/

/-- An opcode that is told adds its cost to the cycle counter, and a trap leaves it as it was. -/
theorem cycles_execute (machine : Machine M) (opcode : UInt8) :
    (machine.execute opcode).2.cpu.cycles =
      machine.cpu.cycles + costOf (machine.execute opcode).1 :=
  (machine.cpu.cycles_execute opcode).perform machine.memory machine.journal

/-- On any memory, an opcode that does not trap costs one to six cycles. -/
theorem isCost_of_execute {machine : Machine M} {opcode : UInt8} {cost : Nat}
    (h : (machine.execute opcode).1 = .ok cost) : IsCost cost :=
  (machine.cpu.costs_of_execute opcode).perform machine.memory machine.journal cost h

/-- Whether a call asks the processor to do something. -/
def Call.Asks : Call M → Prop
  | .step | .execute _ => True
  | .change .. => False

/-- A call adds what it answers to the cycle counter. -/
theorem cycles_call (machine : Machine M) (next : Call M) :
    (machine.call next).2.cpu.cycles = machine.cpu.cycles + costOf (machine.call next).1 := by
  cases next with
  | step => exact machine.cycles_step
  | execute opcode => exact machine.cycles_execute opcode
  | change memory journal => rfl

/-- What a call to the processor answers, if it does not trap, is one to six. -/
theorem isCost_of_call {machine : Machine M} {next : Call M} (asks : next.Asks) {cost : Nat}
    (h : (machine.call next).1 = .ok cost) : IsCost cost := by
  cases next with
  | step => exact cost_of_step (Prod.ext h rfl)
  | execute opcode => exact isCost_of_execute h
  | change memory journal => cases asks

/-! ### All calls -/

/-- Any sequence of calls adds to the cycle counter what its answers come to. -/
theorem cycles_calls (start : Machine M) (calls : List (Call M)) :
    (session call start calls).2.cpu.cycles =
      start.cpu.cycles + ((session call start calls).1.map costOf).sum := by
  induction calls generalizing start with
  | nil => rfl
  | cons first rest ih =>
    show (session call (start.call first).2 rest).2.cpu.cycles = _
    rw [ih, cycles_call, Nat.add_assoc]
    rfl

/-- The cycle counter keeps exact accounts, whatever the processor is connected to and whatever
is done to its memory meanwhile. Take the machine that any sequence of calls has led to.

1. A step and an opcode that is told add to the counter what they answer, which is one to six, or
   they trap and leave it as it was.
2. The counter stands at its first value and all answers together. Traps and changes from outside
   are among the calls, and count for nothing.
3. It never goes back, whatever calls come after.

The first is said of the next call, so it holds of every call of every sequence. -/
theorem cycles_accounted (start : Machine M) (calls : List (Call M)) :
    let (answers, machine) := session call start calls
    (∀ next : Call M, next.Asks →
      match machine.call next with
      | (.ok cost, after) =>
        after.cpu.cycles = machine.cpu.cycles + cost ∧ 1 ≤ cost ∧ cost ≤ 6
      | (.error _, after) => after.cpu.cycles = machine.cpu.cycles) ∧
    machine.cpu.cycles = start.cpu.cycles + (answers.map costOf).sum ∧
    ∀ more, machine.cpu.cycles ≤ (session call start (calls ++ more)).2.cpu.cycles := by
  show (∀ next : Call M, next.Asks → _) ∧ _
  refine ⟨?_, cycles_calls start calls, ?_⟩
  · intro next asks
    have added := cycles_call (session call start calls).2 next
    cases outcome : ((session call start calls).2.call next).1 with
    | ok cost =>
      rw [outcome] at added
      rw [show (session call start calls).2.call next = (.ok cost, _) from Prod.ext outcome rfl]
      exact ⟨added, isCost_of_call asks outcome⟩
    | error trap =>
      rw [outcome] at added
      rw [show (session call start calls).2.call next = (.error trap, _) from Prod.ext outcome rfl]
      exact added
  · intro more
    have later := cycles_calls (session call start calls).2 more
    rw [session_append]
    show _ ≤ (session call (session call start calls).2 more).2.cpu.cycles
    rw [later]
    exact Nat.le_add_right _ _

end Machine

end GameBoy
