import GameBoy.Machine
import GameBoy.Memory.Always

/-!
# `GameBoy.Cpu.Cost`: what a step can cost

A loop that steps until a budget is spent ends because no step is free. The loop
is defined by recursion on what is left of its budget, so this has to be known
before it is defined, and stands here and not with the other theorems.

It is a fact about transactions: each instruction is opened, and its result has a
cost in the range whatever bytes are read on the way (`Transaction.Always`). Beside
the cost it is said that an instruction leaves the counter alone, because counting
is done once, behind all of them. Main statement: whatever the memory holds, a step
that does not trap costs between one and six machine cycles
(`Machine.cost_of_step`).
-/

set_option autoImplicit false

namespace GameBoy

/-- The costs that occur. -/
def IsCost (cost : Nat) : Prop := 1 ≤ cost ∧ cost ≤ 6

instance (cost : Nat) : Decidable (IsCost cost) := inferInstanceAs (Decidable (_ ∧ _))

namespace Cpu

open Transaction

/-- An instruction of the extended page costs one to six cycles, whatever is read, and does
not count them itself. -/
theorem isCost_of_performBit (cpu : Cpu) (instruction : BitInstruction) :
    (cpu.performBit instruction).Always fun result =>
      IsCost result.1 ∧ result.2.cycles = cpu.cycles := by
  obtain ⟨action, operand⟩ := instruction
  cases operand <;> cases action <;>
    simp [performBit, readOperand, writeOperand, load, store, setFlags, Operand.cost, IsCost]

/-- An instruction costs one to six cycles, whatever is read, and does not count them
itself: that is done once it has ended. There is a case for each instruction, split by where its
operands are and by whether its condition holds, and in each the cost is a number. -/
theorem isCost_of_perform (cpu : Cpu) (instruction : Instruction) :
    (cpu.perform instruction).Always fun result =>
      IsCost result.1 ∧ result.2.cycles = cpu.cycles := by
  cases instruction with
  | extended =>
    simp only [perform, fetchByte, load, bind_eq, pure_eq, bind_read, bind_done, Always.read_iff]
    exact fun value => isCost_of_performBit (cpu.jump (cpu.regs.pc + 1)) _
  | inc operand | dec operand | loadByte operand =>
    cases operand <;>
      simp [perform, fetchByte, readOperand, writeOperand, load, store, setFlags, Cpu.jump,
        Operand.cost, IsCost]
  | load dst src =>
    cases dst <;> cases src <;>
      simp [perform, readOperand, writeOperand, load, store, Operand.cost, IsCost]
  | alu op src =>
    cases src <;>
      simp [perform, readOperand, load, combine, setFlags, setA, Operand.cost, IsCost]
  | jumpBy condition | jump condition =>
    simp only [perform, fetchByte, fetchWord, load, bind_eq, pure_eq, bind_read, bind_done,
      Always.read_iff]
    intros
    split <;> simp [Cpu.jump, IsCost]
  | call condition =>
    simp only [perform, fetchByte, fetchWord, pushWord, load, bind_eq, pure_eq, bind_read,
      bind_done, Always.read_iff]
    intros
    split <;> simp [store, Cpu.jump, IsCost]
  | retIf condition =>
    simp only [perform, popWord, load, bind_eq, pure_eq, bind_read, bind_done]
    split <;> simp [Cpu.jump, IsCost]
  | _ =>
    simp [perform, fetchByte, fetchWord, pushWord, popWord, load, store, notify, Cpu.jump,
      set16, setA, setFlags, combine, disableInterrupts, IsCost]

/-- The cost of a result that may be a trap. -/
def Costs (result : Except Trap Nat × Cpu) : Prop := ∀ cost, result.1 = .ok cost → IsCost cost

/-- An opcode that is no trap costs what its instruction costs. -/
theorem costs_of_execute (cpu : Cpu) (opcode : UInt8) : (cpu.execute opcode).Always Costs := by
  unfold execute
  split
  · next instruction _ =>
    refine Always.bind_iff.2 (Always.mono ?_ (isCost_of_perform cpu instruction))
    rintro ⟨cost, after⟩ ⟨bounds, -⟩ cost' ⟨⟩
    exact bounds
  · rintro cost ⟨⟩

/-- The same where the opcode is fetched first. -/
theorem costs_of_fetchExecute (cpu : Cpu) : cpu.fetchExecute.Always Costs :=
  fun _ => costs_of_execute _ _

/-- A step that does not trap costs one to six cycles, whatever is read. -/
theorem costs_of_step (cpu : Cpu) : cpu.step.Always Costs := by
  unfold step
  refine fun enabled requested => ?_
  simp only [bind_eq, pure_eq, bind_done]
  split
  · refine Always.bind_iff.2 (Always.of_forall (fun woken => ?_) _)
    split
    · rintro requested cost ⟨⟩
      simp [IsCost]
    · exact costs_of_fetchExecute woken
  · split
    · rintro cost ⟨⟩
      simp [IsCost]
    · exact costs_of_fetchExecute cpu

end Cpu

namespace Machine

variable {M : Type} [Memory M]

/-- On any memory, a step that does not trap costs one to six cycles. -/
theorem cost_of_step {machine after : Machine M} {cost : Nat}
    (h : machine.step = (.ok cost, after)) : IsCost cost := by
  have always := (Cpu.costs_of_step machine.cpu).perform machine.memory machine.journal
  exact always cost (congrArg Prod.fst h)

end Machine

end GameBoy
