import GameBoy.Proofs.Console.Lockstep
import GameBoy.Proofs.Cpu.StepKinds
import GameBoy.Proofs.Cpu.Trajectory

/-!
# `GameBoy.Proofs.Cpu.Calls`: steps and executes in any order

A processor is driven by steps and by opcodes that it is told to run, and the memory it is
connected to may be changed from outside between two of these. `Machine.fresh` is the machine
before the first call, and `session Machine.call` takes it through a sequence of calls. A change
from outside may put any memory of the same type in the place of the old one, and any journal:
stores, interrupt requests and cleared logs are among them, so what is proved of all changes is
proved of these.

`Machine.Runs` says that a machine runs a given opcode, whichever way it came to it. The two ways
differ: a step wakes the processor and moves the program counter first, an opcode that is told
does neither. For what the opcode does with registers and memory this makes no difference, and
statements about single instructions are made of `Runs` for that reason. Main statements:

* `Machine.calls_preserve`: what steps and opcodes keep of the processor, any sequence of calls
  keeps.
* `Machine.execute_told`: an opcode that is told does what the reference says, in full.
* `Machine.Runs.observed`: an opcode that is run does what `Cpu.execute` does with it, from the
  registers of the machine, the program counter apart.
-/

set_option autoImplicit false

namespace GameBoy

open Transaction

namespace Cpu

/-- Letting a pending enable come closer leaves the registers alone. -/
theorem regs_settleEnable (cpu : Cpu) : cpu.settleEnable.regs = cpu.regs := by
  unfold settleEnable
  split <;> rfl

end Cpu

namespace Machine

/-- What can be asked of a processor, and what can be done to its memory meanwhile. -/
inductive Call (M : Type) where
  | step
  /-- Runs an opcode that was fetched before. -/
  | execute (opcode : UInt8)
  /-- Changes the memory from outside, and what was logged of it. -/
  | change (memory : M) (journal : Journal)

variable {M : Type} [Memory M]

/-- The cost or the trap of a call, and the machine after it. A change from outside costs
nothing. -/
def call (machine : Machine M) : Call M → Except Trap Nat × Machine M
  | .step => machine.step
  | .execute opcode => machine.execute opcode
  | .change memory journal => (.ok 0, { machine with memory, journal })

/-- A machine whose processor is new. If it has a boot program to run, it starts at address
zero, else where that would have left it. -/
def fresh (booting : Bool) (memory : M) (journal : Journal) : Machine M where
  cpu := if booting then .preBoot else .postBoot
  memory := memory
  journal := journal

/-- What every step keeps of the processor, and every opcode that it runs, any sequence of
calls keeps. The property is of the processor alone, so changes from outside cannot break it;
and it has to survive traps, as a machine may be driven on after one. -/
theorem calls_preserve (property : Cpu → Prop)
    (step : ∀ machine : Machine M, property machine.cpu → property machine.step.2.cpu)
    (execute : ∀ (machine : Machine M) (opcode : UInt8), property machine.cpu →
      property (machine.execute opcode).2.cpu)
    {start : Machine M} (h : property start.cpu) (calls : List (Call M)) :
    property (session call start calls).2.cpu := by
  refine session_preserves (fun machine : Machine M => property machine.cpu) ?_ h
  rintro call - machine kept
  cases call with
  | step => exact step machine kept
  | execute opcode => exact execute machine opcode kept
  | change memory journal => exact kept

/-! ### One opcode -/

/-- The byte that an operand stands for. -/
def operand (machine : Machine M) : Operand → UInt8
  | .reg reg => machine.cpu.regs.get8 reg
  | .atHL => machine.read machine.cpu.regs.hl.word

/-- It is the byte that the reference reads. -/
theorem operand_eq (machine : Machine M) (operand : Operand) :
    machine.operand operand =
      Reference.get (Memory.read machine.memory) machine.cpu.view.file operand := by
  cases operand with
  | reg reg => exact machine.cpu.regs.get8_eq reg
  | atHL => exact congrArg machine.read (Pair.word_eq machine.cpu.regs.hl)

/-- What an opcode does when a machine is told to run it is what the reference says: the
outcome, the processor with its cycle counter, the writes in their order and the memory after
them. -/
theorem execute_told (machine : Machine M) (opcode : UInt8) :
    let expected := Reference.execute (Memory.read machine.memory) machine.cpu.view opcode
    (machine.execute opcode).1 = expected.1 ∧
      (machine.execute opcode).2.cpu.view = expected.2.1 ∧
      (machine.execute opcode).2.cpu.cycles = machine.cpu.cycles + costOf expected.1 ∧
      (machine.watched.execute opcode).2.witnessed = expected.2.2 ∧
      (machine.execute opcode).2.memory = Memory.writeAll machine.memory expected.2.2 := by
  intro expected
  obtain ⟨outcome, cpu, memory⟩ := machine.run_eq (·.execute opcode)
  have writes := machine.watched.witnessed_run (·.execute opcode)
  have cycles := (machine.cpu.cycles_execute opcode).perform machine.memory machine.journal
  have seen := Reference.observe_execute machine.cpu machine.memory opcode
  have first : (machine.execute opcode).1 = expected.1 := outcome.trans (congrArg Prod.fst seen)
  refine ⟨first, ?_, ?_, ?_, ?_⟩
  · exact (congrArg Cpu.view cpu).trans (congrArg (·.2.1) seen)
  · rw [← first]
    exact cycles
  · exact writes.trans (congrArg (·.2.2) seen)
  · exact memory.trans (congrArg (Memory.writeAll machine.memory ·.2.2) seen)

/-- An opcode that stands for an instruction leaves the registers as the instruction does. -/
theorem regs_execute {opcode : UInt8} {instruction : Instruction}
    (decoded : Opcode.decode opcode = some instruction) (machine : Machine M) :
    (machine.execute opcode).2.cpu.regs =
      ((machine.cpu.perform instruction).observe machine.memory).1.2.regs := by
  have cpu := (machine.run_eq (·.execute opcode)).2.1
  rw [Cpu.execute, decoded] at cpu
  simp only [bind_eq, pure_eq, observe_bind, observe_done] at cpu
  rw [Machine.execute, cpu]
  exact Cpu.regs_settleEnable _

/-- A machine runs an opcode, with these writes, and comes to another machine. It fetches the
opcode by a step, or is told it. -/
inductive Runs (machine : Machine M) (opcode : UInt8) :
    List (UInt16 × UInt8) → Machine M → Prop
  | fetched (turn : machine.turn = .instruction opcode) :
    Runs machine opcode machine.watched.step.2.witnessed machine.step.2
  | told :
    Runs machine opcode (machine.watched.execute opcode).2.witnessed (machine.execute opcode).2

/-- Either way the opcode does what it does from the registers of the machine, the program
counter apart. The processor that runs it is left open: if it was fetched, it is awake and the
program counter behind the opcode. -/
theorem Runs.observed {machine after : Machine M} {opcode : UInt8}
    {writes : List (UInt16 × UInt8)} (runs : machine.Runs opcode writes after) :
    ∃ cpu : Cpu, { cpu.regs with pc := machine.cpu.regs.pc } = machine.cpu.regs ∧
      after.cpu = ((cpu.execute opcode).observe machine.memory).1.2 ∧
      writes = ((cpu.execute opcode).observe machine.memory).2 := by
  cases runs with
  | fetched turn =>
    refine ⟨machine.cpu.awake.jump (machine.cpu.regs.pc + 1), rfl, ?_, ?_⟩
    · rw [← seen_instruction turn]
      exact machine.step_eq.2.1
    · rw [← seen_instruction turn]
      exact machine.witnessed_step
  | told =>
    refine ⟨machine.cpu, rfl, ?_, ?_⟩
    · exact (machine.run_eq (·.execute opcode)).2.1
    · exact machine.watched.witnessed_run (·.execute opcode)

/-- The writes are all that is done to the memory. -/
theorem Runs.memory_eq {machine after : Machine M} {opcode : UInt8}
    {writes : List (UInt16 × UInt8)} (runs : machine.Runs opcode writes after) :
    after.memory = Memory.writeAll machine.memory writes := by
  cases runs with
  | fetched turn =>
    rw [witnessed_step]
    exact machine.step_eq.2.2
  | told =>
    rw [Machine.execute, Machine.execute, witnessed_run]
    exact (machine.run_eq (·.execute opcode)).2.2

/-- An opcode that stands for an instruction does what the instruction does to the registers
and to the memory. -/
theorem Runs.performed {machine after : Machine M} {opcode : UInt8}
    {writes : List (UInt16 × UInt8)} {instruction : Instruction}
    (decoded : Opcode.decode opcode = some instruction)
    (runs : machine.Runs opcode writes after) :
    ∃ cpu : Cpu, { cpu.regs with pc := machine.cpu.regs.pc } = machine.cpu.regs ∧
      after.cpu.regs = ((cpu.perform instruction).observe machine.memory).1.2.regs ∧
      writes = ((cpu.perform instruction).observe machine.memory).2 := by
  obtain ⟨cpu, same, ended, wrote⟩ := runs.observed
  rw [Cpu.execute, decoded] at ended wrote
  simp only [bind_eq, pure_eq, observe_bind, observe_done, List.append_nil] at ended wrote
  refine ⟨cpu, same, ?_, wrote⟩
  rw [ended]
  exact Cpu.regs_settleEnable _

end Machine

end GameBoy
