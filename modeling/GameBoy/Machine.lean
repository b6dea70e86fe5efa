import GameBoy.Cpu.Interrupt

/-!
# `GameBoy.Machine`: a processor connected to a memory

A machine is a processor, a memory and a journal. What the processor does is a
transaction, and `Machine.run` carries it out.

The kind of memory is a parameter. The console's machine is on the bus, a program
by itself may be on flat storage, and a run that is looked into is on a memory that
remembers its writes. What is proved of `Machine M` for every `M` holds of all
of these, and what they have in common is what the transaction says.

There are three ways to reach into a machine: a step, an opcode that was fetched
before, and a write from outside. A read from outside changes nothing. All that
acts on the memory goes through `Machine.run`, so that the journal is kept.
-/

set_option autoImplicit false

namespace GameBoy

/-- A processor with the memory it is connected to. -/
structure Machine (M : Type) where
  cpu : Cpu
  memory : M
  journal : Journal

namespace Machine

variable {M α : Type} [Memory M]

/-- Lets the processor carry out a transaction that ends in a new state. The parts of
the machine are taken out first, so that each has one owner while the transaction
runs. -/
@[specialize]
def run (machine : Machine M) (action : Cpu → Transaction (α × Cpu)) : α × Machine M :=
  let ⟨cpu, memory, journal⟩ := machine
  let ((result, cpu), memory, journal) := (action cpu).perform memory journal
  (result, ⟨cpu, memory, journal⟩)

/-- One step of the processor. -/
def step (machine : Machine M) : Except Trap Nat × Machine M := machine.run Cpu.step

/-- Runs an opcode that was fetched before. The program counter is taken to stand
behind it. -/
def execute (machine : Machine M) (opcode : UInt8) : Except Trap Nat × Machine M :=
  machine.run (·.execute opcode)

/-- Writes a byte to memory from outside the processor. -/
def write (machine : Machine M) (addr : UInt16) (value : UInt8) : Machine M :=
  (machine.run fun cpu => do
    Transaction.store addr value
    return ((), cpu)).2

/-- The byte at an address. -/
def read (machine : Machine M) (addr : UInt16) : UInt8 := Memory.read machine.memory addr

end Machine

end GameBoy
