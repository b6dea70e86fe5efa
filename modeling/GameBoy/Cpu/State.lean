import GameBoy.Cpu.Registers

/-!
# `GameBoy.Cpu.State`: the processor between two instructions

Beside the registers, the processor knows whether it accepts interrupts, whether
an enable of interrupts is on its way, whether it sleeps, and how many machine
cycles it has spent. It owns no memory.

An enable takes effect after the instruction behind the one that asked for it. It
is a number that is counted down at the end of each instruction, that one
included, so it starts at two. Asking again while it is on its way starts it anew
at two.

Sleep and stop are two flags, and nothing in the type says that they exclude each
other. That they do is an invariant of what the processor can reach. The counter
of machine cycles is a natural number and does not wrap.
-/

set_option autoImplicit false

namespace GameBoy

/-- The state of the processor. -/
structure Cpu where
  regs : Registers
  /-- Whether interrupts are accepted. -/
  ime : Bool
  /-- How many more instructions end before a pending enable takes effect, zero
  if none is pending. -/
  enableDelay : Nat
  /-- Asleep until an interrupt is pending. -/
  halted : Bool
  /-- Stopped until the joypad interrupt is pending. -/
  stopped : Bool
  /-- The machine cycles spent so far. -/
  cycles : Nat
deriving DecidableEq

namespace Cpu

/-- The state in which the boot program hands over to the cartridge. -/
def postBoot : Cpu where
  regs := Registers.postBoot
  ime := false
  enableDelay := 0
  halted := false
  stopped := false
  cycles := 0

/-- The state in which the boot program itself is run: it starts at address 0. -/
def preBoot : Cpu := { postBoot with regs.pc := 0 }

/-- The raised flags. -/
def flags (cpu : Cpu) : Flags := cpu.regs.flags

/-- Makes exactly the given flags the raised ones. -/
def setFlags (cpu : Cpu) (flags : Flags) : Cpu := { cpu with regs := cpu.regs.setFlags flags }

/-- Writes the accumulator. -/
def setA (cpu : Cpu) (value : UInt8) : Cpu := { cpu with regs := cpu.regs.setA value }

/-- Writes a word register. -/
def set16 (cpu : Cpu) (reg : Reg16) (value : UInt16) : Cpu :=
  { cpu with regs := cpu.regs.set16 reg value }

/-- Goes on at another address. -/
def jump (cpu : Cpu) (target : UInt16) : Cpu := { cpu with regs.pc := target }

/-- Refuses interrupts, and calls off an enable that is on its way. -/
def disableInterrupts (cpu : Cpu) : Cpu := { cpu with ime := false, enableDelay := 0 }

/-- Lets a pending enable come one instruction closer, and take effect when its
time has come. This is done at the end of every instruction, and at no other time:
not in an idle cycle, and not when an interrupt is entered. -/
def settleEnable (cpu : Cpu) : Cpu :=
  match cpu.enableDelay with
  | 0 => cpu
  | 1 => { cpu with enableDelay := 0, ime := true }
  | delay + 2 => { cpu with enableDelay := delay + 1 }

/-- Adds to the machine cycles spent. -/
def spend (cpu : Cpu) (cost : Nat) : Cpu := { cpu with cycles := cpu.cycles + cost }

end Cpu

end GameBoy
