import GameBoy.Cpu.Execute

/-!
# `GameBoy.Cpu.Interrupt`: one step of the processor

Five sources can request an interrupt. A request is pending while its bit is set
in both the enable and the request register. A step of the processor is the
entry into an interrupt, an idle slot, or an instruction: pending interrupts end
a sleep, only the joypad ends a stop, and the lowest pending bit is entered if
interrupts are accepted.

A sleep ends whether or not interrupts are accepted. If they are not, the
processor goes on with the instruction where it stands, and the request stays. A
stopped processor heeds nothing while the joypad does not call. When it does call,
the interrupt that is entered is still the one with the highest priority, which
need not be the joypad's.

The two registers are ordinary addresses, and they are read at every step. The
request register is read a second time when an interrupt is entered, and is
written before the program counter is saved. So a stack that lies over it has the
last word.
-/

set_option autoImplicit false

namespace GameBoy

/-- The source of an interrupt, in order of priority. -/
inductive Interrupt where
  | vblank | lcd | timer | serial | joypad
deriving DecidableEq

namespace Interrupt

/-- Where the processor looks for the sources that are enabled. -/
def enableAddr : UInt16 := 0xFFFF

/-- Where the processor looks for the sources that request an interrupt. -/
def requestAddr : UInt16 := 0xFF0F

/-- Every source, highest priority first. -/
def all : List Interrupt := [vblank, lcd, timer, serial, joypad]

/-- The bit of a source in the enable and request registers. -/
def line : Interrupt → Nat
  | vblank => 0
  | lcd => 1
  | timer => 2
  | serial => 3
  | joypad => 4

/-- The byte in which only the bit of the source is set. -/
def mask (source : Interrupt) : UInt8 := 1 <<< UInt8.ofNat source.line

/-- The address at which the program handles the interrupt. -/
def vector (source : Interrupt) : UInt16 := 0x0040 + 8 * UInt16.ofNat source.line

/-- The bits of the five sources. -/
def sources : UInt8 := 0x1F

/-- The pending source with the highest priority. -/
def first? (pending : UInt8) : Option Interrupt :=
  all.find? fun source => pending &&& source.mask != 0

end Interrupt

namespace Cpu

open Transaction

/-- The sources that are both enabled and requested. -/
def pendingInterrupts : Transaction UInt8 := do
  let enabled ← load Interrupt.enableAddr
  let requested ← load Interrupt.requestAddr
  return enabled &&& requested &&& Interrupt.sources

/-- The pending interrupt that the processor takes notice of: the first one, or
none at all while it is stopped and the joypad's is not pending. -/
def heeds (cpu : Cpu) (pending : UInt8) : Option Interrupt :=
  if cpu.stopped && pending &&& Interrupt.joypad.mask == 0 then none
  else Interrupt.first? pending

/-- Ends a stop and a sleep, and reports what was ended. -/
def wake (cpu : Cpu) (pending : UInt8) : Transaction Cpu := do
  if cpu.stopped then
    notify (.stopReleased cpu.regs.pc)
  if cpu.halted then
    notify (.haltReleased cpu.regs.pc pending)
  return { cpu with stopped := false, halted := false }

/-- Enters an interrupt: acknowledges it, saves the program counter on the stack
and goes on at the source's vector. Further interrupts are refused, and an enable
that is on its way is called off. -/
def enter (cpu : Cpu) (source : Interrupt) : Transaction (Nat × Cpu) := do
  let requested ← load Interrupt.requestAddr
  store Interrupt.requestAddr (requested &&& ~~~source.mask)
  let returnTo := cpu.regs.pc
  let cpu ← cpu.disableInterrupts.pushWord returnTo
  notify (.interruptEntered source.line source.vector returnTo)
  return (5, (cpu.jump source.vector).spend 5)

/-- Fetches an opcode and runs it. -/
def fetchExecute (cpu : Cpu) : Transaction (Except Trap Nat × Cpu) := do
  let (opcode, cpu) ← cpu.fetchByte
  cpu.execute opcode

/-- One step: the entry into an interrupt, an idle slot of one cycle, or an
instruction. It ends with the cost, or with a trap. -/
def step (cpu : Cpu) : Transaction (Except Trap Nat × Cpu) := do
  let pending ← pendingInterrupts
  match cpu.heeds pending with
  | some source =>
    let cpu ← cpu.wake pending
    if cpu.ime then
      let (cost, cpu) ← cpu.enter source
      return (.ok cost, cpu)
    else
      cpu.fetchExecute
  | none =>
    if cpu.halted || cpu.stopped then
      return (.ok 1, cpu.spend 1)
    else
      cpu.fetchExecute

end Cpu

end GameBoy
