import GameBoy.Cpu.State
import GameBoy.Cpu.Opcode
import GameBoy.Memory.Transaction

/-!
# `GameBoy.Cpu.Execute`: one instruction

`Cpu.perform` carries out an instruction as a transaction with the memory. It
ends with the cost in machine cycles and the state after it. `Cpu.execute` does
so for an opcode, and then counts the cost and lets a pending enable of
interrupts come closer. An opcode that stands for no instruction is a trap:
nothing is counted, and the state stays as the fetch left it.

The order of reads and writes is part of what is said. A push stores the upper
byte first, and a stack pointer is stored with its lower byte first. An operand in
memory that is changed is read once and written once. Addresses wrap around at the
end of memory wherever one is added to or taken away.

What several instructions do in the same way is one function: fetching a byte or a
word behind the opcode, the stack, an operand that may be in memory, and an
operation on the accumulator. A cost that depends on the operand is told by two
figures, and one that depends on whether a jump is taken by its branch.
-/

set_option autoImplicit false

namespace GameBoy

/-- The byte fetched from `pc` stands for no instruction. -/
structure Trap where
  opcode : UInt8
  pc : UInt16
deriving DecidableEq

/-- The trap in words. -/
def Trap.message (trap : Trap) : String :=
  "illegal opcode 0x" ++ Hex.byte trap.opcode ++ " at 0x" ++ Hex.word trap.pc

/-- The address a pointer holds, and the registers once it has stepped. -/
def Pointer.use (pointer : Pointer) (regs : Registers) : UInt16 × Registers :=
  match pointer with
  | .bc => (regs.bc.word, regs)
  | .de => (regs.de.word, regs)
  | .hlUp => (regs.hl.word, regs.set16 .hl (regs.hl.word + 1))
  | .hlDown => (regs.hl.word, regs.set16 .hl (regs.hl.word - 1))

/-- Whether a jump, call or return under an optional condition is taken. -/
def Condition.taken (condition : Option Condition) (flags : Flags) : Bool :=
  condition.all (·.holds flags)

namespace Cpu

open Transaction

/-! ### Bytes in passing -/

/-- Reads the byte at the program counter and steps over it. -/
def fetchByte (cpu : Cpu) : Transaction (UInt8 × Cpu) := do
  let byte ← load cpu.regs.pc
  return (byte, cpu.jump (cpu.regs.pc + 1))

/-- Fetches a word, lower byte first. -/
def fetchWord (cpu : Cpu) : Transaction (UInt16 × Cpu) := do
  let (low, cpu) ← cpu.fetchByte
  let (high, cpu) ← cpu.fetchByte
  return (joinBytes high low, cpu)

/-- Puts a word on the stack, upper byte first, below the stack pointer. The stack
grows downwards, so the lower byte comes to lie at the lower address. -/
def pushWord (cpu : Cpu) (value : UInt16) : Transaction Cpu := do
  store (cpu.regs.sp - 1) (highByte value)
  store (cpu.regs.sp - 2) (lowByte value)
  return { cpu with regs.sp := cpu.regs.sp - 2 }

/-- Takes a word off the stack. -/
def popWord (cpu : Cpu) : Transaction (UInt16 × Cpu) := do
  let low ← load cpu.regs.sp
  let high ← load (cpu.regs.sp + 1)
  return (joinBytes high low, { cpu with regs.sp := cpu.regs.sp + 2 })

/-- The value of a byte operand. -/
def readOperand (cpu : Cpu) : Operand → Transaction UInt8
  | .reg reg => return cpu.regs.get8 reg
  | .atHL => load cpu.regs.hl.word

/-- Writes a byte operand. -/
def writeOperand (cpu : Cpu) (operand : Operand) (value : UInt8) : Transaction Cpu :=
  match operand with
  | .reg reg => return { cpu with regs := cpu.regs.set8 reg value }
  | .atHL => do
    store cpu.regs.hl.word value
    return cpu

/-! ### Instructions -/

/-- Combines the accumulator with a value. The flags are written before the result,
which makes no difference, as they are different halves of a pair. -/
def combine (cpu : Cpu) (op : AluOp) (value : UInt8) : Cpu :=
  let (result, flags) := op.apply cpu.regs.a value cpu.flags
  (cpu.setFlags flags).setA result

/-- Carries out an instruction of the extended page. -/
def performBit (cpu : Cpu) (instruction : BitInstruction) : Transaction (Nat × Cpu) := do
  let value ← cpu.readOperand instruction.operand
  match instruction.action with
  | .shift shift =>
    let (result, flags) := shift.apply value cpu.flags.carry
    let cpu ← (cpu.setFlags flags).writeOperand instruction.operand result
    return (instruction.operand.cost 2 4, cpu)
  | .test bit =>
    return (instruction.operand.cost 2 3, cpu.setFlags (testBit bit value cpu.flags))
  | .reset bit =>
    let cpu ← cpu.writeOperand instruction.operand (value &&& ~~~bitMask bit)
    return (instruction.operand.cost 2 4, cpu)
  | .set bit =>
    let cpu ← cpu.writeOperand instruction.operand (value ||| bitMask bit)
    return (instruction.operand.cost 2 4, cpu)

/-- Carries out an instruction, its opcode already fetched. -/
def perform (cpu : Cpu) (instruction : Instruction) : Transaction (Nat × Cpu) := do
  match instruction with
  | .nop => return (1, cpu)
  | .loadWord dst =>
    let (value, cpu) ← cpu.fetchWord
    return (3, cpu.set16 dst value)
  | .storeVia pointer =>
    let (addr, regs) := pointer.use cpu.regs
    store addr regs.a
    return (2, { cpu with regs })
  | .loadVia pointer =>
    let (addr, regs) := pointer.use cpu.regs
    let value ← load addr
    return (2, { cpu with regs := regs.setA value })
  | .incWord reg => return (2, cpu.set16 reg (cpu.regs.get16 reg + 1))
  | .decWord reg => return (2, cpu.set16 reg (cpu.regs.get16 reg - 1))
  | .inc operand =>
    let value ← cpu.readOperand operand
    let (result, flags) := increment value cpu.flags
    let cpu ← (cpu.setFlags flags).writeOperand operand result
    return (operand.cost 1 3, cpu)
  | .dec operand =>
    let value ← cpu.readOperand operand
    let (result, flags) := decrement value cpu.flags
    let cpu ← (cpu.setFlags flags).writeOperand operand result
    return (operand.cost 1 3, cpu)
  | .loadByte dst =>
    let (value, cpu) ← cpu.fetchByte
    let cpu ← cpu.writeOperand dst value
    return (dst.cost 2 3, cpu)
  | .rotateA shift =>
    let (result, flags) := shift.apply cpu.regs.a cpu.flags.carry
    return (1, (cpu.setFlags { flags with zero := false }).setA result)
  | .storeSP =>
    let (addr, cpu) ← cpu.fetchWord
    store addr (lowByte cpu.regs.sp)
    store (addr + 1) (highByte cpu.regs.sp)
    return (5, cpu)
  | .addHL src =>
    let (result, flags) := addWords cpu.regs.hl.word (cpu.regs.get16 src) cpu.flags
    return (2, (cpu.setFlags flags).set16 .hl result)
  | .stop =>
    let (padding, cpu) ← cpu.fetchByte
    notify (.stopped (cpu.regs.pc - 2) padding)
    return (1, { cpu with stopped := true })
  | .jumpBy condition =>
    let (offset, cpu) ← cpu.fetchByte
    if Condition.taken condition cpu.flags then
      return (3, cpu.jump (cpu.regs.pc + signExtend offset))
    else
      return (2, cpu)
  | .daa =>
    let (result, flags) := decimalAdjust cpu.regs.a cpu.flags
    return (1, (cpu.setFlags flags).setA result)
  | .cpl =>
    let flags := { cpu.flags with subtract := true, halfCarry := true }
    return (1, (cpu.setFlags flags).setA (~~~cpu.regs.a))
  | .scf =>
    return (1, cpu.setFlags { Flags.none with zero := cpu.flags.zero, carry := true })
  | .ccf =>
    return (1, cpu.setFlags { Flags.none with zero := cpu.flags.zero, carry := !cpu.flags.carry })
  | .load dst src =>
    let value ← cpu.readOperand src
    let cpu ← cpu.writeOperand dst value
    return (dst.cost (src.cost 1 2) 2, cpu)
  | .halt =>
    notify (.halted (cpu.regs.pc - 1))
    return (1, { cpu with halted := true })
  | .alu op src =>
    let value ← cpu.readOperand src
    return (src.cost 1 2, cpu.combine op value)
  | .aluByte op =>
    let (value, cpu) ← cpu.fetchByte
    return (2, cpu.combine op value)
  | .ret =>
    let (target, cpu) ← cpu.popWord
    return (4, cpu.jump target)
  | .retIf condition =>
    if condition.holds cpu.flags then
      let (target, cpu) ← cpu.popWord
      return (5, cpu.jump target)
    else
      return (2, cpu)
  | .reti =>
    let (target, cpu) ← cpu.popWord
    return (4, { cpu.jump target with ime := true })
  | .pop dst =>
    let (value, cpu) ← cpu.popWord
    return (3, cpu.set16 dst value)
  | .push src =>
    let cpu ← cpu.pushWord (cpu.regs.get16 src)
    return (4, cpu)
  | .jump condition =>
    let (target, cpu) ← cpu.fetchWord
    if Condition.taken condition cpu.flags then
      return (4, cpu.jump target)
    else
      return (3, cpu)
  | .jumpHL => return (1, cpu.jump cpu.regs.hl.word)
  | .call condition =>
    let (target, cpu) ← cpu.fetchWord
    if Condition.taken condition cpu.flags then
      let cpu ← cpu.pushWord cpu.regs.pc
      return (6, cpu.jump target)
    else
      return (3, cpu)
  | .rst target =>
    let cpu ← cpu.pushWord cpu.regs.pc
    return (4, cpu.jump target.toUInt16)
  | .extended =>
    let (byte, cpu) ← cpu.fetchByte
    cpu.performBit (BitInstruction.decode byte)
  | .storeHigh =>
    let (offset, cpu) ← cpu.fetchByte
    store (joinBytes 0xFF offset) cpu.regs.a
    return (3, cpu)
  | .loadHigh =>
    let (offset, cpu) ← cpu.fetchByte
    let value ← load (joinBytes 0xFF offset)
    return (3, cpu.setA value)
  | .storeHighC =>
    store (joinBytes 0xFF (cpu.regs.get8 .c)) cpu.regs.a
    return (2, cpu)
  | .loadHighC =>
    let value ← load (joinBytes 0xFF (cpu.regs.get8 .c))
    return (2, cpu.setA value)
  | .storeAt =>
    let (addr, cpu) ← cpu.fetchWord
    store addr cpu.regs.a
    return (4, cpu)
  | .loadAt =>
    let (addr, cpu) ← cpu.fetchWord
    let value ← load addr
    return (4, cpu.setA value)
  | .addSP =>
    let (offset, cpu) ← cpu.fetchByte
    let (result, flags) := offsetStack cpu.regs.sp offset
    return (4, (cpu.setFlags flags).set16 .sp result)
  | .loadHLSP =>
    let (offset, cpu) ← cpu.fetchByte
    let (result, flags) := offsetStack cpu.regs.sp offset
    return (3, (cpu.setFlags flags).set16 .hl result)
  | .loadSPHL => return (2, cpu.set16 .sp cpu.regs.hl.word)
  | .di => return (1, cpu.disableInterrupts)
  | .ei => return (1, { cpu with enableDelay := 2 })

/-- Runs an opcode that was fetched from just before the program counter. The enable
is settled after the instruction, so one that was asked for by the instruction
itself is already one closer when it ends. -/
def execute (cpu : Cpu) (opcode : UInt8) : Transaction (Except Trap Nat × Cpu) := do
  match Opcode.decode opcode with
  | some instruction =>
    let (cost, cpu) ← cpu.perform instruction
    return (.ok cost, cpu.settleEnable.spend cost)
  | none =>
    let pc := cpu.regs.pc - 1
    notify (.illegalOpcode opcode pc)
    return (.error ⟨opcode, pc⟩, cpu)

end Cpu

end GameBoy
