import GameBoy.Cpu.Registers
import GameBoy.Cpu.Arithmetic

/-!
# `GameBoy.Cpu.Instruction`: what an opcode asks for

`Instruction` lists the forms of the base instruction set with their operands,
and `BitInstruction` those of the extended page, which follow the byte 0xCB.
The extended page is regular: `BitInstruction.decode` reads the group in the
upper two bits, a selector in the middle three and the operand in the lower
three. Which opcode stands for which base instruction is `Opcode.chart`.

Instructions that differ only in an operand, a condition or an operation are one
constructor with a parameter, so what is proved of instructions has one case for
each form and not one for each opcode. Bytes that follow the opcode are no
parameters. They are read from memory when the instruction is carried out, so an
instruction is known from its opcode alone.
-/

set_option autoImplicit false

namespace GameBoy

/-- A byte operand: a register, or the memory cell HL points to. -/
inductive Operand where
  | reg (reg : Reg8)
  | atHL
deriving DecidableEq

/-- The cost of using an operand: one figure for registers, one for memory. -/
def Operand.cost (operand : Operand) (register memory : Nat) : Nat :=
  match operand with
  | .reg _ => register
  | .atHL => memory

/-- When a conditional jump, call or return is taken. -/
inductive Condition where
  | notZero | zero | notCarry | carry
deriving DecidableEq

/-- Whether the condition holds under the given flags. -/
def Condition.holds (condition : Condition) (flags : Flags) : Bool :=
  match condition with
  | .notZero => !flags.zero
  | .zero => flags.zero
  | .notCarry => !flags.carry
  | .carry => flags.carry

/-- The pointers through which the accumulator is loaded and stored. The last
two step HL up or down after use. -/
inductive Pointer where
  | bc | de | hlUp | hlDown
deriving DecidableEq

/-- The base instruction set. A jump or call without a condition is always
taken. -/
inductive Instruction where
  /-- Do nothing. -/
  | nop
  /-- Load a word register with the next two bytes. -/
  | loadWord (dst : Reg16)
  /-- Store the accumulator through a pointer. -/
  | storeVia (pointer : Pointer)
  /-- Load the accumulator through a pointer. -/
  | loadVia (pointer : Pointer)
  /-- Count a word register up. -/
  | incWord (reg : Reg16)
  /-- Count a word register down. -/
  | decWord (reg : Reg16)
  /-- Count a byte operand up. -/
  | inc (operand : Operand)
  /-- Count a byte operand down. -/
  | dec (operand : Operand)
  /-- Load a byte operand with the next byte. -/
  | loadByte (dst : Operand)
  /-- Rotate the accumulator; the zero flag is always cleared. -/
  | rotateA (shift : Shift)
  /-- Store the stack pointer at the address in the next two bytes. -/
  | storeSP
  /-- Add a word register to HL. -/
  | addHL (src : Reg16)
  /-- Skip the next byte and sleep until the joypad wakes the machine. -/
  | stop
  /-- Jump by the signed next byte. -/
  | jumpBy (condition : Option Condition)
  /-- Correct the accumulator to packed decimal. -/
  | daa
  /-- Invert the accumulator. -/
  | cpl
  /-- Raise the carry flag. -/
  | scf
  /-- Invert the carry flag. -/
  | ccf
  /-- Copy a byte operand. -/
  | load (dst src : Operand)
  /-- Sleep until an interrupt is pending. -/
  | halt
  /-- Combine the accumulator with an operand. -/
  | alu (op : AluOp) (src : Operand)
  /-- Combine the accumulator with the next byte. -/
  | aluByte (op : AluOp)
  /-- Return to the address on the stack. -/
  | ret
  /-- Return if the condition holds. -/
  | retIf (condition : Condition)
  /-- Return and accept interrupts at once. -/
  | reti
  /-- Take a word register off the stack. -/
  | pop (dst : Reg16)
  /-- Put a word register on the stack. -/
  | push (src : Reg16)
  /-- Jump to the address in the next two bytes. -/
  | jump (condition : Option Condition)
  /-- Jump to the address in HL. -/
  | jumpHL
  /-- Call the address in the next two bytes. -/
  | call (condition : Option Condition)
  /-- Call a fixed address in the first page. -/
  | rst (target : UInt8)
  /-- Run the instruction of the extended page that the next byte names. -/
  | extended
  /-- Store the accumulator in page 0xFF at the next byte. -/
  | storeHigh
  /-- Load the accumulator from page 0xFF at the next byte. -/
  | loadHigh
  /-- Store the accumulator in page 0xFF at C. -/
  | storeHighC
  /-- Load the accumulator from page 0xFF at C. -/
  | loadHighC
  /-- Store the accumulator at the address in the next two bytes. -/
  | storeAt
  /-- Load the accumulator from the address in the next two bytes. -/
  | loadAt
  /-- Move the stack pointer by the signed next byte. -/
  | addSP
  /-- Load HL with the stack pointer moved by the signed next byte. -/
  | loadHLSP
  /-- Load the stack pointer from HL. -/
  | loadSPHL
  /-- Refuse interrupts. -/
  | di
  /-- Accept interrupts after the next instruction. -/
  | ei
deriving DecidableEq

/-! ### The extended page -/

/-- What an instruction of the extended page does to its operand. -/
inductive BitAction where
  | shift (shift : Shift)
  | test (bit : Fin 8)
  | reset (bit : Fin 8)
  | set (bit : Fin 8)
deriving DecidableEq

/-- An instruction of the extended page. -/
structure BitInstruction where
  action : BitAction
  operand : Operand
deriving DecidableEq

/-- The operand named by a three-bit field. -/
def Operand.ofField (field : Fin 8) : Operand :=
  match field with
  | 0 => .reg .b
  | 1 => .reg .c
  | 2 => .reg .d
  | 3 => .reg .e
  | 4 => .reg .h
  | 5 => .reg .l
  | 6 => .atHL
  | 7 => .reg .a

/-- The shift named by a three-bit field. -/
def Shift.ofField (field : Fin 8) : Shift :=
  match field with
  | 0 => .rlc
  | 1 => .rrc
  | 2 => .rl
  | 3 => .rr
  | 4 => .sla
  | 5 => .sra
  | 6 => .swap
  | 7 => .srl

/-- The instruction of the extended page that a byte names. -/
def BitInstruction.decode (byte : UInt8) : BitInstruction where
  action :=
    let selector : Fin 8 := Fin.ofNat 8 (byte.toNat / 8)
    match byte >>> 6 with
    | 0 => .shift (Shift.ofField selector)
    | 1 => .test selector
    | 2 => .reset selector
    | _ => .set selector
  operand := Operand.ofField (Fin.ofNat 8 byte.toNat)

end GameBoy
