import GameBoy.Word
import GameBoy.Cpu.Flags

/-!
# `GameBoy.Cpu.Registers`: the register file

Eight byte registers are kept as four packed pairs, beside the stack pointer
and the program counter. A byte register is one half of its pair, so writing
one half leaves the other alone. The flags are the lower half of AF: every
flag operation, and a write of AF as a pair register, stores that half with
its own lower four bits clear, while a write to the raw pair stores it as given.
Main statements: the halves of a pair are independent (`Pair.low_setHigh`,
`Pair.high_setLow`), and so are the accumulator and the flags
(`Registers.a_setFlags`, `Registers.flags_setA`).
-/

set_option autoImplicit false

namespace GameBoy

/-- A register pair: one word, read and written as a whole or by halves. -/
structure Pair where
  /-- The whole pair, upper register first. -/
  word : UInt16
deriving DecidableEq

namespace Pair

/-- The upper register of the pair. -/
def high (pair : Pair) : UInt8 := highByte pair.word

/-- The lower register of the pair. -/
def low (pair : Pair) : UInt8 := lowByte pair.word

/-- Replaces the upper register and keeps the lower one. -/
def setHigh (pair : Pair) (value : UInt8) : Pair :=
  ⟨joinBytes value pair.low⟩

/-- Replaces the lower register and keeps the upper one. -/
def setLow (pair : Pair) (value : UInt8) : Pair :=
  ⟨joinBytes pair.high value⟩

/-- The upper register holds what was written to it. -/
@[simp]
theorem high_setHigh (pair : Pair) (value : UInt8) : (pair.setHigh value).high = value :=
  highByte_joinBytes value pair.low

/-- A write to the upper register leaves the lower one alone. -/
@[simp]
theorem low_setHigh (pair : Pair) (value : UInt8) : (pair.setHigh value).low = pair.low :=
  lowByte_joinBytes value pair.low

/-- A write to the lower register leaves the upper one alone. -/
@[simp]
theorem high_setLow (pair : Pair) (value : UInt8) : (pair.setLow value).high = pair.high :=
  highByte_joinBytes pair.high value

/-- The lower register holds what was written to it. -/
@[simp]
theorem low_setLow (pair : Pair) (value : UInt8) : (pair.setLow value).low = value :=
  lowByte_joinBytes pair.high value

end Pair

/-- The byte registers an instruction can name. -/
inductive Reg8 where
  | a | b | c | d | e | h | l
deriving DecidableEq

/-- The word registers an instruction can name. -/
inductive Reg16 where
  | af | bc | de | hl | sp
deriving DecidableEq

/-- The register file. -/
structure Registers where
  /-- The accumulator, with the flags below it. -/
  af : Pair
  bc : Pair
  de : Pair
  hl : Pair
  /-- The stack pointer. -/
  sp : UInt16
  /-- The address of the next byte to fetch. -/
  pc : UInt16
deriving DecidableEq

namespace Registers

/-- Every register zero. -/
def zero : Registers := ⟨⟨0⟩, ⟨0⟩, ⟨0⟩, ⟨0⟩, 0, 0⟩

/-- What the boot program leaves behind as it enters the cartridge at 0x0100. -/
def postBoot : Registers where
  af := ⟨0x01B0⟩
  bc := ⟨0x0013⟩
  de := ⟨0x00D8⟩
  hl := ⟨0x014D⟩
  sp := 0xFFFE
  pc := 0x0100

/-- The value of a byte register. -/
def get8 (regs : Registers) : Reg8 → UInt8
  | .a => regs.af.high
  | .b => regs.bc.high
  | .c => regs.bc.low
  | .d => regs.de.high
  | .e => regs.de.low
  | .h => regs.hl.high
  | .l => regs.hl.low

/-- Writes one byte register. -/
def set8 (regs : Registers) (reg : Reg8) (value : UInt8) : Registers :=
  match reg with
  | .a => { regs with af := regs.af.setHigh value }
  | .b => { regs with bc := regs.bc.setHigh value }
  | .c => { regs with bc := regs.bc.setLow value }
  | .d => { regs with de := regs.de.setHigh value }
  | .e => { regs with de := regs.de.setLow value }
  | .h => { regs with hl := regs.hl.setHigh value }
  | .l => { regs with hl := regs.hl.setLow value }

/-- The value of a word register. -/
def get16 (regs : Registers) : Reg16 → UInt16
  | .af => regs.af.word
  | .bc => regs.bc.word
  | .de => regs.de.word
  | .hl => regs.hl.word
  | .sp => regs.sp

/-- Writes a word register. The lowest four bits of a value for AF are dropped. -/
def set16 (regs : Registers) (reg : Reg16) (value : UInt16) : Registers :=
  match reg with
  | .af => { regs with af := ⟨value &&& 0xFFF0⟩ }
  | .bc => { regs with bc := ⟨value⟩ }
  | .de => { regs with de := ⟨value⟩ }
  | .hl => { regs with hl := ⟨value⟩ }
  | .sp => { regs with sp := value }

/-- The accumulator. -/
def a (regs : Registers) : UInt8 := regs.af.high

/-- Writes the accumulator. -/
def setA (regs : Registers) (value : UInt8) : Registers :=
  { regs with af := regs.af.setHigh value }

/-! ### Flags -/

/-- The raised flags. -/
def flags (regs : Registers) : Flags := Flags.ofByte regs.af.low

/-- Makes exactly the given flags the raised ones. -/
def setFlags (regs : Registers) (flags : Flags) : Registers :=
  { regs with af := regs.af.setLow flags.toByte }

/-- Whether all the given flags are raised. -/
def hasFlags (regs : Registers) (wanted : Flags) : Bool := regs.flags.contains wanted

/-- Raises the given flags and keeps the others. -/
def raiseFlags (regs : Registers) (flags : Flags) : Registers :=
  regs.setFlags (regs.flags.union flags)

/-- Lowers the given flags and keeps the others. -/
def lowerFlags (regs : Registers) (flags : Flags) : Registers :=
  regs.setFlags (regs.flags.without flags)

/-- Inverts the given flags and keeps the others. -/
def flipFlags (regs : Registers) (flags : Flags) : Registers :=
  regs.setFlags (regs.flags.flip flags)

/-- The raised flags are the ones that were set. -/
@[simp]
theorem flags_setFlags (regs : Registers) (flags : Flags) :
    (regs.setFlags flags).flags = flags := by
  simp [Registers.flags, setFlags]

/-- Setting the flags leaves the accumulator alone. -/
@[simp]
theorem a_setFlags (regs : Registers) (flags : Flags) : (regs.setFlags flags).a = regs.a := by
  simp [a, setFlags]

/-- The accumulator holds what was written to it. -/
@[simp]
theorem a_setA (regs : Registers) (value : UInt8) : (regs.setA value).a = value := by
  simp [a, setA]

/-- A write to the accumulator leaves the flags alone. -/
@[simp]
theorem flags_setA (regs : Registers) (value : UInt8) : (regs.setA value).flags = regs.flags := by
  simp [flags, setA]

end Registers

end GameBoy
