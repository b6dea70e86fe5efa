import GameBoy.Cpu.Execute
import GameBoy.Proofs.Reference.Fields
import GameBoy.Proofs.Reference.Values

/-!
# `GameBoy.Proofs.Reference.Interpreter`: a reference interpreter

A second account of the instruction set, against which the processor is checked.
It is written for comparison and not for speed, and takes nothing from the
processor but the type of instructions:

* it decodes an opcode by its bit fields (`decode`), where the processor has a chart;
* it works on separate byte registers (`ByteFile`), where the processor packs pairs;
* it computes by value (`alu`, `decimal`, `shifted`), where the processor masks and wraps;
* it has its own figures for the cycles, written out for each instruction.

The interpreter is a function of what the memory holds. An instruction reads only
what was there before it, so its effect is given whole: the state after it, its
writes in order and its cost. No instruction reads what it has written itself,
which is why the memory need not be led through.

`execute` runs an opcode that was fetched. It gives the cost or the trap, the state
once a pending enable of interrupts has come closer, and the writes. Entries into
interrupts and sleep are not told here: they belong to a step, not to an opcode.
-/

set_option autoImplicit false

namespace GameBoy.Reference

/-- The state between two instructions: the registers, and what decides how the next step goes.
The cycles spent so far are left out, as no instruction looks at them. -/
structure State where
  file : ByteFile
  /-- Whether interrupts are accepted. -/
  ime : Bool
  /-- How many more instructions end before a pending enable takes effect. -/
  enableDelay : Nat
  halted : Bool
  stopped : Bool
deriving DecidableEq

/-- What an instruction does. -/
structure Effect where
  state : State
  /-- The bytes written, oldest first. -/
  writes : List (UInt16 × UInt8)
  /-- The machine cycles spent. -/
  cost : Nat
deriving DecidableEq

/-! ### Registers and operands -/

/-- The word in H and L. -/
def hl (file : ByteFile) : UInt16 := wordOf file.h file.l

/-- An address in the topmost page. -/
def topPage (offset : UInt8) : UInt16 := UInt16.ofNat (0xFF00 + offset.toNat)

/-- The state with another register file. -/
def State.with (state : State) (file : ByteFile) : State := { state with file }

/-- The register file after bytes at the program counter were used. -/
def skip (file : ByteFile) (count : UInt16) : ByteFile := { file with pc := file.pc + count }

/-- The value of a byte operand. -/
def get (memory : UInt16 → UInt8) (file : ByteFile) : Operand → UInt8
  | .reg reg => file.get8 reg
  | .atHL => memory (hl file)

/-- The register file after a value went to a byte operand. -/
def put (file : ByteFile) (operand : Operand) (value : UInt8) : ByteFile :=
  match operand with
  | .reg reg => file.set8 reg value
  | .atHL => file

/-- The write that goes with a value for a byte operand, if the operand is in memory. -/
def putWrites (file : ByteFile) (operand : Operand) (value : UInt8) : List (UInt16 × UInt8) :=
  match operand with
  | .reg _ => []
  | .atHL => [(hl file, value)]

/-- The address in a pointer. -/
def pointed (file : ByteFile) : Pointer → UInt16
  | .bc => wordOf file.b file.c
  | .de => wordOf file.d file.e
  | .hlUp | .hlDown => hl file

/-- The register file after a pointer was used. -/
def stepped (file : ByteFile) : Pointer → ByteFile
  | .bc | .de => file
  | .hlUp => file.set16 .hl (hl file + 1)
  | .hlDown => file.set16 .hl (hl file - 1)

/-- Whether a condition holds, by the byte of flags. -/
def holds (f : UInt8) : Condition → Bool
  | .notZero => !flag f 7
  | .zero => flag f 7
  | .notCarry => !flag f 4
  | .carry => flag f 4

/-- Whether an optional condition holds. -/
def taken (f : UInt8) : Option Condition → Bool
  | none => true
  | some condition => holds f condition

/-! ### The stack -/

/-- The word on top of the stack. -/
def top (memory : UInt16 → UInt8) (file : ByteFile) : UInt16 :=
  wordOf (memory (file.sp + 1)) (memory file.sp)

/-- The register file after a word left the stack. -/
def popped (file : ByteFile) : ByteFile := { file with sp := file.sp + 2 }

/-- The register file after a word went to the stack. -/
def pushed (file : ByteFile) : ByteFile := { file with sp := file.sp - 2 }

/-- The writes that put a word on the stack, upper byte first. They go below the stack pointer
as it was. -/
def pushWrites (file : ByteFile) (word : UInt16) : List (UInt16 × UInt8) :=
  [(file.sp - 1, upperOf word), (file.sp - 2, lowerOf word)]

/-! ### Cycles

The figures of the instruction set where they depend on whether an operand is a register or
lies in memory. All other figures stand with their instructions. -/

/-- The cycles of an instruction of the extended page: two for a register. In memory a byte that
is only looked at saves the write. -/
def extendedCycles : BitAction → Operand → Nat
  | _, .reg _ => 2
  | .test _, .atHL => 3
  | .shift _, .atHL | .reset _, .atHL | .set _, .atHL => 4

/-- The cycles of counting a byte up or down. In memory it is read and written. -/
def countCycles : Operand → Nat
  | .reg _ => 1
  | .atHL => 3

/-- The cycles of loading the byte behind the opcode. -/
def loadByteCycles : Operand → Nat
  | .reg _ => 2
  | .atHL => 3

/-- The cycles of copying a byte, where it goes and where it comes from. No opcode copies from
memory to memory. -/
def loadCycles : Operand → Operand → Nat
  | .reg _, .reg _ => 1
  | .reg _, .atHL | .atHL, .reg _ | .atHL, .atHL => 2

/-- The cycles of combining a byte with the accumulator. -/
def aluCycles : Operand → Nat
  | .reg _ => 1
  | .atHL => 2

/-! ### Instructions -/

/-- The effect of an instruction of the extended page, the program counter behind it. What is
only tested is not written back. -/
def performExtended (memory : UInt16 → UInt8) (state : State) (instruction : BitInstruction) :
    Effect :=
  let file := state.file
  let operand := instruction.operand
  let value := get memory file operand
  let cycles := extendedCycles instruction.action operand
  match instruction.action with
  | .shift shift =>
    let (result, f) := shifted shift value (flag file.f 4)
    ⟨state.with (put { file with f } operand result), putWrites file operand result, cycles⟩
  | .test bit =>
    ⟨state.with { file with f := packFlags (!flag value bit) false true (flag file.f 4) }, [],
      cycles⟩
  | .reset bit =>
    ⟨state.with (put file operand (withoutBit bit value)),
      putWrites file operand (withoutBit bit value), cycles⟩
  | .set bit =>
    ⟨state.with (put file operand (withBit bit value)),
      putWrites file operand (withBit bit value), cycles⟩

/-- The effect of an instruction, the program counter behind its opcode. Bytes that follow the
opcode are at the program counter, and the file that skips them is the one that goes on. -/
def perform (memory : UInt16 → UInt8) (state : State) (instruction : Instruction) : Effect :=
  let file := state.file
  let byte := memory file.pc
  let word := wordOf (memory (file.pc + 1)) byte
  match instruction with
  | .nop => ⟨state, [], 1⟩
  | .loadWord dst => ⟨state.with ((skip file 2).set16 dst word), [], 3⟩
  | .storeVia pointer => ⟨state.with (stepped file pointer), [(pointed file pointer, file.a)], 2⟩
  | .loadVia pointer =>
    ⟨state.with { stepped file pointer with a := memory (pointed file pointer) }, [], 2⟩
  | .incWord reg => ⟨state.with (file.set16 reg (file.get16 reg + 1)), [], 2⟩
  | .decWord reg => ⟨state.with (file.set16 reg (file.get16 reg - 1)), [], 2⟩
  | .inc operand =>
    let (result, f) := counted (get memory file operand) (flag file.f 4)
    ⟨state.with (put { file with f } operand result), putWrites file operand result,
      countCycles operand⟩
  | .dec operand =>
    let (result, f) := countedDown (get memory file operand) (flag file.f 4)
    ⟨state.with (put { file with f } operand result), putWrites file operand result,
      countCycles operand⟩
  | .loadByte dst =>
    ⟨state.with (put (skip file 1) dst byte), putWrites file dst byte, loadByteCycles dst⟩
  | .rotateA shift =>
    let (result, f) := shifted shift file.a (flag file.f 4)
    ⟨state.with { file with a := result, f := packFlags false false false (flag f 4) }, [], 1⟩
  | .storeSP =>
    ⟨state.with (skip file 2), [(word, lowerOf file.sp), (word + 1, upperOf file.sp)], 5⟩
  | .addHL src =>
    let (result, f) := sumWords (hl file) (file.get16 src) (flag file.f 7)
    ⟨state.with ({ file with f }.set16 .hl result), [], 2⟩
  | .stop => ⟨{ state.with (skip file 1) with stopped := true }, [], 1⟩
  | .jumpBy condition =>
    if taken file.f condition then
      ⟨state.with { file with pc := moved (file.pc + 1) byte }, [], 3⟩
    else ⟨state.with (skip file 1), [], 2⟩
  | .daa =>
    let (a, f) := decimal file.a (flag file.f 6) (flag file.f 5) (flag file.f 4)
    ⟨state.with { file with a, f }, [], 1⟩
  | .cpl =>
    let f := packFlags (flag file.f 7) true true (flag file.f 4)
    ⟨state.with { file with a := UInt8.ofNat (255 - file.a.toNat), f }, [], 1⟩
  | .scf => ⟨state.with { file with f := packFlags (flag file.f 7) false false true }, [], 1⟩
  | .ccf =>
    ⟨state.with { file with f := packFlags (flag file.f 7) false false (!flag file.f 4) }, [], 1⟩
  | .load dst src =>
    let value := get memory file src
    ⟨state.with (put file dst value), putWrites file dst value, loadCycles dst src⟩
  | .halt => ⟨{ state with halted := true }, [], 1⟩
  | .alu op src =>
    let (a, f) := alu op file.a (get memory file src) (flag file.f 4)
    ⟨state.with { file with a, f }, [], aluCycles src⟩
  | .aluByte op =>
    let (a, f) := alu op file.a byte (flag file.f 4)
    ⟨state.with { skip file 1 with a, f }, [], 2⟩
  | .ret => ⟨state.with { popped file with pc := top memory file }, [], 4⟩
  | .retIf condition =>
    if holds file.f condition then
      ⟨state.with { popped file with pc := top memory file }, [], 5⟩
    else ⟨state, [], 2⟩
  | .reti => ⟨{ state.with { popped file with pc := top memory file } with ime := true }, [], 4⟩
  | .pop dst => ⟨state.with ((popped file).set16 dst (top memory file)), [], 3⟩
  | .push src => ⟨state.with (pushed file), pushWrites file (file.get16 src), 4⟩
  | .jump condition =>
    if taken file.f condition then ⟨state.with { file with pc := word }, [], 4⟩
    else ⟨state.with (skip file 2), [], 3⟩
  | .jumpHL => ⟨state.with { file with pc := hl file }, [], 1⟩
  | .call condition =>
    if taken file.f condition then
      ⟨state.with { pushed file with pc := word }, pushWrites file (file.pc + 2), 6⟩
    else ⟨state.with (skip file 2), [], 3⟩
  | .rst target =>
    ⟨state.with { pushed file with pc := UInt16.ofNat target.toNat }, pushWrites file file.pc, 4⟩
  | .extended =>
    performExtended memory (state.with (skip file 1)) (decodeExtended (Fields.ofByte byte))
  | .storeHigh => ⟨state.with (skip file 1), [(topPage byte, file.a)], 3⟩
  | .loadHigh => ⟨state.with { skip file 1 with a := memory (topPage byte) }, [], 3⟩
  | .storeHighC => ⟨state, [(topPage file.c, file.a)], 2⟩
  | .loadHighC => ⟨state.with { file with a := memory (topPage file.c) }, [], 2⟩
  | .storeAt => ⟨state.with (skip file 2), [(word, file.a)], 4⟩
  | .loadAt => ⟨state.with { skip file 2 with a := memory word }, [], 4⟩
  | .addSP =>
    let (sp, f) := movedStack file.sp byte
    ⟨state.with { skip file 1 with sp, f }, [], 4⟩
  | .loadHLSP =>
    let (result, f) := movedStack file.sp byte
    ⟨state.with ({ skip file 1 with f }.set16 .hl result), [], 3⟩
  | .loadSPHL => ⟨state.with { file with sp := hl file }, [], 2⟩
  | .di => ⟨{ state with ime := false, enableDelay := 0 }, [], 1⟩
  | .ei => ⟨{ state with enableDelay := 2 }, [], 1⟩

/-- The state once an instruction has ended: a pending enable is one instruction
nearer, and takes effect when none is left. -/
def ended (state : State) : State :=
  { state with
    ime := state.ime || state.enableDelay = 1
    enableDelay := state.enableDelay - 1 }

/-- Runs an opcode that was fetched from just before the program counter: the
cost or the trap, the state after it and the writes in order. -/
def execute (memory : UInt16 → UInt8) (state : State) (opcode : UInt8) :
    Except Trap Nat × State × List (UInt16 × UInt8) :=
  match decode (Fields.ofByte opcode) with
  | some instruction =>
    let effect := perform memory state instruction
    (.ok effect.cost, ended effect.state, effect.writes)
  | none => (.error ⟨opcode, state.file.pc - 1⟩, state, [])

end GameBoy.Reference
