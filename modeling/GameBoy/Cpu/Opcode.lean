import GameBoy.Cpu.Instruction

/-!
# `GameBoy.Cpu.Opcode`: the opcode chart

The chart gives each of the 256 opcodes its instruction, sixteen to a row. Eleven
opcodes have none: D3, DB, DD, E3, E4, EB, EC, ED, F4, FC and FD.

The chart is written out and not computed from bit fields, so it can be read beside
any other chart of the processor. That the regular pattern behind most of it gives
the same is left for a theorem. Looking an opcode up cannot fail, as rows and columns
are numbers below sixteen. Main statement: those eleven and no others decode to
nothing (`decode_eq_none_iff`).
-/

set_option autoImplicit false

namespace GameBoy.Opcode

open Instruction

private abbrev b : Operand := .reg .b
private abbrev c : Operand := .reg .c
private abbrev d : Operand := .reg .d
private abbrev e : Operand := .reg .e
private abbrev h : Operand := .reg .h
private abbrev l : Operand := .reg .l
private abbrev m : Operand := .atHL
private abbrev a : Operand := .reg .a

/-- The instruction of each opcode: a row for each upper half, a column for each
lower half. -/
def chart : Vector (Vector (Option Instruction) 16) 16 := #v[
  /- 0x00 -/ #v[some nop, some (loadWord .bc), some (storeVia .bc), some (incWord .bc),
    some (inc b), some (dec b), some (loadByte b), some (rotateA .rlc), some storeSP,
    some (addHL .bc), some (loadVia .bc), some (decWord .bc), some (inc c), some (dec c),
    some (loadByte c), some (rotateA .rrc)],
  /- 0x10 -/ #v[some stop, some (loadWord .de), some (storeVia .de), some (incWord .de),
    some (inc d), some (dec d), some (loadByte d), some (rotateA .rl), some (jumpBy none),
    some (addHL .de), some (loadVia .de), some (decWord .de), some (inc e), some (dec e),
    some (loadByte e), some (rotateA .rr)],
  /- 0x20 -/ #v[some (jumpBy (some .notZero)), some (loadWord .hl), some (storeVia .hlUp),
    some (incWord .hl), some (inc h), some (dec h), some (loadByte h), some daa,
    some (jumpBy (some .zero)), some (addHL .hl), some (loadVia .hlUp), some (decWord .hl),
    some (inc l), some (dec l), some (loadByte l), some cpl],
  /- 0x30 -/ #v[some (jumpBy (some .notCarry)), some (loadWord .sp), some (storeVia .hlDown),
    some (incWord .sp), some (inc m), some (dec m), some (loadByte m), some scf,
    some (jumpBy (some .carry)), some (addHL .sp), some (loadVia .hlDown), some (decWord .sp),
    some (inc a), some (dec a), some (loadByte a), some ccf],
  /- 0x40 -/ #v[some (load b b), some (load b c), some (load b d), some (load b e), some (load b h),
    some (load b l), some (load b m), some (load b a), some (load c b), some (load c c),
    some (load c d), some (load c e), some (load c h), some (load c l), some (load c m),
    some (load c a)],
  /- 0x50 -/ #v[some (load d b), some (load d c), some (load d d), some (load d e), some (load d h),
    some (load d l), some (load d m), some (load d a), some (load e b), some (load e c),
    some (load e d), some (load e e), some (load e h), some (load e l), some (load e m),
    some (load e a)],
  /- 0x60 -/ #v[some (load h b), some (load h c), some (load h d), some (load h e), some (load h h),
    some (load h l), some (load h m), some (load h a), some (load l b), some (load l c),
    some (load l d), some (load l e), some (load l h), some (load l l), some (load l m),
    some (load l a)],
  /- 0x70 -/ #v[some (load m b), some (load m c), some (load m d), some (load m e), some (load m h),
    some (load m l), some halt, some (load m a), some (load a b), some (load a c), some (load a d),
    some (load a e), some (load a h), some (load a l), some (load a m), some (load a a)],
  /- 0x80 -/ #v[some (alu .add b), some (alu .add c), some (alu .add d), some (alu .add e),
    some (alu .add h), some (alu .add l), some (alu .add m), some (alu .add a), some (alu .adc b),
    some (alu .adc c), some (alu .adc d), some (alu .adc e), some (alu .adc h), some (alu .adc l),
    some (alu .adc m), some (alu .adc a)],
  /- 0x90 -/ #v[some (alu .sub b), some (alu .sub c), some (alu .sub d), some (alu .sub e),
    some (alu .sub h), some (alu .sub l), some (alu .sub m), some (alu .sub a), some (alu .sbc b),
    some (alu .sbc c), some (alu .sbc d), some (alu .sbc e), some (alu .sbc h), some (alu .sbc l),
    some (alu .sbc m), some (alu .sbc a)],
  /- 0xA0 -/ #v[some (alu .and b), some (alu .and c), some (alu .and d), some (alu .and e),
    some (alu .and h), some (alu .and l), some (alu .and m), some (alu .and a), some (alu .xor b),
    some (alu .xor c), some (alu .xor d), some (alu .xor e), some (alu .xor h), some (alu .xor l),
    some (alu .xor m), some (alu .xor a)],
  /- 0xB0 -/ #v[some (alu .or b), some (alu .or c), some (alu .or d), some (alu .or e),
    some (alu .or h), some (alu .or l), some (alu .or m), some (alu .or a), some (alu .cp b),
    some (alu .cp c), some (alu .cp d), some (alu .cp e), some (alu .cp h), some (alu .cp l),
    some (alu .cp m), some (alu .cp a)],
  /- 0xC0 -/ #v[some (retIf .notZero), some (pop .bc), some (jump (some .notZero)),
    some (jump none), some (call (some .notZero)), some (push .bc), some (aluByte .add),
    some (rst 0x00), some (retIf .zero), some ret, some (jump (some .zero)), some extended,
    some (call (some .zero)), some (call none), some (aluByte .adc), some (rst 0x08)],
  /- 0xD0 -/ #v[some (retIf .notCarry), some (pop .de), some (jump (some .notCarry)), none,
    some (call (some .notCarry)), some (push .de), some (aluByte .sub), some (rst 0x10),
    some (retIf .carry), some reti, some (jump (some .carry)), none, some (call (some .carry)),
    none, some (aluByte .sbc), some (rst 0x18)],
  /- 0xE0 -/ #v[some storeHigh, some (pop .hl), some storeHighC, none, none, some (push .hl),
    some (aluByte .and), some (rst 0x20), some addSP, some jumpHL, some storeAt, none, none, none,
    some (aluByte .xor), some (rst 0x28)],
  /- 0xF0 -/ #v[some loadHigh, some (pop .af), some loadHighC, some di, none, some (push .af),
    some (aluByte .or), some (rst 0x30), some loadHLSP, some loadSPHL, some loadAt, some ei, none,
    none, some (aluByte .cp), some (rst 0x38)]]

/-- The chart has a row for the upper half of every byte. -/
theorem row_lt (opcode : UInt8) : opcode.toNat / 16 < 16 := by
  have bound : opcode.toNat < 256 := opcode.toNat_lt
  omega

/-- The chart has a column for the lower half of every byte. -/
theorem column_lt (opcode : UInt8) : opcode.toNat % 16 < 16 := Nat.mod_lt _ (by decide)

/-- The instruction an opcode stands for, if it stands for any. -/
def decode (opcode : UInt8) : Option Instruction :=
  let row : Fin 16 := ⟨opcode.toNat / 16, row_lt opcode⟩
  let column : Fin 16 := ⟨opcode.toNat % 16, column_lt opcode⟩
  chart[row][column]

/-- The opcodes that stand for no instruction. -/
def illegal : List UInt8 :=
  [0xD3, 0xDB, 0xDD, 0xE3, 0xE4, 0xEB, 0xEC, 0xED, 0xF4, 0xFC, 0xFD]

/-- The eleven listed opcodes, and no others, stand for no instruction. -/
theorem decode_eq_none_iff (opcode : UInt8) : decode opcode = none ↔ opcode ∈ illegal := by
  have all : ∀ i : Fin UInt8.size, decode (UInt8.ofFin i) = none ↔ UInt8.ofFin i ∈ illegal := by
    decide +kernel
  simpa using all opcode.toFin

end GameBoy.Opcode
