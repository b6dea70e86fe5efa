import GameBoy.Cpu.Opcode

/-!
# `GameBoy.Proofs.Reference.Fields`: decoding by bit fields

An opcode splits into fields: `x` is its upper two bits, `y` the middle three and
`z` the lower three, and `y` splits again into `p` and `q`. Operands come from
tables, indexed by a field. `decode` reads the base instruction set off the
fields, and `decodeExtended` the page behind 0xCB.

The processor decodes by a chart that is built from lists of opcodes and runs of
them, where one entry may replace an earlier one. The two decoders share the type
of instructions and nothing else. They are compared at each of the 256 opcodes,
since the chart has no law by which they could be compared at once. Main statements:

* `decode_eq`: the chart is the decoding by fields, the opcodes that stand for no
  instruction included.
* `decodeExtended_eq`: so is the decoder of the extended page.
-/

set_option autoImplicit false

namespace GameBoy.Reference

/-! ### Tables -/

/-- Byte operands. -/
def operands : Vector Operand 8 :=
  #v[.reg .b, .reg .c, .reg .d, .reg .e, .reg .h, .reg .l, .atHL, .reg .a]

/-- Word registers, with the stack pointer. -/
def words : Vector Reg16 4 := #v[.bc, .de, .hl, .sp]

/-- Word registers as the stack sees them, with the accumulator and the flags. -/
def stackWords : Vector Reg16 4 := #v[.bc, .de, .hl, .af]

/-- Pointers of the accumulator's loads and stores. -/
def pointers : Vector Pointer 4 := #v[.bc, .de, .hlUp, .hlDown]

/-- Conditions. -/
def conditions : Vector Condition 4 := #v[.notZero, .zero, .notCarry, .carry]

/-- Operations of the accumulator. -/
def aluOps : Vector AluOp 8 := #v[.add, .adc, .sub, .sbc, .and, .xor, .or, .cp]

/-- What is done to the accumulator and its flags alone. -/
def accumulatorOps : Vector Instruction 8 :=
  #v[.rotateA .rlc, .rotateA .rrc, .rotateA .rl, .rotateA .rr, .daa, .cpl, .scf, .ccf]

/-- Shifts of the extended page. -/
def shifts : Vector Shift 8 := #v[.rlc, .rrc, .rl, .rr, .sla, .sra, .swap, .srl]

/-! ### Fields -/

/-- The fields of an opcode. -/
structure Fields where
  x : Fin 4
  y : Fin 8
  z : Fin 8

namespace Fields

/-- Two bits are left of a byte shifted down by six. -/
theorem shiftRight_lt (byte : UInt8) : (byte >>> 6).toNat < 4 := by
  have bound : byte.toNat < 2 ^ 8 := byte.toNat_lt
  rw [UInt8.toNat_shiftRight]
  show byte.toNat >>> 6 < 4
  rw [Nat.shiftRight_eq_div_pow]
  omega

/-- Three bits are left under the mask 7. -/
theorem and_lt (byte : UInt8) : (byte &&& 7).toNat < 8 := by
  rw [UInt8.toNat_and]
  exact Nat.and_lt_two_pow (n := 3) byte.toNat (by decide)

/-- The fields of a byte. -/
def ofByte (byte : UInt8) : Fields where
  x := ⟨(byte >>> 6).toNat, shiftRight_lt byte⟩
  y := ⟨((byte >>> 3) &&& 7).toNat, and_lt (byte >>> 3)⟩
  z := ⟨(byte &&& 7).toNat, and_lt byte⟩

/-- Half of three bits is two bits. -/
theorem half_lt (y : Fin 8) : y.val / 2 < 4 := by omega

/-- The upper two bits of `y`. -/
def p (fields : Fields) : Fin 4 := ⟨fields.y.val / 2, half_lt fields.y⟩

/-- The lowest bit of `y`. -/
def q (fields : Fields) : Nat := fields.y.val % 2

/-- A number modulo four is two bits. -/
theorem mod_four_lt (n : Nat) : n % 4 < 4 := Nat.mod_lt n (by decide)

/-- The condition of a conditional jump, call or return: entry `y` of the table, or
entry `y - 4` where `y` is 4 or more. -/
def condition (fields : Fields) : Condition :=
  let index : Fin 4 := ⟨fields.y.val % 4, mod_four_lt fields.y.val⟩
  conditions[index]

end Fields

/-- The instructions with `x = 0`: loads of constants, counting and the rest of the
accumulator's own. -/
def decodeLoads (fields : Fields) : Option Instruction :=
  let y := fields.y
  match fields.z with
  | 0 =>
    match y with
    | 0 => some .nop
    | 1 => some .storeSP
    | 2 => some .stop
    | 3 => some (.jumpBy none)
    | _ => some (.jumpBy (some fields.condition))
  | 1 => if fields.q = 0 then some (.loadWord words[fields.p]) else some (.addHL words[fields.p])
  | 2 =>
    if fields.q = 0 then some (.storeVia pointers[fields.p])
    else some (.loadVia pointers[fields.p])
  | 3 => if fields.q = 0 then some (.incWord words[fields.p]) else some (.decWord words[fields.p])
  | 4 => some (.inc operands[y])
  | 5 => some (.dec operands[y])
  | 6 => some (.loadByte operands[y])
  | 7 => some accumulatorOps[y]

/-- The instructions with `x = 3`: control flow, the stack and what is left. -/
def decodeControl (fields : Fields) : Option Instruction :=
  let y := fields.y
  match fields.z with
  | 0 =>
    match y with
    | 4 => some .storeHigh
    | 5 => some .addSP
    | 6 => some .loadHigh
    | 7 => some .loadHLSP
    | _ => some (.retIf fields.condition)
  | 1 =>
    if fields.q = 0 then some (.pop stackWords[fields.p])
    else some #v[.ret, .reti, .jumpHL, .loadSPHL][fields.p]
  | 2 =>
    match y with
    | 4 => some .storeHighC
    | 5 => some .storeAt
    | 6 => some .loadHighC
    | 7 => some .loadAt
    | _ => some (.jump (some fields.condition))
  | 3 =>
    match y with
    | 0 => some (.jump none)
    | 1 => some .extended
    | 6 => some .di
    | 7 => some .ei
    | _ => none
  | 4 => if y.val < 4 then some (.call (some fields.condition)) else none
  | 5 =>
    if fields.q = 0 then some (.push stackWords[fields.p])
    else if fields.p = 0 then some (.call none)
    else none
  | 6 => some (.aluByte aluOps[y])
  | 7 => some (.rst (UInt8.ofNat (8 * y.val)))

/-- The instruction of the base set with the given fields, if there is one. -/
def decode (fields : Fields) : Option Instruction :=
  match fields.x with
  | 0 => decodeLoads fields
  | 1 =>
    if fields.y.val = 6 ∧ fields.z.val = 6 then some .halt
    else some (.load operands[fields.y] operands[fields.z])
  | 2 => some (.alu aluOps[fields.y] operands[fields.z])
  | 3 => decodeControl fields

/-- The instruction of the extended page with the given fields: `x` says what is done, `y` which
shift or which bit, `z` to which operand. Every byte names one. -/
def decodeExtended (fields : Fields) : BitInstruction where
  action :=
    match fields.x with
    | 0 => .shift shifts[fields.y]
    | 1 => .test fields.y
    | 2 => .reset fields.y
    | 3 => .set fields.y
  operand := operands[fields.z]

/-! ### Agreement with the chart -/

/-- The opcode chart is the decoding by fields. The eleven opcodes that the chart leaves empty
are those that the fields name nothing for. -/
theorem decode_eq (opcode : UInt8) : Opcode.decode opcode = decode (Fields.ofByte opcode) := by
  -- The chart is a table without a law of its own, so it is compared entry by entry.
  have all : ∀ i : Fin UInt8.size,
      Opcode.decode (UInt8.ofFin i) = decode (Fields.ofByte (UInt8.ofFin i)) := by
    decide +kernel
  exact all opcode.toFin

/-- The extended page is decoded by the same fields. -/
theorem decodeExtended_eq (byte : UInt8) :
    BitInstruction.decode byte = decodeExtended (Fields.ofByte byte) := by
  have all : ∀ i : Fin UInt8.size,
      BitInstruction.decode (UInt8.ofFin i) =
        decodeExtended (Fields.ofByte (UInt8.ofFin i)) := by
    decide +kernel
  exact all byte.toFin

end GameBoy.Reference
