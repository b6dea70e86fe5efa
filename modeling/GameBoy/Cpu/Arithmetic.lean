import GameBoy.Word
import GameBoy.Cpu.Flags

/-!
# `GameBoy.Cpu.Arithmetic`: what the processor computes

Functions on bytes, words and flags, with no machine around them. Each gives
the result together with the flags it leaves. Sums and differences are compared
as natural numbers, so a carry is an overflow of the sum and a borrow is a
difference below zero.

Half carries are the same comparison on the lower halves. Counting up and down
keep the carry and tell the half carry from the result instead, which is possible
because only one is added or taken away. The shifts are told by what they make of
the byte and what they move out of it; all eight leave flags in the same way.

The decimal correction undoes nothing. It looks at the byte and at the flags that
the operation before it has left, and does not know the two numbers that were
combined. That it is right for packed decimal bytes is a theorem on the two
together.
-/

set_option autoImplicit false

namespace GameBoy

/-! ### Sums and differences -/

/-- The sum of two bytes and a carry. -/
def addBytes (a b : UInt8) (carry : Bool) : UInt8 × Flags :=
  let sum := a.toNat + b.toNat + carry.toNat
  let result := UInt8.ofNat sum
  (result,
    { zero := result == 0
      subtract := false
      halfCarry := decide (0x0F < a.toNat % 16 + b.toNat % 16 + carry.toNat)
      carry := decide (0xFF < sum) })

/-- The difference of two bytes, less a borrow. -/
def subtractBytes (a b : UInt8) (borrow : Bool) : UInt8 × Flags :=
  let result := a - b - UInt8.ofNat borrow.toNat
  (result,
    { zero := result == 0
      subtract := true
      halfCarry := decide (a.toNat % 16 < b.toNat % 16 + borrow.toNat)
      carry := decide (a.toNat < b.toNat + borrow.toNat) })

/-- A byte counted up by one. The carry flag is kept. -/
def increment (value : UInt8) (flags : Flags) : UInt8 × Flags :=
  let result := value + 1
  (result,
    { zero := result == 0
      subtract := false
      halfCarry := result &&& 0x0F == 0x00
      carry := flags.carry })

/-- A byte counted down by one. The carry flag is kept. -/
def decrement (value : UInt8) (flags : Flags) : UInt8 × Flags :=
  let result := value - 1
  (result,
    { zero := result == 0
      subtract := true
      halfCarry := result &&& 0x0F == 0x0F
      carry := flags.carry })

/-- The decimal correction of a sum or difference of packed decimal bytes, told
apart by the subtract flag. After a sum, the lower half is judged once the upper
one was corrected, which does not change it. -/
def decimalAdjust (a : UInt8) (flags : Flags) : UInt8 × Flags :=
  let highOff := if flags.subtract then flags.carry else flags.carry || decide (0x99 < a)
  let high : UInt8 := if highOff then 0x60 else 0x00
  let shifted := if flags.subtract then a - high else a + high
  let lowOff :=
    if flags.subtract then flags.halfCarry
    else flags.halfCarry || decide (0x09 < shifted &&& 0x0F)
  let low : UInt8 := if lowOff then 0x06 else 0x00
  let result := if flags.subtract then shifted - low else shifted + low
  (result,
    { zero := result == 0
      subtract := flags.subtract
      halfCarry := false
      carry := highOff })

/-- The sum of two words, as the HL additions leave it: half-carry out of bit
11, carry out of bit 15, the zero flag kept. -/
def addWords (a b : UInt16) (flags : Flags) : UInt16 × Flags :=
  (a + b,
    { zero := flags.zero
      subtract := false
      halfCarry := decide (0x0FFF < a.toNat % 0x1000 + b.toNat % 0x1000)
      carry := decide (0xFFFF < a.toNat + b.toNat) })

/-- The stack pointer moved by a signed byte. The flags are those of adding the
byte, unsigned, to the pointer's lower byte, with zero clear. -/
def offsetStack (sp : UInt16) (offset : UInt8) : UInt16 × Flags :=
  (sp + signExtend offset,
    { zero := false
      subtract := false
      halfCarry := decide (0x0F < sp.toNat % 16 + offset.toNat % 16)
      carry := decide (0xFF < sp.toNat % 0x100 + offset.toNat) })

/-! ### The accumulator operations -/

/-- The eight operations between the accumulator and one operand. -/
inductive AluOp where
  | add | adc | sub | sbc | and | xor | or | cp
deriving DecidableEq

/-- The accumulator and the flags after an operation. The comparison `cp` is a
subtraction whose difference is dropped. -/
def AluOp.apply (op : AluOp) (a value : UInt8) (flags : Flags) : UInt8 × Flags :=
  match op with
  | .add => addBytes a value false
  | .adc => addBytes a value flags.carry
  | .sub => subtractBytes a value false
  | .sbc => subtractBytes a value flags.carry
  | .and => (a &&& value, { Flags.zeroIf (a &&& value) with halfCarry := true })
  | .xor => (a ^^^ value, Flags.zeroIf (a ^^^ value))
  | .or => (a ||| value, Flags.zeroIf (a ||| value))
  | .cp => (a, (subtractBytes a value false).2)

/-! ### Shifts and bits -/

/-- The ways to shift or rotate a byte. -/
inductive Shift where
  | rlc | rrc | rl | rr | sla | sra | swap | srl
deriving DecidableEq

/-- The byte a shift makes of `value`, given the carry flag. -/
def Shift.result (shift : Shift) (value : UInt8) (carry : Bool) : UInt8 :=
  match shift with
  | .rlc => (value <<< 1) ||| (value >>> 7)
  | .rrc => (value >>> 1) ||| (value <<< 7)
  | .rl => (value <<< 1) ||| (bif carry then 0x01 else 0x00)
  | .rr => (value >>> 1) ||| (bif carry then 0x80 else 0x00)
  | .sla => value <<< 1
  | .sra => (value >>> 1) ||| (value &&& 0x80)
  | .swap => (value <<< 4) ||| (value >>> 4)
  | .srl => value >>> 1

/-- The bit a shift moves out: the top bit to the left, the bottom bit to the
right, none for a swap of halves. -/
def Shift.carryOut (shift : Shift) (value : UInt8) : Bool :=
  match shift with
  | .rlc | .rl | .sla => value &&& 0x80 != 0
  | .rrc | .rr | .sra | .srl => value &&& 0x01 != 0
  | .swap => false

/-- A shifted byte and its flags. -/
def Shift.apply (shift : Shift) (value : UInt8) (carry : Bool) : UInt8 × Flags :=
  let result := shift.result value carry
  (result, { Flags.zeroIf result with carry := shift.carryOut value })

/-- The byte with bit `n` set and all others clear. -/
def bitMask (n : Fin 8) : UInt8 := 1 <<< UInt8.ofNat n.val

/-- The flags after looking at one bit: zero if it is clear. The carry flag is
kept. -/
def testBit (n : Fin 8) (value : UInt8) (flags : Flags) : Flags where
  zero := value &&& bitMask n == 0
  subtract := false
  halfCarry := true
  carry := flags.carry

end GameBoy
