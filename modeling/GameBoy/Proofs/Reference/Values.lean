import GameBoy.Cpu.Arithmetic
import GameBoy.Proofs.Cpu.ByteFile

/-!
# `GameBoy.Proofs.Reference.Values`: arithmetic by value

What the instructions compute, told in numbers: sums and differences are taken
in `Nat` and `Int` and reduced at the end, shifts are multiplications and
divisions, and the flags are packed into a byte by place value. Each function
gives a byte or a word together with the byte of flags it leaves.

The processor's own arithmetic works on bytes and words that wrap, and tells
carries from masks and comparisons. That the two agree is a theorem for each
function: `alu_eq`, `counted_eq`, `countedDown_eq`, `decimal_eq`, `shifted_eq`,
`withoutBit_eq`, `withBit_eq`, `testBit_eq`, `sumWords_eq` and `movedStack_eq`.
Sums, differences and words are argued: a byte is its value modulo 256, and a
borrow is a comparison of the operands. What has one byte for its input, and
flags, is checked byte by byte (`forall_byte`): there are 256 of them, and a
decimal correction or a swap has no simpler reason than its table.
-/

set_option autoImplicit false

namespace GameBoy.Reference

/-- What holds of each of the 256 bytes holds of every byte. The hypothesis is a closed
statement over `Fin`, which can be decided. -/
theorem forall_byte {motive : UInt8 → Prop} (all : ∀ i : Fin UInt8.size, motive (UInt8.ofFin i))
    (byte : UInt8) : motive byte := all byte.toFin

/-! ### Flags -/

/-- A flag of a byte: Z is bit 7, N bit 6, H bit 5, C bit 4. -/
def flag (byte : UInt8) (n : Nat) : Bool := byte.toNat.testBit n

/-- The byte with the given flags, by place value. -/
def packFlags (z n h c : Bool) : UInt8 :=
  UInt8.ofNat (128 * z.toNat + 64 * n.toNat + 32 * h.toNat + 16 * c.toNat)

/-- Storing flags packs them by place value. -/
theorem toByte_eq (flags : Flags) :
    flags.toByte = packFlags flags.zero flags.subtract flags.halfCarry flags.carry := by
  obtain ⟨z, n, h, c⟩ := flags
  cases z <;> cases n <;> cases h <;> cases c <;> rfl

/-- Reading the flags of a byte tests its bits. -/
theorem ofByte_eq (byte : UInt8) :
    Flags.ofByte byte = ⟨flag byte 7, flag byte 6, flag byte 5, flag byte 4⟩ := by
  induction byte using forall_byte with
  | _ i =>
    revert i
    decide +kernel

/-- A result of the processor's arithmetic, its flags as they are stored. -/
def stored {α : Type} (result : α × Flags) : α × UInt8 := (result.1, result.2.toByte)

/-! ### Bytes -/

/-- The sum of two bytes and a carry. A half carry is a sum of the lower halves above 15, a
carry one of the bytes above 255. -/
def sum (a value : UInt8) (carry : Bool) : UInt8 × UInt8 :=
  let total := a.toNat + value.toNat + carry.toNat
  (UInt8.ofNat total,
    packFlags (total % 256 = 0) false
      (15 < a.toNat % 16 + value.toNat % 16 + carry.toNat) (255 < total))

/-- The difference of two bytes, less a borrow. As an integer it is negative just if a borrow
is left. -/
def difference (a value : UInt8) (borrow : Bool) : UInt8 × UInt8 :=
  let total : Int := a.toNat - value.toNat - borrow.toNat
  (UInt8.ofInt total,
    packFlags (total % 256 = 0) true
      ((a.toNat % 16 : Int) - (value.toNat % 16 : Int) - borrow.toNat < 0) (total < 0))

/-- The accumulator and the flags after one of the eight operations. -/
def alu (op : AluOp) (a value : UInt8) (c : Bool) : UInt8 × UInt8 :=
  match op with
  | .add => sum a value false
  | .adc => sum a value c
  | .sub => difference a value false
  | .sbc => difference a value c
  | .and => (a &&& value, packFlags (a &&& value = 0) false true false)
  | .xor => (a ^^^ value, packFlags (a ^^^ value = 0) false false false)
  | .or => (a ||| value, packFlags (a ||| value = 0) false false false)
  | .cp => (a, (difference a value false).2)

/-- A byte counted up; C is kept. A carry leaves bit 3 when the lower half was full. -/
def counted (value : UInt8) (c : Bool) : UInt8 × UInt8 :=
  (UInt8.ofNat (value.toNat + 1),
    packFlags (value.toNat = 255) false (value.toNat % 16 = 15) c)

/-- A byte counted down; C is kept. A borrow leaves bit 4 when the lower half was empty. -/
def countedDown (value : UInt8) (c : Bool) : UInt8 × UInt8 :=
  (UInt8.ofNat (value.toNat + 255),
    packFlags (value.toNat = 1) true (value.toNat % 16 = 0) c)

/-- The decimal correction: 6 for each half that left the decimal digits, added
after an addition and subtracted after a subtraction. -/
def decimal (a : UInt8) (n h c : Bool) : UInt8 × UInt8 :=
  let carry := c || (!n && 0x99 < a.toNat)
  let low := if h || (!n && 9 < a.toNat % 16) then 0x06 else 0x00
  let high := if carry then 0x60 else 0x00
  let result := if n then UInt8.ofNat (a.toNat + 256 - high - low)
    else UInt8.ofNat (a.toNat + high + low)
  (result, packFlags (result = 0) n false carry)

/-- A byte shifted or rotated by one place, or its halves swapped. -/
def shifted (shift : Shift) (value : UInt8) (carry : Bool) : UInt8 × UInt8 :=
  let v := value.toNat
  let top : Nat := v / 128
  let bottom : Nat := v % 2
  let (result, out) := match shift with
    | .rlc => (v * 2 % 256 + top, top)
    | .rrc => (v / 2 + bottom * 128, bottom)
    | .rl => (v * 2 % 256 + carry.toNat, top)
    | .rr => (v / 2 + carry.toNat * 128, bottom)
    | .sla => (v * 2 % 256, top)
    | .sra => (v / 2 + top * 128, bottom)
    | .swap => (v % 16 * 16 + v / 16, 0)
    | .srl => (v / 2, bottom)
  (UInt8.ofNat result, packFlags (result = 0) false false (out = 1))

/-- A byte with one bit cleared. -/
def withoutBit (bit : Fin 8) (value : UInt8) : UInt8 :=
  if flag value bit then UInt8.ofNat (value.toNat - 1 <<< bit.val) else value

/-- A byte with one bit set. -/
def withBit (bit : Fin 8) (value : UInt8) : UInt8 :=
  if flag value bit then value else UInt8.ofNat (value.toNat + 1 <<< bit.val)

/-! ### Words -/

/-- A byte as a two's-complement number. -/
def signed (byte : UInt8) : Int := if byte.toNat < 128 then byte.toNat else byte.toNat - 256

/-- A word moved by a signed byte. -/
def moved (word : UInt16) (offset : UInt8) : UInt16 := UInt16.ofInt (word.toNat + signed offset)

/-- The sum of two words; Z is kept. -/
def sumWords (a b : UInt16) (z : Bool) : UInt16 × UInt8 :=
  (UInt16.ofNat (a.toNat + b.toNat),
    packFlags z false (4095 < a.toNat % 4096 + b.toNat % 4096) (65535 < a.toNat + b.toNat))

/-- The stack pointer moved by a signed byte, with the flags of the unsigned sum
of its lower byte. -/
def movedStack (sp : UInt16) (offset : UInt8) : UInt16 × UInt8 :=
  (moved sp offset,
    packFlags false false (15 < sp.toNat % 16 + offset.toNat % 16)
      (255 < sp.toNat % 256 + offset.toNat))

/-! ### Agreement with the processor's arithmetic -/

/-- A byte given by its value is zero when the value is a multiple of 256. -/
theorem ofNat_eq_zero (n : Nat) : (UInt8.ofNat n == 0) = decide (n % 256 = 0) := by
  rw [Bool.beq_eq_decide_eq, decide_eq_decide, ← UInt8.toNat_inj, UInt8.toNat_ofNat']
  rfl

/-- Sums agree. -/
theorem sum_eq (a value : UInt8) (carry : Bool) :
    stored (addBytes a value carry) = sum a value carry := by
  simp only [stored, addBytes, sum, toByte_eq, ofNat_eq_zero]

/-- Differences agree. The processor compares where the reference takes a difference below
zero, and it wraps where the reference reduces: both are the same for operands below 256. -/
theorem difference_eq (a value : UInt8) (borrow : Bool) :
    stored (subtractBytes a value borrow) = difference a value borrow := by
  have ha : a.toNat < 2 ^ 8 := a.toNat_lt
  have hvalue : value.toNat < 2 ^ 8 := value.toNat_lt
  have hborrow : borrow.toNat ≤ 1 := Bool.toNat_le borrow
  -- The byte is the integer difference modulo 256, also where that is negative.
  have hresult : a - value - UInt8.ofNat borrow.toNat =
      UInt8.ofInt ((a.toNat : Int) - value.toNat - borrow.toNat) := by
    apply UInt8.toNat_inj.mp
    simp only [UInt8.ofInt, UInt8.toNat_ofNat', UInt8.toNat_sub]
    omega
  have hzero : (UInt8.ofInt ((a.toNat : Int) - value.toNat - borrow.toNat) == 0) =
      decide (((a.toNat : Int) - value.toNat - borrow.toNat) % 256 = 0) := by
    rw [UInt8.ofInt, ofNat_eq_zero, decide_eq_decide]
    omega
  -- A borrow is told from the operands here and from the sign of the difference there.
  have hhalf : (a.toNat % 16 < value.toNat % 16 + borrow.toNat) ↔
      (a.toNat % 16 : Int) - (value.toNat % 16 : Int) - borrow.toNat < 0 := by omega
  have hcarry : (a.toNat < value.toNat + borrow.toNat) ↔
      (a.toNat : Int) - value.toNat - borrow.toNat < 0 := by omega
  simp only [stored, subtractBytes, difference, toByte_eq, hresult, hzero, hhalf, hcarry]

/-- The eight operations agree. A comparison is a difference whose result is dropped. -/
theorem alu_eq (op : AluOp) (a value : UInt8) (flags : Flags) :
    stored (op.apply a value flags) = alu op a value flags.carry := by
  cases op with
  | add | adc => exact sum_eq a value _
  | sub | sbc => exact difference_eq a value _
  | and | xor | or =>
    simp only [stored, AluOp.apply, alu, toByte_eq, Flags.zeroIf, Flags.none, Bool.beq_eq_decide_eq]
  | cp =>
    -- A comparison keeps the accumulator and takes the flags of the difference.
    have h := congrArg Prod.snd (difference_eq a value false)
    rw [alu, ← h]
    rfl

/-- Counting up agrees. -/
theorem counted_eq (value : UInt8) (flags : Flags) :
    stored (increment value flags) = counted value flags.carry := by
  -- Of the flags only the carry is read.
  have all : ∀ i : Fin UInt8.size, ∀ c : Bool,
      stored (increment (UInt8.ofFin i) { Flags.none with carry := c }) =
        counted (UInt8.ofFin i) c := by
    decide +kernel
  exact all value.toFin flags.carry

/-- Counting down agrees. -/
theorem countedDown_eq (value : UInt8) (flags : Flags) :
    stored (decrement value flags) = countedDown value flags.carry := by
  have all : ∀ i : Fin UInt8.size, ∀ c : Bool,
      stored (decrement (UInt8.ofFin i) { Flags.none with carry := c }) =
        countedDown (UInt8.ofFin i) c := by
    decide +kernel
  exact all value.toFin flags.carry

/-- The decimal correction agrees. -/
theorem decimal_eq (a : UInt8) (flags : Flags) :
    stored (decimalAdjust a flags) =
      decimal a flags.subtract flags.halfCarry flags.carry := by
  -- The zero flag is not read, so any will do for it.
  have all : ∀ i : Fin UInt8.size, ∀ n h c : Bool,
      stored (decimalAdjust (UInt8.ofFin i) ⟨false, n, h, c⟩) =
        decimal (UInt8.ofFin i) n h c := by
    decide +kernel
  exact all a.toFin flags.subtract flags.halfCarry flags.carry

/-- Shifts agree. A shift to the left is a product, one to the right a quotient, and what goes
round or comes in is added at its place. -/
theorem shifted_eq (shift : Shift) (value : UInt8) (carry : Bool) :
    stored (shift.apply value carry) = shifted shift value carry := by
  have all : ∀ i : Fin UInt8.size, ∀ c : Bool,
      stored (shift.apply (UInt8.ofFin i) c) = shifted shift (UInt8.ofFin i) c := by
    cases shift <;> decide +kernel
  exact all value.toFin carry

/-- Clearing a bit by its mask subtracts its place value if it was set. -/
theorem withoutBit_eq (bit : Fin 8) (value : UInt8) :
    value &&& ~~~bitMask bit = withoutBit bit value := by
  have all : ∀ i : Fin UInt8.size, ∀ n : Fin 8,
      UInt8.ofFin i &&& ~~~bitMask n = withoutBit n (UInt8.ofFin i) := by
    decide +kernel
  exact all value.toFin bit

/-- Setting a bit by its mask adds its place value if it was clear. -/
theorem withBit_eq (bit : Fin 8) (value : UInt8) :
    value ||| bitMask bit = withBit bit value := by
  have all : ∀ i : Fin UInt8.size, ∀ n : Fin 8,
      UInt8.ofFin i ||| bitMask n = withBit n (UInt8.ofFin i) := by
    decide +kernel
  exact all value.toFin bit

/-- Nothing is left of a byte under the mask of a bit that is clear. -/
theorem and_bitMask_beq_zero (bit : Fin 8) (value : UInt8) :
    (value &&& bitMask bit == 0) = !flag value bit := by
  have all : ∀ i : Fin UInt8.size, ∀ n : Fin 8,
      (UInt8.ofFin i &&& bitMask n == 0) = !flag (UInt8.ofFin i) n := by
    decide +kernel
  exact all value.toFin bit

/-- Testing a bit by its mask tests the bit. -/
theorem testBit_eq (bit : Fin 8) (value : UInt8) (flags : Flags) :
    (testBit bit value flags).toByte =
      packFlags (!flag value bit) false true flags.carry := by
  rw [testBit, toByte_eq, and_bitMask_beq_zero]

/-- A sign-extended byte is its two's-complement number, modulo 65536. -/
theorem signExtend_eq (offset : UInt8) : signExtend offset = UInt16.ofInt (signed offset) := by
  induction offset using forall_byte with
  | _ i =>
    revert i
    decide +kernel

/-- Adding a sign-extended byte moves a word by it. -/
theorem add_signExtend (word : UInt16) (offset : UInt8) :
    word + signExtend offset = moved word offset := by
  have hword : UInt16.ofInt word.toNat = word := by
    apply UInt16.toNat_inj.mp
    have hlt : word.toNat < 2 ^ 16 := word.toNat_lt
    simp only [UInt16.ofInt, UInt16.toNat_ofNat']
    omega
  rw [moved, UInt16.ofInt_add, hword, signExtend_eq]

/-- Sums of words agree. -/
theorem sumWords_eq (a b : UInt16) (flags : Flags) :
    stored (addWords a b flags) = sumWords a b flags.zero := by
  simp only [stored, addWords, sumWords, toByte_eq, UInt16.ofNat_add, UInt16.ofNat_toNat]

/-- Moving the stack pointer agrees. -/
theorem movedStack_eq (sp : UInt16) (offset : UInt8) :
    stored (offsetStack sp offset) = movedStack sp offset := by
  simp only [stored, offsetStack, movedStack, toByte_eq, add_signExtend]

end GameBoy.Reference
