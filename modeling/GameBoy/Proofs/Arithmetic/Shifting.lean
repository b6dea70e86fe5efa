import GameBoy.Proofs.Arithmetic.Binary
import GameBoy.Proofs.Cpu.ExtendedPage

/-!
# `GameBoy.Proofs.Arithmetic.Shifting`: long numbers, shifted through the carry

A number that lies in several bytes is shifted by one place byte by byte: the carry flag takes
the bit that leaves one byte into the next. To the left the lowest byte goes first, to the right
the highest. `Machine.Shifts` is the shift of one byte, in a register or in memory, and
`Machine.ShiftRow` a row of them.

A shift to the left adds a number to itself, so a row of them is a sum in the sense of
`Way.Leaves`. A shift to the right is read as the shift to the left that takes its result back
to what it started from: what is kept, added to itself and with the bit that was moved out, makes
the old byte, and the bit that was moved in goes out at the top. Both kinds of row are then one
induction, by the lemma on columns, and no division comes up before the end (`Machine.halved`).

To the right the bytes are taken from the highest down, while a number is written with its lowest
byte first. So such a row is run on the reversed list, and what it keeps is reversed again.

An operand in memory may not answer with what is written to it, so a byte is shifted only in an
operand that does (`Machine.Retains`). Main statements:

* `Shift.ToLeft.leaves`, `Shift.ToRight.leaves`: what a shift makes of one byte.
* `Machine.ShiftRow.leaves_left`, `Machine.ShiftRow.leaves_right`: what a row makes of a number.
* `Machine.shifted_rows`: rows double and halve numbers of any length.
-/

set_option autoImplicit false

namespace GameBoy

open Reference

/-! ### One byte -/

namespace Reference

/-- The carry of packed flags. -/
theorem flag_packFlags_carry (z n h c : Bool) : flag (packFlags z n h c) 4 = c := by
  cases z <;> cases n <;> cases h <;> cases c <;> rfl

/-- The top bit of a byte, by value. -/
theorem toNat_flag_seven (byte : UInt8) : (flag byte 7).toNat = byte.toNat / 128 := by
  have lt : byte.toNat < 256 := byte.toNat_lt
  rw [flag, Nat.toNat_testBit]
  show byte.toNat / 128 % 2 = byte.toNat / 128
  omega

end Reference

namespace Shift

/-- The bit that a shift moves into a byte. -/
def movesIn (shift : Shift) (byte : UInt8) (carry : Bool) : Bool :=
  match shift with
  | .rl | .rr => carry
  | .rlc | .sra => flag byte 7
  | .rrc => flag byte 0
  | .sla | .srl | .swap => false

/-- The shifts that move a byte up by one place, one bit in at the bottom and one out at the
top. -/
def ToLeft (shift : Shift) : Prop := shift = .sla ∨ shift = .rl

/-- The shifts that move a byte down by one place, one bit in at the top and one out at the
bottom. -/
def ToRight (shift : Shift) : Prop := shift = .srl ∨ shift = .sra ∨ shift = .rr

/-- A bit told by a number that is zero or one counts for that number. -/
theorem toNat_decide_eq_one {bit : Nat} (le : bit ≤ 1) : (decide (bit = 1)).toNat = bit := by
  rcases Nat.le_one_iff_eq_zero_or_eq_one.mp le with rfl | rfl <;> rfl

/-- A shift to the left adds the byte to itself, and the bit that is moved in is the carry of
that sum. -/
theorem ToLeft.leaves {shift : Shift} (left : shift.ToLeft) (byte : UInt8) (carry : Bool) :
    let new := shifted shift byte carry
    Way.sum.Leaves 256 byte.toNat byte.toNat (shift.movesIn byte carry) new.1.toNat
      (flag new.2 4) := by
  intro new
  have lt : byte.toNat < 256 := byte.toNat_lt
  have hc : carry.toNat ≤ 1 := Bool.toNat_le carry
  have top : byte.toNat / 128 ≤ 1 := by omega
  rcases left with rfl | rfl
  · show (UInt8.ofNat (byte.toNat * 2 % 256)).toNat + 256 * (flag (packFlags _ _ _ _) 4).toNat =
      byte.toNat + byte.toNat + 0
    rw [flag_packFlags_carry, toNat_decide_eq_one top, UInt8.toNat_ofNat']
    omega
  · show (UInt8.ofNat (byte.toNat * 2 % 256 + carry.toNat)).toNat +
      256 * (flag (packFlags _ _ _ _) 4).toNat = byte.toNat + byte.toNat + carry.toNat
    rw [flag_packFlags_carry, toNat_decide_eq_one top, UInt8.toNat_ofNat']
    omega

/-- A shift to the right leaves a byte that, added to itself, makes the old one again: the bit
that was moved out comes in, and the one that was moved in goes out. -/
theorem ToRight.leaves {shift : Shift} (right : shift.ToRight) (byte : UInt8) (carry : Bool) :
    let new := shifted shift byte carry
    Way.sum.Leaves 256 new.1.toNat new.1.toNat (flag new.2 4) byte.toNat
      (shift.movesIn byte carry) := by
  intro new
  have lt : byte.toNat < 256 := byte.toNat_lt
  have hc : carry.toNat ≤ 1 := Bool.toNat_le carry
  have bottom : byte.toNat % 2 ≤ 1 := by omega
  -- The three differ in what they move in, which counts for 128 in the result.
  have whole : ∀ moved : Bool, new.1 = UInt8.ofNat (byte.toNat / 2 + moved.toNat * 128) →
      flag new.2 4 = decide (byte.toNat % 2 = 1) →
      Way.sum.Leaves 256 new.1.toNat new.1.toNat (flag new.2 4) byte.toNat moved := by
    intro moved result out
    have hm : moved.toNat ≤ 1 := Bool.toNat_le moved
    simp only [Way.Leaves]
    rw [result, out, toNat_decide_eq_one bottom, UInt8.toNat_ofNat']
    omega
  rcases right with rfl | rfl | rfl
  · exact whole false rfl (flag_packFlags_carry _ _ _ _)
  · refine whole (flag byte 7) ?_ (flag_packFlags_carry _ _ _ _)
    rw [toNat_flag_seven]
    rfl
  · exact whole carry rfl (flag_packFlags_carry _ _ _ _)

end Shift

/-! ### One byte of a long number -/

namespace Reference

/-- A value that went to an operand in the register file is found there. -/
theorem get_put_reg (memory : UInt16 → UInt8) (file : ByteFile) (reg : Reg8) (value : UInt8) :
    get memory (put file (.reg reg) value) (.reg reg) = value := by
  cases reg <;> rfl

/-- No operand is F. -/
theorem f_put (file : ByteFile) (operand : Operand) (value : UInt8) :
    (put file operand value).f = file.f := by
  cases operand with
  | reg reg => cases reg <;> rfl
  | atHL => rfl

end Reference

namespace Machine

variable {M : Type} [Memory M] {machine : Machine M}

/-- An operand answers with what is written to it. A register always does; in memory it depends
on the address. -/
def Retains (machine : Machine M) : Operand → Prop
  | .reg _ => True
  | .atHL =>
    ∀ value, Memory.read (Memory.write machine.memory machine.cpu.regs.hl.word value)
      machine.cpu.regs.hl.word = value

/-- One byte of a long number is shifted. A machine that has the byte in an operand, and the
carry that the byte before it has left, runs the opcode 0xCB with the byte of the shift behind
it; the new byte is then in the operand. -/
inductive Shifts (shift : Shift) (byte : UInt8) (before : Machine M) :
    UInt8 → Machine M → Prop
  | intro (loaded : Machine M) (operand : Operand) (value : loaded.operand operand = byte)
      (carry : loaded.cpu.flags.carry = before.cpu.flags.carry)
      (named : BitInstruction.decode (loaded.read loaded.cpu.regs.pc) = ⟨.shift shift, operand⟩)
      (retains : loaded.Retains operand) :
      Shifts shift byte before ((loaded.execute 0xCB).2.operand operand)
        (loaded.execute 0xCB).2

/-- The opcode 0xCB with the byte of a shift behind it leaves the shifted byte in the operand,
and the bit that was moved out in the carry. That the operand retains what is written to it is
needed for memory alone, where the shifted byte is read back. -/
theorem execute_shift {shift : Shift} {operand : Operand}
    (named : BitInstruction.decode (machine.read machine.cpu.regs.pc) = ⟨.shift shift, operand⟩)
    (retains : machine.Retains operand) :
    let after := (machine.execute 0xCB).2
    let new := shifted shift (machine.operand operand) machine.cpu.flags.carry
    after.operand operand = new.1 ∧ after.cpu.flags.carry = flag new.2 4 := by
  intro after new
  let read := Memory.read machine.memory
  let state := machine.cpu.view
  let file : ByteFile := { skip state.file 1 with f := new.2 }
  obtain ⟨-, view, -, -, memory⟩ := machine.execute_told 0xCB
  -- The reference tells the whole of it, by the same byte and carry.
  have page : Reference.execute read state 0xCB =
      (.ok (extendedCycles (.shift shift) operand), ended (state.with (put file operand new.1)),
        putWrites file operand new.1) := by
    have effect : Reference.execute read state 0xCB =
        let effect := performExtended read (state.with (skip state.file 1))
          (decodeExtended (Fields.ofByte (machine.read machine.cpu.regs.pc)))
        (.ok effect.cost, ended effect.state, effect.writes) := rfl
    have same : Reference.get read (skip state.file 1) operand = machine.operand operand := by
      rw [operand_eq]
      cases operand <;> rfl
    rw [effect, ← decodeExtended_eq, named]
    simp only [performExtended, State.with, same]
    rw [show flag (skip state.file 1).f 4 = machine.cpu.flags.carry from (carry_eq _).symm]
    cases operand <;> rfl
  rw [page] at view memory
  have registers : after.cpu.view.file = put file operand new.1 := congrArg State.file view
  refine ⟨?_, ?_⟩
  · rw [operand_eq, registers]
    cases operand with
    | reg reg => exact get_put_reg _ file reg new.1
    | atHL =>
      have place : hl file = machine.cpu.regs.hl.word := (Pair.word_eq machine.cpu.regs.hl).symm
      have stored : after.memory = Memory.write machine.memory (hl file) new.1 := memory
      show Memory.read after.memory (hl file) = new.1
      rw [stored, place]
      exact retains new.1
  · rw [carry_eq, registers, f_put]

/-- The shift of one byte leaves the shifted byte and the bit that was moved out. -/
theorem Shifts.eq {shift : Shift} {byte kept : UInt8} {before after : Machine M}
    (shifts : Shifts shift byte before kept after) :
    let new := shifted shift byte before.cpu.flags.carry
    kept = new.1 ∧ after.cpu.flags.carry = flag new.2 4 := by
  cases shifts with
  | intro loaded operand value carry named retains =>
    rw [← value, ← carry]
    exact execute_shift named retains

/-- To the left, the byte is added to itself. -/
theorem Shifts.leaves_left {shift : Shift} (left : shift.ToLeft) {byte kept : UInt8}
    {before after : Machine M} (shifts : Shifts shift byte before kept after) :
    Way.sum.Leaves 256 byte.toNat byte.toNat (shift.movesIn byte before.cpu.flags.carry)
      kept.toNat after.cpu.flags.carry := by
  obtain ⟨result, out⟩ := shifts.eq
  rw [result, out]
  exact left.leaves byte before.cpu.flags.carry

/-- To the right, what is kept makes the byte again when it is added to itself. -/
theorem Shifts.leaves_right {shift : Shift} (right : shift.ToRight) {byte kept : UInt8}
    {before after : Machine M} (shifts : Shifts shift byte before kept after) :
    Way.sum.Leaves 256 kept.toNat kept.toNat after.cpu.flags.carry byte.toNat
      (shift.movesIn byte before.cpu.flags.carry) := by
  obtain ⟨result, out⟩ := shifts.eq
  rw [result, out]
  exact right.leaves byte before.cpu.flags.carry

/-! ### Rows of shifts -/

/-- A row of shifts, in the order in which the bytes are taken. The first shift is used on the
first byte, and the second on all others. What each shift leaves is kept. -/
inductive ShiftRow : Shift → Shift → Machine M → List UInt8 → List UInt8 → Machine M → Prop
  | nil {first next : Shift} {machine : Machine M} : ShiftRow first next machine [] [] machine
  | cons {first next : Shift} {before after last : Machine M} {byte new : UInt8}
      {bytes kept : List UInt8} (shifts : Shifts first byte before new after)
      (later : ShiftRow next next after bytes kept last) :
      ShiftRow first next before (byte :: bytes) (new :: kept) last

namespace ShiftRow

variable {first : Shift} {start last : Machine M} {bytes kept : List UInt8}

/-- As many bytes are kept as are taken. -/
theorem length_eq {next : Shift} (row : ShiftRow first next start bytes kept last) :
    kept.length = bytes.length := by
  induction row with
  | nil => rfl
  | cons _ _ ih => exact congrArg Nat.succ ih

/-- The bit that the first shift moves into the number. If there is no byte, it is the carry
that is handed on. -/
def movedIn (first : Shift) (bytes : List UInt8) (carry : Bool) : Bool :=
  match bytes with
  | [] => carry
  | byte :: _ => first.movesIn byte carry

/-- After the first byte, the carry is moved in. -/
theorem movedIn_of_carry {shift : Shift} (chained : shift = .rl ∨ shift = .rr)
    (bytes : List UInt8) (carry : Bool) : movedIn shift bytes carry = carry := by
  rcases chained with rfl | rfl <;> cases bytes <;> rfl

/-- A row to the left, the lowest byte first, adds the number to itself. The first shift decides
what is moved into the number, and the carry takes a bit from each byte to the next. -/
theorem leaves_left (left : first.ToLeft) (row : ShiftRow first .rl start bytes kept last) :
    let value := Numeral.binary.value
    Way.sum.Leaves (256 ^ bytes.length) (value bytes) (value bytes)
      (movedIn first bytes start.cpu.flags.carry) (value kept) last.cpu.flags.carry := by
  intro value
  -- On the row. Behind its first byte every shift is RL, so the second shift stands for all.
  generalize next : Shift.rl = chained at row
  induction row with
  | nil => exact .none .sum _
  | @cons first chained before after last byte new bytes kept shifts later ih =>
    subst next
    have rest := ih (.inr rfl) rfl
    rw [movedIn_of_carry (.inl rfl)] at rest
    simp only [value, Numeral.binary.value_cons, List.length_cons, Nat.pow_succ']
    exact (shifts.leaves_left left).cons rest

/-- A row to the right, the highest byte first, leaves a number that, added to itself, makes the
old one again: the carry at the end comes in, and the bit that was moved in goes out. The sum runs
the other way than the row. Its lowest column is the byte that is shifted last, so the induction
puts the byte that goes first above the rest. -/
theorem leaves_right (right : first.ToRight)
    (row : ShiftRow first .rr start bytes kept last) :
    let value := fun bytes : List UInt8 => Numeral.binary.value bytes.reverse
    Way.sum.Leaves (256 ^ bytes.length) (value kept) (value kept) last.cpu.flags.carry
      (value bytes) (movedIn first bytes start.cpu.flags.carry) := by
  intro value
  generalize next : Shift.rr = chained at row
  induction row with
  | nil => exact .none .sum _
  | @cons first chained before after last byte new bytes kept shifts later ih =>
    subst next
    have rest := ih (.inr (.inr rfl)) rfl
    rw [movedIn_of_carry (.inr rfl)] at rest
    -- The byte that goes first is the highest, so the row behind it lies below.
    have highest : ∀ (byte : UInt8) (lower : List UInt8), lower.length = bytes.length →
        value (byte :: lower) = value lower + 256 ^ bytes.length * byte.toNat := by
      intro byte lower length
      simp only [value, List.reverse_cons, Numeral.binary.value_append, List.length_reverse,
        length]
      rfl
    rw [highest byte bytes rfl, highest new kept later.length_eq, List.length_cons, Nat.pow_succ]
    exact rest.cons (shifts.leaves_right right)

/-- A number whose lowest byte stands first is shifted to the right from its end. -/
theorem leaves_reversed (right : first.ToRight)
    (row : ShiftRow first .rr start bytes.reverse kept last) :
    let value := Numeral.binary.value
    Way.sum.Leaves (256 ^ bytes.length) (value kept.reverse) (value kept.reverse)
      last.cpu.flags.carry (value bytes)
      (movedIn first bytes.reverse start.cpu.flags.carry) := by
  intro value
  have leaves := row.leaves_right right
  rw [List.length_reverse] at leaves
  simp only [List.reverse_reverse] at leaves
  exact leaves

/-- A shift that moves nothing into one byte moves nothing into a number. -/
theorem movedIn_of_none {shift : Shift} (nonempty : bytes ≠ [])
    (none : ∀ byte carry, shift.movesIn byte carry = false) (carry : Bool) :
    movedIn shift bytes carry = false := by
  obtain ⟨byte, others, rfl⟩ := List.exists_cons_of_ne_nil nonempty
  exact none byte carry

/-- Before a number is shifted arithmetically, the bit that is moved in is its own top bit. Its
last byte is shifted first, and the top bit of that byte counts for the highest place of the whole
number. There has to be a byte, since the number zero of no bytes has no top bit. -/
theorem movedIn_sra (nonempty : bytes ≠ []) (carry : Bool) :
    movedIn .sra bytes.reverse carry =
      (Numeral.binary.value bytes).testBit (8 * bytes.length - 1) := by
  obtain ⟨lower, byte, rfl⟩ := (List.eq_nil_or_concat' bytes).resolve_left nonempty
  have lt : Numeral.binary.value lower < 2 ^ (8 * lower.length) := by
    rw [Nat.pow_mul]
    exact Numeral.binary.value_lt fun _ _ => trivial
  have whole : Numeral.binary.value (lower ++ [byte]) =
      2 ^ (8 * lower.length) * byte.toNat + Numeral.binary.value lower := by
    rw [Numeral.binary.value_append, Nat.pow_mul, Nat.add_comm]
    rfl
  have place : 8 * (lower ++ [byte]).length - 1 = 8 * lower.length + 7 := by
    rw [List.length_append, List.length_singleton]
    omega
  rw [whole, place, Nat.testBit_two_pow_mul_add _ lt, if_neg (by omega),
    Nat.add_sub_cancel_left, List.reverse_append]
  rfl

end ShiftRow

/-- A machine that can be written to can shift a byte: it may put it in B, and the byte of the
shift where it goes on. -/
theorem exists_shifts (shift : Shift) (byte : UInt8) (before : Machine Flat) :
    ∃ kept after, Shifts shift byte before kept after := by
  have chart : ∃ code, BitInstruction.decode code = ⟨.shift shift, .reg .b⟩ := by
    cases shift with
    | rlc => exact ⟨0x00, rfl⟩
    | rrc => exact ⟨0x08, rfl⟩
    | rl => exact ⟨0x10, rfl⟩
    | rr => exact ⟨0x18, rfl⟩
    | sla => exact ⟨0x20, rfl⟩
    | sra => exact ⟨0x28, rfl⟩
    | swap => exact ⟨0x30, rfl⟩
    | srl => exact ⟨0x38, rfl⟩
  obtain ⟨code, decoded⟩ := chart
  let loaded : Machine Flat :=
    { before with
      cpu.regs := before.cpu.regs.set8 .b byte
      memory := before.memory.write before.cpu.regs.pc code }
  have value : loaded.operand (.reg .b) = byte := Pair.high_setHigh _ byte
  have placed : loaded.read loaded.cpu.regs.pc = code := by
    show (before.memory.write before.cpu.regs.pc code).read before.cpu.regs.pc = code
    rw [Flat.read_write, if_pos rfl]
  have named : BitInstruction.decode (loaded.read loaded.cpu.regs.pc) =
      ⟨.shift shift, .reg .b⟩ := by rw [placed, decoded]
  exact ⟨_, _, .intro loaded (.reg .b) value rfl named trivial⟩

/-- Such a machine can go through a row of shifts. -/
theorem exists_shiftRow (first next : Shift) (bytes : List UInt8) (start : Machine Flat) :
    ∃ kept last, ShiftRow first next start bytes kept last := by
  induction bytes generalizing first start with
  | nil => exact ⟨[], start, .nil⟩
  | cons byte bytes ih =>
    obtain ⟨new, after, shifts⟩ := exists_shifts first byte start
    obtain ⟨kept, last, later⟩ := ih next after
    exact ⟨_, last, .cons shifts later⟩

/-! ### Long numbers -/

/-- The number below `256 ^ n` that stands for a number in two's complement. -/
def twosComplement (n value : Nat) : Int :=
  if 2 * value < 256 ^ n then value else value - (256 ^ n : Nat)

/-- The top bit of `n` bytes is set when the number, added to itself, goes beyond them. There
has to be a byte, or there is no top bit. -/
theorem testBit_top {n number : Nat} (some : n ≠ 0) (lt : number < 256 ^ n) :
    number.testBit (8 * n - 1) = decide (256 ^ n ≤ number + number) := by
  have whole : 256 ^ n = 2 ^ (8 * n - 1) + 2 ^ (8 * n - 1) := by
    rw [← Nat.two_mul, ← Nat.pow_succ', Nat.succ_eq_add_one, Nat.sub_add_cancel (by omega),
      Nat.pow_mul]
  by_cases beyond : 2 ^ (8 * n - 1) ≤ number
  · have within : number < 2 ^ (8 * n - 1 + 1) := by
      rw [Nat.pow_succ]
      omega
    rw [Nat.testBit_of_two_pow_le_and_two_pow_add_one_gt beyond within,
      decide_eq_true (by omega)]
  · rw [Nat.testBit_lt_two_pow (Nat.lt_of_not_le beyond), decide_eq_false (by omega)]

/-- A number that is added to itself, and the top bit that is carried out. The carry that came
in may make the sum larger by one, but never takes it over the edge: the modulus is even, and so
is the sum without it. -/
theorem doubled {n number result : Nat} {carry next : Bool} (some : n ≠ 0)
    (lt : number < 256 ^ n) (resultLt : result < 256 ^ n)
    (h : Way.sum.Leaves (256 ^ n) number number carry result next) :
    result = (2 * number + carry.toNat) % 256 ^ n ∧ next = number.testBit (8 * n - 1) := by
  obtain ⟨value, out⟩ := h.sum_eq resultLt
  rw [Nat.two_mul]
  refine ⟨value, ?_⟩
  -- The modulus is even, so the carry that came in does not decide whether it is reached.
  have even : 256 ^ n % 2 = 0 := by
    obtain ⟨k, rfl⟩ := Nat.exists_eq_succ_of_ne_zero some
    rw [Nat.pow_succ]
    omega
  have hc : carry.toNat ≤ 1 := Bool.toNat_le carry
  rw [testBit_top some lt, Bool.eq_iff_iff, out, decide_eq_true_iff]
  omega

/-- A number that makes the old one when it is added to itself and nothing goes out is its half,
and the carry that has to be added is the remainder. -/
theorem halved {modulus number result : Nat} {carry : Bool}
    (h : Way.sum.Leaves modulus result result carry number false) :
    result = number / 2 ∧ carry.toNat = number % 2 := by
  have hc : carry.toNat ≤ 1 := Bool.toNat_le carry
  simp only [Way.Leaves, Bool.toNat_false, Nat.mul_zero] at h
  omega

/-- A number that makes the old one when it is added to itself and the old top bit goes out is
its half with the sign kept. The half is rounded down, also below zero, and the carry is the
remainder of that. -/
theorem halved_signed {n number result : Nat} {carry : Bool} (some : n ≠ 0)
    (lt : number < 256 ^ n)
    (h : Way.sum.Leaves (256 ^ n) result result carry number (number.testBit (8 * n - 1))) :
    twosComplement n result = twosComplement n number / 2 ∧ carry.toNat = number % 2 := by
  have hc : carry.toNat ≤ 1 := Bool.toNat_le carry
  have even : 256 ^ n % 4 = 0 := by
    obtain ⟨k, rfl⟩ := Nat.exists_eq_succ_of_ne_zero some
    rw [Nat.pow_succ]
    omega
  rw [testBit_top some lt] at h
  simp only [Way.Leaves] at h
  simp only [twosComplement]
  by_cases negative : 256 ^ n ≤ number + number
  · rw [decide_eq_true negative, Bool.toNat_true] at h
    rw [if_neg (by omega), if_neg (by omega)]
    omega
  · rw [decide_eq_false negative, Bool.toNat_false] at h
    rw [if_pos (by omega), if_pos (by omega)]
    omega

/-- What a rotation to the left makes of a number, a rotation to the right takes back, and the
carry with it. The first row tells what twice the old number is, the second what twice the new one
is, and the right sides are the same. As a carry is 0 or 1, the sum `2 * number + carry` tells the
number and the carry. -/
theorem ShiftRow.rotated_back {start turned last : Machine M} {bytes kept back : List UInt8}
    (forth : ShiftRow .rl .rl start bytes kept turned)
    (again : ShiftRow .rr .rr turned kept.reverse back last) :
    back.reverse = bytes ∧ last.cpu.flags.carry = start.cpu.flags.carry := by
  have doubled := forth.leaves_left (.inr rfl)
  have made := again.leaves_reversed (.inr (.inr rfl))
  rw [movedIn_of_carry (.inl rfl)] at doubled
  rw [movedIn_of_carry (.inr rfl), forth.length_eq] at made
  have length : back.reverse.length = bytes.length := by
    rw [List.length_reverse, again.length_eq, List.length_reverse, forth.length_eq]
  -- Both numbers, doubled, and with the carries added, are the same.
  have before : start.cpu.flags.carry.toNat ≤ 1 := Bool.toNat_le _
  have after : last.cpu.flags.carry.toNat ≤ 1 := Bool.toNat_le _
  simp only [Way.Leaves] at doubled made
  have same : Numeral.binary.value back.reverse = Numeral.binary.value bytes := by omega
  have carry : last.cpu.flags.carry.toNat = start.cpu.flags.carry.toNat := by omega
  refine ⟨Numeral.binary_value_inj length same, ?_⟩
  rw [← Bool.ofNat_toNat last.cpu.flags.carry, carry, Bool.ofNat_toNat]

/-- A number of `n` bytes, the lowest first, and the carry that a machine starts with. There has
to be a byte, as the carry at the end is a bit of the number.

1. SLA on the lowest byte and RL on the others double it as far as `n` bytes go, and the carry is
   its old top bit.
2. SRL on the highest byte and RR on the others halve it, and the carry is the remainder.
3. SRA on the highest byte and RR on the others halve it in two's complement, rounding down, and
   the carry is the remainder.
4. RL on all bytes doubles it, adds the old carry and leaves the old top bit in the carry. RR on
   all bytes of that, from the highest down, gives back the number and the carry.

A row tells a sum of the number with itself (`ShiftRow.leaves_left`, `ShiftRow.leaves_reversed`).
What that makes of it is said by `doubled`, `halved` and `halved_signed`. -/
theorem shifted_rows {bytes : List UInt8} (nonempty : bytes ≠ []) (start : Machine M) :
    let n := bytes.length
    let value (bytes : List UInt8) : Nat := Nat.ofDigits 256 (bytes.map UInt8.toNat)
    let number := value bytes
    let top := number.testBit (8 * n - 1)
    let carry := start.cpu.flags.carry
    (∀ kept last, ShiftRow .sla .rl start bytes kept last →
      kept.length = n ∧ value kept = 2 * number % 256 ^ n ∧ last.cpu.flags.carry = top) ∧
    (∀ kept last, ShiftRow .srl .rr start bytes.reverse kept last →
      kept.length = n ∧ value kept.reverse = number / 2 ∧
        last.cpu.flags.carry.toNat = number % 2) ∧
    (∀ kept last, ShiftRow .sra .rr start bytes.reverse kept last →
      kept.length = n ∧
        twosComplement n (value kept.reverse) = twosComplement n number / 2 ∧
        last.cpu.flags.carry.toNat = number % 2) ∧
    (∀ kept turned, ShiftRow .rl .rl start bytes kept turned →
      kept.length = n ∧ value kept = (2 * number + carry.toNat) % 256 ^ n ∧
        turned.cpu.flags.carry = top ∧
        ∀ back last, ShiftRow .rr .rr turned kept.reverse back last →
          back.reverse = bytes ∧ last.cpu.flags.carry = carry) := by
  intro n value number top carry
  have some : n ≠ 0 := fun empty => nonempty (List.eq_nil_of_length_eq_zero empty)
  have numberLt : number < 256 ^ n := Numeral.binary.value_lt fun _ _ => trivial
  have keptLt : ∀ kept : List UInt8, kept.length = n → value kept < 256 ^ n := by
    intro kept length
    rw [← length]
    exact Numeral.binary.value_lt fun _ _ => trivial
  have reversed : bytes.reverse ≠ [] := mt List.reverse_eq_nil_iff.mp nonempty
  have keptLength : ∀ {kept : List UInt8}, kept.length = bytes.reverse.length → kept.length = n :=
    fun length => length.trans List.length_reverse
  refine ⟨?_, ?_, ?_, ?_⟩
  · intro kept last row
    have leaves := row.leaves_left (.inl rfl)
    rw [ShiftRow.movedIn_of_none nonempty fun _ _ => rfl] at leaves
    exact ⟨row.length_eq, doubled some numberLt (keptLt kept row.length_eq) leaves⟩
  · intro kept last row
    have leaves := row.leaves_reversed (.inl rfl)
    rw [ShiftRow.movedIn_of_none reversed fun _ _ => rfl] at leaves
    exact ⟨keptLength row.length_eq, halved leaves⟩
  · intro kept last row
    have leaves := row.leaves_reversed (.inr (.inl rfl))
    rw [ShiftRow.movedIn_sra nonempty] at leaves
    exact ⟨keptLength row.length_eq, halved_signed some numberLt leaves⟩
  · intro kept turned row
    have leaves := row.leaves_left (.inr rfl)
    rw [ShiftRow.movedIn_of_carry (.inl rfl)] at leaves
    obtain ⟨value, out⟩ := doubled some numberLt (keptLt kept row.length_eq) leaves
    exact ⟨row.length_eq, value, out, fun back last again => row.rotated_back again⟩

/-- A negative number of two bytes, halved. -/
theorem shifted_rows_negative :
    let start : Machine Flat := fresh false Flat.zero (.start .silent)
    [(0x01 : UInt8), 0x80] ≠ [] ∧
      twosComplement 2 (Nat.ofDigits 256 ([(0x01 : UInt8), 0x80].map UInt8.toNat)) = -32767 ∧
      ∃ kept last, ShiftRow .sra .rr start [(0x01 : UInt8), 0x80].reverse kept last ∧
        twosComplement 2 (Nat.ofDigits 256 (kept.reverse.map UInt8.toNat)) = -16384 ∧
        last.cpu.flags.carry.toNat = 1 := by
  intro start
  have nonempty : [(0x01 : UInt8), 0x80] ≠ [] := by decide
  have negative : twosComplement 2 (Nat.ofDigits 256 ([(0x01 : UInt8), 0x80].map UInt8.toNat)) =
      -32767 := by decide
  obtain ⟨-, -, signed, -⟩ := shifted_rows nonempty start
  obtain ⟨kept, last, row⟩ := exists_shiftRow .sra .rr [(0x01 : UInt8), 0x80].reverse start
  obtain ⟨-, half, remainder⟩ := signed kept last row
  exact ⟨nonempty, negative, kept, last, row, half.trans (by decide), remainder.trans (by decide)⟩

end Machine

end GameBoy
