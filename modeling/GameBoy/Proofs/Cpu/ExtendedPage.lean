import GameBoy.Proofs.Cpu.Calls

/-!
# `GameBoy.Proofs.Cpu.ExtendedPage`: the instructions behind 0xCB

An instruction of the extended page takes one byte and does one thing to it. What it does is
told here bit by bit: `Shift.bit` and `Shift.out` say where each bit of the new byte and the bit
that is moved out come from, and `BitAction.Makes` what an action makes of a byte and of F.

The processor shifts and masks, and the reference computes by value. Neither is told bit by bit,
so the first part of this module is about bits: where they go when a byte is shifted, and which
of them a mask lets through. Every shift is a shift to the left or to the right with a byte put
in at the end that is left free (`Shift.flag_left`, `Shift.flag_right`), but for the swap, which
is two shifts at once.

The second part puts this together with the reference interpreter, and the third carries it over
to the processor, of which the reference tells all but the cycle counter. The costs are figures
of this module and of the reference, by whether the operand is a register or in memory. Main
statements:

* `BitAction.makes_of_performExtended`: the reference interpreter does just that, and puts the
  new byte where the old one came from, if it does not only look at it.
* `Machine.extended_page`: so does the processor with each of the 256 bytes behind 0xCB.
-/

set_option autoImplicit false

namespace GameBoy

open Reference

/-! ### The bits of a byte -/

namespace Reference

variable (byte other : UInt8) {count : UInt8} {n : Nat}

theorem flag_and : flag (byte &&& other) n = (flag byte n && flag other n) := by
  rw [flag, UInt8.toNat_and, Nat.testBit_and, flag, flag]

theorem flag_or : flag (byte ||| other) n = (flag byte n || flag other n) := by
  rw [flag, UInt8.toNat_or, Nat.testBit_or, flag, flag]

/-- A byte has eight bits. -/
theorem flag_of_le (le : 8 ≤ n) : flag byte n = false := by
  refine Nat.testBit_lt_two_pow (Nat.lt_of_lt_of_le byte.toNat_lt ?_)
  exact Nat.pow_le_pow_right (by omega) le

/-- To the left, bits come from below and the lowest places are left clear. -/
theorem flag_shiftLeft (small : count.toNat < 8) (lt : n < 8) :
    flag (byte <<< count) n = if n < count.toNat then false else flag byte (n - count.toNat) := by
  rw [flag, UInt8.toNat_shiftLeft, Nat.mod_eq_of_lt small, Nat.testBit_mod_two_pow,
    Nat.testBit_shiftLeft, decide_eq_true lt, Bool.true_and]
  split
  · next below => simp [below]
  · next above => simp [Nat.le_of_not_lt above, flag]

/-- To the right, bits come from above, and there are none above the highest place. -/
theorem flag_shiftRight (small : count.toNat < 8) :
    flag (byte >>> count) n = flag byte (n + count.toNat) := by
  rw [flag, UInt8.toNat_shiftRight, Nat.mod_eq_of_lt small, Nat.testBit_shiftRight, flag,
    Nat.add_comm]

/-- A mask has its own bit set and no other. -/
theorem flag_bitMask (bit : Fin 8) (lt : n < 8) : flag (bitMask bit) n = decide (n = bit) := by
  have all : ∀ bit k : Fin 8, flag (bitMask bit) k = decide (k.val = bit) := by decide
  exact all bit ⟨n, lt⟩

/-- The inverse of a mask has its own bit clear and no other. -/
theorem flag_not_bitMask (bit : Fin 8) (lt : n < 8) :
    flag (~~~bitMask bit) n = !decide (n = bit) := by
  have all : ∀ bit k : Fin 8, flag (~~~bitMask bit) k = !decide (k.val = bit) := by decide
  exact all bit ⟨n, lt⟩

end Reference

/-! ### Shifts -/

namespace Shift

/-- Where bit `n` of a shifted byte comes from: a bit that the byte had, the carry, or
nowhere. The two ends are what tells the eight shifts from each other. -/
def bit (shift : Shift) (old : Nat → Bool) (carry : Bool) (n : Nat) : Bool :=
  match shift with
  | .rlc => if n = 0 then old 7 else old (n - 1)
  | .rrc => if n = 7 then old 0 else old (n + 1)
  | .rl => if n = 0 then carry else old (n - 1)
  | .rr => if n = 7 then carry else old (n + 1)
  | .sla => if n = 0 then false else old (n - 1)
  | .sra => if n = 7 then old 7 else old (n + 1)
  | .swap => if n < 4 then old (n + 4) else old (n - 4)
  | .srl => if n = 7 then false else old (n + 1)

/-- The bit that a shift moves out of a byte. A swap moves none. -/
def out (shift : Shift) (old : Nat → Bool) : Bool :=
  match shift with
  | .rlc | .rl | .sla => old 7
  | .rrc | .rr | .sra | .srl => old 0
  | .swap => false

variable (value : UInt8) {n : Nat}

/-- A shift to the left, with a byte that fills the lowest place. -/
theorem flag_left (filler : UInt8) (lt : n < 8) (clear : n ≠ 0 → flag filler n = false) :
    flag (value <<< 1 ||| filler) n = if n = 0 then flag filler 0 else flag value (n - 1) := by
  rw [flag_or, flag_shiftLeft value (by decide) lt]
  show ((if n < 1 then false else flag value (n - 1)) || flag filler n) = _
  by_cases lowest : n = 0
  · simp [lowest]
  · simp [lowest, clear lowest]

/-- A shift to the right, with a byte that fills the highest place. -/
theorem flag_right (filler : UInt8) (clear : n ≠ 7 → flag filler n = false) :
    flag (value >>> 1 ||| filler) n = if n = 7 then flag filler 7 else flag value (n + 1) := by
  rw [flag_or, flag_shiftRight value (by decide)]
  show (flag value (n + 1) || flag filler n) = _
  by_cases highest : n = 7
  · simp [highest, flag_of_le value (Nat.le_refl 8)]
  · simp [highest, clear highest]

/-- Each bit of a shifted byte comes from where it should. Seven of the shifts move by one place
and fill the place left free, and for each it remains to say which byte fills it and that no
other bit of that byte is set. In a rotation that is the byte itself, moved by seven places to
the other side. The swap is two shifts by four places, of which one is seen in each half. -/
theorem flag_result (shift : Shift) (carry : Bool) (lt : n < 8) :
    flag (shift.result value carry) n = shift.bit (flag value) carry n := by
  have lowest : ∀ k < 8, flag 0x01 k = decide (k = 0) := fun k => flag_bitMask 0
  have highest : ∀ k < 8, flag 0x80 k = decide (k = 7) := fun k => flag_bitMask 7
  cases shift with
  | rlc =>
    have wrapped : ∀ k, flag (value >>> 7) k = flag value (k + 7) := fun k =>
      flag_shiftRight value (by decide)
    rw [result, flag_left value _ lt, wrapped, bit]
    intro above
    rw [wrapped]
    exact flag_of_le value (by omega)
  | rrc =>
    have wrapped : ∀ k < 8, flag (value <<< 7) k = if k < 7 then false else flag value (k - 7) :=
      fun k => flag_shiftLeft value (by decide)
    rw [result, flag_right value _, wrapped 7 (by omega), bit]
    · rfl
    · intro below
      rw [wrapped n lt, if_pos (by omega)]
  | rl =>
    rw [result, flag_left value _ lt, bit]
    · cases carry <;> rfl
    · intro above
      cases carry with
      | false => exact Nat.zero_testBit n
      | true => exact (lowest n lt).trans (decide_eq_false above)
  | rr =>
    rw [result, flag_right value _, bit]
    · cases carry <;> rfl
    · intro below
      cases carry with
      | false => exact Nat.zero_testBit n
      | true => exact (highest n lt).trans (decide_eq_false below)
  | sla =>
    have nothing : value <<< 1 = value <<< 1 ||| 0 := UInt8.or_zero.symm
    rw [result, nothing, flag_left value 0 lt fun _ => Nat.zero_testBit n]
    rfl
  | sra =>
    have sign : ∀ k < 8, flag (value &&& 0x80) k = (flag value k && decide (k = 7)) := by
      intro k small
      rw [flag_and, highest k small]
    rw [result, flag_right value _, sign 7 (by omega), bit]
    · simp
    · intro below
      simp [sign n lt, below]
  | swap =>
    rw [result, flag_or, flag_shiftLeft value (by decide) lt, flag_shiftRight value (by decide),
      bit]
    show ((if n < 4 then false else flag value (n - 4)) || flag value (n + 4)) = _
    split
    · rfl
    · next upper => rw [flag_of_le value (by omega : 8 ≤ n + 4), Bool.or_false]
  | srl =>
    have nothing : value >>> 1 = value >>> 1 ||| 0 := UInt8.or_zero.symm
    rw [result, nothing, flag_right value 0 fun _ => Nat.zero_testBit n]
    rfl

/-- The carry that a shift leaves is the bit that it moves out. -/
theorem carryOut_eq (shift : Shift) : shift.carryOut value = shift.out (flag value) := by
  have looked : ∀ mask : UInt8, ∀ bit : Fin 8, mask = bitMask bit →
      (value &&& mask != 0) = flag value bit := by
    rintro mask bit rfl
    rw [bne, and_bitMask_beq_zero, Bool.not_not]
  cases shift with
  | rlc | rl | sla => exact looked 0x80 7 rfl
  | rrc | rr | sra | srl => exact looked 0x01 0 rfl
  | swap => rfl

/-- What a shift makes of a byte and of F. -/
theorem makes_shifted (shift : Shift) (value : UInt8) (carry : Bool) :
    (∀ n < 8, flag (shifted shift value carry).1 n = shift.bit (flag value) carry n) ∧
      (shifted shift value carry).2 =
        packFlags ((shifted shift value carry).1 = 0) false false (shift.out (flag value)) := by
  rw [← shifted_eq]
  refine ⟨fun n => shift.flag_result value carry, ?_⟩
  show (shift.apply value carry).2.toByte = _
  rw [toByte_eq, ← carryOut_eq]
  simp only [apply, stored, Flags.zeroIf, Flags.none, Bool.beq_eq_decide_eq]

end Shift

/-! ### Actions -/

/-- What an action makes of a byte, given F, and what it makes of F. A shift takes the carry in
and leaves the bit that it moves out, a test leaves whether the bit is clear and keeps the
carry, and to reset or set a bit leaves F alone. -/
def BitAction.Makes (action : BitAction) (old f new after : UInt8) : Prop :=
  match action with
  | .shift kind =>
    (∀ n < 8, flag new n = kind.bit (flag old) (flag f 4) n) ∧
      after = packFlags (new = 0) false false (kind.out (flag old))
  | .test bit => new = old ∧ after = packFlags (!flag old bit) false true (flag f 4)
  | .reset bit => (∀ n < 8, flag new n = (flag old n && n != bit)) ∧ after = f
  | .set bit => (∀ n < 8, flag new n = (flag old n || n == bit)) ∧ after = f

/-- Whether an action only looks at its byte. -/
def BitAction.looks : BitAction → Bool
  | .test _ => true
  | .shift _ | .reset _ | .set _ => false

/-- Actions with `x = 1` only look. -/
theorem BitAction.looks_decodeExtended (fields : Fields) :
    (decodeExtended fields).action.looks = decide (fields.x = 1) := by
  obtain ⟨x, y, z⟩ := fields
  match x with
  | 0 | 1 | 2 | 3 => rfl

/-- The figures of the extended page by the fields of the byte. -/
theorem Reference.extendedCycles_decodeExtended (fields : Fields) (operand : Operand) :
    extendedCycles (decodeExtended fields).action operand =
      match operand with
      | .reg _ => 2
      | .atHL => if fields.x = 1 then 3 else 4 := by
  obtain ⟨x, y, z⟩ := fields
  cases operand with
  | reg reg => rfl
  | atHL =>
    match x with
    | 0 | 1 | 2 | 3 => rfl

/-- An instruction of the extended page makes a new byte of its operand, puts it where the old
one was if it does not only look at it, and leaves all else alone but F. -/
theorem BitAction.makes_of_performExtended (memory : UInt16 → UInt8) (state : State)
    (instruction : BitInstruction) :
    let operand := instruction.operand
    let looks := instruction.action.looks
    ∃ new f, instruction.action.Makes (get memory state.file operand) state.file.f new f ∧
      performExtended memory state instruction =
        ⟨state.with
            (if looks then { state.file with f } else put { state.file with f } operand new),
          if looks then [] else putWrites state.file operand new,
          extendedCycles instruction.action operand⟩ := by
  obtain ⟨action, operand⟩ := instruction
  cases action with
  | shift kind => exact ⟨_, _, kind.makes_shifted _ _, rfl⟩
  | test bit => exact ⟨_, _, ⟨rfl, rfl⟩, rfl⟩
  | reset bit =>
    refine ⟨_, _, ⟨fun n lt => ?_, rfl⟩, rfl⟩
    rw [← withoutBit_eq, flag_and, flag_not_bitMask bit lt]
    rfl
  | set bit =>
    refine ⟨_, _, ⟨fun n lt => ?_, rfl⟩, rfl⟩
    rw [← withBit_eq, flag_or, flag_bitMask bit lt]
    rfl

/-- The opcode 0xCB does what the byte behind it says. That byte is skipped first, which does not
move an operand in memory. -/
theorem Reference.makes_of_execute (memory : UInt16 → UInt8) (state : State) :
    let fields := Fields.ofByte (memory state.file.pc)
    let instruction := decodeExtended fields
    let operand := instruction.operand
    let file := skip state.file 1
    ∃ new f, instruction.action.Makes (get memory file operand) file.f new f ∧
      Reference.execute memory state 0xCB =
        (.ok (extendedCycles instruction.action operand),
          ended (state.with
            (if fields.x = 1 then { file with f } else put { file with f } operand new)),
          if fields.x = 1 then [] else putWrites file operand new) := by
  intro fields instruction operand file
  obtain ⟨new, f, makes, effect⟩ :=
    BitAction.makes_of_performExtended memory (state.with file) instruction
  refine ⟨new, f, makes, ?_⟩
  have page : Reference.execute memory state 0xCB =
      (.ok (performExtended memory (state.with file) instruction).cost,
        ended (performExtended memory (state.with file) instruction).state,
        (performExtended memory (state.with file) instruction).writes) := rfl
  have looks : instruction.action.looks = decide (fields.x = 1) :=
    BitAction.looks_decodeExtended fields
  rw [page, effect, looks]
  simp only [decide_eq_true_eq]
  rfl

/-! ### The processor -/

/-- The byte behind 0xCB is split into fields, which name an action by `x` and `y` and an operand
by `z` (`Reference.decodeExtended`). On any memory and from any state:

1. The action makes of the operand's bits and of F what it should (`BitAction.Makes`).
2. It costs two cycles on a register. On a byte in memory it costs three if the byte is only
   looked at, which is `x = 1`, and else four.
3. The new byte goes where the old one was unless it was only looked at, and the program counter
   moves behind the byte. All other registers are as they were.
4. A pending enable of interrupts comes closer, the cycles are counted, and nothing else changes
   in the processor.
5. An operand in memory is written once or, if it is looked at, not at all, and the memory changes
   by that alone.

The reference tells all of it but the cycle counter (`Machine.execute_told`,
`Reference.makes_of_execute`), so what is left is to see that the operand is where it was before
the byte was fetched, and that a processor is told by its view and its cycles. -/
theorem Machine.extended_page {M : Type} [Memory M] (machine : Machine M) :
    let fields := Fields.ofByte (machine.read machine.cpu.regs.pc)
    let action := (decodeExtended fields).action
    let operand := (decodeExtended fields).operand
    let file := machine.cpu.regs.bytes
    let run := machine.execute 0xCB
    let writes := (machine.watched.execute 0xCB).2.witnessed
    let cost :=
      match operand with
      | .reg _ => 2
      | .atHL => if fields.x = 1 then 3 else 4
    ∃ new f, action.Makes (machine.operand operand) file.f new f ∧
      run.1 = .ok cost ∧
      run.2.cpu.regs.bytes =
        (if fields.x = 1 then { file with f, pc := file.pc + 1 }
        else put { file with f, pc := file.pc + 1 } operand new) ∧
      run.2.cpu =
        { machine.cpu with
          regs := run.2.cpu.regs
          ime := machine.cpu.ime || machine.cpu.enableDelay = 1
          enableDelay := machine.cpu.enableDelay - 1
          cycles := machine.cpu.cycles + cost } ∧
      writes = (if fields.x = 1 then [] else putWrites file operand new) ∧
      run.2.memory = Memory.writeAll machine.memory writes := by
  intro fields action operand file run writes cost
  obtain ⟨outcome, view, cycles, wrote, memory⟩ := machine.execute_told 0xCB
  obtain ⟨new, f, makes, told⟩ :=
    makes_of_execute (Memory.read machine.memory) machine.cpu.view
  have figure : extendedCycles action operand = cost := extendedCycles_decodeExtended fields operand
  rw [told] at outcome view cycles wrote memory
  -- An operand is where it was before the byte was fetched.
  have same : Reference.get (Memory.read machine.memory) (skip file 1) operand =
      machine.operand operand := by
    rw [operand_eq]
    cases operand <;> rfl
  have place : putWrites (skip file 1) operand new = putWrites file operand new := by
    cases operand <;> rfl
  have registers : run.2.cpu.regs.bytes =
      (if fields.x = 1 then { file with f, pc := file.pc + 1 }
      else put { file with f, pc := file.pc + 1 } operand new) := congrArg State.file view
  refine ⟨new, f, ?_, ?_, registers, ?_, ?_, ?_⟩
  · rw [← same]
    exact makes
  · rw [← figure]
    exact outcome
  · -- Outside of the register file the view says what is left, and the cycles are counted.
    refine Cpu.view_inj.mp ⟨?_, ?_⟩
    · show run.2.cpu.view = ⟨run.2.cpu.regs.bytes, _, _, _, _⟩
      rw [registers]
      exact view
    · rw [← figure]
      exact cycles
  · rw [← place]
    exact wrote
  · rw [memory]
    exact congrArg _ wrote.symm

/-- The byte 0x7C looks at bit 7 of H. -/
example : decodeExtended (Fields.ofByte 0x7C) = ⟨.test 7, .reg .h⟩ := by decide

end GameBoy
