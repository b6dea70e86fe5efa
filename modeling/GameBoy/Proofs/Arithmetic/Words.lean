import GameBoy.Proofs.Arithmetic.Binary

/-!
# `GameBoy.Proofs.Arithmetic.Words`: words, added as two columns

The processor adds words in two places: a pair to HL, and a signed byte to the stack pointer.
Each works out its own carries, out of bits 11 and 15 of a word, or out of bits 3 and 7 of the
pointer. Both are what the sum of two bytes, taken twice, makes of the lower and then of the
upper bytes. A signed byte is first widened to a word, so its upper byte is 0x00 or 0xFF; the
flags are then those of the lower column, where the byte counts as unsigned.

The words come out by the lemma on long numbers: the lower sum and the upper one make up the
whole (`Way.Leaves.cons`). What that does not tell is the half carry, which is a carry out of the
middle of a byte. It is compared by itself: all that reaches bit 12 of a sum from its lower bytes
is their carry. The columns on the other side are run by machines that need not have anything to
do with the one that adds the words, so the statement speaks of any of them.

Main statements:

* `addWords_eq`, `offsetStack_eq`: the two sums, by columns.
* `Machine.word_sums`: the opcodes leave what two columns would leave in A.
-/

set_option autoImplicit false

namespace GameBoy

/-! ### Sums of words -/

/-- A word is what its halves count for. -/
theorem toNat_eq_halves (word : UInt16) :
    word.toNat = (lowByte word).toNat + 256 * (highByte word).toNat := by
  have joined := toNat_joinBytes (highByte word) (lowByte word)
  rw [joinBytes_highByte_lowByte] at joined
  omega

/-- The sum of two words is that of the lower bytes and, with its carry, that of the upper
bytes. The flags are those of the upper sum, but for the zero flag, which is kept. The word and
the carry come from the two sums together; the half carry is compared bit by bit of the sum. -/
theorem addWords_eq (a b : UInt16) (flags : Flags) :
    let lower := addBytes (lowByte a) (lowByte b) false
    let upper := addBytes (highByte a) (highByte b) lower.2.carry
    addWords a b flags = (joinBytes upper.1 lower.1, { upper.2 with zero := flags.zero }) := by
  intro lower upper
  have low : Way.sum.Leaves 256 (lowByte a).toNat (lowByte b).toNat false lower.1.toNat
      lower.2.carry := addBytes_leaves _ _ _
  have high : Way.sum.Leaves 256 (highByte a).toNat (highByte b).toNat lower.2.carry
      upper.1.toNat upper.2.carry := addBytes_leaves _ _ _
  have halvesA := toNat_eq_halves a
  have halvesB := toNat_eq_halves b
  have whole : Way.sum.Leaves 65536 a.toNat b.toNat false (joinBytes upper.1 lower.1).toNat
      upper.2.carry := by
    rw [toNat_joinBytes, Nat.add_comm, halvesA, halvesB]
    exact low.cons high
  obtain ⟨value, out⟩ := whole.sum_eq (UInt16.toNat_lt _)
  have word : a + b = joinBytes upper.1 lower.1 := by
    apply UInt16.toNat_inj.mp
    rw [value, UInt16.toNat_add]
    rfl
  have carry : decide (0xFFFF < a.toNat + b.toNat) = upper.2.carry := by
    rw [Bool.eq_iff_iff, decide_eq_true_iff, out]
    rfl
  -- Of the lower bytes all that reaches bit 12 is their carry.
  have half : decide (0x0FFF < a.toNat % 0x1000 + b.toNat % 0x1000) = upper.2.halfCarry := by
    show _ = decide (0x0F < (highByte a).toNat % 16 + (highByte b).toNat % 16 +
      lower.2.carry.toNat)
    have lowA : (lowByte a).toNat < 256 := (lowByte a).toNat_lt
    have lowB : (lowByte b).toNat < 256 := (lowByte b).toNat_lt
    have lowSum : lower.1.toNat < 256 := lower.1.toNat_lt
    simp only [Way.Leaves, Bool.toNat_false, Nat.add_zero] at low
    rw [decide_eq_decide]
    omega
  rw [addWords, word, half, carry]
  rfl

/-- A signed byte added to the stack pointer is the sum of the word it is widened to, with the
flags of the lower sum and the zero flag clear. The lower byte of that word is the byte itself, so
the lower sum is one of bytes as they are, whatever their sign. -/
theorem offsetStack_eq (sp : UInt16) (offset : UInt8) :
    let lower := addBytes (lowByte sp) offset false
    let upper := addBytes (highByte sp) (if offset < 0x80 then 0x00 else 0xFF) lower.2.carry
    offsetStack sp offset = (joinBytes upper.1 lower.1, { lower.2 with zero := false }) := by
  intro lower upper
  have sum := congrArg Prod.fst (addWords_eq sp (signExtend offset) Flags.none)
  rw [signExtend, lowByte_joinBytes, highByte_joinBytes] at sum
  have word : sp + signExtend offset = joinBytes upper.1 lower.1 := sum
  have halves := toNat_eq_halves sp
  have low : (lowByte sp).toNat < 256 := (lowByte sp).toNat_lt
  have half : decide (0x0F < sp.toNat % 16 + offset.toNat % 16) = lower.2.halfCarry := by
    show _ = decide (0x0F < (lowByte sp).toNat % 16 + offset.toNat % 16 + 0)
    rw [decide_eq_decide]
    omega
  have carry : decide (0xFF < sp.toNat % 0x100 + offset.toNat) = lower.2.carry := by
    show _ = decide (0xFF < (lowByte sp).toNat + offset.toNat + 0)
    rw [decide_eq_decide]
    omega
  rw [offsetStack, word, half, carry]
  rfl

namespace Machine

variable {M : Type} [Memory M] {before after : Machine M}

/-! ### Words in the processor -/

/-- A column without correction leaves in A and the flags what the operation makes of the two
bytes and the carry before it. -/
theorem Column.result_eq {op : AluOp} {x y : UInt8} (column : Column false op x y before after) :
    ∃ flags : Flags, flags.carry = before.cpu.flags.carry ∧ after.result = op.apply x y flags := by
  cases column with
  | intro loaded opcode accumulator carry combines =>
    refine ⟨loaded.cpu.flags, carry, ?_⟩
    rw [result_finish, ← accumulator]
    exact combines.result_eq

/-- Two columns, the first with ADD and the second with ADC, leave the two sums of bytes, and no
subtract flag. -/
theorem columns_results {lower upper : Machine M} {x x' y y' : UInt8}
    (first : Column false .add x y before lower) (second : Column false .adc x' y' lower upper) :
    lower.result = addBytes x y false ∧ lower.cpu.flags.subtract = false ∧
      upper.result = addBytes x' y' (addBytes x y false).2.carry ∧
      upper.cpu.flags.subtract = false := by
  obtain ⟨_, -, low⟩ := first.result_eq
  obtain ⟨flags, carry, high⟩ := second.result_eq
  have between : lower.cpu.flags.carry = (addBytes x y false).2.carry :=
    congrArg (·.2.carry) low
  refine ⟨low, congrArg (·.2.subtract) low, ?_, congrArg (·.2.subtract) high⟩
  rw [high, ← between, ← carry]
  rfl

/-- The opcodes that add a pair to HL, and the pair. -/
def pairAdditions : List (UInt8 × Reg16) := [(0x09, .bc), (0x19, .de), (0x29, .hl), (0x39, .sp)]

/-- Such an opcode leaves the sum in HL and the flags. -/
theorem execute_addHL {opcode : UInt8} {src : Reg16} (listed : (opcode, src) ∈ pairAdditions)
    (machine : Machine M) :
    ((machine.execute opcode).2.cpu.regs.hl.word, (machine.execute opcode).2.cpu.flags) =
      addWords machine.cpu.regs.hl.word (machine.cpu.regs.get16 src) machine.cpu.flags := by
  have decoded : Opcode.decode opcode = some (.addHL src) := by
    have all : ∀ entry ∈ pairAdditions, Opcode.decode entry.1 = some (.addHL entry.2) := by decide
    exact all (opcode, src) listed
  rw [Cpu.flags, regs_execute decoded]
  let sum := addWords machine.cpu.regs.hl.word (machine.cpu.regs.get16 src) machine.cpu.flags
  show (sum.1, (machine.cpu.regs.setFlags sum.2).flags) = sum
  rw [Registers.flags_setFlags]

/-- The opcode 0xE8 moves the stack pointer by the byte behind it. -/
theorem execute_addSP (machine : Machine M) :
    ((machine.execute 0xE8).2.cpu.regs.sp, (machine.execute 0xE8).2.cpu.flags) =
      offsetStack machine.cpu.regs.sp (machine.read machine.cpu.regs.pc) := by
  have decoded : Opcode.decode 0xE8 = some .addSP := rfl
  rw [Cpu.flags, regs_execute decoded]
  let sum := offsetStack machine.cpu.regs.sp (machine.read machine.cpu.regs.pc)
  show (sum.1, (machine.cpu.regs.setFlags sum.2).flags) = sum
  rw [Registers.flags_setFlags]

/-- The opcode 0xF8 leaves the same word in HL, and the same flags. -/
theorem execute_loadHLSP (machine : Machine M) :
    ((machine.execute 0xF8).2.cpu.regs.hl.word, (machine.execute 0xF8).2.cpu.flags) =
      offsetStack machine.cpu.regs.sp (machine.read machine.cpu.regs.pc) := by
  have decoded : Opcode.decode 0xF8 = some .loadHLSP := rfl
  rw [Cpu.flags, regs_execute decoded]
  let sum := offsetStack machine.cpu.regs.sp (machine.read machine.cpu.regs.pc)
  show (sum.1, (machine.cpu.regs.setFlags sum.2).flags) = sum
  rw [Registers.flags_setFlags]

/-- The opcode 0xF9 copies HL to the stack pointer. -/
theorem execute_loadSPHL (machine : Machine M) :
    ((machine.execute 0xF9).2.cpu.regs.sp, (machine.execute 0xF9).2.cpu.flags) =
      (machine.cpu.regs.hl.word, machine.cpu.flags) := by
  have decoded : Opcode.decode 0xF9 = some .loadSPHL := rfl
  rw [Cpu.flags, regs_execute decoded]
  rfl

/-- The stack pointer moved by a signed byte is the sum of the two as integers, modulo
`2 ^ 16`: the widened byte counts for the signed one. -/
theorem toNat_offsetStack (sp : UInt16) (offset : UInt8) :
    ((offsetStack sp offset).1.toNat : Int) = (sp.toNat + Reference.signed offset) % 65536 := by
  have moved : (offsetStack sp offset).1 = Reference.moved sp offset :=
    Reference.add_signExtend sp offset
  rw [moved, Reference.moved, UInt16.ofInt, UInt16.toNat_ofNat']
  omega

/-- The opcodes that add words, against ADD on the lower bytes and then ADC on the upper bytes.
The columns may be run by any machines at all.

1. There are machines that run them, for any four bytes.
2. A pair added to HL leaves the word that the columns leave in A, byte by byte, with the half
   carry and the carry of the upper column. The zero flag stays as it was.
3. A signed byte added to the stack pointer moves it by the signed value, modulo `2 ^ 16`.
4. The word is the one that the columns leave, with the half carry and the carry of the lower
   column. The zero flag is clear.
5. Putting the moved pointer into HL and copying it back gives the same pointer and flags.

Each opcode leaves one of two functions of the registers (`execute_addHL`, `execute_addSP`), those
are sums of bytes (`addWords_eq`, `offsetStack_eq`), and so are the columns
(`columns_results`). -/
theorem word_sums (machine : Machine M) :
    let regs := machine.cpu.regs
    let offset := machine.read regs.pc
    let extension : UInt8 := if offset < 0x80 then 0x00 else 0xFF
    let moved := (machine.execute 0xE8).2.cpu
    let copied := ((machine.execute 0xF8).2.execute 0xF9).2.cpu
    (∀ (x x' y y' : UInt8) (before : Machine M), ∃ lower upper,
      Column false .add x y before lower ∧ Column false .adc x' y' lower upper) ∧
    (∀ opcode src (before lower upper : Machine M), (opcode, src) ∈ pairAdditions →
      Column false .add (lowByte regs.hl.word) (lowByte (regs.get16 src)) before lower →
      Column false .adc (highByte regs.hl.word) (highByte (regs.get16 src)) lower upper →
        (machine.execute opcode).2.cpu.regs.hl.word =
            joinBytes upper.cpu.regs.a lower.cpu.regs.a ∧
          (machine.execute opcode).2.cpu.flags =
            ⟨machine.cpu.flags.zero, false, upper.cpu.flags.halfCarry, upper.cpu.flags.carry⟩) ∧
    (moved.regs.sp.toNat : Int) = (regs.sp.toNat + Reference.signed offset) % 65536 ∧
    (∀ before lower upper : Machine M, Column false .add (lowByte regs.sp) offset before lower →
      Column false .adc (highByte regs.sp) extension lower upper →
        moved.regs.sp = joinBytes upper.cpu.regs.a lower.cpu.regs.a ∧
          moved.flags = ⟨false, false, lower.cpu.flags.halfCarry, lower.cpu.flags.carry⟩) ∧
    copied.regs.sp = moved.regs.sp ∧ copied.flags = moved.flags := by
  intro regs offset extension moved copied
  have sum : (moved.regs.sp, moved.flags) = offsetStack regs.sp offset := machine.execute_addSP
  have twice : (copied.regs.sp, copied.flags) = (moved.regs.sp, moved.flags) := by
    rw [sum]
    exact (execute_loadSPHL _).trans machine.execute_loadHLSP
  refine ⟨?_, ?_, ?_, ?_, congrArg Prod.fst twice, congrArg Prod.snd twice⟩
  · intro x x' y y' before
    obtain ⟨lower, first⟩ := exists_column false .add x y before
    obtain ⟨upper, second⟩ := exists_column false .adc x' y' lower
    exact ⟨lower, upper, first, second⟩
  · intro opcode src before lower upper listed first second
    obtain ⟨low, -, high, clear⟩ := columns_results first second
    have added := execute_addHL listed machine
    rw [addWords_eq, ← high, ← low] at added
    refine ⟨congrArg Prod.fst added, (congrArg Prod.snd added).trans ?_⟩
    exact congrArg (Flags.mk _ · _ _) clear
  · rw [show moved.regs.sp = _ from congrArg Prod.fst sum]
    exact toNat_offsetStack regs.sp offset
  · intro before lower upper first second
    obtain ⟨low, clear, high, -⟩ := columns_results first second
    rw [offsetStack_eq, ← high, ← low] at sum
    refine ⟨congrArg Prod.fst sum, (congrArg Prod.snd sum).trans ?_⟩
    exact congrArg (Flags.mk _ · _ _) clear

end Machine

end GameBoy
