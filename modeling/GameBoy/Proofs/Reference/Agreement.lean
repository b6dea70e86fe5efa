import GameBoy.Proofs.Memory.Observation
import GameBoy.Proofs.Reference.Interpreter

/-!
# `GameBoy.Proofs.Reference.Agreement`: the processor against the reference

`Cpu.view` is what the reference interpreter knows of a processor: all of it but
the cycle counter (`Cpu.view_inj`). The two are compared from the inside out.

First the helpers: fetching a byte or a word, reading and writing an operand, pushing
and popping. Each gets one lemma that says what is seen of it, in the words of the
reference (`Cpu.observe_fetchByte` and those after it). Then what an instruction may
leave: a value in an operand, a result with its flags, a word (`effect_value`,
`effect_result`, `effect_word`). Then the instructions, a case for each: the
helpers are rewritten, the arithmetic is the reference's by `GameBoy.Proofs.Reference.Values`,
and both sides are the same record. No case looks into a helper again.

Three things need care, and have lemmas of their own. Flags are stored before an
operand is written, which must not move the operand (`putWrites_setFlags`). An operand
in memory is addressed after the program counter has moved, which does not move it
either. And a condition is looked at after a word was fetched (`taken_jump`).

Main statements:

* `Reference.perform_eq`: an instruction has the effect the reference gives.
* `Reference.observe_execute`: so has an opcode, with the pending enable that comes closer.
* `Reference.execute_refines`: on every memory, running an opcode ends in the
  registers, the interrupt state, the writes and the cost or trap of the reference.
-/

set_option autoImplicit false

namespace GameBoy

open Reference Transaction

/-- What the reference interpreter knows of a processor. -/
def Cpu.view (cpu : Cpu) : State where
  file := cpu.regs.bytes
  ime := cpu.ime
  enableDelay := cpu.enableDelay
  halted := cpu.halted
  stopped := cpu.stopped

namespace Cpu

/-- The view leaves out the cycle counter and nothing else, since a register file is told by its
bytes. So what the reference says of a view it says of the processor. -/
theorem view_inj {left right : Cpu} :
    left.view = right.view ∧ left.cycles = right.cycles ↔ left = right := by
  constructor
  · rintro ⟨view, cycles⟩
    have regs : left.regs = right.regs := Registers.bytes_inj.mp (congrArg State.file view)
    obtain ⟨file, ime, enableDelay, halted, stopped, cycles'⟩ := left
    obtain ⟨file', ime', enableDelay', halted', stopped', cycles''⟩ := right
    obtain ⟨-, rfl, rfl, rfl, rfl⟩ := State.mk.inj view
    subst regs cycles
    rfl
  · rintro rfl
    exact ⟨rfl, rfl⟩

/-! ### The view of an updated processor -/

/-- Setting the flags replaces F. -/
theorem view_setFlags (cpu : Cpu) (flags : Flags) :
    (cpu.setFlags flags).view = cpu.view.with { cpu.view.file with f := flags.toByte } := by
  simp only [view, setFlags, Registers.bytes_setFlags, State.with]

/-- Writing the accumulator replaces A. -/
theorem view_setA (cpu : Cpu) (value : UInt8) :
    (cpu.setA value).view = cpu.view.with { cpu.view.file with a := value } := by
  simp only [view, setA, Registers.bytes_setA, State.with]

/-- Writing a word register replaces its bytes. -/
theorem view_set16 (cpu : Cpu) (reg : Reg16) (value : UInt16) :
    (cpu.set16 reg value).view = cpu.view.with (cpu.view.file.set16 reg value) := by
  simp only [view, set16, Registers.bytes_set16, State.with]

/-- The flags are those of F. -/
theorem flags_eq (cpu : Cpu) :
    cpu.flags = ⟨flag cpu.view.file.f 7, flag cpu.view.file.f 6, flag cpu.view.file.f 5,
      flag cpu.view.file.f 4⟩ := ofByte_eq cpu.regs.af.low

/-- Letting a pending enable come closer ends an instruction. The processor counts down by
cases, the reference subtracts. -/
theorem view_settleEnable (cpu : Cpu) (cost : Nat) :
    (cpu.settleEnable.spend cost).view = ended cpu.view := by
  obtain ⟨regs, ime, delay, halted, stopped, cycles⟩ := cpu
  match delay with
  | 0 => simp [settleEnable, spend, view, ended]
  | 1 => simp [settleEnable, spend, view, ended]
  | delay + 2 => simp [settleEnable, spend, view, ended]

/-! ### What is seen of the helpers -/

variable {α M : Type} [Memory M] (cpu : Cpu) (memory : M)

/-- A fetched byte is the one at the program counter. -/
theorem observe_fetchByte (next : UInt8 × Cpu → Transaction α) :
    (cpu.fetchByte.bind next).observe memory =
      (next (Memory.read memory cpu.regs.pc, cpu.jump (cpu.regs.pc + 1))).observe memory := rfl

/-- A fetched word is the next two bytes, the lower one first. The program counter may come
round between the two. -/
theorem observe_fetchWord (next : UInt16 × Cpu → Transaction α) :
    (cpu.fetchWord.bind next).observe memory =
      (next (wordOf (Memory.read memory (cpu.regs.pc + 1)) (Memory.read memory cpu.regs.pc),
        cpu.jump (cpu.regs.pc + 2))).observe memory := by
  have two : cpu.regs.pc + 2 = cpu.regs.pc + 1 + 1 := by
    rw [UInt16.add_assoc]
    rfl
  rw [← joinBytes_eq_wordOf, two]
  rfl

/-- A popped word is the top of the stack. -/
theorem observe_popWord (next : UInt16 × Cpu → Transaction α) :
    (cpu.popWord.bind next).observe memory =
      (next (top (Memory.read memory) cpu.view.file,
        { cpu with regs.sp := cpu.regs.sp + 2 })).observe memory := by
  rw [top, ← joinBytes_eq_wordOf]
  rfl

/-- A pushed word is written upper byte first, and what comes next is done on the memory that
holds both bytes. -/
theorem observe_pushWord (value : UInt16) (next : Cpu → Transaction α) :
    (cpu.pushWord value |>.bind next).observe memory =
      let writes := pushWrites cpu.view.file value
      let rest := (next { cpu with regs.sp := cpu.regs.sp - 2 }).observe
        (Memory.writeAll memory writes)
      (rest.1, writes ++ rest.2) := by
  rw [observe_bind]
  simp only [pushWord, pushWrites, ← highByte_eq_upperOf, ← lowByte_eq_lowerOf]
  rfl

/-- A byte operand is read from the register file or from memory, where the pair HL says. -/
theorem observe_readOperand (operand : Operand) (next : UInt8 → Transaction α) :
    (cpu.readOperand operand |>.bind next).observe memory =
      (next (Reference.get (Memory.read memory) cpu.view.file operand)).observe memory := by
  cases operand with
  | reg reg =>
    rw [Reference.get, view, ← Registers.get8_eq]
    rfl
  | atHL =>
    rw [Reference.get, hl, view, Registers.bytes, ← Pair.word_eq]
    rfl

/-- The processor after a value went to a byte operand. -/
def placed (operand : Operand) (value : UInt8) : Cpu :=
  match operand with
  | .reg reg => { cpu with regs := cpu.regs.set8 reg value }
  | .atHL => cpu

/-- A byte operand is written in the register file or in memory. -/
theorem observe_writeOperand (operand : Operand) (value : UInt8) (next : Cpu → Transaction α) :
    (cpu.writeOperand operand value |>.bind next).observe memory =
      let writes := putWrites cpu.view.file operand value
      let rest := (next (cpu.placed operand value)).observe (Memory.writeAll memory writes)
      (rest.1, writes ++ rest.2) := by
  rw [observe_bind]
  cases operand with
  | reg reg => rfl
  | atHL =>
    rw [putWrites, hl, view, Registers.bytes, ← Pair.word_eq]
    rfl

/-- What a byte operand in the register file is given shows there. -/
theorem view_placed (operand : Operand) (value : UInt8) :
    (cpu.placed operand value).view = cpu.view.with (put cpu.view.file operand value) := by
  cases operand with
  | reg reg => simp only [placed, view, Registers.bytes_set8, put, State.with]
  | atHL => rfl

end Cpu

namespace Reference

variable {M : Type} [Memory M]

/-- What was seen of an instruction, told as an effect. -/
def Effect.ofObserved (seen : (Nat × Cpu) × List (UInt16 × UInt8)) : Effect :=
  ⟨seen.1.2.view, seen.2, seen.1.1⟩

/-- Where an operand in memory lies does not depend on the flags. -/
theorem putWrites_setFlags (cpu : Cpu) (operand : Operand) (result : UInt8 × Flags) :
    putWrites (cpu.setFlags result.2).view.file operand result.1 =
      putWrites cpu.view.file operand (stored result).1 := by
  rw [Cpu.view_setFlags]
  cases operand <;> rfl

/-- The flags as the reference takes them from F. -/
theorem carry_eq (cpu : Cpu) : cpu.flags.carry = flag cpu.view.file.f 4 := by
  rw [Cpu.flags_eq]

/-- A pointer gives the address that the reference reads off the bytes. -/
theorem use_fst (pointer : Pointer) (cpu : Cpu) :
    (pointer.use cpu.regs).1 = pointed cpu.view.file pointer := by
  cases pointer with
  | bc | de | hlUp | hlDown => exact Pair.word_eq _

/-- A pointer steps as the reference steps it. -/
theorem use_snd (pointer : Pointer) (cpu : Cpu) :
    (pointer.use cpu.regs).2.bytes = stepped cpu.view.file pointer := by
  cases pointer with
  | bc | de => rfl
  | hlUp | hlDown =>
    simp only [Pointer.use, Registers.bytes_set16, Pair.word_eq]
    rfl

/-- Conditions look at the stored flags. -/
theorem holds_eq (condition : Condition) (cpu : Cpu) :
    condition.holds cpu.flags = holds cpu.view.file.f condition := by
  rw [Cpu.flags_eq]
  cases condition <;> rfl

/-- Optional conditions look at the stored flags. -/
theorem taken_eq (condition : Option Condition) (cpu : Cpu) :
    Condition.taken condition cpu.flags = taken cpu.view.file.f condition := by
  cases condition with
  | none => rfl
  | some condition => exact holds_eq condition cpu

/-- Going on elsewhere does not change whether a condition holds. -/
theorem taken_jump (condition : Option Condition) (cpu : Cpu) (target : UInt16) :
    Condition.taken condition (cpu.jump target).flags = taken cpu.view.file.f condition :=
  taken_eq condition cpu

/-- An address in the topmost page has 0xFF for its upper byte. -/
theorem topPage_eq (offset : UInt8) : joinBytes 0xFF offset = topPage offset :=
  joinBytes_eq_wordOf 0xFF offset

/-- Inverting a byte takes it from 255. -/
theorem complement_eq (value : UInt8) : ~~~value = UInt8.ofNat (255 - value.toNat) := by
  induction value using forall_byte with
  | _ i =>
    revert i
    decide +kernel

/-- A rotation of the accumulator keeps only the carry of the shift's flags. -/
theorem rotated_eq (shift : Shift) (value : UInt8) (carry : Bool) :
    { (shift.apply value carry).2 with zero := false }.toByte =
      packFlags false false false (flag (shifted shift value carry).2 4) := by
  have clear : (shift.apply value carry).2.subtract = false ∧
      (shift.apply value carry).2.halfCarry = false := by
    cases shift <;> exact ⟨rfl, rfl⟩
  have kept : (shift.apply value carry).2.carry = flag (shift.apply value carry).2.toByte 4 := by
    have h := Flags.ofByte_toByte (shift.apply value carry).2
    rw [ofByte_eq] at h
    exact congrArg Flags.carry h.symm
  rw [toByte_eq, clear.1, clear.2, kept, ← shifted_eq]
  rfl

/-! ### What instructions leave -/

section

variable (cpu : Cpu) (memory : M) (cost : Nat)

/-- An instruction that is through leaves what the processor shows. -/
theorem effect_done : Effect.ofObserved ((done (cost, cpu)).observe memory) =
    ⟨cpu.view, [], cost⟩ := rfl

/-- What is left once a value goes to a byte operand. -/
theorem effect_value (operand : Operand) (value : UInt8) :
    Effect.ofObserved ((cpu.writeOperand operand value |>.bind fun cpu =>
        done (cost, cpu)).observe memory) =
      ⟨cpu.view.with (put cpu.view.file operand value), putWrites cpu.view.file operand value,
        cost⟩ := by
  rw [Cpu.observe_writeOperand]
  simp only [observe_done, Effect.ofObserved, Cpu.view_placed, List.append_nil]

/-- What is left once a result goes to a byte operand and its flags to F. The flags are
set first, which does not move an operand in memory. -/
theorem effect_result (operand : Operand) (result : UInt8 × Flags) :
    Effect.ofObserved (((cpu.setFlags result.2).writeOperand operand result.1 |>.bind fun cpu =>
        done (cost, cpu)).observe memory) =
      ⟨cpu.view.with (put { cpu.view.file with f := (stored result).2 } operand (stored result).1),
        putWrites cpu.view.file operand (stored result).1, cost⟩ := by
  rw [effect_value, putWrites_setFlags, Cpu.view_setFlags]
  rfl

/-- What is left once a result goes to the accumulator. -/
theorem effect_accumulator (result : UInt8 × Flags) :
    Effect.ofObserved ((done (cost, (cpu.setFlags result.2).setA result.1)).observe memory) =
      ⟨cpu.view.with { cpu.view.file with a := (stored result).1, f := (stored result).2 }, [],
        cost⟩ := by
  rw [effect_done, Cpu.view_setA, Cpu.view_setFlags]
  rfl

/-- What is left once a result goes to a word register. -/
theorem effect_word (reg : Reg16) (result : UInt16 × Flags) :
    Effect.ofObserved ((done (cost, (cpu.setFlags result.2).set16 reg result.1)).observe memory) =
      ⟨cpu.view.with ({ cpu.view.file with f := (stored result).2 }.set16 reg (stored result).1),
        [], cost⟩ := by
  rw [effect_done, Cpu.view_set16, Cpu.view_setFlags]
  rfl

end

/-! ### Instructions -/

/-- An instruction of the extended page has the effect the reference gives. The operand is read
once on both sides, so it is generalized and only what is done with it is compared. -/
theorem performExtended_eq (cpu : Cpu) (memory : M) (instruction : BitInstruction) :
    Effect.ofObserved ((cpu.performBit instruction).observe memory) =
      performExtended (Memory.read memory) cpu.view instruction := by
  obtain ⟨action, operand⟩ := instruction
  simp only [Cpu.performBit, bind_eq, Cpu.observe_readOperand, performExtended]
  -- Both sides have read the same operand by now.
  generalize Reference.get (Memory.read memory) cpu.view.file operand = value
  -- What is left is what the processor asks for the operand, and the figure for it.
  cases action with
  | shift shift =>
    simp only [pure_eq, effect_result, shifted_eq, carry_eq]
    cases operand <;> rfl
  | test bit =>
    simp only [pure_eq, effect_done, Cpu.view_setFlags, testBit_eq, carry_eq]
    cases operand <;> rfl
  | reset bit =>
    simp only [pure_eq, effect_value, withoutBit_eq]
    cases operand <;> rfl
  | set bit =>
    simp only [pure_eq, effect_value, withBit_eq]
    cases operand <;> rfl

/-- An instruction has the effect the reference gives: the same view of the processor, the same
writes in the same order, the same cost. Each case rewrites by what is seen of its helpers and
by its own arithmetic, until both sides are the same record. A cost on the reference's side is a
figure of its own, so where there is an operand it is split once more at the end: the processor
asks whether the operand is in memory, and the reference has one figure for each answer. -/
theorem perform_eq (cpu : Cpu) (memory : M) (instruction : Instruction) :
    Effect.ofObserved ((cpu.perform instruction).observe memory) =
      perform (Memory.read memory) cpu.view instruction := by
  cases instruction with
  | nop | halt | di | ei => rfl
  -- Loads and counting.
  | loadWord dst =>
    simp only [Cpu.perform, bind_eq, Cpu.observe_fetchWord, pure_eq, effect_done, Cpu.view_set16]
    rfl
  | storeVia pointer =>
    have file := use_snd pointer cpu
    -- No pointer steps over the accumulator.
    have a : (pointer.use cpu.regs).2.a = cpu.regs.a := by cases pointer <;> rfl
    simp only [Cpu.perform, store, bind_eq, bind_write, bind_done, pure_eq, observe_write,
      observe_done, Effect.ofObserved, Cpu.view, use_fst, file, a]
    rfl
  | loadVia pointer =>
    have file := use_snd pointer cpu
    simp only [Cpu.perform, load, bind_eq, bind_read, bind_done, pure_eq, observe_read,
      effect_done, Cpu.view, Registers.bytes_setA, use_fst, file]
    rfl
  | incWord reg | decWord reg =>
    simp only [Cpu.perform, pure_eq, effect_done, Cpu.view_set16, Registers.get16_eq]
    rfl
  | inc operand =>
    simp only [Cpu.perform, bind_eq, Cpu.observe_readOperand, pure_eq, effect_result, counted_eq,
      carry_eq]
    cases operand <;> rfl
  | dec operand =>
    simp only [Cpu.perform, bind_eq, Cpu.observe_readOperand, pure_eq, effect_result,
      countedDown_eq, carry_eq]
    cases operand <;> rfl
  | loadByte dst =>
    simp only [Cpu.perform, bind_eq, Cpu.observe_fetchByte, pure_eq, effect_value]
    -- An operand in memory lies where it lay before the fetch.
    cases dst <;> rfl
  | load dst src =>
    simp only [Cpu.perform, bind_eq, Cpu.observe_readOperand, pure_eq, effect_value]
    cases dst <;> cases src <;> rfl
  | storeSP =>
    simp only [Cpu.perform, bind_eq, Cpu.observe_fetchWord, lowByte_eq_lowerOf,
      highByte_eq_upperOf]
    rfl
  | loadSPHL =>
    simp only [Cpu.perform, pure_eq, effect_done, Cpu.view_set16, Pair.word_eq]
    rfl
  -- Arithmetic.
  | rotateA shift =>
    have result := congrArg Prod.fst (shifted_eq shift cpu.regs.a (flag cpu.view.file.f 4))
    simp only [stored] at result
    simp only [Cpu.perform, pure_eq, effect_done, Cpu.view_setA, Cpu.view_setFlags, rotated_eq,
      carry_eq, result]
    rfl
  | daa =>
    simp only [Cpu.perform, pure_eq, effect_accumulator, decimal_eq, Cpu.flags_eq]
    rfl
  | cpl =>
    simp only [Cpu.perform, pure_eq, effect_done, Cpu.view_setA, Cpu.view_setFlags, toByte_eq,
      complement_eq, Cpu.flags_eq]
    rfl
  | scf | ccf =>
    simp only [Cpu.perform, pure_eq, effect_done, Cpu.view_setFlags, toByte_eq, Cpu.flags_eq]
    rfl
  | alu op src =>
    simp only [Cpu.perform, Cpu.combine, bind_eq, Cpu.observe_readOperand, pure_eq,
      effect_accumulator, alu_eq, carry_eq]
    cases src <;> rfl
  | aluByte op =>
    simp only [Cpu.perform, Cpu.combine, bind_eq, Cpu.observe_fetchByte, pure_eq,
      effect_accumulator, alu_eq, carry_eq]
    rfl
  | addHL src =>
    simp only [Cpu.perform, pure_eq, effect_word, sumWords_eq, Registers.get16_eq, Pair.word_eq,
      Cpu.flags_eq]
    rfl
  | addSP | loadHLSP =>
    simp only [Cpu.perform, bind_eq, Cpu.observe_fetchByte, pure_eq, effect_word, movedStack_eq]
    rfl
  | extended =>
    simp only [Cpu.perform, bind_eq, Cpu.observe_fetchByte, performExtended_eq, decodeExtended_eq]
    rfl
  -- Control flow and the stack.
  | stop =>
    simp only [Cpu.perform, bind_eq, Cpu.observe_fetchByte]
    rfl
  | jumpBy condition =>
    simp only [Cpu.perform, bind_eq, Cpu.observe_fetchByte, taken_jump, perform, add_signExtend]
    split <;> rfl
  | jumpHL =>
    simp only [Cpu.perform, pure_eq, effect_done, Pair.word_eq]
    rfl
  | jump condition =>
    simp only [Cpu.perform, bind_eq, Cpu.observe_fetchWord, taken_jump, perform]
    split <;> rfl
  | call condition =>
    simp only [Cpu.perform, bind_eq, Cpu.observe_fetchWord, taken_jump, perform]
    split
    · simp only [Cpu.observe_pushWord]
      rfl
    · rfl
  | rst target =>
    have address : target.toUInt16 = UInt16.ofNat target.toNat :=
      (UInt16.ofNat_uInt8ToNat target).symm
    simp only [Cpu.perform, bind_eq, Cpu.observe_pushWord, address]
    rfl
  | ret | reti =>
    simp only [Cpu.perform, bind_eq, Cpu.observe_popWord]
    rfl
  | retIf condition =>
    simp only [Cpu.perform, bind_eq, holds_eq, perform]
    split
    · simp only [Cpu.observe_popWord]
      rfl
    · rfl
  | pop dst =>
    simp only [Cpu.perform, bind_eq, Cpu.observe_popWord, pure_eq, effect_done, Cpu.view_set16]
    rfl
  | push src =>
    simp only [Cpu.perform, bind_eq, Cpu.observe_pushWord, Registers.get16_eq]
    rfl
  -- Loads and stores of the accumulator.
  | storeHigh =>
    simp only [Cpu.perform, bind_eq, Cpu.observe_fetchByte, topPage_eq]
    rfl
  | loadHigh =>
    simp only [Cpu.perform, load, bind_eq, bind_read, bind_done, Cpu.observe_fetchByte,
      topPage_eq, pure_eq, observe_read, effect_done, Cpu.view_setA]
    rfl
  | storeHighC =>
    simp only [Cpu.perform, topPage_eq]
    rfl
  | loadHighC =>
    simp only [Cpu.perform, load, bind_eq, bind_read, bind_done, topPage_eq, pure_eq,
      observe_read, effect_done, Cpu.view_setA]
    rfl
  | storeAt =>
    simp only [Cpu.perform, bind_eq, Cpu.observe_fetchWord]
    rfl
  | loadAt =>
    simp only [Cpu.perform, load, bind_eq, bind_read, bind_done, Cpu.observe_fetchWord, pure_eq,
      observe_read, effect_done, Cpu.view_setA]
    rfl

/-- What is seen of an opcode being run is what the reference says. An opcode that stands for
no instruction is a trap with the address of the opcode, and leaves the state as it was. -/
theorem observe_execute (cpu : Cpu) (memory : M) (opcode : UInt8) :
    let seen := (cpu.execute opcode).observe memory
    (seen.1.1, seen.1.2.view, seen.2) = execute (Memory.read memory) cpu.view opcode := by
  simp only [Cpu.execute, execute, ← decode_eq]
  cases Opcode.decode opcode with
  | none => rfl
  | some instruction =>
    have effect := perform_eq cpu memory instruction
    simp only [bind_eq, pure_eq, observe_bind, observe_done, List.append_nil,
      Cpu.view_settleEnable, ← effect]
    rfl

/-- On every memory, an opcode run by the processor ends as the reference says: with the same
cost or trap, the same registers, the same interrupt state, halt and stop, and the same writes
in the same order.

There is no hypothesis. The machine may be in any state, rest or have an enable on its way, the
opcode may be any byte, and the memory any type that can be read and written: its writes are
traced, so that their order can be told. What the memory answers is all that the reference gets
of it. The reference has its own decoder, registers, arithmetic and figures, so the theorem
compares two accounts and not one with itself.

The processor is a transaction. What it does to a machine is what is seen of it
(`Machine.run_eq`, `writes_perform`), and what is seen of it is what the reference says
(`observe_execute`). -/
theorem execute_refines (machine : Machine (Traced M)) (opcode : UInt8) :
    let run := machine.execute opcode
    let expected := execute (Memory.read machine.memory) machine.cpu.view opcode
    run.1 = expected.1 ∧ run.2.cpu.view = expected.2.1 ∧
      run.2.memory.writes.toList = machine.memory.writes.toList ++ expected.2.2 := by
  obtain ⟨cpu, memory, journal⟩ := machine
  obtain ⟨outcome, after, -⟩ := Machine.run_eq ⟨cpu, memory, journal⟩ (·.execute opcode)
  have writes := writes_perform (cpu.execute opcode) memory journal
  have seen := observe_execute cpu memory.memory opcode
  rw [observe_traced_fst] at outcome after
  refine ⟨?_, ?_, ?_⟩
  · exact outcome.trans (congrArg Prod.fst seen)
  · exact (congrArg Cpu.view after).trans (congrArg (·.2.1) seen)
  · exact writes.trans (congrArg (memory.writes.toList ++ ·.2.2) seen)

end Reference

end GameBoy
