import GameBoy.Memory.Flat
import GameBoy.Proofs.Cpu.Calls

/-!
# `GameBoy.Proofs.Cpu.FlagNibble`: the lower half of F is clear

F stores four flags in its upper half. Nothing but a write of flags, a write of A and a write
of the whole pair reaches AF, and each of them leaves the lower half of F clear if it was.

That a write of the pair clears it is a matter of a mask. It is needed for the one instruction
that brings a byte from outside into F, the pop of AF: memory may hold anything. The invariant is
tagged for the simplifier at each write of a register, so that an instruction is settled by
opening it: what it reads does not matter (`Transaction.Always`), and what it writes is one of
the writes with a lemma. Main statements:

* `Registers.NibbleClear`: the invariant, kept by every write of a register.
* `Cpu.nibbleClear_perform`: it is kept by every instruction, whatever is read.
* `Machine.nibbleClear_step`: it is kept by every step.
* `Machine.flag_nibble_clear`: it holds in every state a new processor comes to, so AF that was
  pushed on the stack is popped as it was.
-/

set_option autoImplicit false

namespace GameBoy

open Transaction

/-! ### The lower half of a byte -/

/-- Flags are stored with the lower half clear. -/
@[simp]
theorem Flags.toByte_and_nibble (flags : Flags) : flags.toByte &&& 0x0F = 0 := by
  rw [← Flags.ofByte_toByte flags, Flags.toByte_ofByte, UInt8.and_assoc]
  exact UInt8.and_zero

/-- The lowest four bits of a word are those of its lower byte. -/
theorem and_nibble_eq_zero_iff (word : UInt16) :
    word &&& 0x000F = 0 ↔ lowByte word &&& 0x0F = 0 := by
  have wide : (word &&& 0x000F).toNat = word.toNat % 16 := by
    rw [UInt16.toNat_and]
    exact Nat.and_two_pow_sub_one_eq_mod word.toNat 4
  have narrow : (lowByte word &&& 0x0F).toNat = word.toNat % 256 % 16 := by
    rw [UInt8.toNat_and, lowByte, UInt16.toNat_toUInt8]
    exact Nat.and_two_pow_sub_one_eq_mod _ 4
  rw [← UInt16.toNat_inj, ← UInt8.toNat_inj, wide, narrow, Nat.mod_mod_of_dvd _ (by decide)]
  rfl

/-- Nothing is dropped of a word whose lowest four bits are clear. -/
theorem and_flagMask_of_clear {word : UInt16} (h : lowByte word &&& 0x0F = 0) :
    word &&& 0xFFF0 = word := by
  have byte : ∀ byte : UInt8, byte &&& 0x0F = 0 → byte &&& 0xF0 = byte := by
    intro byte
    induction byte using Reference.forall_byte with
    | _ i =>
      revert i
      decide +kernel
  rw [← joinBytes_highByte_lowByte (word &&& 0xFFF0), highByte_and_flagMask,
    lowByte_and_flagMask_eq_and, byte _ h, joinBytes_highByte_lowByte]

/-! ### Registers -/

namespace Registers

/-- The lower half of F is clear. -/
def NibbleClear (regs : Registers) : Prop := regs.af.low &&& 0x0F = 0

instance (regs : Registers) : Decidable regs.NibbleClear := inferInstanceAs (Decidable (_ = _))

variable {regs : Registers}

/-- Registers as the boot program leaves them. -/
theorem nibbleClear_postBoot : postBoot.NibbleClear := by decide

/-- No register beside AF has a say in it. -/
@[simp]
theorem nibbleClear_mk (bc de hl : Pair) (sp pc : UInt16) :
    NibbleClear ⟨regs.af, bc, de, hl, sp, pc⟩ ↔ regs.NibbleClear := Iff.rfl

/-- A write of the flags clears it. -/
@[simp]
theorem nibbleClear_setFlags (regs : Registers) (flags : Flags) :
    (regs.setFlags flags).NibbleClear := by
  rw [NibbleClear, setFlags, Pair.low_setLow, Flags.toByte_and_nibble]

/-- A write of the accumulator does not reach F. -/
@[simp]
theorem nibbleClear_setA (value : UInt8) : (regs.setA value).NibbleClear ↔ regs.NibbleClear := by
  rw [NibbleClear, setA, Pair.low_setHigh, NibbleClear]

/-- No byte register that an instruction can name is F. -/
@[simp]
theorem nibbleClear_set8 (reg : Reg8) (value : UInt8) :
    (regs.set8 reg value).NibbleClear ↔ regs.NibbleClear := by
  cases reg with
  | a => exact nibbleClear_setA value
  | b | c | d | e | h | l => exact Iff.rfl

/-- A write of AF clears it, and no other word register reaches F. -/
@[simp]
theorem NibbleClear.set16 (h : regs.NibbleClear) (reg : Reg16) (value : UInt16) :
    (regs.set16 reg value).NibbleClear := by
  cases reg with
  | af =>
    show lowByte (value &&& 0xFFF0) &&& 0x0F = 0
    rw [lowByte_and_flagMask_eq_and, UInt8.and_assoc]
    exact UInt8.and_zero
  | bc | de | hl | sp => exact h

/-- A pointer that steps does not reach F. -/
@[simp]
theorem nibbleClear_use (pointer : Pointer) :
    (pointer.use regs).2.NibbleClear ↔ regs.NibbleClear := by
  cases pointer <;> exact Iff.rfl

end Registers

/-! ### Instructions -/

namespace Cpu

variable {cpu : Cpu}

/-- An instruction of the extended page keeps the lower half of F clear, whatever is read. -/
theorem nibbleClear_performBit (h : cpu.regs.NibbleClear) (instruction : BitInstruction) :
    (cpu.performBit instruction).Always fun result => result.2.regs.NibbleClear := by
  obtain ⟨action, operand⟩ := instruction
  cases operand <;> cases action <;>
    simp [performBit, readOperand, writeOperand, load, store, setFlags, h]

/-- So does every other instruction, whatever is read. Those that decide by a condition are split
first, and those with an operand by where it is. The others open at once, and what they write is
settled by the lemmas about registers above. A write of the flags or of AF clears the half by
itself, and every other leaves it as the hypothesis says it was. -/
theorem nibbleClear_perform (h : cpu.regs.NibbleClear) (instruction : Instruction) :
    (cpu.perform instruction).Always fun result => result.2.regs.NibbleClear := by
  have jump : ∀ target, (cpu.jump target).regs.NibbleClear := fun _ => h
  cases instruction with
  | extended => exact fun value => nibbleClear_performBit (jump _) _
  | inc operand | dec operand | loadByte operand =>
    cases operand <;>
      simp [perform, fetchByte, readOperand, writeOperand, load, store, setFlags, jump]
  | load dst src =>
    cases dst <;> cases src <;> simp [perform, readOperand, writeOperand, load, store, h]
  | alu op src =>
    cases src <;> simp [perform, readOperand, load, combine, setFlags, setA]
  | jumpBy condition | jump condition =>
    simp only [perform, fetchByte, fetchWord, load, bind_eq, pure_eq, bind_read, bind_done,
      Always.read_iff]
    intros
    split <;> exact h
  | call condition =>
    simp only [perform, fetchByte, fetchWord, pushWord, load, bind_eq, pure_eq, bind_read,
      bind_done, Always.read_iff]
    intros
    split <;> exact h
  | retIf condition =>
    simp only [perform, popWord, load, bind_eq, pure_eq, bind_read, bind_done]
    split
    · exact fun _ _ => h
    · exact h
  | _ =>
    simp [perform, fetchByte, fetchWord, pushWord, popWord, load, store, notify, Cpu.jump,
      set16, setA, setFlags, combine, disableInterrupts, h]

/-- An opcode that is run keeps it, and so does a trap. -/
theorem nibbleClear_execute (h : cpu.regs.NibbleClear) (opcode : UInt8) :
    (cpu.execute opcode).Always fun result => result.2.regs.NibbleClear := by
  unfold execute
  split
  · next instruction _ =>
    refine Always.bind_iff.2 (Always.mono ?_ (nibbleClear_perform h instruction))
    rintro ⟨cost, after⟩ clear
    show after.settleEnable.regs.NibbleClear
    rw [regs_settleEnable]
    exact clear
  · exact h

end Cpu

/-! ### Steps and calls -/

namespace Machine

variable {M : Type} [Memory M] {machine : Machine M}

/-- An opcode that is run keeps the lower half of F clear. -/
theorem nibbleClear_execute (h : machine.cpu.regs.NibbleClear) (opcode : UInt8) :
    (machine.execute opcode).2.cpu.regs.NibbleClear :=
  (Cpu.nibbleClear_execute h opcode).perform machine.memory machine.journal

/-- A step keeps it clear. An entry and an idle slot do not reach F, and neither do waking and
the fetch of an opcode. -/
theorem nibbleClear_step (h : machine.cpu.regs.NibbleClear) :
    machine.step.2.cpu.regs.NibbleClear := by
  rw [machine.step_eq.2.1]
  cases turn : machine.turn with
  | entry source =>
    rw [seen_entry turn]
    exact h
  | idle =>
    rw [seen_idle turn]
    exact h
  | instruction opcode =>
    have fetched : (machine.cpu.awake.jump (machine.cpu.regs.pc + 1)).regs.NibbleClear := h
    rw [seen_instruction turn, ← perform_fst _ _ machine.journal]
    exact (Cpu.nibbleClear_execute fetched opcode).perform machine.memory machine.journal

/-- It is clear in a new processor, and through any sequence of calls it stays clear. -/
theorem nibbleClear_calls (booting : Bool) (memory : M) (journal : Journal)
    (calls : List (Call M)) :
    (session call (fresh booting memory journal) calls).2.cpu.regs.NibbleClear := by
  refine calls_preserve (fun cpu => cpu.regs.NibbleClear) (fun _ => nibbleClear_step)
    (fun _ opcode clear => nibbleClear_execute clear opcode) ?_ calls
  cases booting <;> exact Registers.nibbleClear_postBoot

/-! ### Pushed and popped -/

/-- A push of AF writes A and then F below it. -/
theorem Runs.push_af {machine after : Machine M} {writes : List (UInt16 × UInt8)}
    (runs : machine.Runs 0xF5 writes after) :
    writes = [(machine.cpu.regs.sp - 1, machine.cpu.regs.af.high),
        (machine.cpu.regs.sp - 2, machine.cpu.regs.af.low)] ∧
      after.cpu.regs.sp = machine.cpu.regs.sp - 2 := by
  obtain ⟨cpu, same, ended, wrote⟩ := runs.performed (rfl : Opcode.decode 0xF5 = some (.push .af))
  rw [ended, wrote, ← same]
  exact ⟨rfl, rfl⟩

/-- A pop of AF takes F and A off the stack, the lower half of F aside. So what is popped is what
was pushed only if that half was clear. -/
theorem Runs.pop_af {machine after : Machine M} {writes : List (UInt16 × UInt8)}
    (runs : machine.Runs 0xF1 writes after) :
    after.cpu.regs.af =
      ⟨joinBytes (machine.read (machine.cpu.regs.sp + 1)) (machine.read machine.cpu.regs.sp) &&&
        0xFFF0⟩ := by
  obtain ⟨cpu, same, ended, -⟩ := runs.performed (rfl : Opcode.decode 0xF1 = some (.pop .af))
  rw [ended, ← same]
  rfl

/-- The lowest four bits of AF are clear in every state that a new processor comes to, whatever
it is connected to and whatever calls are made, those that trap and changes of the memory from
outside included.

So they are clear in every F that is pushed, and AF is popped as it was pushed, at any time. What
is asked of the later machine is that its stack pointer is where the push has left it, and that
it still finds the two bytes that were written. What has happened in between is left open.

The first part is an invariant of every call (`nibbleClear_calls`). The second uses it once: the
mask of the pop drops nothing of a word whose lowest four bits are clear. -/
theorem flag_nibble_clear (booting : Bool) (memory : M) (journal : Journal)
    (calls : List (Call M)) :
    let machine := (session call (fresh booting memory journal) calls).2
    let af := machine.cpu.regs.af
    let sp := machine.cpu.regs.sp
    af.word &&& 0x000F = 0 ∧
    ∀ (writes : List (UInt16 × UInt8)) (pushed : Machine M), machine.Runs 0xF5 writes pushed →
      writes = [(sp - 1, af.high), (sp - 2, af.low)] ∧ af.low &&& 0x0F = 0 ∧
      ∀ (later : Machine M) (writes' : List (UInt16 × UInt8)) (popped : Machine M),
        later.cpu.regs.sp = pushed.cpu.regs.sp →
        (∀ entry ∈ writes, later.read entry.1 = entry.2) →
        later.Runs 0xF1 writes' popped → popped.cpu.regs.af = af := by
  intro machine af sp
  have clear : af.low &&& 0x0F = 0 := nibbleClear_calls booting memory journal calls
  refine ⟨(and_nibble_eq_zero_iff af.word).mpr clear, fun writes pushed push => ?_⟩
  obtain ⟨wrote, below⟩ := push.push_af
  refine ⟨wrote, clear, fun later writes' popped level intact pop => ?_⟩
  rw [wrote] at intact
  have high : later.read (sp - 1) = af.high := intact _ List.mem_cons_self
  have low : later.read (sp - 2) = af.low := intact _ (List.mem_cons_of_mem _ List.mem_cons_self)
  -- The pop reads the lower byte first, where the push has left the stack pointer.
  have above : sp - 2 + 1 = sp - 1 := by grind
  rw [pop.pop_af, level, below, above, high, low]
  show (⟨joinBytes (highByte af.word) (lowByte af.word) &&& 0xFFF0⟩ : Pair) = af
  rw [joinBytes_highByte_lowByte, and_flagMask_of_clear clear]

/-- Plain storage still holds the two bytes right after a push. -/
theorem Runs.intact_of_push_af {machine after : Machine Flat} {writes : List (UInt16 × UInt8)}
    (runs : machine.Runs 0xF5 writes after) :
    ∀ entry ∈ writes, after.read entry.1 = entry.2 := by
  intro entry mem
  have apart : machine.cpu.regs.sp - 2 ≠ machine.cpu.regs.sp - 1 := by grind
  rw [read, runs.memory_eq, runs.push_af.1]
  rw [runs.push_af.1, List.mem_pair] at mem
  show ((machine.memory.write _ _).write _ _).read entry.1 = entry.2
  rcases mem with rfl | rfl
  · rw [Flat.read_write, if_neg apart, Flat.read_write, if_pos rfl]
  · rw [Flat.read_write, if_pos rfl]

/-- After a step, a trap, a change from outside and an increment of A, AF is popped as it was
pushed. -/
theorem flag_nibble_clear_incremented :
    let changed : Flat := Flat.zero.load 0xC000 [0xFF]
    let calls : List (Call Flat) :=
      [.step, .execute 0xDD, .change changed (.start .silent), .execute 0x3C]
    let machine := (session call (fresh true Flat.zero (.start .silent)) calls).2
    let writes := (machine.watched.execute 0xF5).2.witnessed
    let pushed := (machine.execute 0xF5).2
    let popped := (pushed.execute 0xF1).2
    machine.Runs 0xF5 writes pushed ∧ (∀ entry ∈ writes, pushed.read entry.1 = entry.2) ∧
      popped.cpu.regs.af = machine.cpu.regs.af := by
  intro changed calls
  have clear := flag_nibble_clear true Flat.zero (.start .silent) calls
  revert clear
  -- What the calls have made of the machine does not matter any more.
  generalize (session call (fresh true Flat.zero (.start .silent)) calls).2 = reached
  rintro ⟨-, pushes⟩ machine writes pushed popped
  have push : machine.Runs 0xF5 writes pushed := .told
  have pop : pushed.Runs 0xF1 (pushed.watched.execute 0xF1).2.witnessed popped := .told
  have intact := push.intact_of_push_af
  obtain ⟨-, -, back⟩ := pushes writes pushed push
  exact ⟨push, intact, back pushed _ popped rfl intact pop⟩

end Machine

end GameBoy
