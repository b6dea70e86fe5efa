import GameBoy.Machine

/-!
# `GameBoy.Proofs.Cpu.Reports`: what the processor reports

A memory and a journal are changed by a transaction in two ways: by a write, which the
memory may remark on, and by a report of the processor's own. What both of them keep is
kept by the whole transaction.

Which reports a transaction may make does not depend on the memory, if all answers of a read
are allowed for. `Transaction.Reports` says it so, and is settled for each instruction by
opening it. Most instructions are silent; the two that put the processor to rest say so. An
invariant of the journal then has to be checked for the events that the processor reports, and
for what the memory remarks, and for nothing else. Main statements:

* `Transaction.perform_preserves`: an invariant of writes and of the reports made is an
  invariant of carrying out a transaction.
* `Cpu.step_reports`: the processor reports about itself and about interrupts, and leaves
  the memory map to the memory.
-/

set_option autoImplicit false

namespace GameBoy

namespace Transaction

variable {α β M : Type} {allowed : Event → Prop}

/-- Whether every event reported has a property, whatever bytes are read. -/
def Reports (allowed : Event → Prop) : Transaction α → Prop
  | done _ => True
  | read _ next => ∀ value, (next value).Reports allowed
  | write _ _ next => next.Reports allowed
  | report event next => allowed event ∧ next.Reports allowed

namespace Reports

@[simp]
theorem done_iff {result : α} : (done result).Reports allowed ↔ True := Iff.rfl

@[simp]
theorem read_iff {addr : UInt16} {next : UInt8 → Transaction α} :
    (read addr next).Reports allowed ↔ ∀ value, (next value).Reports allowed := Iff.rfl

@[simp]
theorem write_iff {addr : UInt16} {value : UInt8} {next : Transaction α} :
    (write addr value next).Reports allowed ↔ next.Reports allowed := Iff.rfl

@[simp]
theorem report_iff {event : Event} {next : Transaction α} :
    (report event next).Reports allowed ↔ allowed event ∧ next.Reports allowed := Iff.rfl

/-- A composition reports what its parts report. -/
theorem bind {transaction : Transaction α} {next : α → Transaction β}
    (first : transaction.Reports allowed) (rest : ∀ result, (next result).Reports allowed) :
    (transaction.bind next).Reports allowed := by
  induction transaction with
  | done result => exact rest result
  | read addr next ih => exact fun value => ih value (first value)
  | write addr value next ih => exact ih first
  | report event next ih => exact ⟨first.1, ih first.2⟩

/-- What has one property has any weaker one. -/
theorem mono {strong weak : Event → Prop} (imp : ∀ event, strong event → weak event)
    {transaction : Transaction α} (h : transaction.Reports strong) : transaction.Reports weak := by
  induction transaction with
  | done result => exact trivial
  | read addr next ih => exact fun value => ih value (h value)
  | write addr value next ih => exact ih h
  | report event next ih => exact ⟨imp event h.1, ih h.2⟩

end Reports

/-- The journal after a write, with what the memory has to remark on it. -/
def remarked [Memory M] (memory : M) (journal : Journal) (addr : UInt16) (value : UInt8) :
    Journal :=
  match Memory.remark memory addr value with
  | some event => journal.note event
  | none => journal

/-- Carrying out a transaction does not change what is wanted of the log. -/
theorem config_perform [Memory M] (transaction : Transaction α) (memory : M) (journal : Journal) :
    (transaction.perform memory journal).2.2.config = journal.config := by
  induction transaction generalizing memory journal with
  | done result => rfl
  | read addr next ih => exact ih _ memory journal
  | write addr value next ih =>
    have kept : (remarked memory journal addr value).config = journal.config := by
      unfold remarked
      split
      · exact journal.config_note _
      · rfl
    exact (ih _ _).trans kept
  | report event next ih => exact (ih memory _).trans (journal.config_note event)

/-- What every write keeps, and every report that is made, carrying out a transaction
keeps. The invariant speaks of memory and journal together, as a remark depends on the memory
that the write finds. -/
theorem perform_preserves [Memory M] {motive : M → Journal → Prop}
    (write : ∀ memory journal addr value, motive memory journal →
      motive (Memory.write memory addr value) (remarked memory journal addr value))
    (report : ∀ memory journal event, allowed event → motive memory journal →
      motive memory (journal.note event))
    {transaction : Transaction α} (reports : transaction.Reports allowed) {memory : M}
    {journal : Journal} (h : motive memory journal) :
    motive (transaction.perform memory journal).2.1
      (transaction.perform memory journal).2.2 := by
  induction transaction generalizing memory journal with
  | done result => exact h
  | read addr next ih => exact ih _ (reports _) h
  | write addr value next ih => exact ih reports (write memory journal addr value h)
  | report event next ih => exact ih reports.2 (report memory journal event reports.1 h)

end Transaction

/-- Events about the processor and about its interrupts. -/
def Event.OfProcessor (event : Event) : Prop :=
  event.category = .cpu ∨ event.category = .interrupts

namespace Cpu

open Transaction

/-- An instruction of the extended page reports nothing. -/
theorem performBit_silent (cpu : Cpu) (instruction : BitInstruction) :
    (cpu.performBit instruction).Reports fun _ => False := by
  obtain ⟨action, operand⟩ := instruction
  cases operand <;> cases action <;> simp [performBit, readOperand, writeOperand, load, store]

/-- No other instruction reports anything either, but for the two that put the processor to
rest. The property asked of events is the one that none has, so to open an instruction is to see
that no report stands in it. Conditions are split, as both ways have to be silent. -/
theorem perform_silent (cpu : Cpu) {instruction : Instruction} (noHalt : instruction ≠ .halt)
    (noStop : instruction ≠ .stop) : (cpu.perform instruction).Reports fun _ => False := by
  cases instruction with
  | halt => exact absurd rfl noHalt
  | stop => exact absurd rfl noStop
  | extended =>
    simp only [perform, fetchByte, load, bind_eq, pure_eq, bind_read, bind_done,
      Reports.read_iff]
    exact fun value => performBit_silent _ _
  | inc operand | dec operand | loadByte operand =>
    cases operand <;> simp [perform, fetchByte, readOperand, writeOperand, load, store]
  | load dst src =>
    cases dst <;> cases src <;> simp [perform, readOperand, writeOperand, load, store]
  | alu op src => cases src <;> simp [perform, readOperand, load]
  | jumpBy condition | jump condition =>
    simp only [perform, fetchByte, fetchWord, load, bind_eq, pure_eq, bind_read, bind_done,
      Reports.read_iff]
    intros
    split <;> exact trivial
  | call condition =>
    simp only [perform, fetchByte, fetchWord, pushWord, load, bind_eq, pure_eq, bind_read,
      bind_done, Reports.read_iff]
    intros
    split <;> simp [store]
  | retIf condition =>
    simp only [perform, popWord, load, bind_eq, pure_eq, bind_read, bind_done]
    split <;> simp
  | _ => simp [perform, fetchByte, fetchWord, pushWord, popWord, load, store]

/-- An instruction reports that the processor goes to sleep or stops, if anything. -/
theorem perform_reports (cpu : Cpu) (instruction : Instruction) :
    (cpu.perform instruction).Reports Event.OfProcessor := by
  by_cases halt : instruction = .halt
  · subst halt
    exact ⟨.inl rfl, trivial⟩
  · by_cases stop : instruction = .stop
    · subst stop
      exact fun _ => ⟨.inl rfl, trivial⟩
    · exact (cpu.perform_silent halt stop).mono fun _ => False.elim

/-- An opcode that is run reports what its instruction does, or that it has none. -/
theorem execute_reports (cpu : Cpu) (opcode : UInt8) :
    (cpu.execute opcode).Reports Event.OfProcessor := by
  unfold execute
  split
  · next instruction _ => exact Reports.bind (cpu.perform_reports instruction) fun _ => trivial
  · exact ⟨.inl rfl, trivial⟩

/-- The same where the opcode is fetched first. -/
theorem fetchExecute_reports (cpu : Cpu) : cpu.fetchExecute.Reports Event.OfProcessor :=
  fun _ => execute_reports _ _

/-- Waking reports the end of a stop and of a sleep. -/
theorem wake_reports (cpu : Cpu) (pending : UInt8) :
    (cpu.wake pending).Reports Event.OfProcessor := by
  unfold wake
  cases cpu.stopped <;> cases cpu.halted <;>
    simp [notify, Event.OfProcessor, Event.category]

/-- An entry reports itself. -/
theorem enter_reports (cpu : Cpu) (source : Interrupt) :
    (cpu.enter source).Reports Event.OfProcessor := by
  simp [enter, pushWord, load, store, notify, Event.OfProcessor, Event.category]

/-- A step reports about the processor and about interrupts only. -/
theorem step_reports (cpu : Cpu) : cpu.step.Reports Event.OfProcessor := by
  unfold step
  refine fun enabled requested => ?_
  simp only [bind_eq, pure_eq, bind_done]
  -- An interrupt is heeded, and then entered if interrupts are accepted; else it is a slot of
  -- sleep, or the next opcode.
  split
  · refine Reports.bind (cpu.wake_reports _) fun woken => ?_
    split
    · exact Reports.bind (woken.enter_reports _) fun _ => trivial
    · exact woken.fetchExecute_reports
  · split
    · exact trivial
    · exact cpu.fetchExecute_reports

end Cpu

end GameBoy
