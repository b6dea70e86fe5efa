import GameBoy.Proofs.Bus.Requests
import GameBoy.Proofs.Memory.Watching

/-!
# `GameBoy.Proofs.Cpu.StepKinds`: an entry, an idle slot or an instruction

`Machine.turn` tells what the next step turns out to be. Here each turn is taken with all it
does, the journal included, and under the conditions on the processor and the two interrupt
registers that call for it (`Machine.Enters`, `Machine.Idles`).

What is seen of a step leaves out the journal, and waking is all journal. So the step is opened
here a second time, as something that is carried out: `Machine.woken` is the machine once its
processor was woken and that was noted, and an instruction is fetched and run from there.
`Machine.ready` is the machine with the opcode fetched too.

The conditions are said in terms of the state alone. That they call for the turns is the
other direction of `Machine.turn_told`: the two exclude each other, so under the one the turn
can be nothing else (`turn_of_enters`, `turn_of_idles`). Main statements:

* `Machine.step_eq_of_turn`: the whole of a step by its turn.
* `Machine.step_kinds`: the three kinds of steps, when they are made and what they do.
-/

set_option autoImplicit false

namespace GameBoy

open Transaction

/-! ### Priorities -/

namespace Interrupt

/-- The pending source with the highest priority has the lowest bit that is set. The search goes
through the sources in the order of their bits, which is checked byte by byte. -/
theorem lowest_of_first? {pending : UInt8} {source : Interrupt}
    (h : first? pending = some source) {lower : Nat} (lt : lower < source.line) :
    pending.toNat.testBit lower = false := by
  have checked : ∀ i : Fin UInt8.size, first? (UInt8.ofFin i) = some source →
      ∀ lower < source.line, (UInt8.ofFin i).toNat.testBit lower = false := by
    cases source <;> decide +kernel
  exact checked pending.toFin h lower lt

/-- Every source has one of the five lowest bits. -/
theorem line_lt (source : Interrupt) : source.line < 5 := by
  cases source <;> decide

end Interrupt

/-! ### Waking -/

namespace Cpu

/-- What waking reports: the end of a stop, and then that of a sleep. -/
def releases (cpu : Cpu) (pending : UInt8) : List Event :=
  (if cpu.stopped then [.stopReleased cpu.regs.pc] else []) ++
    if cpu.halted then [.haltReleased cpu.regs.pc pending] else []

/-- Waking ends a stop and a sleep, reports them, and does nothing else. -/
theorem perform_wake {M : Type} [Memory M] (cpu : Cpu) (pending : UInt8) (memory : M)
    (journal : Journal) :
    (cpu.wake pending).perform memory journal =
      (cpu.awake, memory, journal.noteAll (cpu.releases pending)) := by
  unfold wake releases
  cases cpu.stopped <;> cases cpu.halted <;> rfl

/-- A processor that is awake has nothing to report of waking. -/
theorem releases_eq_nil {cpu : Cpu} (h : ¬(cpu.halted || cpu.stopped) = true)
    (pending : UInt8) : cpu.releases pending = [] := by
  rw [Bool.or_eq_true, not_or] at h
  rw [releases, if_neg h.1, if_neg h.2, List.append_nil]

end Cpu

namespace Machine

variable {M α β : Type} [Memory M] {machine : Machine M}

/-- An action and what follows from its result are carried out one after the other. With this
an instruction falls apart into the fetch and the opcode. -/
theorem run_bind (machine : Machine M) (action : Cpu → Transaction (α × Cpu))
    (next : α → Cpu → Transaction (β × Cpu)) :
    (machine.run fun cpu => (action cpu).bind fun (result, cpu) => next result cpu) =
      (machine.run action).2.run (next (machine.run action).1) := by
  obtain ⟨cpu, memory, journal⟩ := machine
  simp only [run, perform_bind]

/-- The machine once its processor was woken, the reports of that noted. -/
def woken (machine : Machine M) : Machine M :=
  { machine with
    cpu := machine.cpu.awake
    journal := machine.journal.noteAll (machine.cpu.releases machine.pending) }

/-- A machine that is awake is not woken. -/
theorem woken_eq (h : ¬(machine.cpu.halted || machine.cpu.stopped) = true) :
    machine.woken = machine := by
  rw [woken, Cpu.awake_eq h, Cpu.releases_eq_nil h]
  rfl

/-! ### Turns -/

/-- The whole of a step by its turn: result, processor, memory and journal. An idle slot notes
nothing, and an entry and an instruction start from the machine that was woken. -/
theorem step_eq_of_turn (machine : Machine M) :
    machine.step =
      match machine.turn with
      | .entry source =>
        machine.woken.run fun cpu => (cpu.enter source).bind fun (cost, cpu) =>
          done (.ok cost, cpu)
      | .idle => (.ok 1, { machine with cpu := machine.cpu.spend 1 })
      | .instruction _ => machine.woken.run Cpu.fetchExecute := by
  -- The two registers are read before anything is decided.
  have looked : machine.step = machine.run fun cpu => cpu.act machine.pending := rfl
  rw [looked, turn, run, Cpu.act]
  cases machine.cpu.heeds machine.pending with
  | some source =>
    -- Waking does not touch the interrupt enable, which decides between the two.
    have ime : machine.cpu.awake.ime = machine.cpu.ime := rfl
    simp only [perform_bind, Cpu.perform_wake, ime]
    cases machine.cpu.ime <;> rfl
  | none =>
    by_cases asleep : (machine.cpu.halted || machine.cpu.stopped) = true
    · simp only [asleep]
      rfl
    · -- Nothing woke it, but it was awake already.
      simp only [asleep, woken_eq asleep]
      rfl

/-- The machine once it was woken and its opcode was fetched. -/
def ready (machine : Machine M) : Machine M :=
  { machine.woken with cpu := machine.cpu.awake.jump (machine.cpu.regs.pc + 1) }

/-- An instruction is run by a machine that is ready for it. -/
theorem step_eq_execute {opcode : UInt8} (turn : machine.turn = .instruction opcode) :
    machine.step = machine.ready.execute opcode := by
  rw [step_eq_of_turn, turn, ← opcode_of_turn turn]
  rfl

/-- A processor that enters does not idle. -/
theorem not_idles_of_enters (enters : machine.Enters) : ¬machine.Idles := by
  obtain ⟨-, called, joypad⟩ := enters
  rintro (⟨stopped, quiet⟩ | ⟨-, none⟩)
  · exact joypad stopped quiet
  · exact called none

/-- Under the conditions of an entry, the step enters the source that is heeded. -/
theorem turn_of_enters (enters : machine.Enters) : ∃ source, machine.turn = .entry source := by
  have told := machine.turn_told
  cases turn : machine.turn with
  | entry source => exact ⟨source, rfl⟩
  | idle =>
    rw [turn] at told
    exact absurd told (not_idles_of_enters enters)
  | instruction opcode =>
    rw [turn] at told
    exact absurd enters told.1.1

/-- Under the conditions of an idle slot, the step is one. -/
theorem turn_of_idles (idles : machine.Idles) : machine.turn = .idle := by
  have told := machine.turn_told
  cases turn : machine.turn with
  | entry source =>
    rw [turn] at told
    exact absurd idles (not_idles_of_enters told)
  | idle => rfl
  | instruction opcode =>
    rw [turn] at told
    exact absurd idles told.1.2

/-- The source that is entered has the lowest pending bit. -/
theorem lowest_of_entry {source : Interrupt} (h : machine.turn = .entry source) :
    machine.pending.toNat.testBit source.line = true ∧
      ∀ lower < source.line, machine.pending.toNat.testBit lower = false := by
  refine ⟨Interrupt.testBit_of_and_mask (pending_of_entry h), fun lower lt => ?_⟩
  have heeded := (heeds_of_entry h).1
  unfold Cpu.heeds at heeded
  split at heeded
  · cases heeded
  · exact Interrupt.lowest_of_first? heeded lt

/-- The writes of a step are those that are seen of it. -/
theorem witnessed_step (machine : Machine M) :
    machine.watched.step.2.witnessed = machine.seen.2 :=
  machine.watched.witnessed_run Cpu.step

/-- Every step is exactly one of three, on any memory.

1. It enters an interrupt if interrupts are accepted and one is pending, in a stop the joypad's:
   the one with the lowest bit, whose request it takes back before it saves the program counter
   on the stack. It costs five cycles, goes to the vector of that bit, refuses interrupts from
   then on and leaves the processor awake. The three writes are all that it makes.
2. Else it is an idle slot if the processor is stopped without the joypad's interrupt or asleep
   without any: a cycle passes, and nothing else changes, the journal included.
3. Else it is an instruction: the processor is woken, which is noted, and what it does then is
   to fetch an opcode and run it, with the cost or the trap of that.

The first two conditions exclude each other, so with the third every state falls under exactly
one. Each clause gives the processor in full, and the last one says for all three that the memory
changes by the writes and by nothing else. The proof goes from the condition to the turn, and
from the turn to what is seen of it. -/
theorem step_kinds (machine : Machine M) :
    let writes : List (UInt16 × UInt8) := machine.watched.step.2.witnessed
    (machine.Enters →
      ∃ b < 5, machine.pending.toNat.testBit b = true ∧
        (∀ lower < b, machine.pending.toNat.testBit lower = false) ∧
        machine.step.1 = .ok 5 ∧
        machine.step.2.cpu =
          { machine.cpu with
            regs.sp := machine.cpu.regs.sp - 2
            regs.pc := 0x0040 + 8 * UInt16.ofNat b
            ime := false
            enableDelay := 0
            halted := false
            stopped := false
            cycles := machine.cpu.cycles + 5 } ∧
        writes =
          [((0xFF0F : UInt16), machine.read 0xFF0F &&& ~~~(1 <<< UInt8.ofNat b)),
            (machine.cpu.regs.sp - 1, highByte machine.cpu.regs.pc),
            (machine.cpu.regs.sp - 2, lowByte machine.cpu.regs.pc)]) ∧
    (machine.Idles →
      machine.step = (.ok 1, { machine with cpu.cycles := machine.cpu.cycles + 1 }) ∧
        writes = []) ∧
    (¬machine.Enters → ¬machine.Idles →
      let woken : Machine M :=
        { machine with
          cpu.halted := false
          cpu.stopped := false
          journal := machine.journal.noteAll (machine.cpu.releases machine.pending) }
      let (opcode, fetched) := woken.run Cpu.fetchByte
      machine.step = fetched.execute opcode) ∧
    ¬(machine.Enters ∧ machine.Idles) ∧
    machine.step.2.memory = Memory.writeAll machine.memory writes := by
  intro writes
  have seen : writes = machine.seen.2 := machine.witnessed_step
  obtain ⟨outcome, cpu, memory⟩ := machine.step_eq
  refine ⟨fun enters => ?_, fun idles => ?_, fun noEntry noSlot => ?_, ?_, ?_⟩
  · obtain ⟨source, turn⟩ := turn_of_enters enters
    obtain ⟨pending, lowest⟩ := lowest_of_entry turn
    rw [seen_entry turn] at outcome cpu seen
    refine ⟨source.line, source.line_lt, pending, lowest, outcome, cpu, ?_⟩
    rw [seen, Reference.pushWrites, ← highByte_eq_upperOf, ← lowByte_eq_lowerOf]
    rfl
  · have turn := turn_of_idles idles
    rw [seen_idle turn] at seen
    rw [step_eq_of_turn, turn]
    exact ⟨rfl, seen⟩
  · have turn := turn_eq_instruction_iff.mpr ⟨⟨noEntry, noSlot⟩, rfl⟩
    rw [step_eq_of_turn, turn]
    exact machine.woken.run_bind Cpu.fetchByte fun opcode cpu => cpu.execute opcode
  · exact fun both => not_idles_of_enters both.1 both.2
  · rw [memory, seen]

end Machine

end GameBoy
