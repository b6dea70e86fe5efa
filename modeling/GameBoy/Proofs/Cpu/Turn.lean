import GameBoy.Proofs.Reference.Agreement

/-!
# `GameBoy.Proofs.Cpu.Turn`: what a step turns out to be

A step is the entry into an interrupt, an idle slot or an instruction, and which
of them is decided before anything is written. `Machine.turn` tells it from the
machine: the two interrupt registers, the halt, the stop and the interrupt enable.

The step itself is a transaction that reads the two registers, looks for the first
pending source, wakes the processor if there is one, and only then looks whether
interrupts are accepted. So a processor may be woken and then run an instruction, and
that instruction is run awake. `Machine.seen_eq` opens the transaction once, and no
later proof does. Main statements:

* `Machine.seen_entry`, `Machine.seen_idle`, `Machine.seen_instruction`: all that is
  seen of a step, for each kind of turn. `Machine.seen_told` has the three together.
* `Machine.heeds_of_entry`, `Machine.pending_of_entry`: an interrupt is entered by
  right only.
* `Machine.turn_told`: each turn is taken under its own conditions, which exclude each
  other and leave nothing out.
-/

set_option autoImplicit false

namespace GameBoy

open Transaction

/-- What a step of the processor turns out to be. -/
inductive Turn where
  /-- The entry into an interrupt. -/
  | entry (source : Interrupt)
  /-- A slot in which the processor sleeps. -/
  | idle
  /-- An instruction, or the trap of an opcode that has none. -/
  | instruction (opcode : UInt8)
deriving DecidableEq

namespace Cpu

/-- The processor once it was woken. -/
def awake (cpu : Cpu) : Cpu := { cpu with stopped := false, halted := false }

/-- The processor at the vector of an interrupt. -/
def entered (cpu : Cpu) (source : Interrupt) : Cpu :=
  ({ cpu.awake.disableInterrupts with regs.sp := cpu.regs.sp - 2 }.jump source.vector).spend 5

/-- What a step does once it is known which interrupts are pending. -/
def act (cpu : Cpu) (pending : UInt8) : Transaction (Except Trap Nat × Cpu) :=
  match cpu.heeds pending with
  | some source => (cpu.wake pending).bind fun cpu =>
    if cpu.ime then (cpu.enter source).bind fun (cost, cpu) => done (.ok cost, cpu)
    else cpu.fetchExecute
  | none =>
    if cpu.halted || cpu.stopped then done (.ok 1, cpu.spend 1) else cpu.fetchExecute

/-- Waking shows in the processor alone. -/
theorem observe_wake {α M : Type} [Memory M] (cpu : Cpu) (pending : UInt8)
    (next : Cpu → Transaction α) (memory : M) :
    (cpu.wake pending |>.bind next).observe memory = (next cpu.awake).observe memory := by
  unfold wake
  cases cpu.stopped <;> cases cpu.halted <;> rfl

/-- A processor that neither sleeps nor is stopped is awake. -/
theorem awake_eq {cpu : Cpu} (h : ¬(cpu.halted || cpu.stopped) = true) : cpu.awake = cpu := by
  obtain ⟨regs, ime, delay, halted, stopped, cycles⟩ := cpu
  obtain ⟨rfl, rfl⟩ : halted = false ∧ stopped = false := by
    simpa only [Bool.or_eq_true, not_or, Bool.not_eq_true] using h
  rfl

end Cpu

namespace Interrupt

/-- The pending source with the highest priority is pending. -/
theorem pending_of_first? {pending : UInt8} {source : Interrupt}
    (h : first? pending = some source) : pending &&& source.mask ≠ 0 := by
  have found := List.find?_some h
  simpa only [bne_iff_ne] using found

/-- No source has priority when none is pending, and only then. -/
theorem first?_eq_none_iff {byte : UInt8} :
    first? (byte &&& sources) = none ↔ byte &&& sources = 0 := by
  induction byte using Reference.forall_byte with
  | _ i =>
    revert i
    decide +kernel

end Interrupt

namespace Machine

variable {M : Type} [Memory M] {machine : Machine M}

/-- The sources that are both enabled and requested. -/
def pending (machine : Machine M) : UInt8 :=
  machine.read Interrupt.enableAddr &&& machine.read Interrupt.requestAddr &&& Interrupt.sources

/-- What the next step turns out to be. -/
def turn (machine : Machine M) : Turn :=
  match machine.cpu.heeds machine.pending with
  | some source =>
    if machine.cpu.ime then .entry source else .instruction (machine.read machine.cpu.regs.pc)
  | none =>
    if machine.cpu.halted || machine.cpu.stopped then .idle
    else .instruction (machine.read machine.cpu.regs.pc)

/-- What is seen of a step. -/
def seen (machine : Machine M) : (Except Trap Nat × Cpu) × List (UInt16 × UInt8) :=
  machine.cpu.step.observe machine.memory

/-- A step looks for pending interrupts first, and its turn says what comes of it. Waking leaves
the interrupt enable alone, so it may be looked at before or after. A processor that nothing
wakes and that goes on was awake. -/
theorem seen_eq (machine : Machine M) :
    machine.seen =
      match machine.turn with
      | .entry source =>
        ((machine.cpu.awake.enter source).bind fun (cost, cpu) =>
          done (.ok cost, cpu)).observe machine.memory
      | .idle => ((.ok 1, machine.cpu.spend 1), [])
      | .instruction _ => machine.cpu.awake.fetchExecute.observe machine.memory := by
  -- The two registers are read before anything is decided, and reading leaves no trace.
  have looked : machine.seen = (machine.cpu.act machine.pending).observe machine.memory := rfl
  rw [looked, turn, Cpu.act]
  cases machine.cpu.heeds machine.pending with
  | some source =>
    -- Waking does not touch the interrupt enable, which decides between the two.
    have ime : machine.cpu.awake.ime = machine.cpu.ime := rfl
    simp only [Cpu.observe_wake, ime]
    cases machine.cpu.ime <;> rfl
  | none =>
    by_cases asleep : (machine.cpu.halted || machine.cpu.stopped) = true
    · simp only [asleep]
      rfl
    · -- Nothing woke it, but it was awake already.
      simp only [asleep, Cpu.awake_eq asleep]
      rfl

/-- The opcode of an instruction is the byte at the program counter. -/
theorem opcode_of_turn {opcode : UInt8} (h : machine.turn = .instruction opcode) :
    machine.read machine.cpu.regs.pc = opcode := by
  unfold turn at h
  split at h
  · split at h
    · cases h
    · exact Turn.instruction.inj h
  · split at h
    · cases h
    · exact Turn.instruction.inj h

/-- An entry writes the acknowledge and then the two bytes of the program counter, and nothing
else. It costs five cycles. -/
theorem seen_entry {source : Interrupt} (h : machine.turn = .entry source) :
    machine.seen =
      ((.ok 5, machine.cpu.entered source),
        (Interrupt.requestAddr, machine.read Interrupt.requestAddr &&& ~~~source.mask) ::
          Reference.pushWrites machine.cpu.view.file machine.cpu.regs.pc) := by
  rw [seen_eq, h]
  simp only [Cpu.enter, load, store, notify, bind_eq, pure_eq, bind_read, bind_write, bind_done,
    bind_bind, bind_report, observe_read, observe_write, Cpu.observe_pushWord, observe_report,
    observe_done, List.append_nil]
  rfl

/-- An idle slot costs one cycle and does nothing. -/
theorem seen_idle (h : machine.turn = .idle) :
    machine.seen = ((.ok 1, machine.cpu.spend 1), []) := by
  rw [seen_eq, h]

/-- An instruction is run by a processor that is awake, its opcode fetched. -/
theorem seen_instruction {opcode : UInt8} (h : machine.turn = .instruction opcode) :
    machine.seen =
      ((machine.cpu.awake.jump (machine.cpu.regs.pc + 1)).execute opcode).observe
        machine.memory := by
  rw [seen_eq, h, ← opcode_of_turn h]
  rfl

/-- All that is seen of a step, by its turn. Nothing but an entry pushes the program counter of
its own accord and goes to a vector: the two other turns are a cycle that passes and the opcode
at the program counter. -/
theorem seen_told (machine : Machine M) :
    machine.seen =
      match machine.turn with
      | .entry source =>
        ((.ok 5, machine.cpu.entered source),
          (Interrupt.requestAddr, machine.read Interrupt.requestAddr &&& ~~~source.mask) ::
            Reference.pushWrites machine.cpu.view.file machine.cpu.regs.pc)
      | .idle => ((.ok 1, machine.cpu.spend 1), [])
      | .instruction _ =>
        ((machine.cpu.awake.jump (machine.cpu.regs.pc + 1)).execute
          (machine.read machine.cpu.regs.pc)).observe machine.memory := by
  cases turn : machine.turn with
  | entry source => exact seen_entry turn
  | idle => exact seen_idle turn
  | instruction opcode =>
    rw [opcode_of_turn turn]
    exact seen_instruction turn

/-- What a step makes of a machine is what is seen of it. -/
theorem step_eq (machine : Machine M) :
    machine.step.1 = machine.seen.1.1 ∧ machine.step.2.cpu = machine.seen.1.2 ∧
      machine.step.2.memory = Memory.writeAll machine.memory machine.seen.2 :=
  run_eq machine Cpu.step

/-- An entry leaves the processor at the vector. -/
theorem cpu_of_entry {source : Interrupt} (h : machine.turn = .entry source) :
    machine.step.2.cpu = machine.cpu.entered source := by
  rw [machine.step_eq.2.1, seen_entry h]

/-- An idle slot leaves the processor as it was, a cycle later. -/
theorem cpu_of_idle (h : machine.turn = .idle) : machine.step.2.cpu = machine.cpu.spend 1 := by
  rw [machine.step_eq.2.1, seen_idle h]

/-! ### The right to enter -/

/-- An interrupt is entered when the processor heeds it and accepts interrupts. -/
theorem heeds_of_entry {source : Interrupt} (h : machine.turn = .entry source) :
    machine.cpu.heeds machine.pending = some source ∧ machine.cpu.ime = true := by
  unfold turn at h
  split at h
  · next heeded =>
    split at h
    · next ime =>
      cases h
      exact ⟨heeded, ime⟩
    · cases h
  · split at h <;> cases h

/-- Only a pending interrupt is entered. -/
theorem pending_of_entry {source : Interrupt} (h : machine.turn = .entry source) :
    machine.pending &&& source.mask ≠ 0 := by
  have heeded := (heeds_of_entry h).1
  unfold Cpu.heeds at heeded
  split at heeded
  · cases heeded
  · exact Interrupt.pending_of_first? heeded

/-! ### The turn by its conditions -/

/-- The next step enters an interrupt: interrupts are accepted and one is pending, if the
processor is stopped the joypad's. -/
def Enters (machine : Machine M) : Prop :=
  machine.cpu.ime = true ∧ machine.pending ≠ 0 ∧
    (machine.cpu.stopped = true → machine.pending &&& Interrupt.joypad.mask ≠ 0)

/-- The next step is an idle slot: the processor is stopped and the joypad's interrupt is
not pending, or it sleeps and none is. -/
def Idles (machine : Machine M) : Prop :=
  machine.cpu.stopped = true ∧ machine.pending &&& Interrupt.joypad.mask = 0 ∨
    machine.cpu.halted = true ∧ machine.pending = 0

/-- The next step fetches an opcode. -/
def Fetches (machine : Machine M) : Prop := ¬machine.Enters ∧ ¬machine.Idles

theorem first?_pending_eq_none_iff (machine : Machine M) :
    Interrupt.first? machine.pending = none ↔ machine.pending = 0 :=
  Interrupt.first?_eq_none_iff

/-- Each turn comes with its conditions. A stopped processor heeds the joypad's interrupt only;
that case is taken first, and in the other the first pending source decides. With none pending
the turn is a slot of sleep or a fetch, by whether the processor sleeps. With one pending it is
an entry if interrupts are accepted, and a fetch if not, even for a processor that slept. -/
theorem turn_told (machine : Machine M) :
    match machine.turn with
    | .entry _ => machine.Enters
    | .idle => machine.Idles
    | .instruction opcode => machine.Fetches ∧ machine.read machine.cpu.regs.pc = opcode := by
  unfold turn Cpu.heeds
  by_cases stays : (machine.cpu.stopped && machine.pending &&& Interrupt.joypad.mask == 0) = true
  · rw [if_pos stays]
    rw [Bool.and_eq_true, beq_iff_eq] at stays
    rw [stays.1, Bool.or_true]
    exact .inl stays
  · rw [if_neg stays]
    rw [Bool.and_eq_true, beq_iff_eq, not_and] at stays
    cases first : Interrupt.first? machine.pending with
    | none =>
      -- Nothing is pending, so a processor that stays awake was awake before.
      have quiet : machine.pending = 0 := machine.first?_pending_eq_none_iff.mp first
      have going : machine.cpu.stopped ≠ true := by
        intro stopped
        exact stays stopped (by rw [quiet]; rfl)
      cases asleep : machine.cpu.halted with
      | true => exact .inr ⟨asleep, quiet⟩
      | false =>
        rw [Bool.eq_false_iff.mpr going]
        refine ⟨⟨fun enters => enters.2.1 quiet, ?_⟩, rfl⟩
        rintro (⟨stopped, -⟩ | ⟨halted, -⟩)
        · exact going stopped
        · rw [asleep] at halted
          cases halted
    | some source =>
      have called : machine.pending ≠ 0 := by
        intro quiet
        rw [machine.first?_pending_eq_none_iff.mpr quiet] at first
        cases first
      cases ime : machine.cpu.ime with
      | true => exact ⟨ime, called, stays⟩
      | false =>
        refine ⟨⟨fun enters => ?_, ?_⟩, rfl⟩
        · rw [enters.1] at ime
          cases ime
        · rintro (⟨stopped, noJoypad⟩ | ⟨-, quiet⟩)
          · exact stays stopped noJoypad
          · exact called quiet

/-- A step that fetches is an instruction, its opcode the byte at the program counter, and only
then. The other two turns have conditions of their own, which a fetch denies. -/
theorem turn_eq_instruction_iff {opcode : UInt8} :
    machine.turn = .instruction opcode ↔
      machine.Fetches ∧ machine.read machine.cpu.regs.pc = opcode := by
  have told := machine.turn_told
  constructor
  · intro turn
    rw [turn] at told
    exact told
  · rintro ⟨⟨noEntry, noSlot⟩, byte⟩
    cases turn : machine.turn with
    | entry source =>
      rw [turn] at told
      exact absurd told noEntry
    | idle =>
      rw [turn] at told
      exact absurd told noSlot
    | instruction opcode' =>
      rw [turn] at told
      rw [← byte, ← told.2]

end Machine

end GameBoy
