import GameBoy.Memory.Flat
import GameBoy.Proofs.Cpu.Trajectory

/-!
# `GameBoy.Proofs.Cpu.EnableDelay`: when an enable of interrupts takes effect

`Instruction.enabling` is the whole of what an instruction does to the interrupt
enable and to the countdown of a pending enable. Three instructions have a say of
their own: a disable, an enable and a return from an interrupt. Every other one lets
a pending enable come closer, and that is proved of all of them at once, through the
reference (`Reference.ended_perform_enable`).

A run is any sequence of steps from a fresh processor, its memory open to changes from
outside between them (`Machine.IsRun`). A step of a run is an entry, completes an
instruction, or leaves the enable alone, as idle slots and traps do
(`Machine.enable_cases`).

An enable sets the countdown to two and ends, so one is left, and the next instruction
to end finds it due. There is one exception. A second enable sets the countdown to two
again, and with interrupts refused so far they are still refused when it completes: the
delay starts anew. A row of enables takes effect only after the first instruction that
is none. Main statement: `Machine.IsRun.enable_delay`, with the exception in it, and
`Machine.enable_then_enable` for the smallest program that meets it.
-/

set_option autoImplicit false

namespace GameBoy

open Reference

/-! ### One instruction -/

/-- The interrupt enable and the countdown once an instruction has ended, from what
they were before it. -/
def Instruction.enabling (instruction : Instruction) (ime : Bool) (delay : Nat) : Bool × Nat :=
  match instruction with
  | .di => (false, 0)
  -- Two instructions from here, and this one is the first to end.
  | .ei => (ime, 1)
  | .reti => (true, delay - 1)
  | _ => (ime || delay = 1, delay - 1)

namespace Reference

/-- An instruction of the extended page leaves the interrupt enable alone. -/
theorem performExtended_enable (memory : UInt16 → UInt8) (state : State)
    (instruction : BitInstruction) :
    let after := (performExtended memory state instruction).state
    after.ime = state.ime ∧ after.enableDelay = state.enableDelay := by
  obtain ⟨action, operand⟩ := instruction
  cases action <;> exact ⟨rfl, rfl⟩

/-- An instruction that has ended leaves the interrupt enable as `Instruction.enabling` says,
whatever it reads. -/
theorem ended_perform_enable (memory : UInt16 → UInt8) (state : State)
    (instruction : Instruction) :
    let after := ended (perform memory state instruction).state
    (after.ime, after.enableDelay) = instruction.enabling state.ime state.enableDelay := by
  -- Only three instructions touch the enable. The others are split as far as it takes for
  -- the state to show.
  cases instruction with
  | jumpBy condition | jump condition | call condition | retIf condition =>
    unfold perform
    dsimp only
    split <;> rfl
  | extended =>
    have same := performExtended_enable memory (state.with (skip state.file 1))
      (decodeExtended (Fields.ofByte (memory state.file.pc)))
    simp only [perform, ended, same.1, same.2]
    rfl
  | di => rfl
  | ei => simp [perform, ended, Instruction.enabling]
  | reti => simp [perform, ended, Instruction.enabling, State.with]
  | _ => rfl

end Reference

namespace Machine

variable {M : Type} [Memory M]

/-! ### One step -/

/-- A step that completes an instruction: no entry, no idle slot and no trap. -/
def Completes (machine : Machine M) (instruction : Instruction) : Prop :=
  ∃ opcode, machine.turn = .instruction opcode ∧ Opcode.decode opcode = some instruction

/-- What a step that is an instruction shows is what the reference says. -/
theorem step_of_instruction {machine : Machine M} {opcode : UInt8}
    (h : machine.turn = .instruction opcode) :
    let state := (machine.cpu.awake.jump (machine.cpu.regs.pc + 1)).view
    let expected := Reference.execute (Memory.read machine.memory) state opcode
    machine.step.1 = expected.1 ∧ machine.step.2.cpu.view = expected.2.1 := by
  obtain ⟨outcome, cpu, -⟩ := machine.step_eq
  have seen := observe_execute (machine.cpu.awake.jump (machine.cpu.regs.pc + 1)) machine.memory
    opcode
  rw [seen_instruction h] at outcome cpu
  exact ⟨outcome.trans (congrArg Prod.fst seen),
    (congrArg Cpu.view cpu).trans (congrArg (·.2.1) seen)⟩

/-- A step that completes an instruction ends with a cost. -/
theorem Completes.ok {machine : Machine M} {instruction : Instruction}
    (h : machine.Completes instruction) : ∃ cost, machine.step.1 = .ok cost := by
  obtain ⟨opcode, turn, decoded⟩ := h
  have outcome := (step_of_instruction turn).1
  simp only [Reference.execute, ← decode_eq, decoded] at outcome
  exact ⟨_, outcome⟩

/-- What a completed instruction leaves of the interrupt enable. -/
theorem Completes.enabling {machine : Machine M} {instruction : Instruction}
    (h : machine.Completes instruction) :
    (machine.step.2.cpu.ime, machine.step.2.cpu.enableDelay) =
      instruction.enabling machine.cpu.ime machine.cpu.enableDelay := by
  obtain ⟨opcode, turn, decoded⟩ := h
  have view := (step_of_instruction turn).2
  simp only [Reference.execute, ← decode_eq, decoded] at view
  rw [show machine.cpu.ime = (machine.cpu.awake.jump (machine.cpu.regs.pc + 1)).view.ime from rfl,
    show machine.cpu.enableDelay =
      (machine.cpu.awake.jump (machine.cpu.regs.pc + 1)).view.enableDelay from rfl,
    ← ended_perform_enable (Memory.read machine.memory), ← view]
  rfl

/-- An enable starts the countdown, and does nothing else but go on. -/
theorem Completes.step_of_enable {machine : Machine M} (h : machine.Completes .ei) :
    machine.step.2.cpu =
        { machine.cpu.awake.jump (machine.cpu.regs.pc + 1) with enableDelay := 1 }.spend 1 ∧
      machine.step.2.memory = machine.memory := by
  obtain ⟨opcode, turn, decoded⟩ := h
  obtain ⟨-, cpu, memory⟩ := machine.step_eq
  rw [seen_instruction turn, Cpu.execute, decoded] at cpu memory
  exact ⟨cpu, memory⟩

/-- An entry refuses interrupts and calls off a pending enable. -/
theorem enable_of_entry {machine : Machine M} {source : Interrupt}
    (h : machine.turn = .entry source) :
    machine.step.2.cpu.ime = false ∧ machine.step.2.cpu.enableDelay = 0 := by
  rw [cpu_of_entry h]
  exact ⟨rfl, rfl⟩

/-- A step is an entry, completes an instruction, or leaves the interrupt enable and the
countdown as they were. The last are the idle slots and the traps. -/
theorem enable_cases (machine : Machine M) :
    (∃ source, machine.turn = .entry source) ∨ (∃ instruction, machine.Completes instruction) ∨
      (machine.step.2.cpu.ime = machine.cpu.ime ∧
        machine.step.2.cpu.enableDelay = machine.cpu.enableDelay) := by
  cases turn : machine.turn with
  | entry source => exact .inl ⟨source, rfl⟩
  | idle =>
    rw [cpu_of_idle turn]
    exact .inr (.inr ⟨rfl, rfl⟩)
  | instruction opcode =>
    cases decoded : Opcode.decode opcode with
    | some instruction => exact .inr (.inl ⟨instruction, opcode, turn, decoded⟩)
    | none =>
      -- A trap leaves the processor as the fetch left it.
      have view := (step_of_instruction turn).2
      simp only [Reference.execute, ← decode_eq, decoded] at view
      exact .inr (.inr ⟨congrArg State.ime view, congrArg State.enableDelay view⟩)

/-! ### Runs -/

/-- A run of steps from a fresh processor. Its memory and its journal may change in
any way between two steps. -/
structure IsRun (machine : Nat → Machine M) : Prop where
  fresh : (machine 0).cpu = .postBoot ∨ (machine 0).cpu = .preBoot
  step : ∀ n, (machine (n + 1)).cpu = (machine n).step.2.cpu

namespace IsRun

variable {machine : Nat → Machine M}

/-- Once interrupts are refused and no enable is pending, they stay refused until a new
enable or a return from an interrupt completes. -/
theorem refused_until (run : IsRun machine) {n k : Nat} (le : n ≤ k)
    (refused : (machine n).cpu.ime = false ∧ (machine n).cpu.enableDelay = 0)
    (quiet : ∀ j, n ≤ j → j < k → ¬(machine j).Completes .ei ∧ ¬(machine j).Completes .reti) :
    (machine k).cpu.ime = false ∧ (machine k).cpu.enableDelay = 0 := by
  -- On the number of steps. The invariant is the whole of `refused`: an enable that is
  -- pending would undo the first half later.
  induction le with
  | refl => exact refused
  | @step k le ih =>
    obtain ⟨ime, delay⟩ := ih fun j nj jk => quiet j nj (Nat.lt_succ_of_lt jk)
    obtain ⟨noEnable, noReturn⟩ := quiet k le (Nat.lt_succ_self k)
    rw [run.step]
    rcases enable_cases (machine k) with ⟨source, entry⟩ | ⟨instruction, completes⟩ | same
    · exact enable_of_entry entry
    · have after := completes.enabling
      rw [ime, delay] at after
      cases instruction with
      | ei => exact absurd completes noEnable
      | reti => exact absurd completes noReturn
      | _ => exact Prod.mk.inj after
    · exact ⟨same.1.trans ime, same.2.trans delay⟩

/-- An enable changes nothing by its own completion. -/
theorem ime_of_enable (run : IsRun machine) {n : Nat} (enable : (machine n).Completes .ei) :
    (machine (n + 1)).cpu.ime = (machine n).cpu.ime := by
  rw [run.step]
  exact (Prod.mk.inj enable.enabling).1

/-- What becomes of an enable on every run.

1. If it completes and the next step completes an instruction that is no disable, interrupts are
   accepted after that one. The exception is another enable: after it they are accepted only if
   they were before it, since it starts the countdown anew. The equivalence says both.
2. Until then it changes nothing: by its own completion the interrupt enable stays as it was.
3. Once a disable completes or an interrupt is entered, interrupts are refused, and they stay
   refused until a new enable or a return from an interrupt completes, over any number of steps
   and whatever happens to the memory.

The hypotheses speak of two steps in a row, so no entry and no idle slot lies between. The first
two clauses are read off `Completes.enabling`; the third is an induction on the steps, whose
invariant is that interrupts are refused and no enable is on its way (`refused_until`). -/
theorem enable_delay (run : IsRun machine) :
    (∀ n instruction, (machine n).Completes .ei → (machine (n + 1)).Completes instruction →
      instruction ≠ .di →
        ((machine (n + 2)).cpu.ime = true ↔
          (instruction = .ei → (machine (n + 1)).cpu.ime = true))) ∧
    (∀ n, (machine n).Completes .ei → (machine (n + 1)).cpu.ime = (machine n).cpu.ime) ∧
    (∀ n k, n < k → (machine n).Completes .di ∨ (∃ source, (machine n).turn = .entry source) →
      (∀ j, n < j → j < k → ¬(machine j).Completes .ei ∧ ¬(machine j).Completes .reti) →
        (machine k).cpu.ime = false) := by
  refine ⟨?_, fun _ => run.ime_of_enable, ?_⟩
  · intro n instruction enable next noDisable
    -- The enable leaves the countdown at one, so the next instruction to end finds it due.
    have armed := Prod.mk.inj enable.enabling
    have after := congrArg Prod.fst next.enabling
    rw [← run.step] at armed after
    rw [armed.2] at after
    rw [show (machine (n + 2)).cpu.ime = _ from after]
    cases instruction with
    | di => exact absurd rfl noDisable
    | ei => simp [Instruction.enabling]
    | _ => simp [Instruction.enabling]
  · intro n k lt cancelled quiet
    have refused : (machine (n + 1)).cpu.ime = false ∧ (machine (n + 1)).cpu.enableDelay = 0 := by
      rw [run.step]
      rcases cancelled with disable | ⟨source, entry⟩
      · exact Prod.mk.inj disable.enabling
      · exact enable_of_entry entry
    exact (run.refused_until lt refused quiet).1

end IsRun

/-! ### Two enables in a row -/

/-- A machine left to itself makes a run if its processor is fresh. -/
theorem isRun_trajectory {start : Machine M} (fresh : start.cpu = .postBoot) :
    IsRun start.trajectory := ⟨.inl fresh, fun _ => rfl⟩

/-- A fresh machine whose program is an enable and one more opcode. -/
def enableThen (opcode : UInt8) : Machine Flat where
  cpu := .postBoot
  memory := Flat.zero.load 0x0100 [0xFB, opcode]
  journal := Journal.start .silent

/-- Its memory is zero but for the program. -/
theorem read_enableThen (opcode : UInt8) (addr : UInt16) :
    (enableThen opcode).read addr =
      if addr = 0x0101 then opcode else if addr = 0x0100 then 0xFB else 0 := by
  have zero : Flat.zero.read addr = 0 := by simp [Flat.zero, Flat.read]
  show (Flat.load Flat.zero 0x0100 [0xFB, opcode]).read addr = _
  simp only [Flat.load, Flat.read_write, zero, eq_comm (b := addr)]
  rfl

/-- Its first two steps are the enable and the opcode. Nothing is enabled or requested, in memory
that is zero but for the program. -/
theorem turn_enableThen (opcode : UInt8) :
    ((enableThen opcode).trajectory 0).Completes .ei ∧
      ((enableThen opcode).trajectory 1).turn = .instruction opcode := by
  -- No interrupt is enabled or requested, so both steps are instructions.
  have nothing : (enableThen opcode).pending = 0 := by
    simp [pending, read_enableThen, Interrupt.enableAddr, Interrupt.requestAddr]
  have first : (enableThen opcode).Completes .ei := by
    refine ⟨0xFB, ?_, rfl⟩
    rw [turn, nothing, read_enableThen]
    rfl
  refine ⟨first, ?_⟩
  obtain ⟨cpu, memory⟩ := first.step_of_enable
  have same : ∀ addr, (enableThen opcode).step.2.read addr = (enableThen opcode).read addr := by
    intro addr
    rw [read, memory]
    rfl
  have still : (enableThen opcode).step.2.pending = 0 := by
    rw [← nothing, pending, same, same, pending]
  rw [trajectory, trajectory, turn, still, same, cpu, read_enableThen]
  rfl

/-- Its first two steps are part of a run. -/
theorem isRun_enableThen (opcode : UInt8) : IsRun (enableThen opcode).trajectory :=
  isRun_trajectory rfl

/-- A plain enable, with nothing to disturb it, takes effect after the next instruction. -/
theorem enable_then_nop :
    IsRun (enableThen 0x00).trajectory ∧ ((enableThen 0x00).trajectory 2).cpu.ime = true := by
  obtain ⟨first, second⟩ := turn_enableThen 0x00
  have next : ((enableThen 0x00).trajectory 1).Completes .nop := ⟨0x00, second, rfl⟩
  have effect := (isRun_enableThen 0x00).enable_delay.1 0 .nop first next (by decide)
  rw [Nat.zero_add] at effect
  exact ⟨isRun_enableThen 0x00, effect.2 fun same => absurd same (by decide)⟩

/-- An enable followed by another one has not taken effect when the second completes. -/
theorem enable_then_enable :
    IsRun (enableThen 0xFB).trajectory ∧
      ((enableThen 0xFB).trajectory 0).Completes .ei ∧
      ((enableThen 0xFB).trajectory 1).Completes .ei ∧
      ((enableThen 0xFB).trajectory 2).cpu.ime = false := by
  obtain ⟨first, second⟩ := turn_enableThen 0xFB
  have again : ((enableThen 0xFB).trajectory 1).Completes .ei := ⟨0xFB, second, rfl⟩
  have run := isRun_enableThen 0xFB
  refine ⟨run, first, again, ?_⟩
  -- Neither of the two changes the interrupt enable, which is off at the start.
  rw [run.ime_of_enable again, run.ime_of_enable first]
  rfl

end Machine

end GameBoy
