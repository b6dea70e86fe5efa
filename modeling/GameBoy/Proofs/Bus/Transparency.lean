import GameBoy.Proofs.Bus.PlainStorage
import GameBoy.Proofs.Bus.StackRoom

/-!
# `GameBoy.Proofs.Bus.Transparency`: an interrupt that is not noticed

The entry into an interrupt puts the program counter on the stack and refuses further interrupts.
A handler that returns at once, by RETI, takes it off again and accepts interrupts at once. The
program that was interrupted finds every register as it was. In memory it can tell by the
acknowledge, and by the two bytes below its stack pointer.

An entry makes three writes: the acknowledge, then the two bytes of the return address. It is
treated as the acknowledge followed by a push (`Machine.pushes_of_entry`), so that the lemmas
about the stack apply to the rest. The return is a pop. What was pushed is popped where the stack
has room for a word, and that is all the argument there is about the processor. About the memory
there is one case to mind: the stack may lie over the interrupt registers, and its bytes then
replace the acknowledge. Main statements:

* `Machine.handled`: an entry and a return, on any memory with room for the two bytes.
* `Machine.interrupt_transparent`: what is left of both on the memory map.
-/

set_option autoImplicit false

namespace GameBoy

open Transaction
open Interrupt (requestAddr)

namespace Machine

section

variable {M : Type} [Memory M] {machine : Machine M}

/-! ### The entry -/

/-- A machine whose processor was about to enter an interrupt, once that was acknowledged. -/
def acknowledged (machine : Machine M) (source : Interrupt) : Machine M :=
  { machine with
    memory := Memory.write machine.memory requestAddr
      (machine.read requestAddr &&& ~~~source.mask) }

/-- The entry acknowledges the interrupt, and then puts the program counter on the stack. -/
theorem pushes_of_entry {source : Interrupt} (turn : machine.turn = .entry source) :
    Pushes (machine.acknowledged source) machine.cpu.regs.pc machine.step.2 := by
  refine ⟨?_, ?_⟩
  · rw [cpu_of_entry turn]
    rfl
  · rw [machine.step_eq.2.2, seen_entry turn, highByte_eq_upperOf, lowByte_eq_lowerOf]
    rfl

/-! ### The return -/

/-- A processor that is awake and refuses interrupts runs the next opcode, whatever is
pending. -/
theorem turn_of_refused (refused : machine.cpu.ime = false)
    (awake : machine.cpu.halted = false ∧ machine.cpu.stopped = false) :
    machine.turn = .instruction (machine.read machine.cpu.regs.pc) := by
  refine turn_eq_instruction_iff.mpr ⟨⟨?_, ?_⟩, rfl⟩
  · rintro ⟨accepts, -⟩
    rw [refused] at accepts
    cases accepts
  · rintro (⟨stopped, -⟩ | ⟨halted, -⟩)
    · rw [awake.2] at stopped
      cases stopped
    · rw [awake.1] at halted
      cases halted

/-- The opcode 0xD9 takes a word off the stack, goes on there and accepts interrupts. No enable
may be on its way, as it would come closer; an entry sees to that. -/
theorem execute_reti (machine : Machine M) (settled : machine.cpu.enableDelay = 0) :
    let target := (machine.execute 0xD9).2.cpu.regs.pc
    Pops machine target (machine.execute 0xD9).2 ∧ (machine.execute 0xD9).1 = .ok 4 ∧
      (machine.execute 0xD9).2.cpu =
        { machine.cpu with
          regs.pc := target
          regs.sp := machine.cpu.regs.sp + 2
          ime := true
          cycles := machine.cpu.cycles + 4 } := by
  intro target
  have decoded : Opcode.decode 0xD9 = some .reti := rfl
  have cpu : (machine.execute 0xD9).2.cpu =
      { machine.cpu with
        regs.pc := joinBytes (machine.read (machine.cpu.regs.sp + 1))
          (machine.read machine.cpu.regs.sp)
        regs.sp := machine.cpu.regs.sp + 2
        ime := true
        cycles := machine.cpu.cycles + 4 } := by
    rw [execute, (machine.run_eq (·.execute 0xD9)).2.1]
    obtain ⟨⟨regs, ime, delay, halted, stopped, cycles⟩, memory, journal⟩ := machine
    obtain rfl : delay = 0 := settled
    rfl
  have goesOn : target = joinBytes (machine.read (machine.cpu.regs.sp + 1))
      (machine.read machine.cpu.regs.sp) := congrArg (·.regs.pc) cpu
  refine ⟨⟨goesOn, congrArg (·.regs.sp) cpu, ?_⟩, ?_, ?_⟩
  · rw [memory_execute decoded]
    rfl
  · exact (machine.run_eq (·.execute 0xD9)).1
  · rw [cpu, goesOn]

/-! ### Both together -/

/-- An interrupt whose handler returns at once, on any memory. The two steps take nine cycles,
and leave the processor as it was before them, awake and with interrupts accepted. That the
handler is RETI is asked of the memory as the entry leaves it, since the pushed bytes may lie
over the vector. The return changes no memory. -/
theorem handled {source : Interrupt} (turn : machine.turn = .entry source)
    (room : Room M machine.cpu.regs.sp 2)
    (returns : machine.step.2.read source.vector = 0xD9) :
    machine.step.1 = .ok 5 ∧ machine.step.2.step.1 = .ok 4 ∧
      machine.step.2.step.2.cpu =
        { machine.cpu with
          ime := true
          enableDelay := 0
          halted := false
          stopped := false
          cycles := machine.cpu.cycles + 9 } ∧
      machine.step.2.step.2.memory = machine.step.2.memory := by
  have entered : machine.step.2.cpu = machine.cpu.entered source := cpu_of_entry turn
  have next : machine.step.2.turn = .instruction 0xD9 := by
    rw [turn_of_refused (by rw [entered]; rfl) (by rw [entered]; exact ⟨rfl, rfl⟩), entered]
    exact congrArg Turn.instruction returns
  have ready : machine.step.2.ready.cpu =
      ((machine.cpu.entered source).jump (source.vector + 1)) := by
    show machine.step.2.cpu.awake.jump (machine.step.2.cpu.regs.pc + 1) = _
    rw [entered]
    rfl
  -- What the entry puts on the stack is what the return takes off it.
  have empty : Stacked (machine.acknowledged source) machine.cpu.regs.sp [] :=
    ⟨(below.zero _).symm, trivial⟩
  obtain ⟨stacked, -⟩ := empty.push room (pushes_of_entry turn) (Nat.le_refl 2)
  obtain ⟨pops, cost, cpu⟩ := machine.step.2.ready.execute_reti (by rw [ready]; rfl)
  obtain ⟨back, -⟩ := stacked.pop (.of_obeys (.fetched next) pops)
  rw [step_eq_execute next]
  refine ⟨?_, cost, ?_, pops.memory⟩
  · rw [machine.step_eq.1, seen_entry turn]
  · have sp : machine.cpu.regs.sp - 2 + 2 = machine.cpu.regs.sp := UInt16.sub_add_cancel _ _
    rw [cpu, back, ready]
    show Cpu.mk { machine.cpu.regs with sp := machine.cpu.regs.sp - 2 + 2 } true 0 false false
      (machine.cpu.cycles + 9) = _
    rw [sp]

end

/-! ### On the memory map -/

/-- The two bytes below a pointer are not an echo pair. -/
theorem single_of_two (sp : UInt16) (i j : Nat) (hi : 1 ≤ i) (hi' : i ≤ 2) (hj : 1 ≤ j)
    (hj' : j ≤ 2) : ¬EchoPair (below sp i) (below sp j) := by
  rintro ⟨-, -, apart⟩
  have values := congrArg UInt16.toNat apart
  rw [UInt16.toNat_add, below.toNat_eq, below.toNat_eq] at values
  have repeats : (0x2000 : UInt16).toNat = 0x2000 := rfl
  omega

/-- An interrupt is transparent to the program that it interrupts. The hypotheses are:

1. the next step enters an interrupt;
2. the two bytes below the stack pointer can be written;
3. the handler, as the entry leaves the memory, is the opcode RETI.

Then two steps take nine cycles and leave the processor as it was, all registers included; only
it is awake, and accepts interrupts with no enable on its way. The cartridge and the boot image
are as they were, and so is all memory, but for the bit of the interrupt and the program counter
on the stack. This last is said of every address, echoes included. That the stack may cover the
interrupt registers makes no difference to it; only it must not take the boot image away.

The processor's part is `handled`, the room for a word being given by the second hypothesis. For
the memory, three writes are made in turn, none of which uncovers the cartridge, so each is seen
at the addresses of its cell and nowhere else (`Bus.read_write_covered`). -/
theorem interrupt_transparent {machine : Machine Bus} {source : Interrupt}
    (turn : machine.turn = .entry source) (upper : Writable (machine.cpu.regs.sp - 1))
    (lower : Writable (machine.cpu.regs.sp - 2))
    (returns : machine.step.2.read source.vector = 0xD9) :
    let after := machine.step.2.step.2
    let sp := machine.cpu.regs.sp
    machine.step.1 = .ok 5 ∧ machine.step.2.step.1 = .ok 4 ∧
      after.cpu =
        { machine.cpu with
          ime := true
          enableDelay := 0
          halted := false
          stopped := false
          cycles := machine.cpu.cycles + 9 } ∧
      (sp - 1 ≠ 0xFF50 → sp - 2 ≠ 0xFF50 →
        after.memory.mapper = machine.memory.mapper ∧ after.memory.boot = machine.memory.boot ∧
          after.memory.overlay = machine.memory.overlay ∧
          ∀ addr, after.read addr =
            if homeAddr addr = homeAddr (sp - 2) then lowByte machine.cpu.regs.pc
            else if homeAddr addr = homeAddr (sp - 1) then highByte machine.cpu.regs.pc
            else if addr = 0xFF0F then machine.read 0xFF0F &&& ~~~source.mask
            else machine.read addr) := by
  intro after sp
  have writable : ∀ i, 1 ≤ i → i ≤ 2 → Writable (below sp i) := by
    intro i one two
    obtain rfl | rfl : i = 1 ∨ i = 2 := by omega
    · exact upper
    · exact lower
  obtain ⟨enters, cost, cpu, memory⟩ :=
    handled turn (Bus.room writable (single_of_two sp)) returns
  refine ⟨enters, cost, cpu, fun high low => ?_⟩
  let requests := machine.read 0xFF0F &&& ~~~source.mask
  have written : after.memory = ((machine.memory.write 0xFF0F requests).write (sp - 1)
      (highByte machine.cpu.regs.pc)).write (sp - 2) (lowByte machine.cpu.regs.pc) :=
    memory.trans (pushes_of_entry turn).memory
  -- Three writes, of which none uncovers the cartridge.
  have request : (0xFF0F : UInt16) ≠ Bus.overlayAddr := by decide
  obtain ⟨mapper₁, boot₁, overlay₁⟩ := machine.memory.write_covered requests request
  obtain ⟨mapper₂, boot₂, overlay₂⟩ := (machine.memory.write 0xFF0F requests).write_covered
    (highByte machine.cpu.regs.pc) high
  obtain ⟨mapper₃, boot₃, overlay₃⟩ := Bus.write_covered
    ((machine.memory.write 0xFF0F requests).write (sp - 1) (highByte machine.cpu.regs.pc))
    (lowByte machine.cpu.regs.pc) low
  rw [written]
  refine ⟨mapper₃.trans (mapper₂.trans mapper₁), boot₃.trans (boot₂.trans boot₁),
    overlay₃.trans (overlay₂.trans overlay₁), fun addr => ?_⟩
  have alone : homeAddr addr = homeAddr 0xFF0F ↔ addr = 0xFF0F := by
    have unmirrored : Unmirrored 0xFF0F := by decide
    exact ⟨fun same => (unmirrored.eq_of_home same.symm).symm, congrArg homeAddr⟩
  show after.memory.read addr = _
  rw [written, Bus.read_write_covered _ _ lower low, Bus.read_write_covered _ _ upper high,
    Bus.read_write_covered _ _ (by decide) request, if_congr alone rfl rfl]
  rfl

/-- A machine that sleeps until its vertical blank is over, with a handler that returns at
once. -/
def sleeping : Machine Bus where
  cpu := { Cpu.postBoot with ime := true, halted := true }
  memory :=
    ((Bus.powerOn ⟨Array.replicate 0x40 0 ++ #[0xD9]⟩ none).write 0xFFFF 0x01).write 0xFF0F 0x03
  journal := .start .silent

/-- It is woken and goes on where it was, with another interrupt still requested. -/
theorem interrupt_transparent_sleeping :
    sleeping.turn = .entry .vblank ∧ Writable (sleeping.cpu.regs.sp - 1) ∧
      Writable (sleeping.cpu.regs.sp - 2) ∧
      sleeping.step.2.read Interrupt.vblank.vector = 0xD9 ∧
      sleeping.step.2.step.2.cpu = { Cpu.postBoot with ime := true, cycles := 9 } ∧
      sleeping.step.2.step.2.read 0xFF0F = 0x02 := by
  have turn : sleeping.turn = .entry .vblank := by decide +kernel
  have upper : Writable (sleeping.cpu.regs.sp - 1) := by decide
  have lower : Writable (sleeping.cpu.regs.sp - 2) := by decide
  have returns : sleeping.step.2.read Interrupt.vblank.vector = 0xD9 := by decide +kernel
  obtain ⟨-, -, cpu, memory⟩ := interrupt_transparent turn upper lower returns
  obtain ⟨-, -, -, reads⟩ := memory (by decide) (by decide)
  refine ⟨turn, upper, lower, returns, cpu, (reads 0xFF0F).trans ?_⟩
  decide +kernel

end Machine

end GameBoy
