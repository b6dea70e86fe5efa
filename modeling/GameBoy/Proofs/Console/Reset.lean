import GameBoy.Proofs.Console.Alike

/-!
# `GameBoy.Proofs.Console.Reset`: a reset is a power-on

A reset builds the machine anew from the cartridge and the boot image that the console keeps,
and nothing that is done with a console in between touches these two, unless another cartridge is
put in. The log alone goes on, where that of a new console starts anew, with a warning if the
header's checksum is wrong.

So a console after a reset is not the same as a new one, but it is the same in all except its log,
and it cannot be told from a new one by what it does next. The first is by definition, once it is
known what the console has kept. The second is the relation between consoles that are alike, for
two which differ in their logs alone. Main statements:

* `Console.session_keeps`: operations keep the cartridge and the boot image.
* `Console.reset_is_power_on`: after a reset a console is, and behaves as, a new one.
-/

set_option autoImplicit false

namespace GameBoy

namespace Console

/-- Whether an operation takes a new console instead. -/
def Operation.replaces : Operation → Bool
  | .load .. | .insert .. => true
  | _ => false

/-- An operation on a console keeps the cartridge and the boot image. -/
theorem operate_keeps (console : Console) {operation : Operation}
    (same : operation.replaces = false) :
    (console.operate operation).2.cartridge = console.cartridge ∧
      (console.operate operation).2.boot = console.boot := by
  obtain ⟨machine, cartridge, boot, timing⟩ := console
  cases operation with
  | load rom image | insert new page => cases same
  | retime | reset | step | frame | request | machine => exact ⟨rfl, rfl⟩

/-- So does any sequence of operations on it. -/
theorem session_keeps (start : Console) {operations : List Operation}
    (same : ∀ operation ∈ operations, operation.replaces = false) :
    (session operate start operations).2.cartridge = start.cartridge ∧
      (session operate start operations).2.boot = start.boot := by
  refine session_preserves
    (fun console : Console => console.cartridge = start.cartridge ∧ console.boot = start.boot)
    (fun operation mem console kept => ?_) ⟨rfl, rfl⟩
  have keeps := operate_keeps console (same operation mem)
  exact ⟨keeps.1.trans kept.1, keeps.2.trans kept.2⟩

/-- A reset makes of a console what a power-on makes of its cartridge and its boot image, but
for the log. -/
theorem reset_eq (console : Console) (config : LogConfig) :
    console.reset =
      { (powerOn console.cartridge console.boot config).withTiming console.timing with
        machine.journal := console.reset.machine.journal } := rfl

/-- What differs in the log alone, under the same configuration, is alike. -/
theorem Alike.of_journal (console : Console) {journal : Journal} (resets : Prop)
    (config : console.machine.journal.config = journal.config) :
    Alike console.machine.journal.events journal.events resets console
      { console with machine.journal := journal } :=
  ⟨⟨rfl, .refl _, .start config⟩, rfl, fun _ => .refl _, fun _ => rfl⟩

/-- A reset is a power-on. Do with a console whatever does not replace it, and then reset it.

1. It is what a new console with the cartridge, the boot image and the timing that it has is, but
   for the log: processor, memory, overlay, cartridge and boot image are the same.
2. The boot image covers the first page again exactly if there is one.
3. The processor starts at its first byte, or at 0x0100 if there is none.
4. It behaves as the new console from then on. Whatever is done, resets and new cartridges
   included, the answers are the same, the processor goes through the same states, every address
   answers the same, and the same is added to both logs.

The hypothesis excludes the operations that take another console instead, after which the
cartridge would be another one. A trap in between, a processor or a memory that was changed from
outside and a request of interrupts are all allowed. -/
theorem reset_is_power_on (start : Console) (before after : List Operation)
    (same : ∀ operation ∈ before, operation.replaces = false) :
    let earlier := (session operate start before).2
    let reset := earlier.reset
    let new := (powerOn start.cartridge start.boot earlier.machine.journal.config).withTiming
      earlier.timing
    reset = { new with machine.journal := reset.machine.journal } ∧
    (reset.machine.memory.overlay = true ↔ start.boot.isSome = true) ∧
    reset.machine.cpu.regs.pc = (if start.boot.isSome = true then 0x0000 else 0x0100) ∧
    let later := session operate reset after
    let later' := session operate new after
    later.1 = later'.1 ∧
    later.2.machine.cpu = later'.2.machine.cpu ∧
    (∀ addr, later.2.machine.read addr = later'.2.machine.read addr) ∧
    ∃ events, later.2.machine.journal.events = reset.machine.journal.events ++ events ∧
      later'.2.machine.journal.events = new.machine.journal.events ++ events := by
  intro earlier reset new
  obtain ⟨cartridge, boot⟩ := start.session_keeps same
  have anew : reset = { new with machine.journal := reset.machine.journal } := by
    have built := earlier.reset_eq earlier.machine.journal.config
    rw [cartridge, boot] at built
    exact built
  have cpu : reset.machine.cpu = if start.boot.isSome then .preBoot else .postBoot := by
    rw [anew]
    rfl
  refine ⟨anew, ?_, ?_, ?_⟩
  · rw [anew]
    rfl
  · rw [cpu]
    split <;> rfl
  · -- The two logs are under one configuration, so they go on with the same events.
    have config : new.machine.journal.config = reset.machine.journal.config := by
      have one : new.machine.journal.config = earlier.machine.journal.config :=
        (Journal.config_noteAll _ _).trans (Journal.config_noteAll _ _)
      exact one.trans (Journal.config_noteAll _ _).symm
    have alike := Alike.of_journal new True config
    rw [← anew] at alike
    have both := alike.session after fun _ => trivial
    have machines := both.after.machine
    obtain ⟨events, rest, rest'⟩ := machines.journal.later
    exact ⟨both.answer.symm, machines.cpu.symm, fun addr => (machines.read addr).symm, events,
      rest', rest⟩

/-- A console whose boot program stores a byte and then traps. -/
def booting : Console where
  machine :=
    { cpu := .preBoot
      memory := Bus.powerOn ⟨#[]⟩ (some ⟨(Vector.replicate _ 0xD3).set 0 0x02⟩)
      journal := .start (LogConfig.silent.setGlobal .trace) }
  cartridge := ⟨#[], Header.ofBytes (Vector.replicate _ 0)⟩
  boot := some ⟨(Vector.replicate _ 0xD3).set 0 0x02⟩
  timing := .refresh

/-- After steps, a trap, changes of all kinds and another timing, it boots anew. -/
theorem reset_is_power_on_booting :
    let before : List Operation :=
      [.step, .step, .machine (.write 0xFF50 0x01), .machine (.execute 0xDD),
        .machine (.adjust fun cpu => { cpu with regs.pc := 0xC000, ime := true }),
        .request 0x1F, .retime .scanline, .frame (some 3)]
    let earlier := (session operate booting before).2
    (∀ operation ∈ before, operation.replaces = false) ∧
      earlier.reset.machine.memory.overlay = true ∧
      earlier.reset.machine.cpu.regs.pc = 0x0000 := by
  intro before earlier
  have same : ∀ operation ∈ before, operation.replaces = false := by
    simp [before, Operation.replaces]
  have reset := reset_is_power_on booting before [] same
  exact ⟨same, reset.2.1.mpr rfl, reset.2.2.1⟩

end Console

end GameBoy
