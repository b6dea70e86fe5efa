import GameBoy.Proofs.Bus.Mirror
import GameBoy.Proofs.Cpu.Reports
import GameBoy.Proofs.Console.Lockstep
import GameBoy.Proofs.Log.Sifting

/-!
# `GameBoy.Proofs.Console.Overlay`: the boot image goes once and for all

Whatever happens to a console is told by the writes that its memory sees: those of the
program, of entries into interrupts and of the world outside. `Uncovers` says what they
make of the boot image: it covers the first page as long as none of them went to its
register, and the first that did is reported.

Two lists of writes one after the other make of it what the first list and then the second
makes (`Uncovers.trans`), and a single write is looked at by itself (`Uncovers.write`). From
these the relation is built up, along a step, a frame and a list of actions. The writes of a
step are those that a watched bus has seen, so what is said here of a run is said of the
writes that were made, and not of the instructions that made them.

A step reports more than writes. What else it reports is about the processor, and never
about the boot image (`Cpu.step_reports`), so it does not get mixed up with the report in
question. Main statements:

* `Console.uncovers_acts`: any sequence of steps, frames, writes and requests does to the
  boot image what its writes do.
* `Console.overlay_one_way`: since power-on, the first page is covered until the first write
  that uncovers it, and read-only memory answers accordingly.
-/

set_option autoImplicit false

namespace GameBoy

open Transaction (remarked)

/-! ### Writes and reports -/

/-- The byte of the first write that takes a boot image away. -/
def firstUncovering (writes : List (UInt16 × UInt8)) : Option UInt8 :=
  (writes.find? fun entry => entry.1 == Bus.overlayAddr).map (·.2)

/-- The first of two lists has precedence. -/
theorem firstUncovering_append (first last : List (UInt16 × UInt8)) :
    firstUncovering (first ++ last) = (firstUncovering first).or (firstUncovering last) := by
  rw [firstUncovering, List.find?_append, Option.map_or]
  rfl

/-- There is no such write exactly when every write goes elsewhere. -/
theorem firstUncovering_eq_none_iff {writes : List (UInt16 × UInt8)} :
    firstUncovering writes = none ↔ ∀ entry ∈ writes, entry.1 ≠ Bus.overlayAddr := by
  rw [firstUncovering, Option.map_eq_none_iff, List.find?_eq_none]
  simp only [beq_iff_eq, ne_eq]

/-- The byte whose write the event reports to have taken the boot image away. -/
def Event.uncovering? : Event → Option UInt8
  | .overlayDisabled value => some value
  | _ => none

/-- An event about the processor reports nothing of the boot image. -/
theorem Event.OfProcessor.uncovering?_eq {event : Event} (h : event.OfProcessor) :
    event.uncovering? = none := by
  cases event with
  | overlayDisabled value => rcases h with h | h <;> cases h
  | _ => rfl

namespace Journal

/-- The bytes reported to have taken the boot image away, in order. -/
def uncoverings (journal : Journal) : List UInt8 :=
  journal.events.toList.filterMap Event.uncovering?

/-- An event counts if it is wanted. -/
theorem uncoverings_note (journal : Journal) (event : Event) :
    (journal.note event).uncoverings =
      journal.uncoverings ++
        if journal.config.shouldLog event.category event.level then event.uncovering?.toList
        else [] :=
  filterMap_note Event.uncovering? journal event

end Journal

/-- What some writes make of the read-only memory and of the reports about it. The
cartridge and the boot image stay; the boot image covers the first page until the first
write that takes it away; and this write is reported if it took the boot image away and the
report is wanted. -/
structure Uncovers (bus : Bus) (journal : Journal) (writes : List (UInt16 × UInt8))
    (bus' : Bus) (journal' : Journal) : Prop where
  mapper : bus'.mapper = bus.mapper
  boot : bus'.boot = bus.boot
  config : journal'.config = journal.config
  overlay : bus'.overlay = (bus.overlay && (firstUncovering writes).isNone)
  reports : journal'.uncoverings = journal.uncoverings ++
    if bus.overlay && journal.config.shouldLog .mmu .info then (firstUncovering writes).toList
    else []

namespace Uncovers

/-- Without a write, a change of the cells makes no difference. -/
theorem cells (bus : Bus) (journal : Journal) (contents : Cells) :
    Uncovers bus journal [] { bus with cells := contents } journal where
  mapper := rfl
  boot := rfl
  config := rfl
  overlay := (Bool.and_true _).symm
  reports := by simp [firstUncovering]

/-- What writes make of it, further writes start from. The two cases are whether the first list
has uncovered the page. If it has, nothing in the second one counts or is reported. -/
theorem trans {bus bus' bus'' : Bus} {journal journal' journal'' : Journal}
    {first last : List (UInt16 × UInt8)} (h : Uncovers bus journal first bus' journal')
    (h' : Uncovers bus' journal' last bus'' journal'') :
    Uncovers bus journal (first ++ last) bus'' journal'' where
  mapper := h'.mapper.trans h.mapper
  boot := h'.boot.trans h.boot
  config := h'.config.trans h.config
  overlay := by
    rw [h'.overlay, h.overlay, firstUncovering_append, Bool.and_assoc]
    cases firstUncovering first <;> rfl
  reports := by
    rw [h'.reports, h.reports, h.config, h.overlay, firstUncovering_append]
    -- Once a write has uncovered the page, no later one is reported.
    cases firstUncovering first with
    | some value => simp
    | none => simp

/-- A write is reported to have uncovered the first page if it has, and if the report is
wanted. A write to read-only memory has a report of its own, which is about something else. -/
theorem uncoverings_remarked (bus : Bus) (journal : Journal) (addr : UInt16) (value : UInt8) :
    (remarked bus journal addr value).uncoverings = journal.uncoverings ++
      if (bus.overlay && addr == Bus.overlayAddr) && journal.config.shouldLog .mmu .info then
        [value]
      else [] := by
  have remark : Memory.remark bus addr value = bus.remark addr value := rfl
  -- The address that uncovers the page has a cell, so any other place is elsewhere.
  have elsewhere (h : ∀ cell, Place.ofAddr addr ≠ .cell cell) :
      (addr == Bus.overlayAddr) = false := by
    rw [beq_eq_false_iff_ne]
    rintro rfl
    exact h (.io 0x50) (by decide)
  cases place : Place.ofAddr addr with
  | cell cell =>
    rw [remarked, remark, Bus.remark, place]
    dsimp only
    cases bus.overlay && addr == Bus.overlayAddr with
    | true => exact journal.uncoverings_note (.overlayDisabled value)
    | false => exact (List.append_nil _).symm
  | rom =>
    rw [elsewhere (by simp [place]), Bool.and_false, remarked, remark, Bus.remark, place]
    exact (journal.uncoverings_note _).trans (by simp [Event.uncovering?])
  | unusable =>
    rw [elsewhere (by simp [place]), Bool.and_false, remarked, remark, Bus.remark, place]
    exact (List.append_nil _).symm

/-- A single write. -/
theorem write (bus : Bus) (journal : Journal) (addr : UInt16) (value : UInt8) :
    Uncovers bus journal [(addr, value)] (bus.write addr value)
      (remarked bus journal addr value) where
  mapper := (bus.overlay_write addr value).1
  boot := (bus.overlay_write addr value).2.1
  config := by
    unfold remarked
    split
    · exact journal.config_note _
    · rfl
  overlay := by
    rw [(bus.overlay_write addr value).2.2]
    by_cases uncovers : addr = Bus.overlayAddr <;> simp [firstUncovering, uncovers]
  reports := by
    rw [uncoverings_remarked]
    by_cases uncovers : addr = Bus.overlayAddr <;> simp [firstUncovering, uncovers]

/-- A report of the processor. -/
theorem report (bus : Bus) (journal : Journal) {event : Event} (h : event.OfProcessor) :
    Uncovers bus journal [] bus (journal.note event) where
  mapper := rfl
  boot := rfl
  config := journal.config_note event
  overlay := (Bool.and_true _).symm
  reports := by
    rw [journal.uncoverings_note, h.uncovering?_eq]
    simp [firstUncovering]

end Uncovers

/-! ### Watched machines -/

namespace Machine

/-- What became of a bus under a watched machine is what the remembered writes make of it. -/
def Follows (bus : Bus) (journal : Journal) (machine : Machine (Traced Bus)) : Prop :=
  Uncovers bus journal machine.witnessed machine.memory.memory machine.journal

/-- Before any write, nothing has become of it. -/
theorem follows_watched (machine : Machine Bus) :
    Follows machine.memory machine.journal machine.watched :=
  Uncovers.cells machine.memory machine.journal machine.memory.cells

/-- Every step of a watched machine adds its writes, and the reports of the processor are
none about the boot image. -/
theorem Follows.step {bus : Bus} {journal : Journal} (machine : Machine (Traced Bus))
    (h : Follows bus journal machine) : Follows bus journal machine.step.2 := by
  refine Transaction.perform_preserves
    (motive := fun (memory : Traced Bus) log =>
      Uncovers bus journal memory.writes.toList memory.memory log)
    ?_ ?_ machine.cpu.step_reports h
  · intro memory log addr value before
    have after := before.trans (Uncovers.write memory.memory log addr value)
    rw [← Array.toList_push] at after
    exact after
  · intro memory log event processor before
    have after := before.trans (Uncovers.report memory.memory log processor)
    rw [List.append_nil] at after
    exact after

end Machine

/-! ### Runs of a console -/

namespace Console

/-- What can happen to a console between two resets. -/
inductive Action where
  /-- One step of the processor. -/
  | step
  /-- One frame, unless it is interrupted. -/
  | frame (allowance : Option Nat)
  /-- A write from outside the processor. -/
  | write (addr : UInt16) (value : UInt8)
  /-- A request of interrupts from outside the processor. -/
  | request (bits : UInt8)

/-- The console after an action. -/
def act (console : Console) : Action → Console
  | .step => console.step.2
  | .frame allowance => (console.frame allowance).2
  | .write addr value => { console with machine := console.machine.write addr value }
  | .request bits => console.requestInterrupts bits

/-- The writes that the memory sees during an action, oldest first. -/
def writes (console : Console) : Action → List (UInt16 × UInt8)
  | .step => console.machine.watched.step.2.witnessed
  | .frame allowance =>
    (console.machine.watched.frame console.timing.budget allowance).2.witnessed
  | .write addr value => [(addr, value)]
  | .request _ => []

/-- The console after some actions. -/
def acts (start : Console) (actions : List Action) : Console := actions.foldl act start

/-- The writes that the memory sees during some actions, oldest first. -/
def written (start : Console) : List Action → List (UInt16 × UInt8)
  | [] => []
  | action :: actions => start.writes action ++ (start.act action).written actions

/-- An action does to the boot image what its writes do. A step and a frame are compared with
the same on a watched bus, on which they do the same and leave their writes behind. -/
theorem uncovers_act (console : Console) (action : Action) :
    Uncovers console.machine.memory console.machine.journal (console.writes action)
      (console.act action).machine.memory (console.act action).machine.journal := by
  have watched := console.machine.follows_watched
  cases action with
  | step =>
    have same : console.machine.watched.step.2.unwatched = (console.act .step).machine :=
      congrArg Prod.snd console.machine.watched.unwatched_step
    rw [← same]
    exact watched.step
  | frame allowance =>
    have same : (console.machine.watched.frame console.timing.budget allowance).2.unwatched =
        (console.act (.frame allowance)).machine :=
      congrArg Prod.snd (console.machine.watched.unwatched_frame _ _)
    rw [← same]
    exact Machine.frame_preserves Machine.Follows.step watched _ _
  | write addr value =>
    exact Uncovers.write console.machine.memory console.machine.journal addr value
  | request bits => exact Uncovers.cells console.machine.memory console.machine.journal _

/-- Any sequence of actions does to the boot image what its writes do. -/
theorem uncovers_acts (start : Console) (actions : List Action) :
    Uncovers start.machine.memory start.machine.journal (start.written actions)
      (start.acts actions).machine.memory (start.acts actions).machine.journal := by
  induction actions generalizing start with
  | nil => exact Uncovers.cells start.machine.memory start.machine.journal _
  | cons action actions ih => exact (start.uncovers_act action).trans (ih (start.act action))

/-! ### Since power-on -/

/-- Where a console comes from: it is new, or another one was reset. -/
inductive Origin where
  | construction (cartridge : Cartridge) (boot : Option BootImage) (config : LogConfig)
    (timing : FrameTiming)
  | reset (earlier : Console)

/-- The console as it is built. -/
def Origin.console : Origin → Console
  | .construction cartridge boot config timing =>
    (powerOn cartridge boot config).withTiming timing
  | .reset earlier => earlier.reset

/-- A console is built on the bus at power-on. -/
theorem Origin.memory_console (origin : Origin) :
    origin.console.machine.memory =
      Bus.powerOn ⟨origin.console.cartridge.image⟩ origin.console.boot := by
  cases origin <;> rfl

/-- Since power-on, the boot image covers the first page exactly as long as there is a boot
image and no write to its register was seen. -/
theorem overlay_acts (origin : Origin) (actions : List Action) :
    (origin.console.acts actions).machine.memory.overlay =
      (origin.console.boot.isSome &&
        (firstUncovering (origin.console.written actions)).isNone) := by
  rw [(origin.console.uncovers_acts actions).overlay, origin.memory_console]
  rfl

/-- The first page answers with the boot image while that covers it. -/
theorem read_of_covered {machine : Machine Bus} {image : BootImage}
    (boot : machine.memory.boot = some image) (overlay : machine.memory.overlay = true)
    (offset : Fin 0x100) : machine.read (UInt16.ofNat offset) = image.bytes[offset] := by
  have low : (UInt16.ofNat offset).toNat = offset := by
    rw [UInt16.toNat_ofNat', Nat.mod_eq_of_lt]
    omega
  have index : (lowByte (UInt16.ofNat offset)).toFin = offset := by
    apply Fin.ext
    show (lowByte (UInt16.ofNat offset)).toNat = offset
    rw [lowByte, UInt16.toNat_toUInt8, low, Nat.mod_eq_of_lt offset.isLt]
  have page : UInt16.ofNat offset < 0x0100 := by
    rw [UInt16.lt_iff_toNat_lt, low]
    exact offset.isLt
  show machine.memory.read (UInt16.ofNat offset) = _
  rw [Bus.read, Place.rom_of_lt (by omega)]
  dsimp only
  rw [Bus.readRom, boot]
  simp only [overlay, page, decide_true, Bool.and_self, if_true, BootImage.read, index]

/-- The lower half answers with the cartridge where the boot image does not cover it. -/
theorem read_of_uncovered {machine : Machine Bus} {addr : UInt16} (low : addr ≤ 0x7FFF)
    (h : ¬(machine.memory.overlay = true ∧ addr ≤ 0x00FF)) :
    machine.read addr = machine.memory.mapper.image[addr.toNat]?.getD 0xFF := by
  have below : addr.toNat < 0x8000 := Nat.lt_succ_of_le (UInt16.le_iff_toNat_le.mp low)
  show machine.memory.read addr = _
  rw [Bus.read, Place.rom_of_lt below]
  dsimp only
  rw [Bus.readRom_of_uncovered, Bus.mapper_read]
  rintro ⟨overlay, page⟩
  exact h ⟨overlay, UInt16.le_iff_toNat_le.mpr (Nat.le_of_lt_succ (UInt16.lt_iff_toNat_lt.mp page))⟩

/-- Read-only memory never changes, and the boot image goes once and for all. Take a console
that is new or was reset, and let any actions happen to it.

1. The boot image covers the first page exactly if there is one and none of the writes seen
   went to 0xFF50.
2. While it does, the first page answers with it, byte by byte.
3. Everywhere else, and ever after, the lower half of the address space answers with the
   cartridge, its end followed by set bits.
4. If such reports are wanted, the first write to the register is reported, provided there is
   a boot image, and no other is. The reports of before are kept.

The actions are known by their writes (`uncovers_acts`), and the console at the start by its
cartridge and its boot image (`Origin.memory_console`). The writes are all those that the
memory sees, so it does not matter which of them were the program's. -/
theorem overlay_one_way (origin : Origin) (actions : List Action) :
    let start := origin.console
    let console := start.acts actions
    let writes := start.written actions
    (console.machine.memory.overlay = true ↔
      start.boot.isSome = true ∧ ∀ entry ∈ writes, entry.1 ≠ 0xFF50) ∧
    (∀ image, start.boot = some image → console.machine.memory.overlay = true →
      ∀ offset : Fin 0x100, console.machine.read (UInt16.ofNat offset) = image.bytes[offset]) ∧
    (∀ addr ≤ 0x7FFF, ¬(console.machine.memory.overlay = true ∧ addr ≤ 0x00FF) →
      console.machine.read addr = start.cartridge.image[addr.toNat]?.getD 0xFF) ∧
    (start.machine.journal.config.shouldLog .mmu .info = true →
      console.machine.journal.uncoverings = start.machine.journal.uncoverings ++
        if start.boot.isSome = true then (firstUncovering writes).toList else []) := by
  intro start console writes
  have follows := start.uncovers_acts actions
  have memory := origin.memory_console
  refine ⟨?_, ?_, ?_, ?_⟩
  · rw [overlay_acts, Bool.and_eq_true, Option.isNone_iff_eq_none, firstUncovering_eq_none_iff]
    rfl
  · intro image boot overlay
    refine read_of_covered ?_ overlay
    rw [follows.boot, memory]
    exact boot
  · intro addr low uncovered
    rw [read_of_uncovered low uncovered, follows.mapper, memory]
    rfl
  · intro wanted
    rw [follows.reports, wanted, memory, Bool.and_true]
    rfl

end Console

end GameBoy
