import GameBoy.Proofs.Bus.Mirror
import GameBoy.Proofs.Cpu.Reports
import GameBoy.Proofs.Console.Operations

/-!
# `GameBoy.Proofs.Console.Alike`: consoles that cannot be told apart

A console holds more than it ever shows. Of the cartridge's image it shows the first 32
kilobytes, its end followed by set bits, and of the boot image it shows nothing once that was
taken away. Two consoles that differ in the rest only are alike: whatever is done with both,
their answers are the same, and they stay alike. Their logs may differ in what was logged
before, and go on with the same events (`Journal.Abreast`).

The relation goes up in three layers. Alike buses answer every read alike and report every write
alike, and a write leaves them alike. A transaction only reads, writes and reports, so it cannot
tell alike buses apart; that is one induction, and all the processor does is such a transaction.
A console adds a cartridge and a boot image that it keeps for a reset. They have to be alike only
if a reset is to come, so the relation takes that as a parameter (`resets`), and it is proved once
for consoles whose boot image is gone, for consoles with two images that show the same, and for a
console beside a new one. Main statements:

* `Bus.Alike.read`, `Bus.Alike.write`: alike buses answer alike, and stay alike through a write.
* `Transaction.perform_alike`: nor can a transaction tell them apart.
* `Console.Alike.operate`, `Console.Alike.session`: alike consoles stay so through an operation,
  and through any sequence of operations.
-/

set_option autoImplicit false

namespace GameBoy

open Transaction (remarked)

/-! ### Buses -/

/-- Two images that show the same bytes below 0x8000. -/
def Mapper.Alike (one other : Mapper) : Prop :=
  ∀ i < 0x8000, one.image.getD i 0xFF = other.image.getD i 0xFF

theorem Mapper.Alike.refl (mapper : Mapper) : mapper.Alike mapper := fun _ _ => rfl

namespace Bus

/-- Two buses with the same cells that show the same read-only memory, and go on to do so when
the boot image is taken away. So the cartridge has to show the same in the first page too, while
the boot image still covers it. -/
structure Alike (one other : Bus) : Prop where
  cells : one.cells = other.cells
  overlay : one.overlay = other.overlay
  /-- The boot image counts as long as it can be seen. -/
  boot : one.overlay = true → one.boot = other.boot
  mapper : one.mapper.Alike other.mapper

namespace Alike

variable {one other : Bus}

theorem refl (bus : Bus) : bus.Alike bus := ⟨rfl, rfl, fun _ => rfl, .refl _⟩

/-- Whatever the boot image is, it is not missed once it was taken away. -/
theorem of_uncovered {bus : Bus} (off : bus.overlay = false) (boot : Option BootImage) :
    bus.Alike { bus with boot } := by
  refine ⟨rfl, rfl, fun on => ?_, .refl _⟩
  rw [off] at on
  cases on

/-- Read-only memory answers alike. While the boot image covers the first page it is the same on
both sides; otherwise only the cartridge is looked at. -/
theorem readRom (h : one.Alike other) {addr : UInt16} (low : addr.toNat < 0x8000) :
    one.readRom addr = other.readRom addr := by
  have rom : one.mapper.read addr = other.mapper.read addr := h.mapper addr.toNat low
  by_cases covered : one.overlay = true
  · -- The boot image is the same, and so is what it leaves of the cartridge.
    unfold Bus.readRom
    rw [← h.boot covered, ← h.overlay, rom]
  · rw [readRom_of_uncovered fun on => covered on.1,
      readRom_of_uncovered fun on => covered (h.overlay.trans on.1), rom]

/-- Every address answers alike. -/
theorem read (h : one.Alike other) (addr : UInt16) : one.read addr = other.read addr := by
  have told := Place.bounds addr
  unfold Bus.read
  cases place : Place.ofAddr addr with
  | rom =>
    rw [place] at told
    exact h.readRom told
  | cell cell =>
    show one.cells.get cell = other.cells.get cell
    rw [h.cells]
  | unusable => rfl

/-- A write on both keeps them alike. It may take the boot image away, and then does so on both;
none brings it back, so a boot image that could not be seen is not needed afterwards either. -/
theorem write (h : one.Alike other) (addr : UInt16) (value : UInt8) :
    (one.write addr value).Alike (other.write addr value) := by
  obtain ⟨mapper, boot, overlay, cells⟩ := one
  obtain ⟨mapper', boot', overlay', cells'⟩ := other
  obtain ⟨rfl, rfl, boots, mappers⟩ := h
  unfold Bus.write
  cases Place.ofAddr addr with
  | cell cell =>
    refine ⟨rfl, rfl, fun still => boots ?_, mappers⟩
    -- What a write leaves covered was covered before it.
    exact (Bool.and_eq_true_iff.mp still).1
  | rom | unusable => exact ⟨rfl, rfl, boots, mappers⟩

/-- A write has the same to report on both. -/
theorem remark (h : one.Alike other) (addr : UInt16) (value : UInt8) :
    one.remark addr value = other.remark addr value := by
  unfold Bus.remark
  rw [h.overlay]
  rfl

/-- A request of interrupts from outside keeps them alike. -/
theorem requestInterrupts (h : one.Alike other) (bits : UInt8) :
    (one.requestInterrupts bits).Alike (other.requestInterrupts bits) := by
  refine ⟨?_, h.overlay, h.boot, h.mapper⟩
  unfold Bus.requestInterrupts
  rw [h.cells]

/-- At power-on, images that show the same make buses that are alike. -/
theorem powerOn {one other : Mapper} (h : one.Alike other) (boot : Option BootImage) :
    (Bus.powerOn one boot).Alike (Bus.powerOn other boot) :=
  ⟨rfl, rfl, fun _ => rfl, h⟩

end Alike

end Bus

/-! ### Logs -/

namespace Journal

/-- Two journals under one configuration that have gone on with the same events, each from
what was in it before. -/
structure Abreast (before before' : Array Event) (journal journal' : Journal) : Prop where
  config : journal.config = journal'.config
  later : ∃ events, journal.events = before ++ events ∧ journal'.events = before' ++ events

namespace Abreast

variable {before before' : Array Event} {journal journal' : Journal}

/-- Where they start, nothing has been added. -/
theorem start (config : journal.config = journal'.config) :
    Abreast journal.events journal'.events journal journal' :=
  ⟨config, #[], (Array.append_empty).symm, (Array.append_empty).symm⟩

/-- From the same start they are the same. -/
theorem eq (h : Abreast before before journal journal') : journal = journal' := by
  obtain ⟨config, events⟩ := journal
  obtain ⟨config', events'⟩ := journal'
  obtain ⟨rfl, more, rfl, rfl⟩ := h
  rfl

theorem note (h : Abreast before before' journal journal') (event : Event) :
    Abreast before before' (journal.note event) (journal'.note event) := by
  obtain ⟨config, events, rest, rest'⟩ := h
  refine ⟨by rw [config_note, config_note, config], ?_⟩
  unfold Journal.note
  rw [← config]
  split
  · refine ⟨events.push event, ?_, ?_⟩
    · rw [rest, Array.push_append]
    · rw [rest', Array.push_append]
  · exact ⟨events, rest, rest'⟩

theorem noteAll (h : Abreast before before' journal journal') (events : List Event) :
    Abreast before before' (journal.noteAll events) (journal'.noteAll events) := by
  induction events generalizing journal journal' with
  | nil => exact h
  | cons event rest ih => exact ih (h.note event)

/-- A log of its own, put behind both, is part of what was added. -/
theorem append (h : Abreast before before' journal journal') (last : Journal) :
    Abreast before before' { last with events := journal.events ++ last.events }
      { last with events := journal'.events ++ last.events } := by
  obtain ⟨events, rest, rest'⟩ := h.later
  refine ⟨rfl, events ++ last.events, ?_, ?_⟩
  · rw [rest, Array.append_assoc]
  · rw [rest', Array.append_assoc]

end Abreast

end Journal

open Journal (Abreast)

variable {before before' : Array Event}

/-- No transaction tells alike buses apart: it ends with the same result, leaves the buses
alike, and adds the same to both logs. By induction on the transaction. A read hands the same
byte to the rest of it, so there the two go on with one and the same transaction. -/
theorem Transaction.perform_alike {α : Type} {one other : Bus} {journal journal' : Journal}
    (memory : one.Alike other) (log : Abreast before before' journal journal')
    (transaction : Transaction α) :
    Lockstep (fun after after' => after.1.Alike after'.1 ∧ Abreast before before' after.2 after'.2)
      (transaction.perform one journal) (transaction.perform other journal') := by
  induction transaction generalizing one other journal journal' with
  | done result => exact ⟨rfl, memory, log⟩
  | read addr next ih =>
    have answer : Memory.read one addr = Memory.read other addr := memory.read addr
    unfold perform
    rw [answer]
    exact ih _ memory log
  | write addr value next ih =>
    have noted : Abreast before before' (remarked one journal addr value)
        (remarked other journal' addr value) := by
      have same : Memory.remark one addr value = Memory.remark other addr value :=
        memory.remark addr value
      unfold remarked
      rw [same]
      cases Memory.remark other addr value with
      | none => exact log
      | some event => exact log.note event
    exact ih (memory.write addr value) noted
  | report event next ih => exact ih memory (log.note event)

/-! ### Machines -/

namespace Machine

/-- Two machines with the same processor on buses that are alike, their logs abreast. -/
structure Alike (before before' : Array Event) (one other : Machine Bus) : Prop where
  cpu : one.cpu = other.cpu
  memory : one.memory.Alike other.memory
  journal : Abreast before before' one.journal other.journal

namespace Alike

variable {α : Type} {one other : Machine Bus}

/-- Whatever the processor does, it does on both. -/
theorem run (h : Alike before before' one other) (action : Cpu → Transaction (α × Cpu)) :
    Lockstep (Alike before before') (one.run action) (other.run action) := by
  obtain ⟨cpu, memory, journal⟩ := one
  obtain ⟨cpu', memory', journal'⟩ := other
  obtain rfl : cpu = cpu' := h.cpu
  have both := Transaction.perform_alike h.memory h.journal (action cpu)
  have result := congrArg Prod.fst both.answer
  have state := congrArg Prod.snd both.answer
  exact ⟨result, state, both.after.1, both.after.2⟩

theorem step (h : Alike before before' one other) :
    Lockstep (Alike before before') one.step other.step :=
  h.run Cpu.step

theorem frame (h : Alike before before' one other) (budget : Nat) (allowance : Option Nat) :
    Lockstep (Alike before before') (one.frame budget allowance) (other.frame budget allowance) :=
  frame_lockstep (fun _ _ => step) h budget allowance

theorem read (h : Alike before before' one other) (addr : UInt16) :
    one.read addr = other.read addr :=
  h.memory.read addr

/-- Every operation has the same answer and keeps the two alike. -/
theorem operate (h : Alike before before' one other) (operation : Operation) :
    Lockstep (Alike before before') (one.operate operation) (other.operate operation) := by
  refine operate_lockstep (fun _ _ action both => both.run action) ?_ h operation
  intro one other change both
  exact ⟨congrArg change both.cpu, both.memory, both.journal⟩

end Alike

end Machine

/-! ### Consoles -/

/-- Two cartridges with the same header that show the same bytes. -/
structure Cartridge.Alike (one other : Cartridge) : Prop where
  header : one.header = other.header
  mapper : Mapper.Alike ⟨one.image⟩ ⟨other.image⟩

theorem Cartridge.Alike.refl (cartridge : Cartridge) : cartridge.Alike cartridge :=
  ⟨rfl, .refl _⟩

namespace Console

/-- Two consoles that cannot be told apart. The cartridge and the boot image that they keep
for a reset need not be looked at where no reset is to come. -/
structure Alike (before before' : Array Event) (resets : Prop) (one other : Console) : Prop where
  machine : Machine.Alike before before' one.machine other.machine
  timing : one.timing = other.timing
  cartridge : resets → one.cartridge.Alike other.cartridge
  boot : resets → one.boot = other.boot

namespace Alike

variable {resets : Prop} {one other : Console}

/-- Both build machines that are alike, and report the same of it. -/
theorem connect {cartridge cartridge' : Cartridge} {journal journal' : Journal}
    (h : cartridge.Alike cartridge') (log : Abreast before before' journal journal')
    (boot : Option BootImage) :
    Machine.Alike before before' (connect cartridge boot journal)
      (connect cartridge' boot journal') := by
  refine ⟨rfl, .powerOn h.mapper boot, ?_⟩
  unfold Console.connect
  rw [h.header]
  exact log.noteAll _

/-- A new console is the same for both, and both logs go on with its own. -/
theorem following {journal journal' : Journal} (h : Abreast before before' journal journal')
    (cartridge : Cartridge) (boot : Option BootImage) :
    Alike before before' resets ((powerOn cartridge boot journal.config).following journal)
      ((powerOn cartridge boot journal'.config).following journal') := by
  rw [h.config]
  exact ⟨⟨rfl, .refl _, h.append _⟩, rfl, fun _ => .refl _, fun _ => rfl⟩

/-- Every operation has the same answer and keeps the two alike. If it is a reset, what is kept
for a reset has to be alike, which is where `resets` is used up. A new console that takes the
place of both is alike whatever they were. -/
theorem operate (h : Alike before before' resets one other) (operation : Operation)
    (reset : operation = .reset → resets) :
    Lockstep (Alike before before' resets) (one.operate operation) (other.operate operation) := by
  obtain ⟨machine, cartridge, boot, timing⟩ := one
  obtain ⟨machine', cartridge', boot', timing'⟩ := other
  obtain ⟨both, rfl, cartridges, boots⟩ : Machine.Alike before before' machine machine' ∧
    timing = timing' ∧ (resets → cartridge.Alike cartridge') ∧ (resets → boot = boot') :=
      ⟨h.machine, h.timing, h.cartridge, h.boot⟩
  cases operation with
  | load rom image =>
    -- Whether it succeeds is the same for both, and so is what is built then.
    rcases operate_load_cases rom image with ⟨reason, failed⟩ | ⟨new, page, loaded⟩
    · rw [failed, failed]
      exact ⟨rfl, both, rfl, cartridges, boots⟩
    · rw [loaded, loaded]
      exact ⟨rfl, following both.journal new page⟩
  | insert new page => exact ⟨rfl, following both.journal new page⟩
  | retime other => exact ⟨rfl, both, rfl, cartridges, boots⟩
  | reset =>
    obtain rfl : boot = boot' := boots (reset rfl)
    exact ⟨rfl, connect (cartridges (reset rfl)) both.journal boot, rfl, cartridges, boots⟩
  | step => exact ⟨congrArg Answer.cost both.step.answer, both.step.after, rfl, cartridges, boots⟩
  | frame allowance =>
    have frame := both.frame timing.budget allowance
    exact ⟨congrArg Answer.report frame.answer, frame.after, rfl, cartridges, boots⟩
  | request bits =>
    have memory := both.memory.requestInterrupts bits
    exact ⟨rfl, ⟨both.cpu, memory, both.journal⟩, rfl, cartridges, boots⟩
  | machine operation =>
    have used := both.operate operation
    exact ⟨used.answer, used.after, rfl, cartridges, boots⟩

/-- So does any sequence of operations, if what is kept for a reset is alike in case there is
one among them. -/
theorem session (h : Alike before before' resets one other) (operations : List Operation)
    (reset : Operation.reset ∈ operations → resets) :
    Lockstep (Alike before before' resets) (session Console.operate one operations)
      (session Console.operate other operations) := by
  refine session_lockstep_of_mem (fun operation mem one other both => ?_) h
  exact both.operate operation fun same => reset (same ▸ mem)

end Alike

end Console

end GameBoy
