import GameBoy.Memory.Flat
import GameBoy.Proofs.Bus.Mirror
import GameBoy.Proofs.Cpu.Alike

/-!
# `GameBoy.Proofs.Bus.PlainStorage`: where the memory map is plain storage

The memory map differs from flat storage in three things: read-only memory takes no writes,
work memory has an echo, and one write takes the boot image away. A program that keeps to
the rest (`Bus.Ordinary`) runs on flat storage as it does on the real memory map, if the
storage starts out with the bytes that the memory map answers. A test may therefore use flat
storage, as long as the program under test keeps to that.

What is ordinary is said of the writes that the machine on the real memory map makes, in their
order, and of the bus as each of them finds it: the write that takes the boot image away is
ordinary once it has been taken away. Reads are free. Two memories that answer alike and go on
doing so through the same writes lead a processor through the same steps
(`Machine.step_of_alike`, `Machine.trajectory_of_alike`), so all that is to be shown of the bus
is what one ordinary write does (`Bus.read_write_unmirrored`). Main statements:

* `Bus.read_write_unmirrored`: an ordinary write is one to plain storage.
* `Machine.flat_stands_in`: a flat memory stands in for the memory map through any number of
  steps with ordinary writes.
-/

set_option autoImplicit false

namespace GameBoy

open Memory (AlikeThrough)

/-- The writable addresses that no other address repeats: video and external memory, the end
of work memory, which the echo leaves out, the sprite attributes and the topmost page. -/
def Unmirrored (addr : UInt16) : Prop :=
  0x8000 ≤ addr ∧ addr ≤ 0xBFFF ∨ 0xDE00 ≤ addr ∧ addr ≤ 0xDFFF ∨
    0xFE00 ≤ addr ∧ addr ≤ 0xFE9F ∨ 0xFF00 ≤ addr

instance (addr : UInt16) : Decidable (Unmirrored addr) := inferInstanceAs (Decidable (_ ∨ _))

namespace Unmirrored

variable {addr : UInt16}

/-- The bounds of these addresses, as numbers. -/
theorem bounds (h : Unmirrored addr) :
    0x8000 ≤ addr.toNat ∧ addr.toNat ≤ 0xBFFF ∨ 0xDE00 ≤ addr.toNat ∧ addr.toNat ≤ 0xDFFF ∨
      0xFE00 ≤ addr.toNat ∧ addr.toNat ≤ 0xFE9F ∨ 0xFF00 ≤ addr.toNat := by
  simp only [Unmirrored, UInt16.le_iff_toNat_le] at h
  exact h

theorem writable (h : Unmirrored addr) : Writable addr := by
  rw [writable_iff]
  have := h.bounds
  omega

/-- What has the home of such an address is the address itself. -/
theorem eq_of_home {other : UInt16} (h : Unmirrored addr)
    (same : homeAddr addr = homeAddr other) : addr = other := by
  have bounds := h.bounds
  have homes := congrArg UInt16.toNat same
  rw [toNat_homeAddr, toNat_homeAddr] at homes
  apply UInt16.toNat_inj.mp
  split at homes <;> split at homes <;> omega

end Unmirrored

namespace Bus

/-- Writes that meet plain storage: each goes to an unmirrored address, and none takes the
boot image away. Each is looked at on the bus that the earlier ones leave. -/
def Ordinary (bus : Bus) : List (UInt16 × UInt8) → Prop
  | [] => True
  | (addr, value) :: rest =>
    Unmirrored addr ∧ (addr = overlayAddr → bus.overlay = false) ∧
      (bus.write addr value).Ordinary rest

/-- An ordinary write is seen at its own address and nowhere else. -/
theorem read_write_unmirrored {bus : Bus} {addr : UInt16} (plain : Unmirrored addr)
    (keeps : addr = overlayAddr → bus.overlay = false) (value : UInt8) (other : UInt16) :
    (bus.write addr value).read other = if addr = other then value else bus.read other := by
  by_cases same : addr = other
  · rw [if_pos same, same, bus.read_write_of_home value (same ▸ plain.writable) rfl]
  · rw [if_neg same]
    by_cases writable : Writable other
    · exact bus.read_write_of_apart value writable fun home => same (plain.eq_of_home home)
    · -- The cartridge was not uncovered by this write.
      rw [bus.read_write_of_not_writable addr value writable, if_neg]
      rintro ⟨uncovers, covered, -⟩
      rw [keeps uncovers] at covered
      cases covered

/-- Flat storage that answers as a bus does still answers as it does through ordinary
writes. By induction on the writes, both memories led through. -/
theorem Ordinary.alikeThrough {flat : Flat} {bus : Bus} {writes : List (UInt16 × UInt8)}
    (h : bus.Ordinary writes) (alike : ∀ addr, flat.read addr = bus.read addr) :
    AlikeThrough flat bus writes := by
  induction writes generalizing flat bus with
  | nil => exact alike
  | cons entry rest ih =>
    obtain ⟨addr, value⟩ := entry
    obtain ⟨plain, keeps, ordinary⟩ := h
    refine ⟨alike, ih ordinary fun other => ?_⟩
    show (flat.write addr value).read other = (bus.write addr value).read other
    rw [Flat.read_write, read_write_unmirrored plain keeps, alike]

/-- Flat storage with the bytes that a bus answers. -/
def flatten (bus : Bus) : Flat := ⟨Vector.ofFn fun place => bus.read (UInt16.ofFin place)⟩

theorem read_flatten (bus : Bus) (addr : UInt16) :
    Memory.read bus.flatten addr = Memory.read bus addr := by
  -- Each side is told from its own instance first: to compare both at once is to fill the
  -- storage.
  have flat : Memory.read bus.flatten addr = bus.flatten.read addr := rfl
  have answer : Memory.read bus addr = bus.read addr := rfl
  rw [flat, answer, flatten, Flat.read, Fin.getElem_fin, Vector.getElem_ofFn]
  rfl

end Bus

namespace Machine

/-- The same machine on flat storage. -/
def flattened (real : Machine Bus) : Machine Flat := { real with memory := real.memory.flatten }

theorem read_flattened (real : Machine Bus) (addr : UInt16) :
    real.flattened.read addr = real.read addr := by
  rw [read, read, flattened, Bus.read_flatten]

/-- A flat memory stands in for the memory map. The hypotheses are:

1. the two machines have their processors in the same state;
2. the flat storage holds what the other's memory map answers, at every address;
3. the writes that the machine on the memory map makes in `count` steps are ordinary.

Then each of these steps has the same result on both, its cost or its trap, and after each of
them the processors are in the same state and every address is answered alike. The third
hypothesis is about the writes alone; the program may read and run what it likes, read-only
memory, the echo and the boot image included. It is about one machine only, since the other
makes the same writes.

The prefixes of ordinary writes are ordinary, so the memories are alike through each number of
steps, and the processors follow (`step_of_alike`, `trajectory_of_alike`). -/
theorem flat_stands_in (plain : Machine Flat) (real : Machine Bus) (count : Nat)
    (cpu : plain.cpu = real.cpu) (alike : ∀ addr, plain.read addr = real.read addr)
    (ordinary : real.memory.Ordinary (real.writes count)) :
    (∀ i < count, (plain.trajectory i).step.1 = (real.trajectory i).step.1) ∧
      ∀ i ≤ count, (plain.trajectory i).cpu = (real.trajectory i).cpu ∧
        ∀ addr, (plain.trajectory i).read addr = (real.trajectory i).read addr := by
  -- Fewer steps make fewer writes, through which the memories are alike all the more.
  have through : ∀ i ≤ count, AlikeThrough plain.memory real.memory (real.writes i) := by
    intro i le
    exact (ordinary.alikeThrough alike).of_isPrefix (real.writes_prefix le)
  constructor
  · intro i lt
    exact step_of_alike cpu (through (i + 1) lt)
  · intro i le
    obtain ⟨cpus, memory⟩ := trajectory_of_alike cpu (through i le)
    refine ⟨cpus, fun addr => ?_⟩
    rw [read, read, memory, real.memory_trajectory]
    exact (through i le).finish addr

/-- A machine with a program that stores two bytes and a word, the second byte where it would
take a boot image away, and ends at an opcode that stands for no instruction. -/
def storing : Machine Bus where
  cpu := .preBoot
  memory := Bus.powerOn ⟨#[0xE0, 0x80, 0xE0, 0x50, 0xC5, 0xD3]⟩ none
  journal := .start .silent

/-- On flat storage it makes the same four steps, of which the last one traps. Its second write
is ordinary because it starts without a boot image. -/
theorem flat_stands_in_for_storing :
    storing.memory.Ordinary (storing.writes 4) ∧
      (storing.flattened.trajectory 3).step.1 = (storing.trajectory 3).step.1 ∧
      (storing.flattened.trajectory 4).cpu = (storing.trajectory 4).cpu := by
  have writes : storing.writes 4 =
      [(0xFF80, 0x01), (0xFF50, 0x01), (0xFFFD, 0x00), (0xFFFC, 0x13)] := by
    decide +kernel
  have ordinary : storing.memory.Ordinary (storing.writes 4) := by
    rw [writes]
    -- There is no boot image, so the second write takes none away.
    exact ⟨by decide, fun _ => rfl, by decide, fun _ => rfl, by decide, fun _ => rfl,
      by decide, fun _ => rfl, trivial⟩
  have same := flat_stands_in storing.flattened storing 4 rfl storing.read_flattened ordinary
  exact ⟨ordinary, same.1 3 (by decide), (same.2 4 (Nat.le_refl 4)).1⟩

end Machine

end GameBoy
