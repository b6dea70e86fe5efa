import GameBoy.Memory.Basic

/-!
# `GameBoy.Memory.Flat`: a memory that is storage and nothing else

Every address is its own cell, and a write reports nothing. `Flat.load` places a
list of bytes and goes on at address 0 after the last address. A list that is longer
than the address space comes round, and its later bytes replace earlier ones.

Programs that keep to plain storage can be run on it instead of the bus, and what
has nothing to do with the memory map is first understood here. Main statement: a
write changes the cell it names and no other (`Flat.read_write`).
-/

set_option autoImplicit false

namespace GameBoy

/-- Sixty-four kilobytes of plain storage. -/
structure Flat where
  cells : Vector UInt8 UInt16.size

namespace Flat

/-- Storage filled with zeros. -/
def zero : Flat := ⟨Vector.replicate UInt16.size 0⟩

/-- The byte at an address. -/
@[inline]
def read (flat : Flat) (addr : UInt16) : UInt8 := flat.cells[addr.toFin]

/-- Replaces the byte at an address. -/
@[inline]
def write (flat : Flat) (addr : UInt16) (value : UInt8) : Flat :=
  ⟨flat.cells.set addr.toFin value⟩

/-- Places bytes one after another from an address on. -/
def load (flat : Flat) (origin : UInt16) : List UInt8 → Flat
  | [] => flat
  | byte :: rest => (flat.write origin byte).load (origin + 1) rest

/-- A write changes the cell it names and no other. -/
theorem read_write (flat : Flat) (addr other : UInt16) (value : UInt8) :
    (flat.write addr value).read other = if addr = other then value else flat.read other := by
  simp only [read, write, Fin.getElem_fin, Vector.getElem_set]
  by_cases h : addr = other
  · simp [h]
  · have apart : addr.toNat ≠ other.toNat := fun e => h (UInt16.toNat_inj.1 e)
    simp [h, apart]

instance : Memory Flat where
  read := read
  write := write
  remark _ _ _ := none

end Flat

end GameBoy
