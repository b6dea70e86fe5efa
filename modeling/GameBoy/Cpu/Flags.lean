/-!
# `GameBoy.Cpu.Flags`: the four status flags

The processor keeps four flags, and stores them as the upper half of a byte
whose lower half is zero. `Flags` is the set of raised flags; `Flags.toByte` is
its stored form, and `Flags.ofByte` reads the upper half of any byte.

Arithmetic works on the set and never on the byte, so no operation has to say what
becomes of the lower half. A byte with bits in its lower half can still come to
stand in the register, by a write of the raw pair, and is then read as its upper
half says.

Main statements: reading a stored set gives it back (`Flags.ofByte_toByte`), and
storing what was read off a byte clears its lower half (`Flags.toByte_ofByte`).
-/

set_option autoImplicit false

namespace GameBoy

/-- Which of the four status flags are raised. -/
structure Flags where
  /-- The last result was zero. -/
  zero : Bool
  /-- The last operation was a subtraction. -/
  subtract : Bool
  /-- A carry or borrow crossed from bit 3 to bit 4. -/
  halfCarry : Bool
  /-- A carry or borrow left the top bit. -/
  carry : Bool
deriving DecidableEq

namespace Flags

/-- No flag raised. -/
def none : Flags := ⟨false, false, false, false⟩

/-- The zero flag alone, raised exactly when `result` is zero. -/
def zeroIf (result : UInt8) : Flags := { none with zero := result == 0 }

/-- The flags stored in a byte. Only its upper half is looked at. -/
def ofByte (byte : UInt8) : Flags where
  zero := byte &&& 0x80 != 0
  subtract := byte &&& 0x40 != 0
  halfCarry := byte &&& 0x20 != 0
  carry := byte &&& 0x10 != 0

/-- The stored form: zero is bit 7, subtract 6, half-carry 5, carry 4, and the
lower half is clear. -/
def toByte (flags : Flags) : UInt8 :=
  (bif flags.zero then 0x80 else 0) ||| (bif flags.subtract then 0x40 else 0) |||
    (bif flags.halfCarry then 0x20 else 0) ||| (bif flags.carry then 0x10 else 0)

/-- The flags raised in either set. -/
def union (a b : Flags) : Flags :=
  ⟨a.zero || b.zero, a.subtract || b.subtract, a.halfCarry || b.halfCarry, a.carry || b.carry⟩

/-- The flags raised in `a` and not in `b`. -/
def without (a b : Flags) : Flags :=
  ⟨a.zero && !b.zero, a.subtract && !b.subtract, a.halfCarry && !b.halfCarry,
    a.carry && !b.carry⟩

/-- The flags raised in exactly one of the two sets. -/
def flip (a b : Flags) : Flags :=
  ⟨a.zero ^^ b.zero, a.subtract ^^ b.subtract, a.halfCarry ^^ b.halfCarry, a.carry ^^ b.carry⟩

/-- Whether every flag raised in `wanted` is raised in `flags`. -/
def contains (flags wanted : Flags) : Bool :=
  (!wanted.zero || flags.zero) && (!wanted.subtract || flags.subtract) &&
    (!wanted.halfCarry || flags.halfCarry) && (!wanted.carry || flags.carry)

/-- Storing what was read off a byte clears the byte's lower half. -/
theorem toByte_ofByte (byte : UInt8) : (ofByte byte).toByte = byte &&& 0xF0 := by
  have all : ∀ i : Fin UInt8.size,
      (ofByte (UInt8.ofFin i)).toByte = UInt8.ofFin i &&& 0xF0 := by
    decide +kernel
  simpa using all byte.toFin

/-- Reading a stored set gives the set back. -/
@[simp]
theorem ofByte_toByte (flags : Flags) : ofByte flags.toByte = flags := by
  obtain ⟨z, n, h, c⟩ := flags
  cases z <;> cases n <;> cases h <;> cases c <;> rfl

end Flags

end GameBoy
