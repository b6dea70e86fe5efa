import GameBoy.Log.Event

/-!
# `GameBoy.Memory.Basic`: what the processor needs of a memory

A memory answers a read at any address with a byte, takes a byte at any
address, and may have something to report about a write.

A read leaves the memory as it is: nothing in this machine is changed by being
looked at. No law is asked for either. That a byte which was written is read
again, and that no other address changes, holds of flat storage and not of the
bus, with its read-only memory and its echo. Statements that need such a law ask
for it where they need it.
-/

set_option autoImplicit false

namespace GameBoy

/-- A memory that the processor can be connected to. -/
class Memory (M : Type) where
  /-- The byte at an address. -/
  read : M → UInt16 → UInt8
  /-- The memory after a write. -/
  write : M → UInt16 → UInt8 → M
  /-- What a write has to report, seen from the memory before it. One that has
  nothing to say about a write gives `none`, and one that gives an event does not
  decide whether it is logged. -/
  remark : M → UInt16 → UInt8 → Option Event

end GameBoy
