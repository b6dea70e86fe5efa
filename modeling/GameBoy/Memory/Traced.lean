import GameBoy.Memory.Basic

/-!
# `GameBoy.Memory.Traced`: a memory that remembers what was written to it

A traced memory behaves as the memory inside it and keeps the list of writes.
What is written where, and in which order, is part of what an instruction does and
does not show in the memory afterwards: two writes to one address leave the second,
and a write to read-only memory leaves nothing.
-/

set_option autoImplicit false

namespace GameBoy

/-- A memory together with the writes made to it, oldest first. -/
structure Traced (M : Type) where
  memory : M
  writes : Array (UInt16 × UInt8)

instance {M : Type} [Memory M] : Memory (Traced M) where
  read traced addr := Memory.read traced.memory addr
  write traced addr value :=
    { memory := Memory.write traced.memory addr value
      writes := traced.writes.push (addr, value) }
  remark traced addr value := Memory.remark traced.memory addr value

end GameBoy
