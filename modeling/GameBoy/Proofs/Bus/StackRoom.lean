import GameBoy.Memory.Flat
import GameBoy.Proofs.Bus.Mirror
import GameBoy.Proofs.Cpu.Stack

/-!
# `GameBoy.Proofs.Bus.StackRoom`: where a stack can lie

Flat storage has room for a stack anywhere, once around the address space. On the memory map a
stack can lie where every byte of it can be written, and no two of them are the same cell of work
memory, one by its own address and the other by the echo. Read-only memory takes part only
through the one address that uncovers it.

What a stack needs of a memory is said once, in `Room` and `Beside` of
`GameBoy.Proofs.Cpu.Stack`: the bytes below the base are kept apart, and other addresses are not
touched. The processor's side is proved from that, for any memory. This module shows which
memories have the room. Main statements:

* `Flat.room`, `Bus.room`: how far a stack may grow.
* `Machine.stack_last_in_first_out`: so far, words and return addresses come off the stack in
  reverse order, and nothing else is changed.
-/

set_option autoImplicit false

namespace GameBoy

variable {base addr : UInt16} {count : Nat}

namespace Flat

/-- Flat storage has room for a whole round of the address space. -/
theorem room (base : UInt16) (fits : count ≤ 65536) : Room Flat base count where
  retains i _ _ flat value := by
    show (flat.write (below base i) value).read (below base i) = value
    rw [read_write, if_pos rfl]
  spares i j hi hi' hj hj' differ flat value := by
    show (flat.write (below base i) value).read (below base j) = flat.read (below base j)
    rw [read_write, if_neg]
    intro same
    exact differ (below.inj hi (by omega) hj (by omega) same)

/-- Every other address is beside it. -/
theorem beside (other : ∀ i, 1 ≤ i → i ≤ count → addr ≠ below base i) :
    Beside Flat base count addr := by
  intro i hi hi' flat value
  show (flat.write (below base i) value).read addr = flat.read addr
  rw [read_write, if_neg (other i hi hi').symm]

end Flat

namespace Bus

/-- A stack that can be written all over does not go round the whole address space: it would
come to address zero, which is read-only. So no bound on the depth has to be asked for. -/
theorem count_le_of_writable (writable : ∀ i, 1 ≤ i → i ≤ count → Writable (below base i)) :
    count ≤ 65535 := by
  by_contra beyond
  have lt : base.toNat < 2 ^ 16 := base.toNat_lt
  -- Zero lies as far below the base as the base is high, or a whole round if that is zero too.
  obtain ⟨i, one, le, zero⟩ : ∃ i, 1 ≤ i ∧ i ≤ 65536 ∧ (below base i).toNat = 0 := by
    by_cases none : base.toNat = 0
    · exact ⟨65536, by omega, by omega, by rw [below.toNat_eq]; omega⟩
    · exact ⟨base.toNat, by omega, by omega, by rw [below.toNat_eq]; omega⟩
  have there := (writable_iff _).mp (writable i one (by omega))
  omega

/-- The memory map has room where all bytes can be written and no two are an echo pair. Without
the second condition a deep stack would overwrite itself through the echo. -/
theorem room (writable : ∀ i, 1 ≤ i → i ≤ count → Writable (below base i))
    (single : ∀ i j, 1 ≤ i → i ≤ count → 1 ≤ j → j ≤ count →
      ¬EchoPair (below base i) (below base j)) : Room Bus base count where
  retains i hi hi' bus value := bus.read_write_of_home value (writable i hi hi') rfl
  spares i j hi hi' hj hj' differ bus value := by
    have fits := count_le_of_writable writable
    refine bus.read_write_of_apart value (writable j hj hj') fun same => ?_
    rcases eq_or_echoPair same with equal | echo | echo
    · exact differ (below.inj hi (by omega) hj (by omega) equal)
    · exact single i j hi hi' hj hj' echo
    · exact single j i hj hj' hi hi' echo

/-- What names another cell is beside it, and so is what names none, if no byte of the stack is
the address that uncovers the cartridge. -/
theorem beside
    (apart : ∀ i, 1 ≤ i → i ≤ count → homeAddr (below base i) ≠ homeAddr addr)
    (covers : Writable addr ∨ ∀ i, 1 ≤ i → i ≤ count → below base i ≠ 0xFF50) :
    Beside Bus base count addr := by
  intro i hi hi' bus value
  by_cases writable : Writable addr
  · exact bus.read_write_of_apart value writable (apart i hi hi')
  · have uncovers : below base i ≠ overlayAddr := covers.resolve_left writable i hi hi'
    exact (bus.read_write_of_not_writable _ value writable).trans
      (if_neg fun uncovered => uncovers uncovered.1)

end Bus

namespace Machine

variable {M : Type} [Memory M]

/-- The stack of a machine is last-in first-out for so many words, and for so many calls, and
the addresses that are kept answer afterwards as before. Words are pushed and popped from
outside, calls are instructions that the machine runs, with others in between that leave the
stack alone. The last field says that there are such calls, so the one before it is not empty. -/
structure LastInFirstOut (start : Machine M) (count : Nat) (Kept : UInt16 → Prop) : Prop where
  words : ∀ words : List UInt16, words.length = count →
    let taken := (start.pushAll words).popAll count
    taken.1 = words.reverse ∧ taken.2.cpu = start.cpu ∧
      ∀ addr, Kept addr → taken.2.read addr = start.read addr
  calls : ∀ returns middle last, returns.length = count → CallRow start returns middle →
    ReturnRow middle count last →
      last.cpu.regs.sp = start.cpu.regs.sp ∧
        (∀ first ∈ returns.head?, last.cpu.regs.pc = first) ∧
        ∀ addr, Kept addr → last.read addr = start.read addr
  possible : ∃ returns middle last, returns.length = count ∧ CallRow start returns middle ∧
    ReturnRow middle count last

/-- It is, wherever there is room: two bytes for each word. The addresses of which something is
to be said have to lie beside the room. That there are rows of calls and of returns is no matter
of room, since any machine can be told to make them. -/
theorem lastInFirstOut_of_room {start : Machine M} {Kept : UInt16 → Prop}
    (room : Room M start.cpu.regs.sp (2 * count))
    (beside : ∀ addr, Kept addr → Beside M start.cpu.regs.sp (2 * count) addr) :
    LastInFirstOut start count Kept where
  words words length := by
    subst length
    obtain ⟨order, cpu, kept⟩ := push_pop words room
    exact ⟨order, cpu, fun addr spared => kept addr (beside addr spared)⟩
  calls returns middle last length row back := by
    subst length
    obtain ⟨sp, pc, kept⟩ := call_return row back room
    exact ⟨sp, pc, fun addr spared => kept addr (beside addr spared)⟩
  possible := by
    obtain ⟨returns, middle, length, row⟩ := exists_callRow start count
    obtain ⟨last, back⟩ := exists_returnRow middle count
    exact ⟨returns, middle, last, length, row, back⟩

/-- The stack is last-in first-out to any depth that there is room for.

1. On flat storage that is 32768 words, a whole round of the address space. All addresses that
   are not of the stack are kept.
2. On the memory map the bytes down from the stack pointer have to be writable, and no two of
   them may be one cell of work memory. What is kept is every other cell, and also what lies
   outside all cells, unless the stack covers the address that takes the boot image away.

The stack pointer may wrap on the way; `below` counts down from it and round. The proof is short
because the two memories differ only in their room (`Flat.room`, `Bus.room`) and in what is
beside it (`Flat.beside`, `Bus.beside`). That words and return addresses then come off in
reverse order is an induction on the depth, for any memory (`push_pop`, `call_return`). -/
theorem stack_last_in_first_out :
    (∀ (start : Machine Flat) (count : Nat), count ≤ 32768 →
      let sp := start.cpu.regs.sp
      start.LastInFirstOut count fun addr => ∀ i, 1 ≤ i → i ≤ 2 * count → addr ≠ below sp i) ∧
    (∀ (start : Machine Bus) (count : Nat),
      let sp := start.cpu.regs.sp
      (∀ i, 1 ≤ i → i ≤ 2 * count → Writable (below sp i)) →
      (∀ i j, 1 ≤ i → i ≤ 2 * count → 1 ≤ j → j ≤ 2 * count →
        ¬EchoPair (below sp i) (below sp j)) →
      start.LastInFirstOut count fun addr =>
        (∀ i, 1 ≤ i → i ≤ 2 * count → homeAddr (below sp i) ≠ homeAddr addr) ∧
          (Writable addr ∨ ∀ i, 1 ≤ i → i ≤ 2 * count → below sp i ≠ 0xFF50)) := by
  refine ⟨?_, ?_⟩
  · intro start count depth sp
    exact lastInFirstOut_of_room (Flat.room sp (by omega)) fun addr other => Flat.beside other
  · intro start count sp writable single
    exact lastInFirstOut_of_room (Bus.room writable single)
      fun addr kept => Bus.beside kept.1 kept.2

/-- A stack of two words in high memory. -/
theorem stack_last_in_first_out_high :
    let start : Machine Bus := fresh false (Bus.powerOn ⟨#[]⟩ none) (.start .silent)
    (start.cpu.regs.sp = 0xFFFE) ∧
      ((start.pushAll [0x1234, 0xABCD]).popAll 2).1 = [0xABCD, 0x1234] ∧
      ((start.pushAll [0x1234, 0xABCD]).popAll 2).2.cpu = start.cpu := by
  intro start
  have writable : ∀ i, 1 ≤ i → i ≤ 4 → Writable (below 0xFFFE i) := by decide
  have high : ∀ i, 1 ≤ i → i ≤ 4 → ¬below 0xFFFE i ≤ 0xDDFF := by decide
  have single : ∀ i j, 1 ≤ i → i ≤ 4 → 1 ≤ j → j ≤ 4 →
      ¬EchoPair (below 0xFFFE i) (below 0xFFFE j) :=
    fun i _ hi hi' _ _ echo => high i hi hi' echo.2.1
  have works := stack_last_in_first_out.2 start 2 writable single
  obtain ⟨order, cpu, -⟩ := works.words [0x1234, 0xABCD] rfl
  exact ⟨rfl, order, cpu⟩

end Machine

end GameBoy
