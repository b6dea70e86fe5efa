import GameBoy.Proofs.Cpu.Trajectory
import GameBoy.Proofs.Memory.Watching

/-!
# `GameBoy.Proofs.Cpu.Alike`: memories that the processor cannot tell apart

Two memories of different kinds may answer every read alike and still store differently what
is written to them. `Memory.AlikeThrough` says of given writes that they are alike before and
after each one. That is all the processor needs: as long as its own writes are of this kind,
it does the same on both.

Which writes it makes may depend on what it reads, so it has to be said whose writes are meant.
They are those of one of the two machines. By induction the other makes the same: up to each
write both have read the same, so the next write is the same, and the memories are alike after
it. The argument is made three times over, for a transaction, for one action of the processor
and for a number of steps, and each is made from the one before. Main statements:

* `Transaction.observe_of_alike`: a transaction shows the same on both memories.
* `Machine.run_of_alike`: an action of the processor has the same outcome.
* `Machine.trajectory_of_alike`: so have any number of steps.
-/

set_option autoImplicit false

namespace GameBoy

namespace Memory

variable {M N : Type} [Memory M] [Memory N] {shadow : M} {memory : N}

/-- Two memories answer every read alike, and go on doing so through the given writes. -/
def AlikeThrough (shadow : M) (memory : N) : List (UInt16 × UInt8) → Prop
  | [] => ∀ addr, read shadow addr = read memory addr
  | (addr, value) :: rest =>
    (∀ addr, read shadow addr = read memory addr) ∧
      AlikeThrough (write shadow addr value) (write memory addr value) rest

namespace AlikeThrough

/-- They answer alike before the first write. -/
theorem start {writes : List (UInt16 × UInt8)} (h : AlikeThrough shadow memory writes) :
    ∀ addr, read shadow addr = read memory addr := by
  cases writes with
  | nil => exact h
  | cons entry rest => exact h.1

/-- Alike through one list and another is alike through the first, and from there through
the second. -/
theorem append_iff {first last : List (UInt16 × UInt8)} :
    AlikeThrough shadow memory (first ++ last) ↔
      AlikeThrough shadow memory first ∧
        AlikeThrough (writeAll shadow first) (writeAll memory first) last := by
  induction first generalizing shadow memory with
  | nil => exact ⟨fun h => ⟨h.start, h⟩, And.right⟩
  | cons entry rest ih =>
    obtain ⟨addr, value⟩ := entry
    show (_ ∧ AlikeThrough (write shadow addr value) (write memory addr value) (rest ++ last)) ↔
      (_ ∧ AlikeThrough (write shadow addr value) (write memory addr value) rest) ∧ _
    rw [ih, and_assoc]
    rfl

/-- They answer alike after the last write. -/
theorem finish {writes : List (UInt16 × UInt8)} (h : AlikeThrough shadow memory writes) :
    ∀ addr, read (writeAll shadow writes) addr = read (writeAll memory writes) addr := by
  rw [← List.append_nil writes] at h
  exact (append_iff.mp h).2

/-- Some of the writes, from the first on, are enough of them. -/
theorem of_isPrefix {first writes : List (UInt16 × UInt8)}
    (h : AlikeThrough shadow memory writes) (some : first <+: writes) :
    AlikeThrough shadow memory first := by
  obtain ⟨last, rfl⟩ := some
  exact (append_iff.mp h).1

end AlikeThrough

end Memory

open Memory (AlikeThrough writeAll)

/-- Memories that are alike through the writes of a transaction show the same of it. The writes
are those on one of the memories, and a part of the conclusion is that they are those on the
other too. -/
theorem Transaction.observe_of_alike {α M N : Type} [Memory M] [Memory N] {shadow : M}
    {memory : N} {transaction : Transaction α}
    (h : AlikeThrough shadow memory (transaction.observe memory).2) :
    transaction.observe shadow = transaction.observe memory := by
  induction transaction generalizing shadow memory with
  | done result => rfl
  | read addr next ih =>
    have answer : Memory.read shadow addr = Memory.read memory addr := h.start addr
    rw [observe_read, answer]
    exact ih _ h
  | write addr value next ih => rw [observe_write, observe_write, ih h.2]
  | report event next ih => exact ih h

namespace Machine

variable {α M N : Type} [Memory M] [Memory N] {shadow : Machine M} {machine : Machine N}

/-- An action of the processor has the same outcome on memories that are alike through its
writes, and makes the same writes. -/
theorem run_of_alike {action : Cpu → Transaction (α × Cpu)} (cpu : shadow.cpu = machine.cpu)
    (h : AlikeThrough shadow.memory machine.memory
      ((action machine.cpu).observe machine.memory).2) :
    (shadow.run action).1 = (machine.run action).1 ∧
      (shadow.run action).2.cpu = (machine.run action).2.cpu ∧
      (shadow.run action).2.memory =
        writeAll shadow.memory ((action machine.cpu).observe machine.memory).2 := by
  obtain ⟨result, state, memory⟩ := shadow.run_eq action
  obtain ⟨result', state', -⟩ := machine.run_eq action
  rw [cpu, Transaction.observe_of_alike h] at result state memory
  exact ⟨result.trans result'.symm, state.trans state'.symm, memory⟩

/-! ### Step after step -/

/-- A watched machine makes the steps of the machine. -/
theorem unwatched_trajectory (start : Machine (Traced N)) (count : Nat) :
    (start.trajectory count).unwatched = start.unwatched.trajectory count := by
  induction count with
  | zero => rfl
  | succ count ih =>
    have step : ((start.trajectory count).step.1, (start.trajectory count).step.2.unwatched) =
        (start.unwatched.trajectory count).step := by
      rw [← ih, unwatched_step]
    exact congrArg Prod.snd step

/-- The writes that a machine makes in its first steps, oldest first. They are taken from a
machine that is watched, so they are what the memory is really given. -/
def writes (start : Machine N) (count : Nat) : List (UInt16 × UInt8) :=
  (start.watched.trajectory count).witnessed

/-- One more step adds its own writes. -/
theorem writes_succ (start : Machine N) (count : Nat) :
    start.writes (count + 1) = start.writes count ++ (start.trajectory count).seen.2 := by
  have same : (start.watched.trajectory count).unwatched = start.trajectory count :=
    start.watched.unwatched_trajectory count
  rw [← same]
  exact (start.watched.trajectory count).witnessed_run Cpu.step

/-- The writes of fewer steps are the first of the writes. -/
theorem writes_prefix (start : Machine N) {fewer count : Nat} (le : fewer ≤ count) :
    start.writes fewer <+: start.writes count := by
  induction count, le using Nat.le_induction with
  | base => exact List.prefix_refl _
  | succ count _ ih =>
    rw [writes_succ]
    exact ih.trans (List.prefix_append _ _)

/-- The memory after some steps is the memory before them with their writes made. -/
theorem memory_trajectory (start : Machine N) (count : Nat) :
    (start.trajectory count).memory = writeAll start.memory (start.writes count) := by
  induction count with
  | zero => rfl
  | succ count ih =>
    rw [writes_succ, Memory.writeAll_append, ← ih]
    exact (start.trajectory count).step_eq.2.2

/-- On memories that are alike through the writes of a number of steps, these steps lead to
the same state of the processor, and the same writes were made: the other memory is what it was,
with the writes of this machine. -/
theorem trajectory_of_alike {count : Nat} (cpu : shadow.cpu = machine.cpu)
    (h : AlikeThrough shadow.memory machine.memory (machine.writes count)) :
    (shadow.trajectory count).cpu = (machine.trajectory count).cpu ∧
      (shadow.trajectory count).memory = writeAll shadow.memory (machine.writes count) := by
  -- On the number of steps. Where the last step starts, both memories have taken the writes
  -- before it, so that they are alike through the writes of this one.
  induction count with
  | zero => exact ⟨cpu, rfl⟩
  | succ count ih =>
    rw [writes_succ] at h ⊢
    obtain ⟨before, last⟩ := AlikeThrough.append_iff.mp h
    obtain ⟨cpus, memory⟩ := ih before
    rw [← memory, ← memory_trajectory] at last
    have step := run_of_alike cpus last
    rw [Memory.writeAll_append, ← memory]
    exact step.2

/-- And the last of these steps has the same outcome. It is stated apart, as the outcome of a
step is not part of the machine after it. -/
theorem step_of_alike {count : Nat} (cpu : shadow.cpu = machine.cpu)
    (h : AlikeThrough shadow.memory machine.memory (machine.writes (count + 1))) :
    (shadow.trajectory count).step.1 = (machine.trajectory count).step.1 := by
  rw [writes_succ] at h
  obtain ⟨before, last⟩ := AlikeThrough.append_iff.mp h
  obtain ⟨cpus, memory⟩ := trajectory_of_alike cpu before
  rw [← memory, ← memory_trajectory] at last
  exact (run_of_alike cpus last).1

end Machine

end GameBoy
