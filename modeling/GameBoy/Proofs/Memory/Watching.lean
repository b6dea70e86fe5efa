import GameBoy.Proofs.Memory.Observation

/-!
# `GameBoy.Proofs.Memory.Watching`: a machine whose writes are watched

Some statements are about the writes that a processor makes, in their order, and not only
about the memory that they leave: whether an operand was written once, or which byte was
pushed first. `Machine.watched` connects the processor to its memory through one that
remembers the writes, and `Machine.witnessed` is what it remembers. The machine does not
notice, so what is proved of a watched machine holds of the machine. Main statements:

* `Machine.unwatched_run`, `Machine.unwatched_step`: a watched machine does what the machine
  itself does.
* `Machine.witnessed_run`: it remembers the writes that are observed.
-/

set_option autoImplicit false

namespace GameBoy

namespace Transaction

variable {α M : Type} [Memory M]

/-- A traced memory leads a transaction to the result, the memory and the journal that the
memory in it does. The three are told at once, since each read depends on the memory so far. -/
theorem perform_traced (transaction : Transaction α) (memory : Traced M) (journal : Journal) :
    ((transaction.perform memory journal).1, (transaction.perform memory journal).2.1.memory,
        (transaction.perform memory journal).2.2) =
      transaction.perform memory.memory journal := by
  induction transaction generalizing memory journal with
  | done result => rfl
  | read addr rest ih => exact ih _ memory journal
  | write addr value rest ih => exact ih (Memory.write memory addr value) _
  | report event rest ih => exact ih memory _

end Transaction

namespace Machine

variable {α M : Type} [Memory M]

/-- A machine whose writes are remembered from here on. -/
def watched (machine : Machine M) : Machine (Traced M) :=
  { machine with memory := ⟨machine.memory, #[]⟩ }

/-- The machine that is watched. -/
def unwatched (machine : Machine (Traced M)) : Machine M :=
  { machine with memory := machine.memory.memory }

/-- The writes remembered so far, oldest first. -/
def witnessed (machine : Machine (Traced M)) : List (UInt16 × UInt8) :=
  machine.memory.writes.toList

/-- Watching does not change what is watched: whatever the processor does, forgetting the
trace afterwards is the same as never having kept one. -/
theorem unwatched_run (machine : Machine (Traced M)) (action : Cpu → Transaction (α × Cpu)) :
    ((machine.run action).1, (machine.run action).2.unwatched) =
      machine.unwatched.run action := by
  obtain ⟨cpu, memory, journal⟩ := machine
  simp only [run, unwatched, ← (action cpu).perform_traced memory journal]

/-- A step of a watched machine is a step of the machine. -/
theorem unwatched_step (machine : Machine (Traced M)) :
    (machine.step.1, machine.step.2.unwatched) = machine.unwatched.step :=
  machine.unwatched_run Cpu.step

/-- What is observed of an action is added to what is remembered. -/
theorem witnessed_run (machine : Machine (Traced M)) (action : Cpu → Transaction (α × Cpu)) :
    (machine.run action).2.witnessed =
      machine.witnessed ++ ((action machine.cpu).observe machine.unwatched.memory).2 :=
  (action machine.cpu).writes_perform machine.memory machine.journal

end Machine

end GameBoy
