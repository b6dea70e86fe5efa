import GameBoy.Machine
import GameBoy.Memory.Traced

/-!
# `GameBoy.Proofs.Memory.Observation`: what can be seen of a transaction

A transaction is a tree of reads, writes and reports that ends in a result. Carried out
(`Transaction.perform`), it gives the result, the memory afterwards and the journal
afterwards. That is more than most statements about the processor want to speak of.
`Transaction.observe` gives the result on a memory together with the writes, oldest first.
It leaves out the journal, which decides nothing, and the final memory, which follows from
the writes.

Every theorem here is an induction on the transaction, one case for each thing that it can
do. In the case of a write, what comes after is done on the memory that the write leaves, so
the memory is generalized throughout. From then on nothing has to look into a transaction
again: an instruction is observed by the lemmas about its parts (`observe_bind`), and
`Machine.run_eq` carries the result over to the machine. Main statements:

* `Transaction.perform_fst`: the observed result is the one that carrying out
  the transaction gives.
* `Transaction.memory_perform`: the memory afterwards is the memory before it
  with the observed writes made in order.
* `Transaction.writes_perform`: a traced memory records exactly the observed
  writes.
-/

set_option autoImplicit false

namespace GameBoy

/-- A memory after writes made in order. What a memory makes of a write is its own affair: on
plain storage this replaces bytes, on the bus it may do nothing. -/
def Memory.writeAll {M : Type} [Memory M] (memory : M) (writes : List (UInt16 × UInt8)) : M :=
  writes.foldl (fun memory entry => Memory.write memory entry.1 entry.2) memory

theorem Memory.writeAll_append {M : Type} [Memory M] (memory : M)
    (first last : List (UInt16 × UInt8)) :
    Memory.writeAll memory (first ++ last) =
      Memory.writeAll (Memory.writeAll memory first) last :=
  List.foldl_append

namespace Transaction

variable {α β M : Type} [Memory M]

/-- The result of a transaction on a memory, and its writes, oldest first. A read after a write
sees the write made, so the memory is led through. -/
def observe (transaction : Transaction α) (memory : M) : α × List (UInt16 × UInt8) :=
  match transaction with
  | done result => (result, [])
  | read addr next => (next (Memory.read memory addr)).observe memory
  | write addr value next =>
    let (result, writes) := next.observe (Memory.write memory addr value)
    (result, (addr, value) :: writes)
  | report _ next => next.observe memory

/-- A result alone writes nothing. -/
@[simp]
theorem observe_done (result : α) (memory : M) : (done result).observe memory = (result, []) := rfl

/-- A read is answered by the memory. -/
@[simp]
theorem observe_read (addr : UInt16) (next : UInt8 → Transaction α) (memory : M) :
    (read addr next).observe memory = (next (Memory.read memory addr)).observe memory := rfl

/-- A write comes before the writes of the rest, which sees it made. -/
@[simp]
theorem observe_write (addr : UInt16) (value : UInt8) (next : Transaction α) (memory : M) :
    (write addr value next).observe memory =
      ((next.observe (Memory.write memory addr value)).1,
        (addr, value) :: (next.observe (Memory.write memory addr value)).2) := rfl

/-- A report does not show. -/
@[simp]
theorem observe_report (event : Event) (next : Transaction α) (memory : M) :
    (report event next).observe memory = next.observe memory := rfl

/-- What is seen of a composition is what is seen of its parts, the second on the
memory that the writes of the first leave. -/
theorem observe_bind (transaction : Transaction α) (next : α → Transaction β) (memory : M) :
    (transaction.bind next).observe memory =
      let first := transaction.observe memory
      let second := (next first.1).observe (Memory.writeAll memory first.2)
      (second.1, first.2 ++ second.2) := by
  -- On the transaction that goes first. The memory is generalized: what comes after a
  -- write sees it made.
  induction transaction generalizing memory with
  | done result => rfl
  | read addr rest ih => exact ih _ memory
  | write addr value rest ih => simp [ih, Memory.writeAll]
  | report event rest ih => exact ih memory

/-- Carrying out a transaction gives the observed result. -/
theorem perform_fst (transaction : Transaction α) (memory : M) (journal : Journal) :
    (transaction.perform memory journal).1 = (transaction.observe memory).1 := by
  induction transaction generalizing memory journal with
  | done result => rfl
  | read addr rest ih => exact ih _ memory journal
  | write addr value rest ih => exact ih _ _
  | report event rest ih => exact ih memory _

/-- Carrying out a transaction leaves the memory with the observed writes made. So two
transactions that are observed to be alike leave the same memory. -/
theorem memory_perform (transaction : Transaction α) (memory : M) (journal : Journal) :
    (transaction.perform memory journal).2.1 =
      Memory.writeAll memory (transaction.observe memory).2 := by
  induction transaction generalizing memory journal with
  | done result => rfl
  | read addr rest ih => exact ih _ memory journal
  | write addr value rest ih => exact ih _ _
  | report event rest ih => exact ih memory _

/-- Tracing a memory does not change the result: a traced memory answers a read as the memory
in it does. -/
theorem observe_traced_fst (transaction : Transaction α) (memory : Traced M) :
    (transaction.observe memory).1 = (transaction.observe memory.memory).1 := by
  induction transaction generalizing memory with
  | done result => rfl
  | read addr rest ih => exact ih _ memory
  | write addr value rest ih => exact ih _
  | report event rest ih => exact ih memory

/-- A traced memory adds the observed writes to those it remembers. This is what makes the
writes of an instruction something that a program can be asked for. -/
theorem writes_perform (transaction : Transaction α) (memory : Traced M) (journal : Journal) :
    (transaction.perform memory journal).2.1.writes.toList =
      memory.writes.toList ++ (transaction.observe memory.memory).2 := by
  induction transaction generalizing memory journal with
  | done result => exact (List.append_nil _).symm
  | read addr rest ih => exact ih _ memory journal
  | write addr value rest ih =>
    have pushed : (Memory.write memory addr value : Traced M).writes.toList =
        memory.writes.toList ++ [(addr, value)] := Array.toList_push
    -- The rest is carried out on a memory that already remembers this write.
    show (rest.perform (Memory.write memory addr value) _).2.1.writes.toList = _
    rw [ih, pushed, List.append_assoc]
    rfl
  | report event rest ih => exact ih memory _

end Transaction

namespace Machine

open Transaction

variable {α M : Type} [Memory M]

/-- What a machine makes of an action of its processor: the result and the state of the
processor are the observed ones, and the memory has the observed writes made. All that a step or
an opcode does to a machine, its journal apart, is read off an observation by this. -/
theorem run_eq (machine : Machine M) (action : Cpu → Transaction (α × Cpu)) :
    (machine.run action).1 = ((action machine.cpu).observe machine.memory).1.1 ∧
      (machine.run action).2.cpu = ((action machine.cpu).observe machine.memory).1.2 ∧
      (machine.run action).2.memory =
        Memory.writeAll machine.memory ((action machine.cpu).observe machine.memory).2 := by
  have result := perform_fst (action machine.cpu) machine.memory machine.journal
  have memory := memory_perform (action machine.cpu) machine.memory machine.journal
  exact ⟨congrArg Prod.fst result, congrArg Prod.snd result, memory⟩

end Machine

end GameBoy
