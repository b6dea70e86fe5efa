import GameBoy.Memory.Basic
import GameBoy.Log.Journal

/-!
# `GameBoy.Memory.Transaction`: conversations with a memory

What the processor does between two instructions is a `Transaction`: it asks
for bytes, stores bytes and reports events, in a fixed order, and ends with a
result. Later requests may depend on the bytes read earlier. A transaction names
no memory: `Transaction.perform` carries it out on any memory, with a journal
for what is reported. A fact about every memory is thus a fact about the
transaction, and is proved by going through its requests once.

The type has no other way to look at a memory than to read a byte, and none to
change it but to write one. That already rules out much of what would have to be
proved of a processor with a memory in its hands. Whether it behaves the same on
two memories, or under two journals, is an induction on the transaction with one
case for each request.

A transaction is written in `do` notation, and is opened by the laws of
composition below, which are tagged for `simp`. They hold by definition, so that
opening an instruction needs no case split. Main statement: carrying out one
transaction after another is carrying out their composition
(`Transaction.perform_bind`).
-/

set_option autoImplicit false

namespace GameBoy

/-- A conversation with a memory that ends with a result. -/
inductive Transaction (α : Type) where
  /-- The result. -/
  | done (result : α)
  /-- Asks for the byte at an address. -/
  | read (addr : UInt16) (next : UInt8 → Transaction α)
  /-- Stores a byte at an address. -/
  | write (addr : UInt16) (value : UInt8) (next : Transaction α)
  /-- Reports an event. -/
  | report (event : Event) (next : Transaction α)

namespace Transaction

variable {α β γ M : Type}

/-- Goes on with `next` once the result is known. -/
def bind (transaction : Transaction α) (next : α → Transaction β) : Transaction β :=
  match transaction with
  | done result => next result
  | read addr rest => .read addr fun value => (rest value).bind next
  | write addr value rest => .write addr value (rest.bind next)
  | report event rest => .report event (rest.bind next)

instance : Monad Transaction where
  pure := done
  bind := bind

/-- The byte at an address. -/
def load (addr : UInt16) : Transaction UInt8 := .read addr done

/-- Puts a byte at an address. -/
def store (addr : UInt16) (value : UInt8) : Transaction Unit := .write addr value (done ())

/-- Tells the journal of an event. -/
def notify (event : Event) : Transaction Unit := .report event (done ())

/-- Carries a transaction out on a memory, and keeps the journal. A write is
remarked on by the memory as it was before the write, and the remark is noted
before anything that is reported later. -/
@[specialize]
def perform [Memory M] (transaction : Transaction α) (memory : M) (journal : Journal) :
    α × M × Journal :=
  match transaction with
  | done result => (result, memory, journal)
  | read addr rest => (rest (Memory.read memory addr)).perform memory journal
  | write addr value rest =>
    let journal :=
      match Memory.remark memory addr value with
      | some event => journal.note event
      | none => journal
    rest.perform (Memory.write memory addr value) journal
  | report event rest => rest.perform memory (journal.note event)

/-! ### Laws of composition -/

/-- A result alone is a transaction without requests. -/
@[simp]
theorem pure_eq (result : α) : (pure result : Transaction α) = done result := rfl

/-- Composition is `Transaction.bind`. -/
@[simp]
theorem bind_eq (transaction : Transaction α) (next : α → Transaction β) :
    transaction >>= next = transaction.bind next := rfl

/-- What follows a result starts from it. -/
@[simp]
theorem bind_done (result : α) (next : α → Transaction β) :
    (done result).bind next = next result := rfl

/-- What follows a read follows each of its answers. -/
@[simp]
theorem bind_read (addr : UInt16) (rest : UInt8 → Transaction α) (next : α → Transaction β) :
    (read addr rest).bind next = read addr fun value => (rest value).bind next := rfl

/-- What follows a write follows the rest after it. -/
@[simp]
theorem bind_write (addr : UInt16) (value : UInt8) (rest : Transaction α)
    (next : α → Transaction β) :
    (write addr value rest).bind next = write addr value (rest.bind next) := rfl

/-- What follows a report follows the rest after it. -/
@[simp]
theorem bind_report (event : Event) (rest : Transaction α) (next : α → Transaction β) :
    (report event rest).bind next = report event (rest.bind next) := rfl

/-- Going on with nothing changes nothing. -/
theorem bind_return (transaction : Transaction α) : transaction.bind done = transaction := by
  induction transaction with
  | done result => rfl
  | read addr rest ih => exact congrArg (read addr) (funext ih)
  | write addr value rest ih => exact congrArg (write addr value) ih
  | report event rest ih => exact congrArg (report event) ih

/-- It does not matter which of two compositions is made first. -/
theorem bind_bind (transaction : Transaction α) (next : α → Transaction β)
    (last : β → Transaction γ) :
    (transaction.bind next).bind last = transaction.bind fun result => (next result).bind last := by
  induction transaction with
  | done result => rfl
  | read addr rest ih => exact congrArg (read addr) (funext ih)
  | write addr value rest ih => exact congrArg (write addr value) ih
  | report event rest ih => exact congrArg (report event) ih

instance : LawfulMonad Transaction :=
  LawfulMonad.mk' Transaction bind_return (fun _ _ => rfl) bind_bind

/-- Carrying out a composition is carrying out its first part, and then the second
from where the first one ended. -/
theorem perform_bind [Memory M] (transaction : Transaction α) (next : α → Transaction β)
    (memory : M) (journal : Journal) :
    (transaction.bind next).perform memory journal =
      (next (transaction.perform memory journal).1).perform
        (transaction.perform memory journal).2.1 (transaction.perform memory journal).2.2 := by
  induction transaction generalizing memory journal with
  | done result => rfl
  | read addr rest ih => exact ih _ memory journal
  | write addr value rest ih => exact ih _ _
  | report event rest ih => exact ih memory _

end Transaction

end GameBoy
