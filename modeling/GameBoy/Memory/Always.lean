import GameBoy.Memory.Transaction

/-!
# `GameBoy.Memory.Always`: what holds whatever a memory answers

`Transaction.Always property` says that the result of a transaction has the
property for every sequence of bytes read. It is checked request by request, and
then holds of the result on every memory (`Transaction.Always.perform`).

This is more than to say it of every memory, since no memory has to answer in the
way that is looked at. But it needs no memory to be stated, and most of what holds
of an instruction, such as its cost, holds of it in this way. Main statements:

* `Transaction.Always.bind_iff`: it is checked part by part along a composition.
* `Transaction.Always.perform`: it holds on every memory.
-/

set_option autoImplicit false

namespace GameBoy.Transaction

variable {α β M : Type}

/-- Whether a property holds of the result, whatever bytes are read. -/
def Always (property : α → Prop) : Transaction α → Prop
  | done result => property result
  | read _ next => ∀ value, (next value).Always property
  | write _ _ next => next.Always property
  | report _ next => next.Always property

namespace Always

/-- A transaction without requests has one result. -/
@[simp]
theorem done_iff {property : α → Prop} {result : α} :
    (done result).Always property ↔ property result := Iff.rfl

/-- After a read, every byte counts. -/
@[simp]
theorem read_iff {property : α → Prop} {addr : UInt16} {next : UInt8 → Transaction α} :
    (read addr next).Always property ↔ ∀ value, (next value).Always property := Iff.rfl

/-- A write has no say in the result. -/
@[simp]
theorem write_iff {property : α → Prop} {addr : UInt16} {value : UInt8} {next : Transaction α} :
    (write addr value next).Always property ↔ next.Always property := Iff.rfl

/-- A report has no say in the result. -/
@[simp]
theorem report_iff {property : α → Prop} {event : Event} {next : Transaction α} :
    (report event next).Always property ↔ next.Always property := Iff.rfl

/-- What holds at the end holds of every way to go on from the middle. -/
theorem bind_iff {property : β → Prop} {transaction : Transaction α}
    {next : α → Transaction β} :
    (transaction.bind next).Always property ↔
      transaction.Always fun result => (next result).Always property := by
  induction transaction with
  | done result => exact Iff.rfl
  | read addr rest ih => exact forall_congr' ih
  | write addr value rest ih => exact ih
  | report event rest ih => exact ih

/-- A weaker property holds as well. -/
theorem mono {strong weak : α → Prop} (imp : ∀ result, strong result → weak result)
    {transaction : Transaction α} (h : transaction.Always strong) : transaction.Always weak := by
  induction transaction with
  | done result => exact imp result h
  | read addr rest ih => exact fun value => ih value (h value)
  | write addr value rest ih => exact ih h
  | report event rest ih => exact ih h

/-- What holds of everything holds of the result. -/
theorem of_forall {property : α → Prop} (h : ∀ result, property result)
    (transaction : Transaction α) : transaction.Always property := by
  induction transaction with
  | done result => exact h result
  | read addr rest ih => exact ih
  | write addr value rest ih => exact ih
  | report event rest ih => exact ih

/-- On every memory, the result has the property. -/
theorem perform [Memory M] {property : α → Prop} {transaction : Transaction α}
    (h : transaction.Always property) (memory : M) (journal : Journal) :
    property (transaction.perform memory journal).1 := by
  induction transaction generalizing memory journal with
  | done result => exact h
  | read addr rest ih => exact ih _ (h _) memory journal
  | write addr value rest ih => exact ih h _ _
  | report event rest ih => exact ih h _ _

end Always

end GameBoy.Transaction
