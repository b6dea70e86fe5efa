import Mathlib.Data.Nat.Digits.Defs
import Mathlib.Tactic.Ring
import GameBoy.Proofs.Cpu.Calls

/-!
# `GameBoy.Proofs.Arithmetic.Columns`: long numbers, column by column

A number that is too long for the accumulator lies in several bytes, the lowest first. Two such
numbers are added or subtracted column by column: a byte of the one is put into A, A is combined
with the byte of the other, and the result is kept, while the carry flag goes on to the next
column. `Machine.Column` is one column, with or without a decimal correction behind it, and
`Machine.Columns` a row of them.

What a byte counts for is told by a `Numeral`: a base, a digit for every byte, which bytes may
stand in a number, and whether a column needs the decimal correction. A numeral also carries the
reason why one column comes out right (`Numeral.counts`), so binary and decimal numbers share all
that is proved here. That a column comes out right is the equation `Way.Leaves`. For a sum it is
the result, and the modulus if there is a carry, on one side, and the two numbers and the carry
that came in on the other. For a difference it is the sum that the difference undoes, so nothing
has to be said of numbers below zero before the very end.

The one idea is in `Way.Leaves.cons`. The carry between the lowest column and the rest stands once
on each side, with the same weight, and cancels. The induction over a row is this lemma at every
byte.

A column does not say how the two bytes came into the processor. Between one column and the next
a program loads and stores as it likes, so `Machine.Column` only asks that the machine it runs on
has the byte in A and the carry of the column before. Whether there is such a machine is a
question of its own (`Machine.exists_columns`).

Main statements:

* `Way.Leaves.cons`: columns that come out right come out right together.
* `Machine.Columns.sums`, `Machine.Columns.differences`: so does any row of columns that a machine
  goes through.
* `Machine.exists_columns`: any machine can go through them.
-/

set_option autoImplicit false

namespace GameBoy

open Transaction

/-! ### Sums and differences -/

/-- The two ways to combine long numbers. -/
inductive Way where
  | sum | difference

namespace Way

/-- The operation on a column that takes the carry in. -/
def chained : Way → AluOp
  | sum => .adc
  | difference => .sbc

/-- The operation on a column that does not. -/
def plain : Way → AluOp
  | sum => .add
  | difference => .sub

/-- What combining `x` and `y` leaves: a result, and a carry that counts for the modulus. A
difference is what makes the sum with `y`, so the equation has no subtraction in it and holds in
the natural numbers. -/
def Leaves (way : Way) (modulus x y : Nat) (carry : Bool) (result : Nat) (next : Bool) : Prop :=
  match way with
  | sum => result + modulus * next.toNat = x + y + carry.toNat
  | difference => result + y + carry.toNat = x + modulus * next.toNat

namespace Leaves

variable {modulus x y result : Nat} {carry next : Bool}

/-- No columns at all leave the carry as it was. -/
theorem none (way : Way) (carry : Bool) : way.Leaves 1 0 0 carry 0 carry := by
  cases way <;> simp [Leaves]

/-- The lowest column and the rest, which counts for more by the base, make up the whole. The
carry between them comes out of the one and goes into the other with the same weight, so it
cancels. The two ways differ only in the side on which it stands. -/
theorem cons {way : Way} {base rest x' y' result' : Nat} {between : Bool}
    (lowest : way.Leaves base x y carry result between)
    (later : way.Leaves rest x' y' between result' next) :
    way.Leaves (base * rest) (x + base * x') (y + base * y') carry (result + base * result')
      next := by
  cases way with
  | sum =>
    simp only [Leaves] at lowest later ⊢
    calc result + base * result' + base * rest * next.toNat
      _ = result + base * (result' + rest * next.toNat) := by ring
      _ = result + base * between.toNat + base * (x' + y') := by rw [later]; ring
      _ = x + base * x' + (y + base * y') + carry.toNat := by rw [lowest]; ring
  | difference =>
    simp only [Leaves] at lowest later ⊢
    calc result + base * result' + (y + base * y') + carry.toNat
      _ = result + y + carry.toNat + base * (result' + y') := by ring
      _ = x + base * (result' + y' + between.toNat) := by rw [lowest]; ring
      _ = x + base * x' + base * rest * next.toNat := by rw [later]; ring

/-- A result below the modulus is the sum modulo it, and the carry tells whether the sum
reaches it. The bound on the result is what makes both unique: without it the equation would
allow a larger result and no carry. -/
theorem sum_eq (h : sum.Leaves modulus x y carry result next) (lt : result < modulus) :
    result = (x + y + carry.toNat) % modulus ∧
      (next = true ↔ modulus ≤ x + y + carry.toNat) := by
  simp only [Leaves] at h
  cases next with
  | false =>
    have small : x + y + carry.toNat < modulus := by simpa [← h] using lt
    rw [Nat.mod_eq_of_lt small, ← h]
    simpa using lt
  | true =>
    rw [← h]
    simpa using (Nat.mod_eq_of_lt lt).symm

/-- A result below the modulus is the difference modulo it, and the carry tells whether the
difference is negative. The difference is one of integers, and its residue is the one that is not
negative. -/
theorem difference_eq (h : difference.Leaves modulus x y carry result next)
    (lt : result < modulus) :
    (result : Int) = ((x : Int) - y - carry.toNat) % modulus ∧
      (next = true ↔ x < y + carry.toNat) := by
  simp only [Leaves] at h
  have whole : (x : Int) - y - carry.toNat = result - modulus * next.toNat := by
    have := congrArg (Nat.cast (R := Int)) h
    push_cast at this
    omega
  have residue : (result : Int) % modulus = result :=
    Int.emod_eq_of_lt (Int.natCast_nonneg result) (Int.ofNat_lt.mpr lt)
  rw [whole, Int.sub_mul_emod_self_left, residue]
  refine ⟨rfl, ?_⟩
  cases next with
  | false => simp at h ⊢; omega
  | true => simp at h ⊢; omega

end Leaves

/-- The operations of a column. -/
def Uses (way : Way) (op : AluOp) : Prop := op = way.plain ∨ op = way.chained

theorem uses_plain (way : Way) : way.Uses way.plain := .inl rfl

theorem uses_chained (way : Way) : way.Uses way.chained := .inr rfl

end Way

/-- The carry that an operation takes in. -/
def AluOp.carryIn (op : AluOp) (carry : Bool) : Bool :=
  match op with
  | .adc | .sbc => carry
  | .add | .sub | .and | .xor | .or | .cp => false

theorem Way.carryIn_chained (way : Way) (carry : Bool) : way.chained.carryIn carry = carry := by
  cases way <;> rfl

theorem Way.carryIn_plain (way : Way) (carry : Bool) : way.plain.carryIn carry = false := by
  cases way <;> rfl

/-! ### What a byte counts for -/

/-- What is left of A and the flags once a column was corrected, if it is. -/
def adjusted (corrected : Bool) (combined : UInt8 × Flags) : UInt8 × Flags :=
  if corrected then decimalAdjust combined.1 combined.2 else combined

/-- A way to write numbers as bytes, for which single columns come out right: for either
operation of a sum or a difference, and whatever the flags are, the byte that is kept may stand
in a number, and it and its carry are what the two digits leave. -/
structure Numeral where
  base : Nat
  one_lt_base : 1 < base
  /-- What a byte counts for. -/
  digit : UInt8 → Nat
  /-- Whether a byte may stand in a number. -/
  Valid : UInt8 → Prop
  /-- Whether a column needs the decimal correction. -/
  corrected : Bool
  digit_lt : ∀ {byte}, Valid byte → digit byte < base
  counts : ∀ {way : Way} {op : AluOp}, way.Uses op → ∀ {x y : UInt8}, Valid x → Valid y →
    ∀ flags : Flags,
      let kept := adjusted corrected (op.apply x y flags)
      Valid kept.1 ∧
        way.Leaves base (digit x) (digit y) (op.carryIn flags.carry) (digit kept.1) kept.2.carry

namespace Numeral

variable (numeral : Numeral)

/-- The number that is written as these bytes, the lowest first. -/
def value (bytes : List UInt8) : Nat := Nat.ofDigits numeral.base (bytes.map numeral.digit)

theorem value_cons (byte : UInt8) (bytes : List UInt8) :
    numeral.value (byte :: bytes) = numeral.digit byte + numeral.base * numeral.value bytes :=
  Nat.ofDigits_cons

theorem value_append (lower upper : List UInt8) :
    numeral.value (lower ++ upper) =
      numeral.value lower + numeral.base ^ lower.length * numeral.value upper := by
  rw [value, List.map_append, Nat.ofDigits_append, List.length_map]
  rfl

/-- So many bytes write numbers below that power of the base. -/
theorem value_lt {bytes : List UInt8} (valid : ∀ byte ∈ bytes, numeral.Valid byte) :
    numeral.value bytes < numeral.base ^ bytes.length := by
  have digits : ∀ digit ∈ bytes.map numeral.digit, digit < numeral.base := by
    rw [List.forall_mem_map]
    intro byte mem
    exact numeral.digit_lt (valid byte mem)
  rw [← List.length_map numeral.digit]
  exact Nat.ofDigits_lt_base_pow_length numeral.one_lt_base digits

end Numeral

/-! ### One column -/

namespace Machine

variable {M : Type} [Memory M] {machine : Machine M}

/-- The accumulator and the flags. -/
def result (machine : Machine M) : UInt8 × Flags := (machine.cpu.regs.a, machine.cpu.flags)

/-- An opcode combines A with a value, which is the byte of an operand or the one behind the
opcode. The program counter stands behind the opcode when it is executed, so the latter is the
byte there. -/
def Combines (machine : Machine M) (opcode : UInt8) (op : AluOp) (value : UInt8) : Prop :=
  (∃ src, Opcode.decode opcode = some (.alu op src) ∧ machine.operand src = value) ∨
    (Opcode.decode opcode = some (.aluByte op) ∧ machine.read machine.cpu.regs.pc = value)

/-- A result that was written is found in A and the flags. -/
theorem result_combine (cpu : Cpu) (op : AluOp) (value : UInt8) :
    ((cpu.combine op value).regs.a, (cpu.combine op value).flags) =
      op.apply cpu.regs.a value cpu.flags := by
  simp [Cpu.combine, Cpu.setFlags, Cpu.setA, Cpu.flags]

/-- Such an opcode leaves what the operation makes of A and the value. -/
theorem Combines.result_eq {opcode : UInt8} {op : AluOp} {value : UInt8}
    (h : machine.Combines opcode op value) :
    (machine.execute opcode).2.result = op.apply machine.cpu.regs.a value machine.cpu.flags := by
  rw [result, Cpu.flags]
  rcases h with ⟨src, decoded, rfl⟩ | ⟨decoded, rfl⟩
  · rw [regs_execute decoded, operand_eq, ← result_combine]
    simp only [Cpu.perform, bind_eq, Cpu.observe_readOperand]
    rfl
  · rw [regs_execute decoded, ← result_combine]
    rfl

/-- The opcode 0x27 corrects A. -/
theorem result_correct (machine : Machine M) :
    (machine.execute 0x27).2.result = decimalAdjust machine.result.1 machine.result.2 := by
  have daa : Opcode.decode 0x27 = some .daa := rfl
  rw [result, Cpu.flags, regs_execute daa]
  simp [Cpu.perform, Cpu.setFlags, Cpu.setA, result]

/-- The machine after a correction, if there is to be one. -/
def finish (corrected : Bool) (machine : Machine M) : Machine M :=
  if corrected then (machine.execute 0x27).2 else machine

theorem result_finish (corrected : Bool) (machine : Machine M) :
    (machine.finish corrected).result = adjusted corrected machine.result := by
  cases corrected with
  | false => rfl
  | true => exact result_correct machine

/-- One column: a machine that has `x` in A, and the carry that the column before has left,
runs an opcode that combines A with `y`, and A is corrected if it has to be. Nothing else ties
this machine to the one before, which leaves the program free in how it loads and stores. -/
inductive Column (corrected : Bool) (op : AluOp) (x y : UInt8) (before : Machine M) :
    Machine M → Prop
  | intro (loaded : Machine M) (opcode : UInt8) (accumulator : loaded.cpu.regs.a = x)
      (carry : loaded.cpu.flags.carry = before.cpu.flags.carry)
      (combines : loaded.Combines opcode op y) :
      Column corrected op x y before ((loaded.execute opcode).2.finish corrected)

/-- A column comes out right. This is what the numeral promises of the operation, for the byte
and the flags that the opcode finds; of the flags before only the carry has to be the same. -/
theorem Column.leaves (numeral : Numeral) {way : Way} {op : AluOp} (uses : way.Uses op)
    {x y : UInt8} {before after : Machine M}
    (column : Column numeral.corrected op x y before after) (validX : numeral.Valid x)
    (validY : numeral.Valid y) :
    numeral.Valid after.cpu.regs.a ∧
      way.Leaves numeral.base (numeral.digit x) (numeral.digit y)
        (op.carryIn before.cpu.flags.carry) (numeral.digit after.cpu.regs.a)
        after.cpu.flags.carry := by
  cases column with
  | intro loaded opcode accumulator carry combines =>
    have kept := result_finish numeral.corrected (loaded.execute opcode).2
    rw [combines.result_eq, accumulator] at kept
    have counts := numeral.counts uses validX validY loaded.cpu.flags
    rw [← kept, carry] at counts
    exact counts

/-- Any machine can go through a column: it may put `x` in A and `y` in B, which leaves the
flags alone, and there is an opcode for every operation on B. -/
theorem exists_column (corrected : Bool) (op : AluOp) (x y : UInt8) (before : Machine M) :
    ∃ after, Column corrected op x y before after := by
  have chart : ∃ opcode, Opcode.decode opcode = some (.alu op (.reg .b)) := by
    cases op with
    | add => exact ⟨0x80, rfl⟩
    | adc => exact ⟨0x88, rfl⟩
    | sub => exact ⟨0x90, rfl⟩
    | sbc => exact ⟨0x98, rfl⟩
    | and => exact ⟨0xA0, rfl⟩
    | xor => exact ⟨0xA8, rfl⟩
    | or => exact ⟨0xB0, rfl⟩
    | cp => exact ⟨0xB8, rfl⟩
  obtain ⟨opcode, decoded⟩ := chart
  let loaded : Machine M :=
    { before with cpu.regs := (before.cpu.regs.setA x).set8 .b y }
  have accumulator : loaded.cpu.regs.a = x := Registers.a_setA before.cpu.regs x
  have flags : loaded.cpu.flags = before.cpu.flags := Registers.flags_setA before.cpu.regs x
  have value : loaded.operand (.reg .b) = y := Pair.high_setHigh _ y
  exact ⟨_, .intro loaded opcode accumulator (congrArg Flags.carry flags)
    (.inl ⟨.reg .b, decoded, value⟩)⟩

/-! ### Rows of columns -/

/-- A row of columns, the lowest first. The first operation is used on the lowest column, and
the second on all others. What is in A after each column is kept. -/
inductive Columns (corrected : Bool) : AluOp → AluOp → Machine M → List UInt8 → List UInt8 →
    List UInt8 → Machine M → Prop
  | nil {first next : AluOp} {machine : Machine M} :
      Columns corrected first next machine [] [] [] machine
  | cons {first next : AluOp} {before after last : Machine M} {x y : UInt8}
      {xs ys kept : List UInt8} (column : Column corrected first x y before after)
      (later : Columns corrected next next after xs ys kept last) :
      Columns corrected first next before (x :: xs) (y :: ys) (after.cpu.regs.a :: kept) last

/-- Any machine can go through columns. -/
theorem exists_columns (corrected : Bool) (first next : AluOp) {xs ys : List UInt8}
    (same : xs.length = ys.length) (start : Machine M) :
    ∃ kept last, Columns corrected first next start xs ys kept last := by
  induction xs generalizing first ys start with
  | nil =>
    obtain rfl := List.eq_nil_of_length_eq_zero same.symm
    exact ⟨[], start, .nil⟩
  | cons x xs ih =>
    cases ys with
    | nil => cases same
    | cons y ys =>
      obtain ⟨after, column⟩ := exists_column corrected first x y start
      obtain ⟨kept, last, later⟩ := ih next (Nat.succ.inj same) after
      exact ⟨_, last, .cons column later⟩

/-- A row of columns comes out right, by induction on the row. The numeral tells the lowest
column, and `Way.Leaves.cons` puts it before the rest, which starts from its carry. If there are
no columns at all, the carry is left as it was, so then the first operation must be one that takes
it in. -/
theorem Columns.leaves (numeral : Numeral) {way : Way} {first : AluOp} (uses : way.Uses first)
    {start last : Machine M} {xs ys kept : List UInt8}
    (columns : Columns numeral.corrected first way.chained start xs ys kept last)
    (nonempty : xs ≠ [] ∨ first = way.chained) (validX : ∀ x ∈ xs, numeral.Valid x)
    (validY : ∀ y ∈ ys, numeral.Valid y) :
    kept.length = xs.length ∧ (∀ byte ∈ kept, numeral.Valid byte) ∧
      way.Leaves (numeral.base ^ xs.length) (numeral.value xs) (numeral.value ys)
        (first.carryIn start.cpu.flags.carry) (numeral.value kept) last.cpu.flags.carry := by
  -- Behind the lowest column every operation takes the carry in, so the second one stands for all.
  generalize next : way.chained = chained at columns
  induction columns with
  | nil =>
    rcases nonempty with nonempty | rfl
    · exact absurd rfl nonempty
    · rw [way.carryIn_chained]
      exact ⟨rfl, by simp, .none way _⟩
  | @cons first chained before after last x y xs ys kept column later ih =>
    subst next
    obtain ⟨validX, validXs⟩ := List.forall_mem_cons.mp validX
    obtain ⟨validY, validYs⟩ := List.forall_mem_cons.mp validY
    obtain ⟨valid, lowest⟩ := column.leaves numeral uses validX validY
    obtain ⟨length, valids, rest⟩ := ih way.uses_chained (.inr rfl) validXs validYs rfl
    rw [way.carryIn_chained] at rest
    refine ⟨congrArg Nat.succ length, List.forall_mem_cons.mpr ⟨valid, valids⟩, ?_⟩
    rw [numeral.value_cons, numeral.value_cons, numeral.value_cons, List.length_cons,
      Nat.pow_succ']
    exact lowest.cons rest

/-- A row of columns adds: what is kept is the sum, as far as so many bytes go, and the carry
tells whether it goes further. -/
theorem Columns.sums (numeral : Numeral) {first : AluOp} (uses : Way.sum.Uses first)
    {start last : Machine M} {xs ys kept : List UInt8}
    (columns : Columns numeral.corrected first .adc start xs ys kept last)
    (nonempty : xs ≠ [] ∨ first = .adc) (validX : ∀ x ∈ xs, numeral.Valid x)
    (validY : ∀ y ∈ ys, numeral.Valid y) :
    let total := numeral.value xs + numeral.value ys +
      (first.carryIn start.cpu.flags.carry).toNat
    kept.length = xs.length ∧ (∀ byte ∈ kept, numeral.Valid byte) ∧
      numeral.value kept = total % numeral.base ^ xs.length ∧
      (last.cpu.flags.carry = true ↔ numeral.base ^ xs.length ≤ total) := by
  obtain ⟨length, valid, leaves⟩ := leaves numeral uses columns nonempty validX validY
  have lt := numeral.value_lt valid
  rw [length] at lt
  exact ⟨length, valid, leaves.sum_eq lt⟩

/-- A row of columns subtracts: what is kept is the difference, as far as so many bytes go, and
the carry tells whether it is negative. -/
theorem Columns.differences (numeral : Numeral) {first : AluOp}
    (uses : Way.difference.Uses first) {start last : Machine M} {xs ys kept : List UInt8}
    (columns : Columns numeral.corrected first .sbc start xs ys kept last)
    (nonempty : xs ≠ [] ∨ first = .sbc) (validX : ∀ x ∈ xs, numeral.Valid x)
    (validY : ∀ y ∈ ys, numeral.Valid y) :
    let borrow := (first.carryIn start.cpu.flags.carry).toNat
    kept.length = xs.length ∧ (∀ byte ∈ kept, numeral.Valid byte) ∧
      (numeral.value kept : Int) =
        ((numeral.value xs : Int) - numeral.value ys - borrow) % (numeral.base ^ xs.length : Nat) ∧
      (last.cpu.flags.carry = true ↔ numeral.value xs < numeral.value ys + borrow) := by
  obtain ⟨length, valid, leaves⟩ := leaves numeral uses columns nonempty validX validY
  have lt := numeral.value_lt valid
  rw [length] at lt
  exact ⟨length, valid, leaves.difference_eq lt⟩

end Machine

end GameBoy
