import GameBoy.Memory.Flat
import GameBoy.Proofs.Arithmetic.Columns

/-!
# `GameBoy.Proofs.Arithmetic.Binary`: long binary numbers

Bytes that count for their value make up a number to the base 256, and the carry flag takes a
sum or a difference of two such numbers from byte to byte. A column needs no correction here, and
every byte may stand in a number, so all that is left to prove of the numeral is that one byte
comes out right: the sum of two bytes and a carry is below 512, and its carry says whether it
reached 256. The processor works out the carries of ADD and ADC, and of SUB and SBC, in one
function each, so two lemmas are enough for the four operations.

Main statements:

* `addBytes_leaves`, `subtractBytes_leaves`: one byte comes out right.
* `Machine.binary_columns`: a row of columns adds and subtracts numbers of any length.
-/

set_option autoImplicit false

namespace GameBoy

/-- The sum of two bytes and a carry is a byte and a carry. The byte is the sum cut off at 256,
and the carry is what was cut off. -/
theorem addBytes_leaves (x y : UInt8) (carry : Bool) :
    Way.sum.Leaves 256 x.toNat y.toNat carry (addBytes x y carry).1.toNat
      (addBytes x y carry).2.carry := by
  have hx : x.toNat < 2 ^ 8 := x.toNat_lt
  have hy : y.toNat < 2 ^ 8 := y.toNat_lt
  have hc : carry.toNat ≤ 1 := Bool.toNat_le carry
  simp only [Way.Leaves, addBytes, UInt8.toNat_ofNat']
  by_cases beyond : 0xFF < x.toNat + y.toNat + carry.toNat
  · rw [decide_eq_true beyond, Bool.toNat_true]
    omega
  · rw [decide_eq_false beyond, Bool.toNat_false]
    omega

/-- The difference of two bytes, less a borrow, is a byte and a borrow. -/
theorem subtractBytes_leaves (x y : UInt8) (borrow : Bool) :
    Way.difference.Leaves 256 x.toNat y.toNat borrow (subtractBytes x y borrow).1.toNat
      (subtractBytes x y borrow).2.carry := by
  have hx : x.toNat < 2 ^ 8 := x.toNat_lt
  have hy : y.toNat < 2 ^ 8 := y.toNat_lt
  have hc : borrow.toNat ≤ 1 := Bool.toNat_le borrow
  simp only [Way.Leaves, subtractBytes, UInt8.toNat_sub, UInt8.toNat_ofNat']
  by_cases below : x.toNat < y.toNat + borrow.toNat
  · rw [decide_eq_true below, Bool.toNat_true]
    omega
  · rw [decide_eq_false below, Bool.toNat_false]
    omega

/-- Numbers to the base 256. -/
def Numeral.binary : Numeral where
  base := 256
  one_lt_base := by decide
  digit := UInt8.toNat
  Valid _ := True
  corrected := false
  digit_lt {byte} _ := byte.toNat_lt
  counts {way op} uses x y _ _ flags := by
    refine ⟨trivial, ?_⟩
    rcases uses with rfl | rfl
    · cases way with
      | sum => exact addBytes_leaves x y false
      | difference => exact subtractBytes_leaves x y false
    · cases way with
      | sum => exact addBytes_leaves x y flags.carry
      | difference => exact subtractBytes_leaves x y flags.carry

/-- As many bytes that write the same number are the same bytes. With a different number of
bytes this would fail: zeros at the end of the list do not count. -/
theorem Numeral.binary_value_inj {xs ys : List UInt8} (same : xs.length = ys.length)
    (h : Numeral.binary.value xs = Numeral.binary.value ys) : xs = ys := by
  have lt : ∀ bytes : List UInt8, ∀ digit ∈ bytes.map UInt8.toNat, digit < 256 := by
    intro bytes
    rw [List.forall_mem_map]
    intro byte _
    exact byte.toNat_lt
  have digits : xs.map UInt8.toNat = ys.map UInt8.toNat :=
    Nat.ofDigits_inj_of_len_eq (by decide) (by simpa using same) (lt xs) (lt ys) h
  exact List.map_injective_iff.mpr (fun _ _ => UInt8.toNat_inj.mp) digits

namespace Machine

variable {M : Type} [Memory M]

/-- Two numbers of as many bytes, the lowest first, and the carry that a machine starts with.

1. The machine can go through their columns, with any operations.
2. By ADC, as many bytes are kept, they are those of the sum with the carry, modulo that power of
   256, and the carry at the end tells whether the sum reaches it.
3. By SBC, they are those of the difference less the carry, and the carry at the end tells whether
   that is negative.
4. With ADD on the lowest column and ADC on the others, the same holds of the sum without the
   carry. There has to be a lowest column for that, or the carry would be left as it was.
5. With SUB on the lowest column and SBC on the others, the same holds of the difference.
6. A comparison leaves the flags of a subtraction of the same byte, and A as it was.

The clauses on rows are `Columns.sums` and `Columns.differences` for the binary numeral, and the
last one compares what the two operations leave (`Combines.result_eq`). -/
theorem binary_columns {xs ys : List UInt8} (same : xs.length = ys.length) (start : Machine M) :
    let n := xs.length
    let value (bytes : List UInt8) : Nat := Nat.ofDigits 256 (bytes.map UInt8.toNat)
    let carry := start.cpu.flags.carry.toNat
    (∀ first next, ∃ kept last, Columns false first next start xs ys kept last) ∧
    (∀ kept last, Columns false .adc .adc start xs ys kept last →
      kept.length = n ∧ value kept = (value xs + value ys + carry) % 256 ^ n ∧
        (last.cpu.flags.carry = true ↔ 256 ^ n ≤ value xs + value ys + carry)) ∧
    (∀ kept last, Columns false .sbc .sbc start xs ys kept last →
      kept.length = n ∧
        (value kept : Int) = ((value xs : Int) - value ys - carry) % (256 ^ n : Nat) ∧
        (last.cpu.flags.carry = true ↔ value xs < value ys + carry)) ∧
    (∀ kept last, n ≠ 0 → Columns false .add .adc start xs ys kept last →
      kept.length = n ∧ value kept = (value xs + value ys) % 256 ^ n ∧
        (last.cpu.flags.carry = true ↔ 256 ^ n ≤ value xs + value ys)) ∧
    (∀ kept last, n ≠ 0 → Columns false .sub .sbc start xs ys kept last →
      kept.length = n ∧ (value kept : Int) = ((value xs : Int) - value ys) % (256 ^ n : Nat) ∧
        (last.cpu.flags.carry = true ↔ value xs < value ys)) ∧
    (∀ (machine : Machine M) (compare subtract operand : UInt8),
      machine.Combines compare .cp operand → machine.Combines subtract .sub operand →
        (machine.execute compare).2.cpu.regs.a = machine.cpu.regs.a ∧
          (machine.execute compare).2.cpu.flags = (machine.execute subtract).2.cpu.flags) := by
  intro n value carry
  have any : ∀ bytes : List UInt8, ∀ byte ∈ bytes, Numeral.binary.Valid byte :=
    fun _ _ _ => trivial
  refine ⟨fun first next => exists_columns false first next same start, ?_, ?_, ?_, ?_, ?_⟩
  · intro kept last columns
    obtain ⟨length, -, result⟩ :=
      Columns.sums .binary Way.sum.uses_chained columns (.inr rfl) (any xs) (any ys)
    exact ⟨length, result⟩
  · intro kept last columns
    obtain ⟨length, -, result⟩ :=
      Columns.differences .binary Way.difference.uses_chained columns (.inr rfl) (any xs) (any ys)
    exact ⟨length, result⟩
  · intro kept last some columns
    have nonempty : xs ≠ [] := fun empty => some (congrArg List.length empty)
    obtain ⟨length, -, result⟩ :=
      Columns.sums .binary Way.sum.uses_plain columns (.inl nonempty) (any xs) (any ys)
    exact ⟨length, result⟩
  · intro kept last some columns
    have nonempty : xs ≠ [] := fun empty => some (congrArg List.length empty)
    obtain ⟨length, -, result⟩ :=
      Columns.differences .binary Way.difference.uses_plain columns (.inl nonempty) (any xs)
        (any ys)
    rw [Way.carryIn_plain, Bool.toNat_false, Nat.cast_zero, Int.sub_zero, Nat.add_zero] at result
    exact ⟨length, result⟩
  · intro machine compare subtract operand compares subtracts
    have compared := compares.result_eq
    have subtracted := subtracts.result_eq
    exact ⟨congrArg Prod.fst compared,
      (congrArg Prod.snd compared).trans (congrArg Prod.snd subtracted).symm⟩

/-- A carry that goes through all columns of a sum. -/
theorem binary_columns_overflow :
    let start : Machine Flat := fresh false Flat.zero (.start .silent)
    [(0xFF : UInt8), 0xFF].length = [(0x00 : UInt8), 0x00].length ∧
      start.cpu.flags.carry = true ∧
      ∃ kept last, Columns false .adc .adc start [0xFF, 0xFF] [0x00, 0x00] kept last ∧
        kept.length = 2 ∧ Nat.ofDigits 256 (kept.map UInt8.toNat) = 0 ∧
        last.cpu.flags.carry = true := by
  intro start
  have same : [(0xFF : UInt8), 0xFF].length = [(0x00 : UInt8), 0x00].length := rfl
  have carry : start.cpu.flags.carry = true := by decide
  obtain ⟨runs, sums, -⟩ := binary_columns same start
  obtain ⟨kept, last, columns⟩ := runs .adc .adc
  obtain ⟨length, value, next⟩ := sums kept last columns
  rw [carry] at value next
  exact ⟨same, carry, kept, last, columns, length, value, next.mpr (by decide)⟩

end Machine

end GameBoy
