import GameBoy.Memory.Flat
import GameBoy.Proofs.Arithmetic.Binary

/-!
# `GameBoy.Proofs.Arithmetic.Decimal`: long decimal numbers

A packed decimal byte holds two decimal digits, one in each half. Sums and differences of such
bytes are taken as if they were binary, and the decimal correction makes packed bytes of them
again: it adds or subtracts six for each half that went beyond its ten digits.

After a sum, a half went beyond if it was carried out of, which the flags tell, or if it is no
decimal digit, which the byte tells. The byte has been cut off at 256 by then, and its lower half
at 16, but what was cut off is the carry. So the two together tell the sum before it was cut off
(`beyond` and `beyondLower` in `sum_corrected`), and the correction is one by the numbers that
were added. After a difference the flags alone tell it, and the byte is not looked at. In both
cases four combinations of the halves are left, each of them linear arithmetic.

Main statements:

* `sum_corrected`, `difference_corrected`: the correction is right for one byte.
* `Machine.decimal_columns`: a row of columns, each of them corrected, adds and subtracts
  decimal numbers of any length.
-/

set_option autoImplicit false

namespace GameBoy

/-! ### Packed bytes -/

/-- A byte with a decimal digit in each half. -/
def Packed (byte : UInt8) : Prop := byte.toNat / 16 ≤ 9 ∧ byte.toNat % 16 ≤ 9

instance (byte : UInt8) : Decidable (Packed byte) := inferInstanceAs (Decidable (_ ∧ _))

/-- The number that a packed byte stands for. -/
def packedValue (byte : UInt8) : Nat := 10 * (byte.toNat / 16) + byte.toNat % 16

/-- Two digits go up to 99. -/
theorem packedValue_lt {byte : UInt8} (packed : Packed byte) : packedValue byte < 100 := by
  obtain ⟨upper, lower⟩ := packed
  unfold packedValue
  omega

/-! ### The correction -/

/-- After an addition, a half is corrected by six if it was carried out of, or if it is no
decimal digit. The upper half is told by the whole byte and not by its own digit, as a carry into
it from the correction of the lower one may still come: 0x9A has to be corrected in both. -/
theorem decimalAdjust_sum (a : UInt8) (z h c : Bool) :
    let carry := c || decide (0x99 < a.toNat)
    let half := h || decide (9 < a.toNat % 16)
    (decimalAdjust a ⟨z, false, h, c⟩).1.toNat =
        (a.toNat + (bif carry then 0x60 else 0) + bif half then 6 else 0) % 256 ∧
      (decimalAdjust a ⟨z, false, h, c⟩).2.carry = carry := by
  intro carry half
  constructor
  · have result := congrArg Prod.fst (Reference.decimal_eq a ⟨z, false, h, c⟩)
    simp only [Reference.stored, Reference.decimal] at result
    rw [result]
    cases c <;> cases h <;> simp [carry, half, Bool.cond_eq_ite]
  · simp [decimalAdjust, UInt8.lt_iff_toNat_lt, carry]

/-- After a subtraction, a half is corrected by six if it was borrowed for. The byte itself is
not looked at, and the carry stays what it was. The 256 keeps the subtraction within the natural
numbers. -/
theorem decimalAdjust_difference (a : UInt8) (z h c : Bool) :
    (decimalAdjust a ⟨z, true, h, c⟩).1.toNat =
        (a.toNat + 256 - (bif c then 0x60 else 0) - bif h then 6 else 0) % 256 ∧
      (decimalAdjust a ⟨z, true, h, c⟩).2.carry = c := by
  constructor
  · have result := congrArg Prod.fst (Reference.decimal_eq a ⟨z, true, h, c⟩)
    simp only [Reference.stored, Reference.decimal] at result
    rw [result]
    cases c <;> cases h <;> simp
  · rfl

/-- A sum of packed bytes, corrected, is a packed byte and a decimal carry. That the bytes are
packed bounds each half of the sum by 19, so one correction of a half is enough. -/
theorem sum_corrected {x y : UInt8} (packedX : Packed x) (packedY : Packed y) (carry : Bool) :
    let sum := addBytes x y carry
    let kept := decimalAdjust sum.1 sum.2
    Packed kept.1 ∧
      Way.sum.Leaves 100 (packedValue x) (packedValue y) carry (packedValue kept.1)
        kept.2.carry := by
  intro sum kept
  obtain ⟨upperX, lowerX⟩ := packedX
  obtain ⟨upperY, lowerY⟩ := packedY
  have hc : carry.toNat ≤ 1 := Bool.toNat_le carry
  let total := x.toNat + y.toNat + carry.toNat
  let lower := x.toNat % 16 + y.toNat % 16 + carry.toNat
  have byte : sum.1.toNat = total % 256 := UInt8.toNat_ofNat'
  obtain ⟨value, next⟩ := decimalAdjust_sum sum.1 sum.2.zero sum.2.halfCarry sum.2.carry
  -- Whether a half is corrected is told by the byte and the flag that it left. Together they
  -- tell the sum before it was cut off.
  have beyond : (sum.2.carry || decide (0x99 < sum.1.toNat)) = decide (0x99 < total) := by
    show (decide (0xFF < total) || _) = _
    rw [byte, ← Bool.decide_or, decide_eq_decide]
    omega
  have beyondLower : (sum.2.halfCarry || decide (9 < sum.1.toNat % 16)) = decide (9 < lower) := by
    show (decide (0x0F < lower) || _) = _
    rw [byte, ← Bool.decide_or, decide_eq_decide]
    omega
  rw [beyond] at next
  rw [beyond, beyondLower, byte] at value
  change kept.1.toNat = _ at value
  change kept.2.carry = _ at next
  simp only [Packed, Way.Leaves, packedValue, value, next]
  by_cases upper : 0x99 < total <;> by_cases lower' : 9 < lower <;>
    simp only [upper, lower', decide_true, decide_false, cond_true, cond_false, Bool.toNat_true,
      Bool.toNat_false] <;>
    omega

/-- A difference of packed bytes, corrected, is a packed byte and a decimal borrow. A half that
was borrowed for is at least six, as at most ten was taken from it, so taking six away leaves a
digit. -/
theorem difference_corrected {x y : UInt8} (packedX : Packed x) (packedY : Packed y)
    (borrow : Bool) :
    let difference := subtractBytes x y borrow
    let kept := decimalAdjust difference.1 difference.2
    Packed kept.1 ∧
      Way.difference.Leaves 100 (packedValue x) (packedValue y) borrow (packedValue kept.1)
        kept.2.carry := by
  intro difference kept
  obtain ⟨upperX, lowerX⟩ := packedX
  obtain ⟨upperY, lowerY⟩ := packedY
  have hc : borrow.toNat ≤ 1 := Bool.toNat_le borrow
  obtain ⟨value, next⟩ := decimalAdjust_difference difference.1 difference.2.zero
    difference.2.halfCarry difference.2.carry
  have below : difference.2.carry = decide (x.toNat < y.toNat + borrow.toNat) := rfl
  have belowLower :
      difference.2.halfCarry = decide (x.toNat % 16 < y.toNat % 16 + borrow.toNat) := rfl
  have byte : difference.1.toNat + y.toNat + borrow.toNat =
      x.toNat + 256 * difference.2.carry.toNat := subtractBytes_leaves x y borrow
  rw [below] at next byte
  rw [below, belowLower] at value
  change kept.1.toNat = _ at value
  change kept.2.carry = _ at next
  simp only [Packed, Way.Leaves, packedValue, value, next]
  by_cases upper : x.toNat < y.toNat + borrow.toNat <;>
    by_cases lower : x.toNat % 16 < y.toNat % 16 + borrow.toNat <;>
    simp only [upper, lower, decide_true, decide_false, cond_true, cond_false, Bool.toNat_true,
      Bool.toNat_false] at byte ⊢ <;>
    omega

/-! ### Long numbers -/

/-- Decimal numbers in packed bytes. -/
def Numeral.decimal : Numeral where
  base := 100
  one_lt_base := by decide
  digit := packedValue
  Valid := Packed
  corrected := true
  digit_lt := packedValue_lt
  counts {way op} uses x y packedX packedY flags := by
    rcases uses with rfl | rfl
    · cases way with
      | sum => exact sum_corrected packedX packedY false
      | difference => exact difference_corrected packedX packedY false
    · cases way with
      | sum => exact sum_corrected packedX packedY flags.carry
      | difference => exact difference_corrected packedX packedY flags.carry

namespace Machine

variable {M : Type} [Memory M]

/-- Two decimal numbers of as many packed bytes, the lowest first, and the carry that a machine
starts with.

1. The machine can go through their columns, each of them corrected.
2. By ADC, as many bytes are kept, they are packed, they are those of the sum with the carry,
   modulo that power of 100, and the carry at the end tells whether the sum reaches it.
3. By SBC, they are packed bytes of the difference less the carry, modulo that power of 100, and
   the carry at the end tells whether the difference is negative.

That the bytes are packed is needed at every column: the correction is right for packed bytes
only. One column is `sum_corrected` or `difference_corrected`, and the row is `Columns.sums` or
`Columns.differences` for the decimal numeral. -/
theorem decimal_columns {xs ys : List UInt8} (same : xs.length = ys.length)
    (packedX : ∀ x ∈ xs, Packed x) (packedY : ∀ y ∈ ys, Packed y) (start : Machine M) :
    let n := xs.length
    let value (bytes : List UInt8) : Nat := Nat.ofDigits 100 (bytes.map packedValue)
    let carry := start.cpu.flags.carry.toNat
    (∀ op, ∃ kept last, Columns true op op start xs ys kept last) ∧
    (∀ kept last, Columns true .adc .adc start xs ys kept last →
      kept.length = n ∧ (∀ byte ∈ kept, Packed byte) ∧
        value kept = (value xs + value ys + carry) % 100 ^ n ∧
        (last.cpu.flags.carry = true ↔ 100 ^ n ≤ value xs + value ys + carry)) ∧
    (∀ kept last, Columns true .sbc .sbc start xs ys kept last →
      kept.length = n ∧ (∀ byte ∈ kept, Packed byte) ∧
        (value kept : Int) = ((value xs : Int) - value ys - carry) % (100 ^ n : Nat) ∧
        (last.cpu.flags.carry = true ↔ value xs < value ys + carry)) := by
  intro n value carry
  refine ⟨fun op => exists_columns true op op same start, ?_, ?_⟩
  · intro kept last columns
    exact Columns.sums .decimal Way.sum.uses_chained columns (.inr rfl) packedX packedY
  · intro kept last columns
    exact Columns.differences .decimal Way.difference.uses_chained columns (.inr rfl) packedX
      packedY

/-- Nothing less zero and a borrow, in four digits. -/
theorem decimal_columns_borrow :
    let start : Machine Flat := fresh false Flat.zero (.start .silent)
    let zeros : List UInt8 := [0x00, 0x00]
    zeros.length = zeros.length ∧ (∀ byte ∈ zeros, Packed byte) ∧
      start.cpu.flags.carry = true ∧
      ∃ kept last, Columns true .sbc .sbc start zeros zeros kept last ∧
        Nat.ofDigits 100 (kept.map packedValue) = 9999 ∧ last.cpu.flags.carry = true := by
  intro start zeros
  have packed : ∀ byte ∈ zeros, Packed byte := by
    intro byte mem
    obtain rfl : byte = 0x00 := by simpa [zeros] using mem
    decide
  have carry : start.cpu.flags.carry = true := by decide
  obtain ⟨runs, -, differences⟩ := decimal_columns (rfl : zeros.length = zeros.length) packed
    packed start
  obtain ⟨kept, last, columns⟩ := runs .sbc
  obtain ⟨-, -, value, next⟩ := differences kept last columns
  rw [carry] at value next
  have residue : ((0 : Int) - 0 - 1) % (100 ^ 2 : Nat) = (9999 : Nat) := by decide
  have nines : ((Nat.ofDigits 100 (kept.map packedValue) : Nat) : Int) = (9999 : Nat) :=
    value.trans residue
  exact ⟨rfl, packed, carry, kept, last, columns, Int.ofNat_inj.mp nines, next.mpr (by decide)⟩

end Machine

end GameBoy
