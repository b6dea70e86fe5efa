import GameBoy.Cpu.Registers

/-!
# `GameBoy.Proofs.Cpu.ByteFile`: the register file as separate bytes

`ByteFile` holds the eight byte registers one by one, beside the stack pointer
and the program counter. `Registers.bytes` reads the packed register file as
one. Pairs are words here only where they are asked for: `wordOf` is the value
`256 * high + low`.

The packed file keeps four words and cuts bytes out of them by shifts and masks, so
a write of one byte has to put the other back. Here no write can reach another
register, which is why the reference interpreter works on this file. Words are
compared by value: joining two bytes that share no bit adds them
(`toNat_joinBytes`), and cutting a byte out divides. Main statements:

* `Registers.get8_eq`, `Registers.get16_eq`, `Registers.bytes_set8`,
  `Registers.bytes_set16`: each access to the packed file is the same access to the
  separate bytes.
* `Registers.bytes_inj`: nothing is lost on the way. What the reference says of the
  bytes it says of the register file (`Cpu.view_inj`).
-/

set_option autoImplicit false

namespace GameBoy

/-! ### Words by value -/

/-- The word of two bytes, by value. -/
def wordOf (high low : UInt8) : UInt16 := UInt16.ofNat (256 * high.toNat + low.toNat)

/-- The upper byte of a word, by value. -/
def upperOf (word : UInt16) : UInt8 := UInt8.ofNat (word.toNat / 256)

/-- The lower byte of a word, by value. -/
def lowerOf (word : UInt16) : UInt8 := UInt8.ofNat (word.toNat % 256)

/-- The value of two joined bytes. All that is known of words elsewhere comes from this. -/
theorem toNat_joinBytes (high low : UInt8) :
    (joinBytes high low).toNat = 256 * high.toNat + low.toNat := by
  have hhigh : high.toNat < 2 ^ 8 := high.toNat_lt
  have hlow : low.toNat < 2 ^ 8 := low.toNat_lt
  -- The shifted byte has nothing below bit 8, where the other byte ends: the two share
  -- no bit, so joining them adds them.
  have hshift : high.toNat <<< 8 % 2 ^ 16 = 2 ^ 8 * high.toNat := by
    rw [Nat.shiftLeft_eq, Nat.mul_comm, Nat.mod_eq_of_lt (by omega)]
  simp only [joinBytes, UInt16.toNat_or, UInt16.toNat_shiftLeft, UInt8.toNat_toUInt16]
  show high.toNat <<< 8 % 2 ^ 16 ||| low.toNat = _
  rw [hshift, ← Nat.two_pow_add_eq_or_of_lt hlow]

/-- Joining bytes gives the word of that value. -/
theorem joinBytes_eq_wordOf (high low : UInt8) : joinBytes high low = wordOf high low := by
  apply UInt16.toNat_inj.mp
  have hhigh : high.toNat < 2 ^ 8 := high.toNat_lt
  have hlow : low.toNat < 2 ^ 8 := low.toNat_lt
  rw [toNat_joinBytes, wordOf, UInt16.toNat_ofNat', Nat.mod_eq_of_lt (by omega)]

/-- The upper half of a word is its quotient by 256. -/
theorem highByte_eq_upperOf (word : UInt16) : highByte word = upperOf word := by
  apply UInt8.toNat_inj.mp
  have hword : word.toNat < 2 ^ 16 := word.toNat_lt
  simp only [highByte, upperOf, UInt16.toNat_toUInt8, UInt16.toNat_shiftRight, UInt8.toNat_ofNat']
  show word.toNat >>> 8 % 2 ^ 8 = _
  rw [Nat.shiftRight_eq_div_pow]

/-- The lower half of a word is its remainder by 256. -/
theorem lowByte_eq_lowerOf (word : UInt16) : lowByte word = lowerOf word := by
  apply UInt8.toNat_inj.mp
  simp [lowByte, lowerOf]

/-! ### The separate bytes -/

/-- The register file, byte by byte. -/
structure ByteFile where
  a : UInt8
  f : UInt8
  b : UInt8
  c : UInt8
  d : UInt8
  e : UInt8
  h : UInt8
  l : UInt8
  sp : UInt16
  pc : UInt16
deriving DecidableEq

namespace ByteFile

/-- The value of a byte register. -/
def get8 (file : ByteFile) : Reg8 → UInt8
  | .a => file.a
  | .b => file.b
  | .c => file.c
  | .d => file.d
  | .e => file.e
  | .h => file.h
  | .l => file.l

/-- Replaces one byte register. -/
def set8 (file : ByteFile) (reg : Reg8) (value : UInt8) : ByteFile :=
  match reg with
  | .a => { file with a := value }
  | .b => { file with b := value }
  | .c => { file with c := value }
  | .d => { file with d := value }
  | .e => { file with e := value }
  | .h => { file with h := value }
  | .l => { file with l := value }

/-- The value of a word register. -/
def get16 (file : ByteFile) : Reg16 → UInt16
  | .af => wordOf file.a file.f
  | .bc => wordOf file.b file.c
  | .de => wordOf file.d file.e
  | .hl => wordOf file.h file.l
  | .sp => file.sp

/-- Replaces a word register. The lower half of F stays clear. -/
def set16 (file : ByteFile) (reg : Reg16) (value : UInt16) : ByteFile :=
  match reg with
  | .af => { file with a := upperOf value, f := UInt8.ofNat (value.toNat % 256 / 16 * 16) }
  | .bc => { file with b := upperOf value, c := lowerOf value }
  | .de => { file with d := upperOf value, e := lowerOf value }
  | .hl => { file with h := upperOf value, l := lowerOf value }
  | .sp => { file with sp := value }

end ByteFile

/-! ### The packed file, byte by byte -/

/-- Dropping the lowest four bits of a word leaves its upper byte alone. -/
theorem highByte_and_flagMask (word : UInt16) : highByte (word &&& 0xFFF0) = highByte word := by
  apply UInt8.toNat_inj.mp
  simp only [highByte, UInt16.toNat_toUInt8, UInt16.toNat_shiftRight, UInt16.toNat_and]
  show (word.toNat &&& 0xFFF0) >>> 8 % 2 ^ 8 = word.toNat >>> 8 % 2 ^ 8
  apply Nat.eq_of_testBit_eq
  intro i
  simp only [Nat.testBit_mod_two_pow, Nat.testBit_shiftRight, Nat.testBit_and]
  -- Bit `i` of the upper byte is bit `8 + i` of the word, where the mask is set.
  by_cases hi : i < 8
  · have hmask : Nat.testBit 0xFFF0 (8 + i) = true := by
      have all : ∀ j : Fin 8, Nat.testBit 0xFFF0 (8 + j) = true := by decide
      exact all ⟨i, hi⟩
    simp [hmask]
  · simp [hi]

/-- Dropping the lowest four bits of a word drops those of its lower byte. -/
theorem lowByte_and_flagMask_eq_and (word : UInt16) :
    lowByte (word &&& 0xFFF0) = lowByte word &&& 0xF0 := by
  rw [lowByte, UInt16.toUInt8_and]
  rfl

/-- Dropping the lowest four bits of a word rounds its lower byte down to a
multiple of sixteen. -/
theorem lowByte_and_flagMask (word : UInt16) :
    lowByte (word &&& 0xFFF0) = UInt8.ofNat (word.toNat % 256 / 16 * 16) := by
  -- Only the lower byte is looked at, so the bytes are cases enough.
  have all : ∀ i : Fin UInt8.size,
      UInt8.ofFin i &&& 0xF0 = UInt8.ofNat ((UInt8.ofFin i).toNat / 16 * 16) := by
    decide +kernel
  rw [lowByte_and_flagMask_eq_and, lowByte]
  have h := all word.toUInt8.toFin
  simpa using h

namespace Registers

/-- The register file, byte by byte. -/
def bytes (regs : Registers) : ByteFile where
  a := regs.af.high
  f := regs.af.low
  b := regs.bc.high
  c := regs.bc.low
  d := regs.de.high
  e := regs.de.low
  h := regs.hl.high
  l := regs.hl.low
  sp := regs.sp
  pc := regs.pc

end Registers

/-- A pair is the word of its halves. -/
theorem Pair.word_eq (pair : Pair) : pair.word = wordOf pair.high pair.low := by
  rw [← joinBytes_eq_wordOf]
  exact (joinBytes_highByte_lowByte pair.word).symm

namespace Registers

/-- Reading a byte register reads that byte. -/
theorem get8_eq (regs : Registers) (reg : Reg8) : regs.get8 reg = regs.bytes.get8 reg := by
  cases reg <;> rfl

/-- Writing a byte register replaces that byte. -/
theorem bytes_set8 (regs : Registers) (reg : Reg8) (value : UInt8) :
    (regs.set8 reg value).bytes = regs.bytes.set8 reg value := by
  cases reg <;> simp [bytes, set8, ByteFile.set8]

/-- Reading a word register reads the word of its two bytes. -/
theorem get16_eq (regs : Registers) (reg : Reg16) : regs.get16 reg = regs.bytes.get16 reg := by
  cases reg with
  | sp => rfl
  | af | bc | de | hl => exact Pair.word_eq _

/-- Writing a word register replaces its two bytes. -/
theorem bytes_set16 (regs : Registers) (reg : Reg16) (value : UInt16) :
    (regs.set16 reg value).bytes = regs.bytes.set16 reg value := by
  cases reg with
  | af =>
    simp only [bytes, set16, ByteFile.set16, Pair.high, Pair.low, ← highByte_eq_upperOf,
      highByte_and_flagMask, lowByte_and_flagMask]
  | bc | de | hl =>
    simp only [bytes, set16, ByteFile.set16, Pair.high, Pair.low, highByte_eq_upperOf,
      lowByte_eq_lowerOf]
  | sp => rfl

/-- Writing the accumulator replaces A. -/
theorem bytes_setA (regs : Registers) (value : UInt8) :
    (regs.setA value).bytes = { regs.bytes with a := value } := by
  simp [bytes, setA]

/-- Setting the flags replaces F. -/
theorem bytes_setFlags (regs : Registers) (flags : Flags) :
    (regs.setFlags flags).bytes = { regs.bytes with f := flags.toByte } := by
  simp [bytes, setFlags]

/-- Two register files with the same bytes are the same. The file stores words and not bytes, so
the words are compared, as they are read off the bytes. -/
theorem bytes_inj {left right : Registers} : left.bytes = right.bytes ↔ left = right := by
  constructor
  · intro same
    -- Every word register is read off the bytes. The program counter is none of them.
    have pairs : ∀ reg, left.get16 reg = right.get16 reg := by
      intro reg
      rw [get16_eq, get16_eq, same]
    have hpc : left.pc = right.pc := congrArg ByteFile.pc same
    obtain ⟨⟨af⟩, ⟨bc⟩, ⟨de⟩, ⟨hl⟩, sp, pc⟩ := left
    obtain ⟨⟨af'⟩, ⟨bc'⟩, ⟨de'⟩, ⟨hl'⟩, sp', pc'⟩ := right
    have h1 : af = af' := pairs .af
    have h2 : bc = bc' := pairs .bc
    have h3 : de = de' := pairs .de
    have h4 : hl = hl' := pairs .hl
    have h5 : sp = sp' := pairs .sp
    subst h1 h2 h3 h4 h5
    rw [show pc = pc' from hpc]
  · intro same
    rw [same]

end Registers

end GameBoy
