import GameBoy.Proofs.Reference.Values

/-!
# `GameBoy.Proofs.Cpu.SeparateBytes`: the register file through any sequence of writes

There are four ways to reach a byte of the register file: by its own name, as the accumulator, as
one half of a raw pair, and with its other half in a word. F is reached by the flags as well. The
byte file holds each byte by itself, so that a write of one cannot reach another. It answers as
the packed file does, whatever was written before.

`RegisterWrite` lists the ways to write, and each is given twice: on the packed file by its own
functions, and on the byte file by value. `AnswersAs` lists the ways to read. One theorem compares
a write (`bytes_write`), one all readings (`answersAs_bytes`), and a sequence of writes follows
by induction.

The lower half of F is the case to mind. A raw pair and the raw half take any byte into it, and
nothing clears it until F is stored through the flags or the word AF. The separate bytes do
likewise. Main statements:

* `Registers.bytes_write`: a write to the packed file is the same write to the separate bytes.
* `Registers.bytes_writeAll`: so is any sequence of writes.
* `Registers.answers_as_bytes`: what the packed file answers after them.
-/

set_option autoImplicit false

namespace GameBoy

open Reference (flag packFlags)

/-! ### Writes -/

/-- The pairs that are stored as words. -/
inductive PairName where
  | af | bc | de | hl
deriving DecidableEq

/-- What can be written to the register file. -/
inductive RegisterWrite where
  | byte (reg : Reg8) (value : UInt8)
  | word (reg : Reg16) (value : UInt16)
  | accumulator (value : UInt8)
  /-- A whole pair, as it is given. -/
  | pair (name : PairName) (value : UInt16)
  | high (name : PairName) (value : UInt8)
  | low (name : PairName) (value : UInt8)
  /-- Raises flags and keeps the others. -/
  | raise (given : Flags)
  /-- Lowers flags and keeps the others. -/
  | lower (given : Flags)
  /-- Inverts flags and keeps the others. -/
  | flip (given : Flags)
  /-- Raises flags and lowers the others. -/
  | flags (given : Flags)
deriving DecidableEq

/-- Whether a write names the stack pointer. -/
def RegisterWrite.NamesSP : RegisterWrite → Prop
  | .word reg _ => reg = .sp
  | _ => False

/-- Whether a write stores F through the flags, or as a part of the word AF. -/
def RegisterWrite.StoresFlags : RegisterWrite → Prop
  | .word reg _ => reg = .af
  | .raise _ | .lower _ | .flip _ | .flags _ => True
  | _ => False

namespace Registers

/-- A raw pair. -/
def pair (regs : Registers) : PairName → Pair
  | .af => regs.af
  | .bc => regs.bc
  | .de => regs.de
  | .hl => regs.hl

/-- Replaces a raw pair. -/
def setPair (regs : Registers) (name : PairName) (pair : Pair) : Registers :=
  match name with
  | .af => { regs with af := pair }
  | .bc => { regs with bc := pair }
  | .de => { regs with de := pair }
  | .hl => { regs with hl := pair }

/-- The register file after a write. -/
def write (regs : Registers) : RegisterWrite → Registers
  | .byte reg value => regs.set8 reg value
  | .word reg value => regs.set16 reg value
  | .accumulator value => regs.setA value
  | .pair name value => regs.setPair name ⟨value⟩
  | .high name value => regs.setPair name ((regs.pair name).setHigh value)
  | .low name value => regs.setPair name ((regs.pair name).setLow value)
  | .raise given => regs.raiseFlags given
  | .lower given => regs.lowerFlags given
  | .flip given => regs.flipFlags given
  | .flags given => regs.setFlags given

/-- The register file after some writes. -/
def writeAll (regs : Registers) (writes : List RegisterWrite) : Registers :=
  writes.foldl write regs

end Registers

/-! ### The same writes, byte by byte -/

namespace ByteFile

/-- The upper byte of a pair. -/
def high (file : ByteFile) : PairName → UInt8
  | .af => file.a
  | .bc => file.b
  | .de => file.d
  | .hl => file.h

/-- The lower byte of a pair. -/
def low (file : ByteFile) : PairName → UInt8
  | .af => file.f
  | .bc => file.c
  | .de => file.e
  | .hl => file.l

/-- Replaces the upper byte of a pair. -/
def setHigh (file : ByteFile) (name : PairName) (value : UInt8) : ByteFile :=
  match name with
  | .af => { file with a := value }
  | .bc => { file with b := value }
  | .de => { file with d := value }
  | .hl => { file with h := value }

/-- Replaces the lower byte of a pair. F takes any byte. -/
def setLow (file : ByteFile) (name : PairName) (value : UInt8) : ByteFile :=
  match name with
  | .af => { file with f := value }
  | .bc => { file with c := value }
  | .de => { file with e := value }
  | .hl => { file with l := value }

/-- The flags in the upper half of F. -/
def flags (file : ByteFile) : Flags := ⟨flag file.f 7, flag file.f 6, flag file.f 5, flag file.f 4⟩

/-- Changes each flag of F by the given one, and clears the lower half. -/
def changeFlags (file : ByteFile) (change : Bool → Bool → Bool) (given : Flags) : ByteFile :=
  { file with
    f := packFlags (change (flag file.f 7) given.zero) (change (flag file.f 6) given.subtract)
      (change (flag file.f 5) given.halfCarry) (change (flag file.f 4) given.carry) }

/-- The byte file after a write. -/
def write (file : ByteFile) : RegisterWrite → ByteFile
  | .byte reg value => file.set8 reg value
  | .word reg value => file.set16 reg value
  | .accumulator value => { file with a := value }
  | .pair name value => (file.setHigh name (upperOf value)).setLow name (lowerOf value)
  | .high name value => file.setHigh name value
  | .low name value => file.setLow name value
  | .raise given => file.changeFlags (fun old given => old || given) given
  | .lower given => file.changeFlags (fun old given => old && !given) given
  | .flip given => file.changeFlags (fun old given => old ^^ given) given
  | .flags given => file.changeFlags (fun _ given => given) given

/-- The byte file after some writes. -/
def writeAll (file : ByteFile) (writes : List RegisterWrite) : ByteFile := writes.foldl write file

/-- No write reaches the program counter. -/
theorem pc_write (file : ByteFile) (next : RegisterWrite) : (file.write next).pc = file.pc := by
  cases next with
  | byte reg value | word reg value => cases reg <;> rfl
  | pair name value | high name value | low name value => cases name <;> rfl
  | accumulator | raise | lower | flip | flags => rfl

/-- No write that does not name the stack pointer reaches it. -/
theorem sp_write (file : ByteFile) {next : RegisterWrite} (other : ¬next.NamesSP) :
    (file.write next).sp = file.sp := by
  cases next with
  | word reg value =>
    cases reg with
    | sp => exact absurd rfl other
    | af | bc | de | hl => rfl
  | byte reg value => cases reg <;> rfl
  | pair name value | high name value | low name value => cases name <;> rfl
  | accumulator | raise | lower | flip | flags => rfl

/-- Flags are stored in the upper half of F, and its lower half is cleared. -/
theorem nibble_write (file : ByteFile) {next : RegisterWrite} (stores : next.StoresFlags) :
    (file.write next).f.toNat % 16 = 0 := by
  have packed : ∀ z n h c, (packFlags z n h c).toNat % 16 = 0 := by decide
  cases next with
  | word reg value =>
    obtain rfl : reg = .af := stores
    show (UInt8.ofNat (value.toNat % 256 / 16 * 16)).toNat % 16 = 0
    rw [UInt8.toNat_ofNat']
    omega
  | raise given | lower given | flip given | flags given => exact packed _ _ _ _
  | byte | accumulator | pair | high | low => exact absurd stores id

theorem pc_writeAll (file : ByteFile) (writes : List RegisterWrite) :
    (file.writeAll writes).pc = file.pc := by
  induction writes generalizing file with
  | nil => rfl
  | cons first rest ih => exact (ih (file.write first)).trans (file.pc_write first)

theorem sp_writeAll (file : ByteFile) {writes : List RegisterWrite}
    (others : ∀ next ∈ writes, ¬next.NamesSP) : (file.writeAll writes).sp = file.sp := by
  induction writes generalizing file with
  | nil => rfl
  | cons first rest ih =>
    have later := ih (file.write first) fun next mem => others next (List.mem_cons_of_mem first mem)
    exact later.trans (file.sp_write (others first List.mem_cons_self))

end ByteFile

/-! ### Agreement -/

/-- Flags contain others if each of the others is raised. -/
theorem Flags.contains_iff (flags wanted : Flags) : flags.contains wanted = true ↔
    (wanted.zero → flags.zero) ∧ (wanted.subtract → flags.subtract) ∧
      (wanted.halfCarry → flags.halfCarry) ∧ (wanted.carry → flags.carry) := by
  have implies : ∀ p q : Bool, (!p || q) = true ↔ (p → q) := by decide
  simp only [Flags.contains, Bool.and_eq_true, and_assoc, implies]

namespace Registers

/-- The halves of a raw pair are its two bytes. -/
theorem high_pair (regs : Registers) (name : PairName) :
    (regs.pair name).high = regs.bytes.high name := by
  cases name <;> rfl

theorem low_pair (regs : Registers) (name : PairName) :
    (regs.pair name).low = regs.bytes.low name := by
  cases name <;> rfl

/-- Replacing a raw pair replaces its two bytes. -/
theorem bytes_setPair (regs : Registers) (name : PairName) (pair : Pair) :
    (regs.setPair name pair).bytes =
      (regs.bytes.setHigh name pair.high).setLow name pair.low := by
  cases name <;> rfl

/-- The raised flags are those of F. -/
theorem flags_eq_bytes (regs : Registers) : regs.flags = regs.bytes.flags :=
  Reference.ofByte_eq regs.af.low

/-- A write to the packed file is the same write to the separate bytes. Half a pair is written by
putting the other half back, and a change of flags by reading all four and packing them again. -/
theorem bytes_write (regs : Registers) (next : RegisterWrite) :
    (regs.write next).bytes = regs.bytes.write next := by
  cases next with
  | byte reg value => exact regs.bytes_set8 reg value
  | word reg value => exact regs.bytes_set16 reg value
  | accumulator value => exact regs.bytes_setA value
  | pair name value =>
    rw [write, bytes_setPair]
    simp only [Pair.high, Pair.low, highByte_eq_upperOf, lowByte_eq_lowerOf]
    rfl
  | high name value =>
    -- The other half is put back as it was.
    rw [write, bytes_setPair, Pair.high_setHigh, Pair.low_setHigh]
    cases name <;> rfl
  | low name value =>
    rw [write, bytes_setPair, Pair.high_setLow, Pair.low_setLow]
    cases name <;> rfl
  | raise given | lower given | flip given =>
    rw [write]
    simp only [raiseFlags, lowerFlags, flipFlags, bytes_setFlags, Reference.toByte_eq,
      flags_eq_bytes]
    rfl
  | flags given =>
    rw [write, bytes_setFlags, Reference.toByte_eq]
    rfl

/-- So is any sequence of writes. -/
theorem bytes_writeAll (regs : Registers) (writes : List RegisterWrite) :
    (regs.writeAll writes).bytes = regs.bytes.writeAll writes := by
  induction writes generalizing regs with
  | nil => rfl
  | cons first rest ih =>
    show ((regs.write first).writeAll rest).bytes = (regs.bytes.write first).writeAll rest
    rw [ih, bytes_write]

/-- A raw pair takes the whole of F. The next change of a flag clears its lower half. -/
example :
    (zero.writeAll [.low .af 0xFF]).bytes.f = 0xFF ∧
      (zero.writeAll [.low .af 0xFF, .flip { Flags.none with zero := true }]).bytes.f = 0x70 := by
  decide

/-- Each reading of the packed file has the answer of the separate bytes. -/
structure AnswersAs (regs : Registers) (file : ByteFile) : Prop where
  get8 : ∀ reg, regs.get8 reg = file.get8 reg
  get16 : ∀ reg, regs.get16 reg = file.get16 reg
  a : regs.a = file.a
  high : ∀ name, (regs.pair name).high = file.high name
  low : ∀ name, (regs.pair name).low = file.low name
  word : ∀ name, (regs.pair name).word.toNat
    = 256 * (file.high name).toNat + (file.low name).toNat
  flags : regs.flags = file.flags
  /-- All the flags that are asked for are raised. -/
  hasFlags : ∀ wanted, regs.hasFlags wanted = true ↔
    (wanted.zero → flag file.f 7) ∧ (wanted.subtract → flag file.f 6) ∧
      (wanted.halfCarry → flag file.f 5) ∧ (wanted.carry → flag file.f 4)
  sp : regs.sp = file.sp
  pc : regs.pc = file.pc

/-- The packed file answers as its bytes. -/
theorem answersAs_bytes (regs : Registers) : regs.AnswersAs regs.bytes where
  get8 := regs.get8_eq
  get16 := regs.get16_eq
  a := rfl
  high := regs.high_pair
  low := regs.low_pair
  word name := by
    rw [← regs.high_pair, ← regs.low_pair, ← toNat_joinBytes]
    exact congrArg UInt16.toNat (joinBytes_highByte_lowByte _).symm
  flags := regs.flags_eq_bytes
  hasFlags wanted := by
    rw [Registers.hasFlags, flags_eq_bytes]
    exact Flags.contains_iff _ wanted
  sp := rfl
  pc := rfl

/-- Whatever is written, in whatever order, the packed file answers as separate bytes do to which
the same is written. The start is any register file, one with a lower half of F that is not clear
included.

1. Every reading has the answer of the separate bytes: bytes, words, raw pairs and their halves,
   the flags and the test for flags, the stack pointer and the program counter.
2. Flags that are stored at any time leave nothing below them, nor does the word AF.
3. Nothing reaches the program counter.
4. Only what names the stack pointer reaches the stack pointer.

The first says that writes do not interfere, since separate bytes cannot. The others are facts of
the separate bytes, carried over by it. -/
theorem answers_as_bytes (start : Registers) (writes : List RegisterWrite) :
    (start.writeAll writes).AnswersAs (start.bytes.writeAll writes) ∧
      (∀ next : RegisterWrite, next.StoresFlags →
        (((start.writeAll writes).write next).pair .af).low.toNat % 16 = 0) ∧
      (start.writeAll writes).pc = start.pc ∧
      ((∀ next ∈ writes, ¬next.NamesSP) → (start.writeAll writes).sp = start.sp) := by
  rw [← bytes_writeAll]
  refine ⟨answersAs_bytes _, ?_, ?_, ?_⟩
  · intro next stores
    show ((start.writeAll writes).write next).bytes.f.toNat % 16 = 0
    rw [bytes_write]
    exact ByteFile.nibble_write _ stores
  · show (start.writeAll writes).bytes.pc = start.bytes.pc
    rw [bytes_writeAll, ByteFile.pc_writeAll]
  · intro others
    show (start.writeAll writes).bytes.sp = start.bytes.sp
    rw [bytes_writeAll, ByteFile.sp_writeAll _ others]

end Registers

end GameBoy
