/-!
# `GameBoy.Word`: bytes and the words they make

A word of the machine is sixteen bits and travels as two bytes. This file holds
the split of a word into its high and low byte, the join of two bytes, and the
sign extension of a byte.

The order in which the two bytes travel is not fixed here. The processor fetches
the lower one first and pushes the upper one first, and a cartridge's header has
the upper byte of its checksum first. Each place says so by the order in which it
takes the halves.

Main statements: joining the two halves of a word gives the word back
(`joinBytes_highByte_lowByte`), and each half of a joined word is the byte that went
in (`highByte_joinBytes`, `lowByte_joinBytes`).
-/

set_option autoImplicit false

namespace GameBoy

/-- The upper eight bits of a word. -/
def highByte (word : UInt16) : UInt8 :=
  (word >>> 8).toUInt8

/-- The lower eight bits of a word. -/
def lowByte (word : UInt16) : UInt8 :=
  word.toUInt8

/-- The word with the given upper and lower bytes. -/
def joinBytes (high low : UInt8) : UInt16 :=
  (high.toUInt16 <<< 8) ||| low.toUInt16

/-- A byte read as a two's-complement number and widened to a word, so that
adding it to an address moves at most 128 down or 127 up. -/
def signExtend (offset : UInt8) : UInt16 :=
  joinBytes (if offset < 0x80 then 0x00 else 0xFF) offset

/-- The two halves of a word, joined, are the word. -/
@[simp]
theorem joinBytes_highByte_lowByte (word : UInt16) :
    joinBytes (highByte word) (lowByte word) = word := by
  apply UInt16.eq_of_toBitVec_eq
  simp only [joinBytes, highByte, lowByte, UInt16.toBitVec_or, UInt16.toBitVec_shiftLeft,
    UInt8.toBitVec_toUInt16, UInt16.toBitVec_toUInt8, UInt16.toBitVec_shiftRight]
  ext i hi
  by_cases h : i < 8
  · simp [h, BitVec.getLsbD_eq_getElem hi]
  · have h1 : i - 8 < 8 := by omega
    have h2 : 8 + (i - 8) = i := by omega
    simp [h, h1, h2, BitVec.getLsbD_eq_getElem hi]

/-- The upper half of a joined word is its first part. -/
@[simp]
theorem highByte_joinBytes (high low : UInt8) : highByte (joinBytes high low) = high := by
  apply UInt8.eq_of_toBitVec_eq
  simp only [joinBytes, highByte, UInt16.toBitVec_or, UInt16.toBitVec_shiftLeft,
    UInt8.toBitVec_toUInt16, UInt16.toBitVec_toUInt8, UInt16.toBitVec_shiftRight]
  ext i hi
  have h1 : 8 + i < 16 := by omega
  have h2 : ¬ 8 + i < 8 := by omega
  simp [h1, h2, BitVec.getLsbD_eq_getElem, hi]

/-- The lower half of a joined word is its second part. -/
@[simp]
theorem lowByte_joinBytes (high low : UInt8) : lowByte (joinBytes high low) = low := by
  apply UInt8.eq_of_toBitVec_eq
  simp only [joinBytes, lowByte, UInt16.toBitVec_or, UInt16.toBitVec_shiftLeft,
    UInt8.toBitVec_toUInt16, UInt16.toBitVec_toUInt8]
  ext i hi
  simp

end GameBoy
