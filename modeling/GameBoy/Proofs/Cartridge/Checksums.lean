import Mathlib.Algebra.GroupWithZero.Nat
import GameBoy.Proofs.Cartridge.Loading

/-!
# `GameBoy.Proofs.Cartridge.Checksums`: what the checksums of an image tell

Each of the two checksums of a cartridge sums up the bytes at some offsets of its image. The
header's is its own negated sum in one byte, the global one a plain sum in two. Three of the
bytes hold the checksums themselves. The global checksum does not cover the two in which it
lies, but it covers the header's checksum, so it is stored last.

A changed byte moves a sum by less than the modulus, so a checksum that covers the byte is
changed too, and what the image states is not. If the byte belongs to a stated checksum, it is the
other way round: what the image states is changed, and the sum is not, as no sum covers the bytes
in which it lies. So the two cases together leave no byte out for the global checksum, and for the
header's just the bytes outside of its range and its own.

Which bytes a sum covers is told by their offsets (`bytesAt`), and worked out from parts of a
list. The lemmas of the first section compare the two by taking an image apart in three: before
the first offset, from it, and behind the last. An image may be too short for some of this, and
the part is then shorter or empty on both sides.

Main statements:

* `Checksum.headerBytes_eq`, `Checksum.globalBytes_eq`: which bytes are covered.
* `Checksum.toNat_header`, `Checksum.toNat_global`: what the checksums are.
* `Checksum.headerStated_store`, `Checksum.globalStated_store`, `Checksum.store_eq_self`: what is
  stored is stated, and storing it again changes nothing.
* `Checksum.headerStated_set_iff`, `Checksum.not_globalStated_set`: what a changed byte does.
* `Cartridge.checksums_tell_changes`: all of this for the cartridges that images make.
-/

set_option autoImplicit false

namespace GameBoy

/-! ### The bytes at some offsets -/

/-- The bytes at the wanted offsets, in order. The first byte has the offset `start`. -/
def bytesFrom (start : Nat) (bytes : List UInt8) (wanted : Nat → Prop) [DecidablePred wanted] :
    List UInt8 :=
  ((bytes.zipIdx start).filter fun entry => wanted entry.2).map Prod.fst

/-- The bytes of an image at the wanted offsets, in order. -/
def bytesAt (image : List UInt8) (wanted : Nat → Prop) [DecidablePred wanted] : List UInt8 :=
  bytesFrom 0 image wanted

/-- What bytes come to when they are added up. -/
def byteSum (bytes : List UInt8) : Nat := (bytes.map UInt8.toNat).sum

section

variable {wanted : Nat → Prop} [DecidablePred wanted] {start : Nat} {bytes : List UInt8}

theorem bytesFrom_append (start : Nat) (before after : List UInt8) :
    bytesFrom start (before ++ after) wanted =
      bytesFrom start before wanted ++ bytesFrom (start + before.length) after wanted := by
  rw [bytesFrom, List.zipIdx_append, List.filter_append, List.map_append]
  rfl

/-- Where every offset is wanted, these are all the bytes. -/
theorem bytesFrom_of_all
    (all : ∀ offset, start ≤ offset → offset < start + bytes.length → wanted offset) :
    bytesFrom start bytes wanted = bytes := by
  have kept : (bytes.zipIdx start).filter (fun entry => wanted entry.2) = bytes.zipIdx start := by
    apply List.filter_eq_self.mpr
    intro entry mem
    obtain ⟨le, lt, -⟩ := List.mem_zipIdx mem
    exact decide_eq_true (all entry.2 le lt)
  rw [bytesFrom, kept, List.zipIdx_map_fst]

/-- Where none is, there are none. -/
theorem bytesFrom_of_none
    (none : ∀ offset, start ≤ offset → offset < start + bytes.length → ¬wanted offset) :
    bytesFrom start bytes wanted = [] := by
  have dropped : (bytes.zipIdx start).filter (fun entry => wanted entry.2) = [] := by
    apply List.filter_eq_nil_iff.mpr
    intro entry mem
    obtain ⟨le, lt, -⟩ := List.mem_zipIdx mem
    simpa using none entry.2 le lt
  rw [bytesFrom, dropped, List.map_nil]

/-- A single byte is there if its offset is wanted. -/
theorem bytesAt_split (before after : List UInt8) (byte : UInt8) :
    bytesAt (before ++ byte :: after) wanted =
      bytesAt before wanted ++ (if wanted before.length then [byte] else []) ++
        bytesFrom (before.length + 1) after wanted := by
  have single : bytesFrom before.length [byte] wanted =
      if wanted before.length then [byte] else [] := by
    by_cases h : wanted before.length
    · simp [bytesFrom, h]
    · simp [bytesFrom, h]
  rw [bytesAt, List.append_cons, bytesFrom_append, bytesFrom_append, Nat.zero_add,
    List.length_append, Nat.zero_add, single]
  rfl

/-- The bytes between two offsets are a part of the image. The image may end before the second
of them, or before the first. -/
theorem bytesAt_within (image : List UInt8) (first count : Nat)
    (within : ∀ offset, wanted offset ↔ first ≤ offset ∧ offset < first + count) :
    bytesAt image wanted = (image.drop first).take count := by
  -- Three parts: before the first offset, from it, and behind the last.
  conv => lhs; rw [← List.take_append_drop first image,
    ← List.take_append_drop count (image.drop first)]
  rw [bytesAt, bytesFrom_append, bytesFrom_append, bytesFrom_of_none, bytesFrom_of_all,
    bytesFrom_of_none, List.nil_append, List.append_nil]
  all_goals
    simp only [within, List.length_take, List.length_drop]
    omega

/-- The bytes outside of two offsets are what that part leaves of the image. -/
theorem bytesAt_outside (image : List UInt8) (first count : Nat)
    (outside : ∀ offset, wanted offset ↔ ¬(first ≤ offset ∧ offset < first + count)) :
    bytesAt image wanted = image.take first ++ image.drop (first + count) := by
  -- The same three parts, of which the one in the middle is left out.
  conv => lhs; rw [← List.take_append_drop first image,
    ← List.take_append_drop count (image.drop first)]
  rw [bytesAt, bytesFrom_append, bytesFrom_append, bytesFrom_of_all, bytesFrom_of_none,
    bytesFrom_of_all, List.nil_append, List.drop_drop]
  all_goals
    simp only [outside, List.length_take, List.length_drop]
    omega

/-! ### Changing a byte -/

/-- A byte lies between the bytes before it and those after it, and changing it leaves those. -/
theorem exists_split {image : List UInt8} {offset : Nat} (inside : offset < image.length)
    (value : UInt8) :
    ∃ before after, before.length = offset ∧ image = before ++ image[offset] :: after ∧
      image.set offset value = before ++ value :: after := by
  refine ⟨image.take offset, image.drop (offset + 1), List.length_take_of_le (Nat.le_of_lt inside),
    ?_, ?_⟩
  · rw [← List.drop_eq_getElem_cons inside, List.take_append_drop]
  · rw [List.set_eq_take_append_cons_drop, if_pos inside]

/-- Changing a byte whose offset is not wanted changes no wanted one. -/
theorem bytesAt_set_of_not (image : List UInt8) {offset : Nat} (value : UInt8)
    (unwanted : ¬wanted offset) :
    bytesAt (image.set offset value) wanted = bytesAt image wanted := by
  by_cases inside : offset < image.length
  · obtain ⟨before, after, rfl, old, new⟩ := exists_split inside value
    rw [new]
    conv => rhs; rw [old]
    rw [bytesAt_split, bytesAt_split, if_neg unwanted, if_neg unwanted]
  · rw [List.set_eq_of_length_le (Nat.le_of_not_lt inside)]

/-- Changing a wanted byte changes the sum by the difference. It is written without a
subtraction: the new sum and the old byte come to the old sum and the new byte. -/
theorem byteSum_set {image : List UInt8} {offset : Nat} (inside : offset < image.length)
    (value : UInt8) (want : wanted offset) :
    byteSum (bytesAt (image.set offset value) wanted) + image[offset].toNat =
      byteSum (bytesAt image wanted) + value.toNat := by
  obtain ⟨before, after, rfl, old, new⟩ := exists_split inside value
  rw [new]
  conv => rhs; rw [old]
  rw [bytesAt_split, bytesAt_split, if_pos want, if_pos want]
  simp only [byteSum, List.map_append, List.sum_append, List.map_cons, List.map_nil,
    List.sum_singleton]
  omega

end

/-! ### The sums -/

namespace Checksum

/-- Which bytes the header's checksum covers. -/
theorem headerBytes_eq (image : List UInt8) :
    headerBytes image = bytesAt image fun offset => 0x134 ≤ offset ∧ offset ≤ 0x14C :=
  (bytesAt_within image 0x134 0x19 fun offset => by omega).symm

/-- Which bytes the global checksum covers. -/
theorem globalBytes_eq (image : List UInt8) :
    globalBytes image = bytesAt image fun offset => offset ≠ 0x14E ∧ offset ≠ 0x14F :=
  (bytesAt_outside image 0x14E 0x02 fun offset => by omega).symm

/-- Taking off bytes, and one more for each: what is left makes up for their sum and number. By
induction on the bytes, with the number that is left so far carried along. -/
theorem foldl_takeOff (bytes : List UInt8) (start : UInt8) :
    ((bytes.foldl (fun sum byte => sum - byte - 1) start).toNat + byteSum bytes + bytes.length) %
      0x100 = start.toNat := by
  induction bytes generalizing start with
  | nil => exact Nat.mod_eq_of_lt start.toNat_lt
  | cons byte rest ih =>
    have step := ih (start - byte - 1)
    have bound : byte.toNat < 2 ^ 8 := byte.toNat_lt
    have bound' : start.toNat < 2 ^ 8 := start.toNat_lt
    rw [UInt8.toNat_sub, UInt8.toNat_sub, UInt8.toNat_one] at step
    simp only [List.foldl_cons, byteSum, List.map_cons, List.sum_cons, List.length_cons] at step ⊢
    omega

/-- Adding up bytes. -/
theorem foldl_add (bytes : List UInt8) (start : UInt16) :
    (bytes.foldl (fun sum byte => sum + byte.toUInt16) start).toNat =
      (start.toNat + byteSum bytes) % 0x10000 := by
  induction bytes generalizing start with
  | nil => exact (Nat.mod_eq_of_lt start.toNat_lt).symm
  | cons byte rest ih =>
    rw [List.foldl_cons, ih, UInt16.toNat_add, UInt8.toNat_toUInt16, byteSum, byteSum,
      List.map_cons, List.sum_cons]
    omega

/-- The header's checksum makes up for the sum and the number of the bytes that it covers. -/
theorem toNat_header (image : List UInt8) :
    ((header image).toNat + byteSum (headerBytes image) + (headerBytes image).length) % 0x100 =
      0 :=
  foldl_takeOff (headerBytes image) 0

/-- The global checksum is the sum of the bytes that it covers. -/
theorem toNat_global (image : List UInt8) :
    (global image).toNat = byteSum (globalBytes image) % 0x10000 := by
  rw [global, foldl_add, UInt16.toNat_zero, Nat.zero_add]

/-! ### Stated checksums -/

/-- The header of an image states its own checksum. -/
def HeaderStated (image : Array UInt8) : Prop :=
  image[0x14D]? = some (header image.toList)

/-- The header of an image states the global checksum, upper byte first. -/
def GlobalStated (image : Array UInt8) : Prop :=
  image[0x14E]? = some (highByte (global image.toList)) ∧
    image[0x14F]? = some (lowByte (global image.toList))

/-- The image with the header's checksum in its place. -/
def storeHeader (image : Array UInt8) : Array UInt8 :=
  image.setIfInBounds 0x14D (header image.toList)

/-- The image with the global checksum in its place, upper byte first. -/
def storeGlobal (image : Array UInt8) : Array UInt8 :=
  (image.setIfInBounds 0x14E (highByte (global image.toList))).setIfInBounds 0x14F
    (lowByte (global image.toList))

/-- The image with both checksums in their places. The global one covers the other, which is
therefore stored first. -/
def store (image : Array UInt8) : Array UInt8 := storeGlobal (storeHeader image)

@[simp]
theorem size_store (image : Array UInt8) : (store image).size = image.size := by
  rw [store, storeGlobal, Array.size_setIfInBounds, Array.size_setIfInBounds, storeHeader,
    Array.size_setIfInBounds]

/-- The header's checksum does not depend on what lies outside of the bytes it covers. -/
theorem header_set (image : List UInt8) {offset : Nat} (value : UInt8)
    (outside : ¬(0x134 ≤ offset ∧ offset ≤ 0x14C)) :
    header (image.set offset value) = header image := by
  rw [header, header, headerBytes_eq, headerBytes_eq, bytesAt_set_of_not image value outside]

/-- Nor does the global one depend on the two bytes in which it is stored. -/
theorem global_set (image : List UInt8) {offset : Nat} (value : UInt8)
    (outside : ¬(offset ≠ 0x14E ∧ offset ≠ 0x14F)) :
    global (image.set offset value) = global image := by
  rw [global, global, globalBytes_eq, globalBytes_eq, bytesAt_set_of_not image value outside]

/-- Storing the global checksum leaves both as they are. -/
theorem header_storeGlobal (image : Array UInt8) :
    header (storeGlobal image).toList = header image.toList := by
  rw [storeGlobal, Array.toList_setIfInBounds, Array.toList_setIfInBounds,
    header_set _ _ (by decide), header_set _ _ (by decide)]

theorem global_storeGlobal (image : Array UInt8) :
    global (storeGlobal image).toList = global image.toList := by
  rw [storeGlobal, Array.toList_setIfInBounds, Array.toList_setIfInBounds,
    global_set _ _ (by decide), global_set _ _ (by decide)]

/-- Storing the header's checksum leaves that as it is. -/
theorem header_storeHeader (image : Array UInt8) :
    header (storeHeader image).toList = header image.toList := by
  rw [storeHeader, Array.toList_setIfInBounds, header_set _ _ (by decide)]

/-- Stored checksums are stated. -/
theorem headerStated_store {image : Array UInt8} (long : 0x150 ≤ image.size) :
    HeaderStated (store image) := by
  have room : 0x14D < image.size := Nat.lt_of_lt_of_le (by decide) long
  rw [HeaderStated, store, header_storeGlobal, header_storeHeader, storeGlobal, storeHeader,
    Array.getElem?_setIfInBounds_ne (by decide), Array.getElem?_setIfInBounds_ne (by decide),
    Array.getElem?_setIfInBounds_self_of_lt room]

theorem globalStated_store {image : Array UInt8} (long : 0x150 ≤ image.size) :
    GlobalStated (store image) := by
  have room : 0x150 ≤ (storeHeader image).size := by
    rw [storeHeader, Array.size_setIfInBounds]
    exact long
  rw [GlobalStated, store, global_storeGlobal, storeGlobal]
  constructor
  · rw [Array.getElem?_setIfInBounds_ne (by decide), Array.getElem?_setIfInBounds_self_of_lt]
    exact Nat.lt_of_lt_of_le (by decide) room
  · rw [Array.getElem?_setIfInBounds_self_of_lt]
    rw [Array.size_setIfInBounds]
    exact Nat.lt_of_lt_of_le (by decide) room

/-- Storing what is there changes nothing. -/
theorem setIfInBounds_eq_self {image : Array UInt8} {offset : Nat} {value : UInt8}
    (there : image[offset]? = some value) : image.setIfInBounds offset value = image := by
  obtain ⟨inside, rfl⟩ := Array.getElem?_eq_some_iff.mp there
  rw [Array.setIfInBounds_def, dif_pos inside, Array.set_getElem_self]

/-- Storing checksums that are stated changes nothing. -/
theorem store_eq_self {image : Array UInt8} (own : HeaderStated image)
    (whole : GlobalStated image) : store image = image := by
  rw [store, storeHeader, setIfInBounds_eq_self own, storeGlobal, setIfInBounds_eq_self whole.1,
    setIfInBounds_eq_self whole.2]

/-! ### A changed byte -/

/-- Two values of a byte are different numbers. -/
theorem toNat_ne {a b : UInt8} (h : a ≠ b) : a.toNat ≠ b.toNat :=
  fun same => h (UInt8.toNat_inj.mp same)

/-- A covered byte cannot change without the header's checksum: the sum moves by less than the
modulus. -/
theorem header_set_ne {image : List UInt8} {offset : Nat} {value : UInt8}
    (long : 0x14D ≤ image.length) (inside : offset < image.length)
    (covered : 0x134 ≤ offset ∧ offset ≤ 0x14C) (other : value ≠ image[offset]) :
    header (image.set offset value) ≠ header image := by
  intro same
  -- A byte was replaced and none added, so the number of bytes does not tell.
  have count (bytes : List UInt8) (long : 0x14D ≤ bytes.length) :
      (headerBytes bytes).length = 0x19 := by
    rw [headerBytes, List.length_take, List.length_drop]
    omega
  have before := toNat_header image
  have after := toNat_header (image.set offset value)
  rw [same, count _ (by rw [List.length_set]; exact long)] at after
  rw [count _ long] at before
  have moved : byteSum (headerBytes (image.set offset value)) + image[offset].toNat =
      byteSum (headerBytes image) + value.toNat := by
    rw [headerBytes_eq, headerBytes_eq]
    exact byteSum_set inside value covered
  have apart := toNat_ne other
  have bound : value.toNat < 2 ^ 8 := value.toNat_lt
  have bound' : image[offset].toNat < 2 ^ 8 := image[offset].toNat_lt
  omega

/-- Nor can it without the global checksum. -/
theorem global_set_ne {image : List UInt8} {offset : Nat} {value : UInt8}
    (inside : offset < image.length) (covered : offset ≠ 0x14E ∧ offset ≠ 0x14F)
    (other : value ≠ image[offset]) : global (image.set offset value) ≠ global image := by
  intro same
  have before := toNat_global image
  have after := toNat_global (image.set offset value)
  rw [same] at after
  have moved : byteSum (globalBytes (image.set offset value)) + image[offset].toNat =
      byteSum (globalBytes image) + value.toNat := by
    rw [globalBytes_eq, globalBytes_eq]
    exact byteSum_set inside value covered
  have apart := toNat_ne other
  have bound : value.toNat < 2 ^ 8 := value.toNat_lt
  have bound' : image[offset].toNat < 2 ^ 8 := image[offset].toNat_lt
  omega

section

variable {image : Array UInt8} {offset : Nat} {value : UInt8}

/-- The header states its checksum after a change exactly if neither that nor a byte that it
covers was changed. Of the bytes from 0x134 to 0x14D the last is the checksum itself. -/
theorem headerStated_set_iff (stated : HeaderStated image) (inside : offset < image.size)
    (other : value ≠ image[offset]) :
    HeaderStated (image.set offset value) ↔ ¬(0x134 ≤ offset ∧ offset ≤ 0x14D) := by
  obtain ⟨long, sum⟩ := Array.getElem?_eq_some_iff.mp stated
  rw [HeaderStated, Array.toList_set, Array.getElem?_set]
  by_cases place : offset = 0x14D
  · -- The checksum itself was changed, and the bytes that it covers were not.
    subst place
    rw [if_pos rfl, header_set _ _ (by decide), ← sum, Option.some_inj]
    exact ⟨fun same => absurd same other, fun apart => absurd (by decide) apart⟩
  · rw [if_neg place, stated, Option.some_inj]
    by_cases covered : 0x134 ≤ offset ∧ offset ≤ 0x14C
    · have changed : header (image.toList.set offset value) ≠ header image.toList :=
        header_set_ne (Nat.le_of_lt long) inside covered other
      exact ⟨fun same => absurd same.symm changed, fun apart => absurd (by omega) apart⟩
    · rw [header_set _ _ covered]
      exact ⟨fun _ => by omega, fun _ => rfl⟩

/-- The header does not state the global checksum after a change, wherever it is. If the byte is
covered, the stated word is the old one and the sum is not. If it is one of the two that are not,
the sum is the old one and one half of the stated word is not. -/
theorem not_globalStated_set (stated : GlobalStated image) (inside : offset < image.size)
    (other : value ≠ image[offset]) : ¬GlobalStated (image.set offset value) := by
  obtain ⟨_, upper⟩ := Array.getElem?_eq_some_iff.mp stated.1
  obtain ⟨_, lower⟩ := Array.getElem?_eq_some_iff.mp stated.2
  rintro ⟨high, low⟩
  rw [Array.toList_set, Array.getElem?_set] at high low
  by_cases covered : offset ≠ 0x14E ∧ offset ≠ 0x14F
  · -- The stated bytes are the old ones, so they would be those of two different words.
    rw [if_neg covered.1, stated.1, Option.some_inj] at high
    rw [if_neg covered.2, stated.2, Option.some_inj] at low
    have changed : global (image.toList.set offset value) ≠ global image.toList :=
      global_set_ne inside covered other
    apply changed
    rw [← joinBytes_highByte_lowByte (global (image.toList.set offset value)), ← high, ← low,
      joinBytes_highByte_lowByte]
  · rw [global_set _ _ covered] at high low
    by_cases place : offset = 0x14E
    · subst place
      rw [if_pos rfl, Option.some_inj] at high
      exact other (high.trans upper.symm)
    · obtain rfl : offset = 0x14F := by omega
      rw [if_pos rfl, Option.some_inj] at low
      exact other (low.trans lower.symm)

end

end Checksum

/-! ### Cartridges -/

namespace Cartridge

variable {image : Array UInt8} {cartridge : Cartridge}

/-- Where the header has its checksums from. -/
theorem checksums_of_made (made : ofBytes image = .ok cartridge) :
    ∃ upper lower, image[0x14D]? = some cartridge.header.checksum ∧
      image[0x14E]? = some upper ∧ image[0x14F]? = some lower ∧
      cartridge.header.globalChecksum = joinBytes upper lower := by
  obtain ⟨long, rfl⟩ := ofBytes_eq_ok made
  have size : 0x150 ≤ image.size := long
  rw [Header.globalChecksum_ofBytes]
  refine ⟨_, _, ?_, ?_, ?_, rfl⟩
  · simp [Header.start, Header.length, Header.ofBytes]
  · simp [Header.start, Header.length]
  · simp [Header.start, Header.length]

/-- A cartridge finds the header's checksum right if its image states it. -/
theorem headerChecksumOk_iff (made : ofBytes image = .ok cartridge) :
    cartridge.headerChecksumOk = true ↔ Checksum.HeaderStated image := by
  obtain ⟨_, _, stated, -⟩ := checksums_of_made made
  obtain ⟨_, rfl⟩ := ofBytes_eq_ok made
  rw [headerChecksumOk, beq_iff_eq, Checksum.HeaderStated, stated, Option.some_inj]
  exact eq_comm

/-- And the global one if its image states that. -/
theorem globalChecksumOk_iff (made : ofBytes image = .ok cartridge) :
    cartridge.globalChecksumOk = true ↔ Checksum.GlobalStated image := by
  obtain ⟨upper, lower, -, high, low, word⟩ := checksums_of_made made
  obtain ⟨_, rfl⟩ := ofBytes_eq_ok made
  rw [globalChecksumOk, beq_iff_eq, Checksum.GlobalStated, high, low, word, Option.some_inj,
    Option.some_inj, computedGlobalChecksum]
  constructor
  · intro same
    rw [same, highByte_joinBytes, lowByte_joinBytes]
    exact ⟨rfl, rfl⟩
  · rintro ⟨rfl, rfl⟩
    exact (joinBytes_highByte_lowByte _).symm

/-- The checksums are exact, agree with themselves, and tell any changed byte.

1. The header's checksum is the sum and the number of the bytes from 0x134 to 0x14C, taken from
   zero, modulo `2 ^ 8`. The global one is the sum of all bytes but the two in which it lies,
   modulo `2 ^ 16`. This holds of every list of bytes, as far as it goes.
2. Stored in the places that the header has for them, they are found right, and storing them again
   changes nothing. The image has to have room for a header.
3. Take a cartridge that finds both right, and change a byte of its image to another one. The
   changed image loads, the global checksum is found wrong, and the header's is found wrong
   exactly if the byte is covered by it or is the checksum.

What a cartridge finds right is what its image states (`headerChecksumOk_iff`,
`globalChecksumOk_iff`), so from there on only images are spoken of. -/
theorem checksums_tell_changes :
    (∀ image : List UInt8,
      let covered := bytesAt image fun offset => 0x134 ≤ offset ∧ offset ≤ 0x14C
      let counted := bytesAt image fun offset => offset ≠ 0x14E ∧ offset ≠ 0x14F
      ((Checksum.header image).toNat : Int) = (-(byteSum covered + covered.length : Int)) % 0x100 ∧
        (Checksum.global image).toNat = byteSum counted % 0x10000) ∧
    (∀ image : Array UInt8, 0x150 ≤ image.size →
      (∃ cartridge, ofBytes (Checksum.store image) = .ok cartridge ∧
        cartridge.headerChecksumOk = true ∧ cartridge.globalChecksumOk = true) ∧
      Checksum.store (Checksum.store image) = Checksum.store image) ∧
    ∀ (image : Array UInt8) (cartridge : Cartridge), ofBytes image = .ok cartridge →
      cartridge.headerChecksumOk = true → cartridge.globalChecksumOk = true →
      ∀ (offset : Nat) (value : UInt8) (inside : offset < image.size), value ≠ image[offset] →
        ∃ changed, ofBytes (image.set offset value) = .ok changed ∧
          changed.globalChecksumOk = false ∧
          (changed.headerChecksumOk = false ↔ 0x134 ≤ offset ∧ offset ≤ 0x14D) := by
  refine ⟨?_, ?_, ?_⟩
  · intro image covered counted
    have whole := Checksum.toNat_header image
    have bound : (Checksum.header image).toNat < 2 ^ 8 := (Checksum.header image).toNat_lt
    have same : Checksum.headerBytes image = covered := Checksum.headerBytes_eq image
    rw [same] at whole
    refine ⟨by omega, ?_⟩
    rw [Checksum.toNat_global, Checksum.globalBytes_eq]
  · intro image long
    have own := Checksum.headerStated_store long
    have whole := Checksum.globalStated_store long
    have room : 0x150 ≤ (Checksum.store image).size := by
      rw [Checksum.size_store]
      exact long
    refine ⟨⟨_, ofBytes_of_le room, ?_, ?_⟩, Checksum.store_eq_self own whole⟩
    · exact (headerChecksumOk_iff (ofBytes_of_le room)).mpr own
    · exact (globalChecksumOk_iff (ofBytes_of_le room)).mpr whole
  · intro image cartridge made own whole offset value inside other
    have long := (ofBytes_eq_ok made).1
    have long' : Header.start + Header.length ≤ (image.set offset value).size := by
      rwa [Array.size_set]
    have made' := ofBytes_of_le long'
    have own' := Checksum.headerStated_set_iff ((headerChecksumOk_iff made).mp own) inside other
    have whole' := Checksum.not_globalStated_set ((globalChecksumOk_iff made).mp whole) inside other
    refine ⟨_, made', ?_, ?_⟩
    · rw [Bool.eq_false_iff, Ne, globalChecksumOk_iff made']
      exact whole'
    · rw [Bool.eq_false_iff, Ne, headerChecksumOk_iff made', own', Decidable.not_not]

/-- An image of zeros with its checksums stored. -/
def blankImage : Array UInt8 := Checksum.store (Array.replicate 0x151 0)

/-- It is told when its version is changed, and when the byte behind its header is. -/
theorem checksums_tell_changes_blank :
    ∃ cartridge version tail, ofBytes blankImage = .ok cartridge ∧
      cartridge.headerChecksumOk = true ∧ cartridge.globalChecksumOk = true ∧
      ofBytes (blankImage.setIfInBounds 0x14C 0x01) = .ok version ∧
      version.globalChecksumOk = false ∧ version.headerChecksumOk = false ∧
      ofBytes (blankImage.setIfInBounds 0x150 0x01) = .ok tail ∧
      tail.globalChecksumOk = false ∧ tail.headerChecksumOk ≠ false := by
  obtain ⟨-, stored, tell⟩ := checksums_tell_changes
  have long : 0x150 ≤ (Array.replicate 0x151 (0 : UInt8)).size := by
    rw [Array.size_replicate]
    decide
  obtain ⟨⟨cartridge, made, own, whole⟩, -⟩ := stored _ long
  obtain ⟨inside, zero⟩ := Array.getElem?_eq_some_iff.mp
    (show blankImage[0x14C]? = some 0 by decide +kernel)
  obtain ⟨inside', zero'⟩ := Array.getElem?_eq_some_iff.mp
    (show blankImage[0x150]? = some 0 by decide +kernel)
  obtain ⟨version, made₁, whole₁, own₁⟩ :=
    tell blankImage cartridge made own whole 0x14C 0x01 inside (by rw [zero]; decide)
  obtain ⟨tail, made₂, whole₂, own₂⟩ :=
    tell blankImage cartridge made own whole 0x150 0x01 inside' (by rw [zero']; decide)
  refine ⟨cartridge, version, tail, made, own, whole, ?_, whole₁, own₁.mpr (by decide), ?_, whole₂,
    fun wrong => absurd (own₂.mp wrong) (by decide)⟩
  · rw [Array.setIfInBounds_def, dif_pos inside]
    exact made₁
  · rw [Array.setIfInBounds_def, dif_pos inside']
    exact made₂

end Cartridge

end GameBoy
