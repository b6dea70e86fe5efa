import GameBoy.Cartridge.Basic

/-!
# `GameBoy.Proofs.Cartridge.Loading`: what is read off an image

An image that is long enough makes a cartridge, which keeps it as it is. The header is a part of
the image. Its fields lie one after another and leave no byte out, which is seen by putting them
together again, front to back: what is there already is a beginning of the header, and the next
field takes up where it ends.

The title ends at the first zero, and how many bytes may belong to it is told by a flag in the
last of them. That byte belongs to the title or not, depending on its own value, so not every
title of sixteen bytes can be told from one of fifteen with the flag behind it. `Header.Inscribed`
says how a title has to lie in its place for it to be read back, and leaves out only those that
end in a byte which would be taken for the flag.

Main statements:

* `Header.toBytes_ofBytes`: put together again, the fields are the bytes they were taken from.
* `Header.Inscribed.title_eq`: a title that was written into its place is read from it.
* `Cartridge.loading_loses_nothing`: both of these for every image that is loaded, and which
  images are.
-/

set_option autoImplicit false

namespace GameBoy

/-! ### The fields of a header -/

namespace Header

section

variable {bytes : Array UInt8}

/-- A part of some bytes follows on what comes before it. -/
theorem take_append_extract {start stop : Nat} (h : start ≤ stop) :
    bytes.toList.take start ++ (bytes.extract start stop).toList = bytes.toList.take stop := by
  rw [Array.toList_extract, List.extract_eq_take_drop, ← List.take_add, Nat.add_sub_cancel' h]

/-- So does a single byte, and more may follow. -/
theorem take_append_byte {offset : Nat} (h : offset < bytes.size) (rest : List UInt8) :
    bytes.toList.take offset ++ bytes[offset] :: rest = bytes.toList.take (offset + 1) ++ rest := by
  rw [List.append_cons, ← Array.getElem_toList h, List.take_append_getElem]

end

/-- The bytes of a header are those that it was read from: each field starts where the one
before it ends. The fields are joined one by one to a beginning of the bytes, until that is all of
them. -/
theorem toBytes_ofBytes (bytes : Vector UInt8 length) : (ofBytes bytes).toBytes = bytes.toList := by
  obtain ⟨bytes, size⟩ := bytes
  replace size : bytes.size = 0x50 := size
  show (bytes.extract 0x00 0x04).toList ++ (bytes.extract 0x04 0x34).toList ++
    (bytes.extract 0x34 0x44).toList ++ (bytes.extract 0x44 0x46).toList ++
    [bytes[0x46], bytes[0x47], bytes[0x48], bytes[0x49], bytes[0x4A], bytes[0x4B], bytes[0x4C],
      bytes[0x4D]] ++ (bytes.extract 0x4E 0x50).toList = bytes.toList
  -- The first field starts at the front, and each other one is joined to what is there already.
  have entryPoint : (bytes.extract 0x00 0x04).toList = bytes.toList.take 0x04 :=
    take_append_extract (Nat.zero_le 0x04)
  rw [entryPoint, take_append_extract (by decide), take_append_extract (by decide),
    take_append_extract (by decide)]
  rw [take_append_byte, take_append_byte, take_append_byte, take_append_byte, take_append_byte,
    take_append_byte, take_append_byte, take_append_byte, List.append_nil]
  rw [take_append_extract (by decide)]
  exact List.take_of_length_le (Nat.le_of_eq size)

/-- The title lies behind the entry point and the logo. -/
theorem titleBytes_ofBytes (bytes : Vector UInt8 length) :
    (ofBytes bytes).titleBytes.toList = (bytes.toArray.extract 0x34 0x44).toList := by
  obtain ⟨bytes, size⟩ := bytes
  rfl

/-- The global checksum is made of the last two bytes. -/
theorem globalChecksum_ofBytes (bytes : Vector UInt8 length) :
    (ofBytes bytes).globalChecksum = joinBytes bytes[0x4E] bytes[0x4F] := by
  obtain ⟨bytes, size⟩ := bytes
  have two : (bytes.extract 0x4E 0x50).size = 2 := by
    rw [Array.size_extract, size]
    rfl
  show joinBytes (bytes.extract 0x4E 0x50)[0] (bytes.extract 0x4E 0x50)[1] = _
  rw [Array.getElem_extract, Array.getElem_extract]
  rfl

/-! ### Titles -/

/-- How a title lies in the sixteen bytes for it. A shorter one is followed by zeros, and the last
byte is a zero too or the flag for colour machines. One that takes all of them must not end in a
byte that would be the flag. -/
inductive Inscribed (title : List UInt8) : List UInt8 → Prop where
  | padded (flag : UInt8) (fits : title.length ≤ 15)
      (isFlag : flag = 0 ∨ flag.toNat.testBit 7 = true) :
      Inscribed title (title ++ List.replicate (15 - title.length) 0 ++ [flag])
  | full (fills : title.length = 16) (noFlag : ∀ last ∈ title.getLast?, last < 0x80) :
      Inscribed title title

/-- A cartridge is made for colour machines if the highest bit of the flag is set. -/
theorem supportsCgb_eq (header : Header) :
    header.supportsCgb = header.cgbFlag.toNat.testBit 7 := by
  rw [supportsCgb]
  generalize header.cgbFlag = flag
  have all : ∀ i : Fin UInt8.size,
      (UInt8.ofFin i &&& 0x80 != 0) = (UInt8.ofFin i).toNat.testBit 7 := by decide +kernel
  exact all flag.toFin

/-- The flag is the last of the sixteen bytes. -/
theorem cgbFlag_of_titleBytes {header : Header} {before : List UInt8} {last : UInt8}
    (bytes : header.titleBytes.toList = before ++ [last]) : header.cgbFlag = last := by
  have length : before.length = 15 := by
    have total : header.titleBytes.toList.length = 16 := Vector.length_toList
    rw [bytes, List.length_append] at total
    exact Nat.succ.inj total
  have get : header.titleBytes.toList[15]? = some last := by
    rw [bytes, ← length, List.getElem?_concat_length]
  rw [Vector.getElem?_toList, Vector.getElem?_eq_getElem (by decide)] at get
  exact Option.some.inj get

/-- Zeros behind a title end it. -/
theorem takeWhile_zeros {title : List UInt8} (noZero : 0 ∉ title) (count : Nat) :
    (title ++ List.replicate count 0).takeWhile (· != 0) = title := by
  have others : ∀ byte ∈ title, (byte != 0) = true := by
    intro byte mem
    refine bne_iff_ne.mpr fun zero => noZero ?_
    exact zero ▸ mem
  rw [List.takeWhile_append_of_pos others, List.takeWhile_replicate]
  exact List.append_nil title

/-- A byte is the number of a character. -/
theorem toNat_charOfByte (byte : UInt8) : (Char.ofNat byte.toNat).toNat = byte.toNat := by
  have lt : byte.toNat < 2 ^ 8 := byte.toNat_lt
  have valid : byte.toNat.isValidChar := .inl (by omega)
  rw [Char.ofNat, dif_pos valid]
  rfl

/-- Where the bytes that may belong to it are a title with zeros behind it, the title is read.
It must not have a zero of its own, or it would end there. -/
theorem title_of_take {header : Header} {title : List UInt8} (noZero : 0 ∉ title) (count : Nat)
    (taken : header.titleBytes.toList.take (if header.supportsCgb then 15 else 16) =
      title ++ List.replicate count 0) :
    header.title.toList.map Char.toNat = title.map UInt8.toNat := by
  rw [Header.title, taken, takeWhile_zeros noZero, String.toList_ofList, List.map_map]
  exact List.map_congr_left fun byte _ => toNat_charOfByte byte

/-- A title that was written into its place is read from it, each byte as the character of the
same number. Three cases: with zeros up to the end, where the whole place is looked at; with the
flag at the end, where the last byte is left out; and a title that fills its place, where the last
byte is too small to be the flag. -/
theorem Inscribed.title_eq {header : Header} {title : List UInt8} (noZero : 0 ∉ title)
    (written : Inscribed title header.titleBytes.toList) :
    header.title.toList.map Char.toNat = title.map UInt8.toNat := by
  have total : header.titleBytes.toList.length = 16 := Vector.length_toList
  generalize bytes : header.titleBytes.toList = shown at written total
  cases written with
  | padded flag fits isFlag =>
    have cgb := supportsCgb_eq header
    rw [cgbFlag_of_titleBytes bytes] at cgb
    rcases isFlag with rfl | set
    · -- Without the flag the last byte is one more zero.
      apply title_of_take noZero (15 - title.length + 1)
      rw [cgb, bytes, List.append_assoc, ← List.replicate_succ']
      exact List.take_of_length_le (by simp; omega)
    · apply title_of_take noZero (15 - title.length)
      rw [cgb, set, bytes]
      exact List.take_left' (by simp; omega)
  | full fills noFlag =>
    obtain ⟨before, last, rfl⟩ := title.eq_nil_or_concat.resolve_left (by rintro rfl; cases fills)
    rw [List.concat_eq_append] at *
    -- The last byte is one of the title's own, and too small to be the flag.
    have small : last < 0x80 := noFlag last (by simp)
    have cgb : header.supportsCgb = false := by
      rw [supportsCgb_eq, cgbFlag_of_titleBytes bytes]
      exact Nat.testBit_lt_two_pow (UInt8.lt_iff_toNat_lt.mp small)
    apply title_of_take noZero 0
    rw [cgb, bytes]
    exact (List.take_of_length_le (Nat.le_of_eq fills)).trans (List.append_nil _).symm

end Header

/-! ### Cartridges -/

namespace Cartridge

variable {image : Array UInt8} {cartridge : Cartridge}

/-- An image that is long enough has a header. -/
theorem size_headerPart (long : Header.start + Header.length ≤ image.size) :
    (image.extract Header.start (Header.start + Header.length)).size = Header.length := by
  rw [Array.size_extract, Nat.min_eq_left long]
  exact Nat.add_sub_cancel_left _ _

/-- It makes a cartridge with this header. -/
theorem ofBytes_of_le (long : Header.start + Header.length ≤ image.size) :
    ofBytes image =
      .ok ⟨image, Header.ofBytes
        ⟨image.extract Header.start (Header.start + Header.length), size_headerPart long⟩⟩ := by
  unfold ofBytes
  exact dif_pos long

/-- A shorter image makes none, and its size is told. -/
theorem ofBytes_of_lt (short : image.size < Header.start + Header.length) :
    ofBytes image = .error (.truncated image.size) := by
  unfold ofBytes
  exact dif_neg (Nat.not_le_of_lt short)

/-- What a cartridge was made of. -/
theorem ofBytes_eq_ok (made : ofBytes image = .ok cartridge) :
    ∃ long : Header.start + Header.length ≤ image.size,
      cartridge = ⟨image, Header.ofBytes
        ⟨image.extract Header.start (Header.start + Header.length), size_headerPart long⟩⟩ := by
  by_cases long : Header.start + Header.length ≤ image.size
  · rw [ofBytes_of_le long] at made
    exact ⟨long, (Except.ok.inj made).symm⟩
  · rw [ofBytes_of_lt (Nat.lt_of_not_le long)] at made
    cases made

/-- The bytes of the title lie at 0x134 in the image. -/
theorem titleBytes_of_made (made : ofBytes image = .ok cartridge) :
    cartridge.header.titleBytes.toList = (image.extract 0x134 0x144).toList := by
  obtain ⟨long, rfl⟩ := ofBytes_eq_ok made
  rw [Header.titleBytes_ofBytes, Array.extract_extract]
  rfl

/-- Reading a header loses and misplaces nothing.

1. A file that can be read is loaded as its bytes are.
2. An image makes a cartridge exactly if it has room for a header.
3. If it has not, its size is told.
4. If it has, the cartridge keeps the image as it is. The fields of the header, one after another,
   are the bytes of the image from 0x100 to 0x14F. A title without a zero that was written into
   its place, in one of the ways that `Header.Inscribed` lists, is read as it was written, byte by
   byte.

The clauses are `ofBytes_eq_ok`, `ofBytes_of_lt`, `Header.toBytes_ofBytes` and
`Header.Inscribed.title_eq`. -/
theorem loading_loses_nothing (image : Array UInt8) :
    ofFile (.ok image) = ofBytes image ∧
      ((∃ cartridge, ofBytes image = .ok cartridge) ↔ 0x150 ≤ image.size) ∧
      (image.size < 0x150 → ofBytes image = .error (.truncated image.size)) ∧
      ∀ cartridge, ofBytes image = .ok cartridge →
        cartridge.image = image ∧
        cartridge.header.toBytes = (image.extract 0x100 0x150).toList ∧
        ∀ title : List UInt8, 0 ∉ title →
          Header.Inscribed title (image.extract 0x134 0x144).toList →
            cartridge.header.title.toList.map Char.toNat = title.map UInt8.toNat := by
  refine ⟨rfl, ⟨?_, ?_⟩, ?_, ?_⟩
  · rintro ⟨cartridge, made⟩
    exact (ofBytes_eq_ok made).1
  · intro long
    exact ⟨_, ofBytes_of_le long⟩
  · exact ofBytes_of_lt
  · intro cartridge made
    have titleBytes := titleBytes_of_made made
    obtain ⟨long, rfl⟩ := ofBytes_eq_ok made
    refine ⟨rfl, Header.toBytes_ofBytes _, ?_⟩
    intro title noZero written
    rw [← titleBytes] at written
    exact written.title_eq noZero

/-- A title of two bytes, the second beyond ASCII, in front of the flag for colour machines. -/
theorem loading_loses_nothing_coloured :
    let image : Array UInt8 := Array.replicate 0x134 0 ++ #[0x41, 0xE9] ++ Array.replicate 13 0 ++
      #[0xC0] ++ Array.replicate 12 0
    0x150 ≤ image.size ∧ 0 ∉ [(0x41 : UInt8), 0xE9] ∧
      Header.Inscribed [0x41, 0xE9] (image.extract 0x134 0x144).toList ∧
      ∃ cartridge, ofBytes image = .ok cartridge ∧
        cartridge.header.title.toList.map Char.toNat = [0x41, 0xE9] := by
  intro image
  have long : 0x150 ≤ image.size := by decide +kernel
  have noZero : 0 ∉ [(0x41 : UInt8), 0xE9] := by decide
  have lies : (image.extract 0x134 0x144).toList =
      [0x41, 0xE9] ++ List.replicate (15 - 2) 0 ++ [0xC0] := by decide +kernel
  have written : Header.Inscribed [0x41, 0xE9] (image.extract 0x134 0x144).toList := by
    rw [lies]
    exact .padded 0xC0 (by decide) (.inr (by decide))
  obtain ⟨-, loads, -, read⟩ := loading_loses_nothing image
  obtain ⟨cartridge, made⟩ := loads.mpr long
  exact ⟨long, noZero, written, cartridge, made, (read cartridge made).2.2 _ noZero written⟩

end Cartridge

end GameBoy
