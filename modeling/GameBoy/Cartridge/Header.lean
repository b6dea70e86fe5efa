import GameBoy.Word

/-!
# `GameBoy.Cartridge.Header`: what a cartridge says about itself

Eighty bytes at 0x100 describe the cartridge. `Header.ofBytes` takes them apart,
and `Header.toBytes` puts the parts one after another again.

The fields are kept as they are in the image, and what they stand for is worked out
when it is asked for. A code that is not known has no meaning but is kept all the
same, so nothing is lost by reading a header. The title and the flag for colour
machines share a byte: the last one of the title is the flag, and belongs to the
title only where it is not raised.
-/

set_option autoImplicit false

namespace GameBoy

/-- The header of a cartridge, field by field. -/
structure Header where
  entryPoint : Vector UInt8 4
  logo : Vector UInt8 48
  /-- The title. Its last byte doubles as the flag for colour machines. -/
  titleBytes : Vector UInt8 16
  newLicensee : Vector UInt8 2
  sgbFlag : UInt8
  type : UInt8
  romSize : UInt8
  ramSize : UInt8
  destination : UInt8
  oldLicensee : UInt8
  version : UInt8
  checksum : UInt8
  /-- The global checksum, upper byte first. -/
  globalBytes : Vector UInt8 2
deriving DecidableEq

namespace Header

/-- Where the header starts in an image. -/
def start : Nat := 0x100

/-- How many bytes the header has. -/
def length : Nat := 0x50

/-- Takes the bytes of a header apart. -/
def ofBytes (bytes : Vector UInt8 length) : Header where
  entryPoint := bytes.extract 0x00 0x04
  logo := bytes.extract 0x04 0x34
  titleBytes := bytes.extract 0x34 0x44
  newLicensee := bytes.extract 0x44 0x46
  sgbFlag := bytes[0x46]
  type := bytes[0x47]
  romSize := bytes[0x48]
  ramSize := bytes[0x49]
  destination := bytes[0x4A]
  oldLicensee := bytes[0x4B]
  version := bytes[0x4C]
  checksum := bytes[0x4D]
  globalBytes := bytes.extract 0x4E 0x50

/-- The bytes of a header, in the order of its fields. -/
def toBytes (header : Header) : List UInt8 :=
  header.entryPoint.toList ++ header.logo.toList ++ header.titleBytes.toList ++
    header.newLicensee.toList ++
    [header.sgbFlag, header.type, header.romSize, header.ramSize, header.destination,
      header.oldLicensee, header.version, header.checksum] ++
    header.globalBytes.toList

/-- The flag for colour machines. -/
def cgbFlag (header : Header) : UInt8 := header.titleBytes[15]

/-- Whether the cartridge is made for colour machines too. -/
def supportsCgb (header : Header) : Bool := header.cgbFlag &&& 0x80 != 0

/-- Whether the cartridge uses the television adapter. -/
def supportsSgb (header : Header) : Bool := header.sgbFlag == 0x03

/-- The title: the title bytes up to the first zero, each as the character of
the same number. A flag for colour machines is no part of it. -/
def title (header : Header) : String :=
  let bytes := header.titleBytes.toList.take (if header.supportsCgb then 15 else 16)
  String.ofList ((bytes.takeWhile (· != 0)).map fun byte => Char.ofNat byte.toNat)

/-- The names of the known cartridge types. -/
def typeNames : List (UInt8 × String) :=
  [(0x00, "ROM ONLY"), (0x01, "MBC1"), (0x02, "MBC1+RAM"), (0x03, "MBC1+RAM+BATTERY"),
    (0x05, "MBC2"), (0x06, "MBC2+BATTERY"), (0x08, "ROM+RAM"), (0x09, "ROM+RAM+BATTERY"),
    (0x0B, "MMM01"), (0x0C, "MMM01+RAM"), (0x0D, "MMM01+RAM+BATTERY"),
    (0x0F, "MBC3+TIMER+BATTERY"), (0x10, "MBC3+TIMER+RAM+BATTERY"), (0x11, "MBC3"),
    (0x12, "MBC3+RAM"), (0x13, "MBC3+RAM+BATTERY"), (0x19, "MBC5"), (0x1A, "MBC5+RAM"),
    (0x1B, "MBC5+RAM+BATTERY"), (0x1C, "MBC5+RUMBLE"), (0x1D, "MBC5+RUMBLE+RAM"),
    (0x1E, "MBC5+RUMBLE+RAM+BATTERY"), (0x20, "MBC6"),
    (0x22, "MBC7+SENSOR+RUMBLE+RAM+BATTERY"), (0xFC, "POCKET CAMERA"), (0xFD, "BANDAI TAMA5"),
    (0xFE, "HuC3"), (0xFF, "HuC1+RAM+BATTERY")]

/-- The name of the cartridge's type. -/
def typeName (header : Header) : String := (typeNames.lookup header.type).getD "UNKNOWN"

/-- The declared size of the image in bytes, if the code is a known one. -/
def romSizeBytes (header : Header) : Option Nat :=
  if header.romSize ≤ 0x08 then some ((2 * 0x4000) <<< header.romSize.toNat)
  else if header.romSize = 0x52 then some (72 * 0x4000)
  else if header.romSize = 0x53 then some (80 * 0x4000)
  else if header.romSize = 0x54 then some (96 * 0x4000)
  else none

/-- The declared size of the external memory in bytes, for each known code. -/
def ramSizes : List (UInt8 × Nat) :=
  [(0x00, 0), (0x01, 2 * 1024), (0x02, 8 * 1024), (0x03, 32 * 1024), (0x04, 128 * 1024),
    (0x05, 64 * 1024)]

/-- The declared size of the external memory in bytes, if the code is a known
one. -/
def ramSizeBytes (header : Header) : Option Nat := ramSizes.lookup header.ramSize

/-- The stated global checksum. -/
def globalChecksum (header : Header) : UInt16 :=
  joinBytes header.globalBytes[0] header.globalBytes[1]

end Header

end GameBoy
