import GameBoy.File
import GameBoy.Text.Utf8
import GameBoy.Json.Scalar
import GameBoy.Cartridge.Header
import GameBoy.Cartridge.Checksum

/-!
# `GameBoy.Cartridge.Basic`: a loaded cartridge

A cartridge is an image that is long enough to hold a header, with the header
read from it. Loading judges nothing else: an image whose checksums do not match
is a cartridge too, and so is one whose length is not the one that its header
declares.

Checksums are computed when they are asked for, from the image as a whole, and
compared with what the header states. `Cartridge.summary` is what is shown of all
that.
-/

set_option autoImplicit false

namespace GameBoy

/-- A cartridge image with its header. -/
structure Cartridge where
  image : Array UInt8
  header : Header
deriving DecidableEq

/-- Why there is no cartridge. -/
inductive CartridgeError where
  | unreadable (reason : FileError)
  | truncated (size : Nat)
deriving DecidableEq

/-- The reason in words. -/
def CartridgeError.message : CartridgeError → String
  | unreadable reason => "failed to read cartridge: " ++ reason.message
  | truncated size =>
    "cartridge image is " ++ toString size ++ " bytes, too short to hold a header"

namespace Cartridge

/-- The cartridge with the given image. -/
def ofBytes (image : Array UInt8) : Except CartridgeError Cartridge :=
  if h : Header.start + Header.length ≤ image.size then
    let bytes : Vector UInt8 Header.length :=
      ⟨image.extract Header.start (Header.start + Header.length), by
        rw [Array.size_extract]
        omega⟩
    .ok ⟨image, Header.ofBytes bytes⟩
  else .error (.truncated image.size)

/-- The cartridge in a file. -/
def ofFile : FileContent → Except CartridgeError Cartridge
  | .ok image => ofBytes image
  | .error reason => .error (.unreadable reason)

/-- The header's checksum, computed. -/
def headerChecksum (cartridge : Cartridge) : UInt8 := Checksum.header cartridge.image.toList

/-- The global checksum, computed. -/
def computedGlobalChecksum (cartridge : Cartridge) : UInt16 :=
  Checksum.global cartridge.image.toList

/-- Whether the header states its own checksum. -/
def headerChecksumOk (cartridge : Cartridge) : Bool :=
  cartridge.headerChecksum == cartridge.header.checksum

/-- Whether the header states the global checksum. -/
def globalChecksumOk (cartridge : Cartridge) : Bool :=
  cartridge.computedGlobalChecksum == cartridge.header.globalChecksum

/-- A number that may be unknown. -/
def sizeField (size : Option Nat) : Json.Scalar :=
  match size with
  | some size => .number size
  | none => .null

/-- What the header says, for display. -/
def summary (cartridge : Cartridge) : List (String × Json.Scalar) :=
  let header := cartridge.header
  [("title", .string header.title),
    ("cartridge_type", .number header.type.toNat),
    ("cartridge_type_name", .string header.typeName),
    ("rom_size_bytes", sizeField header.romSizeBytes),
    ("ram_size_bytes", sizeField header.ramSizeBytes),
    ("image_bytes", .number cartridge.image.size),
    ("cgb", .bool header.supportsCgb),
    ("sgb", .bool header.supportsSgb),
    ("destination_code", .number header.destination.toNat),
    ("old_licensee_code", .number header.oldLicensee.toNat),
    ("new_licensee_code", .string (String.ofList (Utf8.decodeLossy header.newLicensee.toList))),
    ("mask_rom_version", .number header.version.toNat),
    ("header_checksum", .number header.checksum.toNat),
    ("header_checksum_ok", .bool cartridge.headerChecksumOk),
    ("global_checksum", .number header.globalChecksum.toNat),
    ("global_checksum_ok", .bool cartridge.globalChecksumOk)]

end Cartridge

end GameBoy
