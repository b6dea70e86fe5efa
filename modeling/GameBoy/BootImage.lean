import GameBoy.File

/-!
# `GameBoy.BootImage`: the program run at power-on

The boot image is a page of 256 bytes that lies over the first page of the
cartridge until the program takes it away. Its length is part of its type, and the
one thing that is checked when it is read from a file.
-/

set_option autoImplicit false

namespace GameBoy

/-- A boot image. -/
structure BootImage where
  bytes : Vector UInt8 0x100
deriving DecidableEq

/-- Why there is no boot image. -/
inductive BootError where
  | unreadable (reason : FileError)
  | wrongSize (size : Nat)
deriving DecidableEq

/-- The reason in words. -/
def BootError.message : BootError → String
  | unreadable reason => "failed to read boot ROM: " ++ reason.message
  | wrongSize size => "boot ROM must be exactly 256 bytes, got " ++ toString size

namespace BootImage

/-- The image made of exactly the given bytes. -/
def ofBytes (bytes : Array UInt8) : Except BootError BootImage :=
  if h : bytes.size = 0x100 then .ok ⟨⟨bytes, h⟩⟩ else .error (.wrongSize bytes.size)

/-- The image in a file. -/
def ofFile : FileContent → Except BootError BootImage
  | .ok bytes => ofBytes bytes
  | .error reason => .error (.unreadable reason)

/-- The byte at an offset. -/
def read (image : BootImage) (offset : UInt8) : UInt8 := image.bytes[offset.toFin]

/-- The image as it is shown among other data. -/
def describe (image : BootImage) : String :=
  "BootRom(" ++ toString image.bytes.size ++ " bytes)"

end BootImage

end GameBoy
