/-!
# `GameBoy.Cartridge.Checksum`: the two checksums of a cartridge

The header's checksum is taken over part of the header, and the global one over
the whole image but for the two bytes in which it is stored itself. Bytes that a
short image does not have count for nothing. Both wrap around, the first at 256
and the second at 65536.
-/

set_option autoImplicit false

namespace GameBoy.Checksum

/-- The bytes that the header's checksum covers. -/
def headerBytes (image : List UInt8) : List UInt8 := (image.drop 0x134).take 0x19

/-- The header's checksum: from zero, each byte and one more is taken off. -/
def header (image : List UInt8) : UInt8 :=
  (headerBytes image).foldl (fun sum byte => sum - byte - 1) 0

/-- The bytes that the global checksum covers: all but those at the two offsets,
0x14E and 0x14F, at which it is stored. -/
def globalBytes (image : List UInt8) : List UInt8 := image.take 0x14E ++ image.drop 0x150

/-- The global checksum: the sum of the bytes that it covers. -/
def global (image : List UInt8) : UInt16 :=
  (globalBytes image).foldl (fun sum byte => sum + byte.toUInt16) 0

end GameBoy.Checksum
