import GameBoy.Memory.Basic

/-!
# `GameBoy.Cartridge.Mapper`: the cartridge as the machine sees it

The lower half of the address space belongs to the cartridge. Only cartridges
without a bank controller are modelled: the image is seen as it is, its end is
followed by bytes with every bit set, and writes have no effect. Each write is
reported, and so is a cartridge that declares a controller, when it is put in.
-/

set_option autoImplicit false

namespace GameBoy

/-- A cartridge image plugged into the machine. -/
structure Mapper where
  image : Array UInt8

namespace Mapper

/-- The byte at an address below 0x8000. -/
def read (mapper : Mapper) (addr : UInt16) : UInt8 := mapper.image.getD addr.toNat 0xFF

/-- The name of the way in which the image is seen. -/
def name (_ : Mapper) : String := "ROM ONLY"

/-- The declared cartridge types that need no bank controller: plain images,
with or without external memory and a battery. -/
def plainTypes : List UInt8 := [0x00, 0x08, 0x09]

/-- What plugging in a cartridge of a declared type has to report. -/
def onInsert (type : UInt8) : List Event :=
  if type ∈ plainTypes then [] else [.controllerMissing type]

instance : Memory Mapper where
  read := read
  write mapper _ _ := mapper
  remark _ addr value := some (.romWriteIgnored value addr)

end Mapper

end GameBoy
