import GameBoy.Bus.Cell
import GameBoy.BootImage
import GameBoy.Cartridge.Mapper
import GameBoy.Memory.Basic
import GameBoy.Word

/-!
# `GameBoy.Bus.Basic`: the memory map of the machine

The bus connects the processor to the cartridge, the boot image and the cells.
The boot image hides the first page of the cartridge from power-on until the
first write to `Bus.overlayAddr`; it never comes back. Read-only memory takes no
writes, and the device registers are plain cells.

Every byte that is written to that address takes the boot image away, zero
included, and is kept in the cell there as any other byte would be. The image
stays in the bus afterwards and is not looked at any more.

Devices that would change a register on their own are not here. They take part
through `Bus.requestInterrupts`, which sets bits in the cell of the request
register and does not go through the memory map.
-/

set_option autoImplicit false

namespace GameBoy

/-- The memory map with its contents. -/
structure Bus where
  mapper : Mapper
  boot : Option BootImage
  /-- Whether the boot image, if there is one, hides the first page. -/
  overlay : Bool
  cells : Cells

namespace Bus

/-- The address whose first write takes the boot image away. -/
def overlayAddr : UInt16 := 0xFF50

/-- The cell in which interrupts are requested. -/
def requestCell : Cell := .io 0x0F

/-- The bus at power-on. -/
def powerOn (mapper : Mapper) (boot : Option BootImage) : Bus where
  mapper
  boot
  overlay := boot.isSome
  cells := Cells.zero

/-- The byte of read-only memory at an address below 0x8000. The boot image covers
the first page only, and only while the overlay is on. -/
def readRom (bus : Bus) (addr : UInt16) : UInt8 :=
  match bus.boot with
  | some image =>
    if bus.overlay && addr < 0x0100 then image.read (lowByte addr) else bus.mapper.read addr
  | none => bus.mapper.read addr

/-- The byte at an address. -/
def read (bus : Bus) (addr : UInt16) : UInt8 :=
  match Place.ofAddr addr with
  | .rom => bus.readRom addr
  | .cell cell => bus.cells.get cell
  | .unusable => 0xFF

/-- The bus after a write. One to read-only memory or to an address with nothing
behind it has no effect. -/
def write (bus : Bus) (addr : UInt16) (value : UInt8) : Bus :=
  match Place.ofAddr addr with
  | .cell cell =>
    let ⟨mapper, boot, overlay, cells⟩ := bus
    ⟨mapper, boot, overlay && addr != overlayAddr, cells.set cell value⟩
  | .rom | .unusable => bus

/-- What a write has to report. -/
def remark (bus : Bus) (addr : UInt16) (value : UInt8) : Option Event :=
  match Place.ofAddr addr with
  | .rom => Memory.remark bus.mapper addr value
  | .cell _ => if bus.overlay && addr == overlayAddr then some (.overlayDisabled value) else none
  | .unusable => none

/-- Requests the interrupts of the given bits, of which the upper three count for
nothing. -/
def requestInterrupts (bus : Bus) (bits : UInt8) : Bus :=
  { bus with
    cells := bus.cells.set requestCell (bus.cells.get requestCell ||| (bits &&& 0x1F)) }

instance : Memory Bus where
  read := read
  write := write
  remark := remark

end Bus

end GameBoy
