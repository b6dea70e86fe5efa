import GameBoy.Bus.Region

/-!
# `GameBoy.Bus.Cell`: the storage behind the address space

The writable part of the machine is a set of cells in seven banks. `Place.ofAddr`
says what an address leads to: a byte of read-only memory, a cell, or nothing.
Work memory and its echo lead to the same cells, and no other two addresses
share one.

A cell is named by its bank and its place in it, and a place is a number below the
size of the bank. So every cell exists, and reading or writing one cannot fail. The
bounds are discharged once, where an address is decoded. Which addresses share a
cell is then a question of arithmetic on addresses alone. Main statement: a write to
a cell changes that cell and no other (`Cells.get_set`).
-/

set_option autoImplicit false

namespace GameBoy

/-- One cell of storage. -/
inductive Cell where
  | video (index : Fin 0x2000)
  | external (index : Fin 0x2000)
  | work (index : Fin 0x2000)
  | oam (index : Fin 0xA0)
  | io (index : Fin 0x80)
  | high (index : Fin 0x7F)
  | interruptEnable
deriving DecidableEq

/-- What an address leads to. -/
inductive Place where
  /-- The cartridge, or the boot image over it. -/
  | rom
  | cell (cell : Cell)
  /-- Nothing: a read answers with every bit set. -/
  | unusable
deriving DecidableEq

/-- What an address leads to. -/
def Place.ofAddr (addr : UInt16) : Place :=
  match h : Region.ofAddr addr with
  | .bootOverlay | .romBank0 | .romWindow => .rom
  | .videoRam => .cell (.video ⟨Region.offset addr, Region.offset_lt_of_eq h⟩)
  | .externalRam => .cell (.external ⟨Region.offset addr, Region.offset_lt_of_eq h⟩)
  | .workRam => .cell (.work ⟨Region.offset addr, Region.offset_lt_of_eq h⟩)
  | .echoRam =>
    .cell (.work ⟨Region.offset addr,
      Nat.lt_trans (Region.offset_lt_of_eq h) (by simp only [Region.size]; omega)⟩)
  | .oam => .cell (.oam ⟨Region.offset addr, Region.offset_lt_of_eq h⟩)
  | .unusable => .unusable
  | .io => .cell (.io ⟨Region.offset addr, Region.offset_lt_of_eq h⟩)
  | .highRam => .cell (.high ⟨Region.offset addr, Region.offset_lt_of_eq h⟩)
  | .interruptEnable => .cell .interruptEnable

/-- The contents of all cells. -/
structure Cells where
  video : Vector UInt8 0x2000
  external : Vector UInt8 0x2000
  work : Vector UInt8 0x2000
  oam : Vector UInt8 0xA0
  io : Vector UInt8 0x80
  high : Vector UInt8 0x7F
  interruptEnable : UInt8

namespace Cells

/-- Every cell zero, as at power-on. -/
def zero : Cells where
  video := Vector.replicate _ 0
  external := Vector.replicate _ 0
  work := Vector.replicate _ 0
  oam := Vector.replicate _ 0
  io := Vector.replicate _ 0
  high := Vector.replicate _ 0
  interruptEnable := 0

/-- The content of a cell. -/
def get (cells : Cells) : Cell → UInt8
  | .video index => cells.video[index]
  | .external index => cells.external[index]
  | .work index => cells.work[index]
  | .oam index => cells.oam[index]
  | .io index => cells.io[index]
  | .high index => cells.high[index]
  | .interruptEnable => cells.interruptEnable

/-- Replaces the content of a cell. -/
def set (cells : Cells) (cell : Cell) (value : UInt8) : Cells :=
  let ⟨video, external, work, oam, io, high, interruptEnable⟩ := cells
  match cell with
  | .video index => ⟨video.set index value, external, work, oam, io, high, interruptEnable⟩
  | .external index => ⟨video, external.set index value, work, oam, io, high, interruptEnable⟩
  | .work index => ⟨video, external, work.set index value, oam, io, high, interruptEnable⟩
  | .oam index => ⟨video, external, work, oam.set index value, io, high, interruptEnable⟩
  | .io index => ⟨video, external, work, oam, io.set index value, high, interruptEnable⟩
  | .high index => ⟨video, external, work, oam, io, high.set index value, interruptEnable⟩
  | .interruptEnable => ⟨video, external, work, oam, io, high, value⟩

/-- A write to a cell changes that cell and no other. -/
theorem get_set (cells : Cells) (cell other : Cell) (value : UInt8) :
    (cells.set cell value).get other = if cell = other then value else cells.get other := by
  cases cell <;> cases other <;> simp [set, get, Vector.getElem_set, Fin.ext_iff]

end Cells

end GameBoy
