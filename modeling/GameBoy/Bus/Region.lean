/-!
# `GameBoy.Bus.Region`: how the address space is divided

Twelve regions follow one another and cover the 65536 addresses. A region is
known by its first address and its size.

An address is decoded by comparing it with one threshold after another, from below.
The first addresses and the sizes are a table of their own, and that the two agree
is proved and not assumed: how far an address lies behind the first of its region is
a number below the region's size, which is what the storage behind it needs to know.
Main statement: an address lies within the region it decodes to (`Region.within`).
-/

set_option autoImplicit false

namespace GameBoy

/-- A region of the address space. -/
inductive Region where
  /-- The first page, where the boot image can lie over the cartridge. -/
  | bootOverlay
  /-- The cartridge's fixed bank. -/
  | romBank0
  /-- The cartridge's switchable bank. -/
  | romWindow
  | videoRam
  | externalRam
  | workRam
  /-- A second view of the first part of work memory. -/
  | echoRam
  /-- Sprite attributes. -/
  | oam
  /-- Addresses with nothing behind them. -/
  | unusable
  /-- Device registers. -/
  | io
  | highRam
  /-- The interrupt enable register. -/
  | interruptEnable
deriving DecidableEq

namespace Region

/-- The region of an address. -/
def ofAddr (addr : UInt16) : Region :=
  let a := addr.toNat
  if a < 0x0100 then bootOverlay
  else if a < 0x4000 then romBank0
  else if a < 0x8000 then romWindow
  else if a < 0xA000 then videoRam
  else if a < 0xC000 then externalRam
  else if a < 0xE000 then workRam
  else if a < 0xFE00 then echoRam
  else if a < 0xFEA0 then oam
  else if a < 0xFF00 then unusable
  else if a < 0xFF80 then io
  else if a < 0xFFFF then highRam
  else interruptEnable

/-- The first address of a region. -/
def start : Region → Nat
  | bootOverlay => 0x0000
  | romBank0 => 0x0100
  | romWindow => 0x4000
  | videoRam => 0x8000
  | externalRam => 0xA000
  | workRam => 0xC000
  | echoRam => 0xE000
  | oam => 0xFE00
  | unusable => 0xFEA0
  | io => 0xFF00
  | highRam => 0xFF80
  | interruptEnable => 0xFFFF

/-- How many addresses a region has. -/
def size : Region → Nat
  | bootOverlay => 0x0100
  | romBank0 => 0x3F00
  | romWindow => 0x4000
  | videoRam => 0x2000
  | externalRam => 0x2000
  | workRam => 0x2000
  | echoRam => 0x1E00
  | oam => 0x00A0
  | unusable => 0x0060
  | io => 0x0080
  | highRam => 0x007F
  | interruptEnable => 0x0001

/-- The name of a region. -/
def name : Region → String
  | bootOverlay => "BootOverlay"
  | romBank0 => "RomBank0"
  | romWindow => "RomWindow"
  | videoRam => "VideoRam"
  | externalRam => "ExternalRam"
  | workRam => "WorkRam"
  | echoRam => "EchoRam"
  | oam => "Oam"
  | unusable => "Unusable"
  | io => "Io"
  | highRam => "HighRam"
  | interruptEnable => "InterruptEnable"

/-- Whether a region contains the address `a`. -/
def Contains (region : Region) (a : Nat) : Prop := region.start ≤ a ∧ a < region.start + region.size

/-- An address lies within the region it decodes to. -/
theorem within (addr : UInt16) : (ofAddr addr).Contains addr.toNat := by
  have top : addr.toNat < 0x10000 := addr.toNat_lt
  unfold ofAddr
  dsimp only
  -- Each threshold settles one region and leaves the ones above it.
  iterate 11
    refine iteInduction (motive := (Contains · addr.toNat)) (fun below => ?_) (fun above => ?_)
    · simp only [Contains, start, size]
      omega
  simp only [Contains, start, size]
  omega

/-- How far an address lies behind the first of its region. -/
def offset (addr : UInt16) : Nat := addr.toNat - (ofAddr addr).start

/-- An offset is smaller than the size of its region. -/
theorem offset_lt (addr : UInt16) : offset addr < (ofAddr addr).size := by
  have ⟨low, high⟩ := within addr
  unfold offset
  omega

/-- The same for a region that is known. -/
theorem offset_lt_of_eq {addr : UInt16} {region : Region} (h : ofAddr addr = region) :
    offset addr < region.size :=
  h ▸ offset_lt addr

end Region

end GameBoy
