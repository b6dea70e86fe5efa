import GameBoy.Bus.Basic

/-!
# `GameBoy.Proofs.Bus.Mirror`: one memory with one mirror

The bus decodes an address into a region, takes the offset in the region and finds a
cell in one of seven banks. What a program sees of this is simpler. An address can be
written or it cannot, and some addresses are echoes of others. The layout is therefore
told a second time here, by its bounds alone: `Writable` are the addresses that take a
byte, and `homeAddr` is the address by which a cell is known. An echo address goes by the
address in work memory that it repeats, and every other address by itself.

`Place.bounds` compares the two tellings, region by region, and is the only place that
looks at regions and offsets. Two writable addresses then name the same cell just if they
have one home (`Place.cell_eq_iff`), since no two banks overlap (`Cell.home_inj`).

A write can be seen at a writable address, at a fixed one, or nowhere, and each has its
lemma: the same cell (`Bus.read_write_of_home`), another cell
(`Bus.read_write_of_apart`), and an address without a cell, where one write uncovers the
cartridge (`Bus.read_write_of_not_writable`). Main statements:

* `Place.bounds`: an address leads where the bounds say, to a cell at its home.
* `Bus.read_write_mirrored`: what any address answers after a write to any address.
* `Bus.read_write_covered`: the short form, for a write that leaves the boot image alone.
-/

set_option autoImplicit false

namespace GameBoy

/-! ### The layout by its bounds -/

/-- The addresses that take a byte: from video memory to the sprite attributes, and the
topmost page. -/
def Writable (addr : UInt16) : Prop := 0x8000 ≤ addr ∧ addr ≤ 0xFE9F ∨ 0xFF00 ≤ addr

instance (addr : UInt16) : Decidable (Writable addr) := inferInstanceAs (Decidable (_ ∨ _))

/-- The address by which the cell of an address is known. -/
def homeAddr (addr : UInt16) : UInt16 :=
  if 0xE000 ≤ addr ∧ addr ≤ 0xFDFF then addr - 0x2000 else addr

/-- An address in work memory and the address that repeats it. -/
def EchoPair (work echo : UInt16) : Prop :=
  0xC000 ≤ work ∧ work ≤ 0xDDFF ∧ echo = work + 0x2000

/-- The bounds of the writable addresses, as numbers. -/
theorem writable_iff (addr : UInt16) :
    Writable addr ↔
      0x8000 ≤ addr.toNat ∧ addr.toNat ≤ 0xFE9F ∨ 0xFF00 ≤ addr.toNat := by
  simp only [Writable, UInt16.le_iff_toNat_le]
  rfl

/-- The home of an address, as a number. -/
theorem toNat_homeAddr (addr : UInt16) :
    (homeAddr addr).toNat =
      if 0xE000 ≤ addr.toNat ∧ addr.toNat ≤ 0xFDFF then addr.toNat - 0x2000 else addr.toNat := by
  have bounds : (0xE000 ≤ addr ∧ addr ≤ 0xFDFF) ↔
      0xE000 ≤ addr.toNat ∧ addr.toNat ≤ 0xFDFF := by
    simp only [UInt16.le_iff_toNat_le]
    rfl
  unfold homeAddr
  by_cases echo : 0xE000 ≤ addr.toNat ∧ addr.toNat ≤ 0xFDFF
  · rw [if_pos echo, if_pos (bounds.mpr echo), UInt16.toNat_sub_of_le]
    · rfl
    · rw [UInt16.le_iff_toNat_le]
      show 0x2000 ≤ addr.toNat
      omega
  · rw [if_neg echo, if_neg (mt bounds.mp echo)]

/-- Two addresses of one cell are the same or an echo pair. If neither is an echo, or both are,
the home gives the address back; else the one is the other moved by 0x2000. Which of the two is
the echo is left open, so a pair may be found either way round. -/
theorem eq_or_echoPair {addr other : UInt16} (same : homeAddr addr = homeAddr other) :
    addr = other ∨ EchoPair addr other ∨ EchoPair other addr := by
  have pair : ∀ {work echo : UInt16}, 0xE000 ≤ echo.toNat → echo.toNat ≤ 0xFDFF →
      work.toNat = echo.toNat - 0x2000 → EchoPair work echo := by
    intro work echo low high apart
    refine ⟨?_, ?_, ?_⟩
    · rw [UInt16.le_iff_toNat_le]
      show 0xC000 ≤ work.toNat
      omega
    · rw [UInt16.le_iff_toNat_le]
      show work.toNat ≤ 0xDDFF
      omega
    · apply UInt16.toNat_inj.mp
      rw [UInt16.toNat_add]
      show echo.toNat = (work.toNat + 0x2000) % 0x10000
      omega
  have homes := congrArg UInt16.toNat same
  rw [toNat_homeAddr, toNat_homeAddr] at homes
  split at homes <;> split at homes
  · exact .inl (UInt16.toNat_inj.mp (by omega))
  · exact .inr (.inr (pair (by omega) (by omega) (by omega)))
  · exact .inr (.inl (pair (by omega) (by omega) (by omega)))
  · exact .inl (UInt16.toNat_inj.mp homes)

/-! ### The layout by regions and banks -/

/-- The home of a cell, as a number: each bank lies at its own first address. -/
def Cell.home : Cell → Nat
  | .video index => 0x8000 + index
  | .external index => 0xA000 + index
  | .work index => 0xC000 + index
  | .oam index => 0xFE00 + index
  | .io index => 0xFF00 + index
  | .high index => 0xFF80 + index
  | .interruptEnable => 0xFFFF

/-- No two cells have the same home. -/
theorem Cell.home_inj {cell other : Cell} (same : cell.home = other.home) : cell = other := by
  -- Two cells of one bank differ in their index, and the banks do not overlap.
  cases cell <;> cases other <;>
    simp only [home, video.injEq, external.injEq, work.injEq, oam.injEq, io.injEq, high.injEq,
      reduceCtorEq, Fin.ext_iff] at same ⊢ <;>
    omega

namespace Place

/-- What the bounds say of an address that leads to a place. -/
def Bounds (addr : UInt16) : Place → Prop
  | rom => addr.toNat < 0x8000
  | cell found => Writable addr ∧ (homeAddr addr).toNat = found.home
  | unusable => 0xFEA0 ≤ addr.toNat ∧ addr.toNat < 0xFF00

/-- Each address leads where the bounds say. A case for each region: the region confines the
address (`Region.within`), and what is left is to subtract its first address. -/
theorem bounds (addr : UInt16) : Bounds addr (ofAddr addr) := by
  have within := Region.within addr
  unfold ofAddr
  -- The region gives the bounds, and the offset in it is the index in the bank.
  split <;> next region =>
    rw [region] at within
    simp only [Region.Contains, Region.start, Region.size] at within
    simp only [Bounds, writable_iff, toNat_homeAddr, Cell.home, Region.offset, region,
      Region.start]
    grind

/-- An address that leads to a cell is writable, and the cell lies at its home. -/
theorem writable_and_home_of_cell {addr : UInt16} {cell : Cell} (h : ofAddr addr = .cell cell) :
    Writable addr ∧ (homeAddr addr).toNat = cell.home := by
  have told := bounds addr
  rw [h] at told
  exact told

/-- An address that leads nowhere lies in the gap below the topmost page. -/
theorem gap_of_unusable {addr : UInt16} (h : ofAddr addr = .unusable) :
    0xFEA0 ≤ addr.toNat ∧ addr.toNat < 0xFF00 := by
  have told := bounds addr
  rw [h] at told
  exact told

/-- The lower half of the address space leads to read-only memory. -/
theorem rom_of_lt {addr : UInt16} (h : addr.toNat < 0x8000) : ofAddr addr = .rom := by
  have told := bounds addr
  cases place : ofAddr addr with
  | rom => rfl
  | cell cell | unusable =>
    simp only [place, Bounds, writable_iff] at told
    omega

/-- The writable addresses are those that lead to a cell. -/
theorem exists_cell_of_writable {addr : UInt16} (h : Writable addr) :
    ∃ cell, ofAddr addr = .cell cell := by
  have told := bounds addr
  rw [writable_iff] at h
  cases place : ofAddr addr with
  | cell cell => exact ⟨cell, rfl⟩
  | rom | unusable =>
    simp only [place, Bounds] at told
    omega

/-- Two addresses lead to one cell if they have one home. -/
theorem cell_eq_iff {addr other : UInt16} {cell another : Cell} (h : ofAddr addr = .cell cell)
    (h' : ofAddr other = .cell another) : cell = another ↔ homeAddr addr = homeAddr other := by
  have home := (writable_and_home_of_cell h).2
  have home' := (writable_and_home_of_cell h').2
  rw [← UInt16.toNat_inj, home, home']
  exact ⟨congrArg Cell.home, Cell.home_inj⟩

/-- What shares its home with a writable address is writable. -/
theorem writable_of_home {addr other : UInt16} (h : Writable addr)
    (same : homeAddr addr = homeAddr other) : Writable other := by
  have homes := congrArg UInt16.toNat same
  rw [writable_iff] at h ⊢
  rw [toNat_homeAddr, toNat_homeAddr] at homes
  grind

end Place

/-! ### Reading after a write -/

namespace Bus

/-- A write where nothing can be written changes nothing. -/
theorem write_of_not_writable {addr : UInt16} (h : ¬Writable addr) (bus : Bus) (value : UInt8) :
    bus.write addr value = bus := by
  unfold write
  cases place : Place.ofAddr addr with
  | cell cell => exact absurd (Place.writable_and_home_of_cell place).1 h
  | rom | unusable => rfl

/-- A write keeps the cartridge and the boot image, and only one address takes the boot
image away. -/
theorem overlay_write (bus : Bus) (addr : UInt16) (value : UInt8) :
    (bus.write addr value).mapper = bus.mapper ∧ (bus.write addr value).boot = bus.boot ∧
      (bus.write addr value).overlay = (bus.overlay && addr != overlayAddr) := by
  by_cases writable : Writable addr
  · obtain ⟨cell, place⟩ := Place.exists_cell_of_writable writable
    simp only [write, place, and_self]
  · -- The address that counts is writable.
    have apart : (addr != overlayAddr) = true := by
      rw [bne_iff_ne]
      rintro rfl
      exact writable (by decide)
    rw [write_of_not_writable writable, apart, Bool.and_true]
    exact ⟨rfl, rfl, rfl⟩

theorem mapper_read (mapper : Mapper) (addr : UInt16) :
    mapper.read addr = mapper.image[addr.toNat]?.getD 0xFF := by
  rw [Mapper.read, Array.getD_eq_getD_getElem?]

/-- Without the boot image, or above the first page, the cartridge answers. -/
theorem readRom_of_uncovered {bus : Bus} {addr : UInt16}
    (h : ¬(bus.overlay = true ∧ addr < 0x0100)) : bus.readRom addr = bus.mapper.read addr := by
  unfold readRom
  cases bus.boot with
  | none => rfl
  | some image =>
    have uncovered : (bus.overlay && decide (addr < 0x0100)) = false := by
      rw [Bool.eq_false_iff, ne_eq, Bool.and_eq_true, decide_eq_true_iff]
      exact h
    simp only [uncovered]
    rfl

theorem read_of_cell (bus : Bus) {addr : UInt16} {cell : Cell}
    (h : Place.ofAddr addr = .cell cell) : bus.read addr = bus.cells.get cell := by
  simp only [read, h]

/-- A write is read back at every address of the cell. -/
theorem read_write_of_home (bus : Bus) {addr other : UInt16} (value : UInt8)
    (writable : Writable addr) (same : homeAddr addr = homeAddr other) :
    (bus.write addr value).read other = value := by
  obtain ⟨cell, place⟩ := Place.exists_cell_of_writable writable
  obtain ⟨another, place'⟩ := Place.exists_cell_of_writable (Place.writable_of_home writable same)
  have equal : cell = another := (Place.cell_eq_iff place place').mpr same
  simp only [read_of_cell _ place', write, place, Cells.get_set, if_pos equal]

/-- A write to another cell, or to no cell, is not seen at a writable address. The hypothesis is
about homes, so it covers a write where nothing can be written too. -/
theorem read_write_of_apart (bus : Bus) {addr other : UInt16} (value : UInt8)
    (writable : Writable other) (apart : homeAddr addr ≠ homeAddr other) :
    (bus.write addr value).read other = bus.read other := by
  obtain ⟨another, place'⟩ := Place.exists_cell_of_writable writable
  by_cases stored : Writable addr
  · obtain ⟨cell, place⟩ := Place.exists_cell_of_writable stored
    have differ : cell ≠ another := mt (Place.cell_eq_iff place place').mp apart
    simp only [read_of_cell _ place', write, place, Cells.get_set, if_neg differ]
  · rw [write_of_not_writable stored]

/-- A write is seen at an address without a cell only where it uncovers the cartridge. That
takes a boot image that still covers the first page, and the one address that takes it away.
Addresses without a cell are those of the cartridge and the gap above the sprites. The gap always
answers the same and does not lie in the first page. The cartridge is read through the boot
image, of which the write changes nothing but whether it covers. -/
theorem read_write_of_not_writable (bus : Bus) (addr : UInt16) {other : UInt16} (value : UInt8)
    (fixed : ¬Writable other) :
    (bus.write addr value).read other =
      if addr = overlayAddr ∧ bus.overlay = true ∧ other < 0x0100 then bus.mapper.read other
      else bus.read other := by
  obtain ⟨mapper, boot, overlay⟩ := bus.overlay_write addr value
  simp only [read]
  cases place : Place.ofAddr other with
  | cell cell => exact absurd (Place.writable_and_home_of_cell place).1 fixed
  | unusable =>
    -- The gap is not in the first page.
    have gap := (Place.gap_of_unusable place).1
    rw [if_neg]
    rintro ⟨-, -, page⟩
    rw [UInt16.lt_iff_toNat_lt] at page
    have below : other.toNat < 0x0100 := page
    omega
  | rom =>
    show (bus.write addr value).readRom other = _
    by_cases disables : addr = overlayAddr
    · subst disables
      rw [readRom_of_uncovered (by simp [overlay]), mapper]
      split
      · rfl
      · next h =>
        exact (readRom_of_uncovered fun covered => h ⟨rfl, covered⟩).symm
    · have kept : (bus.write addr value).overlay = bus.overlay := by
        rw [overlay, bne_iff_ne.mpr disables, Bool.and_true]
      rw [if_neg fun h => disables h.1, readRom, readRom, mapper, boot, kept]

/-- A write that does not uncover the cartridge changes nothing beside the cells. -/
theorem write_covered (bus : Bus) {addr : UInt16} (value : UInt8) (covers : addr ≠ overlayAddr) :
    (bus.write addr value).mapper = bus.mapper ∧ (bus.write addr value).boot = bus.boot ∧
      (bus.write addr value).overlay = bus.overlay := by
  obtain ⟨mapper, boot, overlay⟩ := bus.overlay_write addr value
  rw [bne_iff_ne.mpr covers, Bool.and_true] at overlay
  exact ⟨mapper, boot, overlay⟩

/-- It is seen where its cell is, and nowhere else. -/
theorem read_write_covered (bus : Bus) {addr : UInt16} (value : UInt8)
    (writable : Writable addr) (covers : addr ≠ overlayAddr) (other : UInt16) :
    (bus.write addr value).read other =
      if homeAddr other = homeAddr addr then value else bus.read other := by
  by_cases same : homeAddr other = homeAddr addr
  · rw [if_pos same, bus.read_write_of_home value writable same.symm]
  · rw [if_neg same]
    by_cases there : Writable other
    · exact bus.read_write_of_apart value there (Ne.symm same)
    · rw [bus.read_write_of_not_writable addr value there, if_neg fun h => covers h.1]

/-- The whole of what a write does, for any bus, any two addresses and any value.

1. Every address answers with the byte that was written if it names the same cell. The first
   page answers with the cartridge from then on if the write takes the boot image away, and
   beyond the end of the cartridge with 0xFF. All else answers as before.
2. A write where nothing can be written changes nothing at all, unseen parts included.
3. Of two writable addresses one is affected by the other only if they are an echo pair.

The first clause is an equation for every pair of addresses, so the other cases of interest are
instances of it: a byte is read back where it was written, and through the echo. The proof asks
whether the cell is the same, and if it is not, whether the address that is read has a cell. -/
theorem read_write_mirrored (bus : Bus) (addr other : UInt16) (value : UInt8) :
    (bus.write addr value).read other =
        (if Writable addr ∧ homeAddr addr = homeAddr other then value
        else if addr = 0xFF50 ∧ bus.overlay = true ∧ other ≤ 0x00FF then
          bus.mapper.image[other.toNat]?.getD 0xFF
        else bus.read other) ∧
      (¬Writable addr → bus.write addr value = bus) ∧
      (Writable addr → Writable other → addr ≠ other → ¬EchoPair addr other →
        ¬EchoPair other addr → (bus.write addr value).read other = bus.read other) := by
  refine ⟨?_, fun h => write_of_not_writable h bus value, ?_⟩
  · by_cases same : Writable addr ∧ homeAddr addr = homeAddr other
    · rw [if_pos same, bus.read_write_of_home value same.1 same.2]
    rw [if_neg same]
    by_cases writable : Writable other
    · -- Another cell, or none, was written, and the first page is not looked at.
      have apart : homeAddr addr ≠ homeAddr other := fun h =>
        same ⟨Place.writable_of_home writable h.symm, h⟩
      rw [bus.read_write_of_apart value writable apart, if_neg]
      rintro ⟨-, -, page⟩
      have low := (writable_iff other).mp writable
      rw [UInt16.le_iff_toNat_le] at page
      have below : other.toNat ≤ 0x00FF := page
      omega
    · have page : other < 0x0100 ↔ other ≤ 0x00FF := by
        rw [UInt16.lt_iff_toNat_lt, UInt16.le_iff_toNat_le]
        exact Nat.lt_succ_iff
      simp only [bus.read_write_of_not_writable addr value writable, page, mapper_read]
      rfl
  · intro _ writable differ noEcho noEcho'
    refine bus.read_write_of_apart value writable fun same => ?_
    rcases eq_or_echoPair same with equal | echo | echo
    · exact differ equal
    · exact noEcho echo
    · exact noEcho' echo

end Bus

end GameBoy
