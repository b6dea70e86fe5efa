import GameBoy.Memory.Flat
import Mathlib.Data.List.Induction

/-!
# `GameBoy.Proofs.Memory.Placing`: bytes placed one after another

A list of bytes goes to flat storage byte by byte, and on from address 0 after the last address.
A list that is longer than the storage comes round to where it began, and what it placed there
is replaced. Which byte stays is told by the numbers of the bytes in the list: of those that fall
on an address it is the last (`LastOn`).

The lists are taken from their end. One byte more is one write more, made after all the others
(`Flat.load_concat`), so it stays where it falls and whatever it replaces was not the last.
Main statements:

* `Flat.remains_load`: what each address holds after a list was placed.
* `Flat.load_append`: a list may be placed in two parts.
* `Flat.loadNumbered?_eq`: no byte is sent to a place that there is not.
* `Flat.load_lawful`: all of it together.
-/

set_option autoImplicit false

namespace GameBoy

/-! ### Where a byte falls -/

/-- The byte with a number falls on an address, counted on from the origin and round. -/
def FallsOn (origin addr : UInt16) (number : Nat) : Prop :=
  (origin.toNat + number) % UInt16.size = addr.toNat

/-- It is the address that is as far after the origin. -/
theorem fallsOn_iff {origin addr : UInt16} {number : Nat} :
    FallsOn origin addr number ↔ origin + UInt16.ofNat number = addr := by
  rw [FallsOn, ← UInt16.toNat_inj, UInt16.toNat_add, UInt16.toNat_ofNat', Nat.add_mod_mod]

/-- Among a count of bytes, the one with a number is the last that falls on an address. -/
structure LastOn (origin addr : UInt16) (count number : Nat) : Prop where
  within : number < count
  falls : FallsOn origin addr number
  last : ∀ other < count, FallsOn origin addr other → other ≤ number

/-- What remains at an address that held `old`, once the bytes were placed from the origin on. -/
inductive Remains (origin addr : UInt16) (bytes : List UInt8) (old : UInt8) : UInt8 → Prop where
  /-- The last byte that falls there, if any does. -/
  | placed {number : Nat} {value : UInt8} (last : LastOn origin addr bytes.length number)
      (byte : bytes[number]? = some value) : Remains origin addr bytes old value
  /-- What was there, if none does. -/
  | kept (none : ∀ number < bytes.length, ¬FallsOn origin addr number) :
      Remains origin addr bytes old old

section

variable {origin addr : UInt16} {bytes : List UInt8} {old value : UInt8}

/-- Among one byte more, that byte is the last on the address that it falls on. -/
theorem LastOn.concat {count : Nat} (falls : FallsOn origin addr count) :
    LastOn origin addr (count + 1) count where
  within := Nat.lt_succ_self count
  falls := falls
  last _ less _ := Nat.le_of_lt_succ less

/-- A further byte remains where it falls. -/
theorem Remains.concat (falls : FallsOn origin addr bytes.length) :
    Remains origin addr (bytes ++ [value]) old value := by
  have last : LastOn origin addr (bytes ++ [value]).length bytes.length := by
    rw [List.length_append, List.length_singleton]
    exact LastOn.concat falls
  exact .placed last List.getElem?_concat_length

/-- A further byte changes nothing where it does not fall. Any number that falls on the address is
then a number of the bytes before, so the last of those that fall there is still the last, and if
none did, none does. -/
theorem Remains.beside {byte : UInt8} (h : Remains origin addr bytes old value)
    (apart : ¬FallsOn origin addr bytes.length) :
    Remains origin addr (bytes ++ [byte]) old value := by
  have earlier : ∀ number < (bytes ++ [byte]).length, FallsOn origin addr number →
      number < bytes.length := by
    intro number less falls
    rw [List.length_append, List.length_singleton] at less
    have other : number ≠ bytes.length := by
      rintro rfl
      exact apart falls
    omega
  cases h with
  | placed last byte =>
    refine .placed ⟨?_, last.falls, ?_⟩ (List.getElem?_append_left last.within ▸ byte)
    · rw [List.length_append]
      exact Nat.lt_add_right _ last.within
    · intro other less falls
      exact last.last other (earlier other less falls) falls
  | kept none =>
    refine .kept fun number less falls => ?_
    exact none number (earlier number less falls) falls

end

namespace Flat

/-! ### Lists in parts -/

/-- A list may be placed in two parts, the second from where the first one ends. -/
theorem load_append (flat : Flat) (origin : UInt16) (front back : List UInt8) :
    flat.load origin (front ++ back) =
      (flat.load origin front).load (origin + UInt16.ofNat front.length) back := by
  induction front generalizing flat origin with
  | nil =>
    have here : origin + UInt16.ofNat 0 = origin := UInt16.add_zero origin
    rw [List.nil_append, List.length_nil, here, load]
  | cons byte rest ih =>
    have next :
        origin + UInt16.ofNat (rest.length + 1) = origin + 1 + UInt16.ofNat rest.length := by
      rw [UInt16.ofNat_add, UInt16.add_assoc, UInt16.add_comm 1]
      rfl
    rw [List.cons_append, load, load, ih, List.length_cons, next]

/-- One byte more is one write more, after all the others. This is the step that every
induction here takes. -/
theorem load_concat (flat : Flat) (origin : UInt16) (bytes : List UInt8) (byte : UInt8) :
    flat.load origin (bytes ++ [byte]) =
      (flat.load origin bytes).write (origin + UInt16.ofNat bytes.length) byte := by
  rw [load_append, load, load]

/-! ### What remains -/

/-- Each address holds the last byte that fell on it, or what it held before. -/
theorem remains_load (flat : Flat) (origin addr : UInt16) (bytes : List UInt8) :
    Remains origin addr bytes (flat.read addr) ((flat.load origin bytes).read addr) := by
  induction bytes using List.reverseRecOn with
  | nil => exact .kept fun number less => absurd less (Nat.not_lt_zero number)
  | append_singleton bytes byte ih =>
    rw [load_concat, read_write]
    split
    · next same => exact .concat (fallsOn_iff.mpr same)
    · next other => exact ih.beside fun falls => other (fallsOn_iff.mp falls)

/-! ### Places that there are -/

/-- Replaces the byte at a place, if the storage has such a place. -/
def writeAt? (flat : Flat) (place : Nat) (value : UInt8) : Option Flat :=
  if h : place < UInt16.size then some ⟨flat.cells.set place value⟩ else none

/-- Places the bytes of a list by their numbers. The place of a byte is the low half of a sum
that does not wrap, and each place is looked for. -/
def loadNumbered? (flat : Flat) (origin : UInt16) (bytes : List UInt8) : Option Flat :=
  bytes.zipIdx.foldlM
    (fun flat (byte, number) => flat.writeAt? ((origin.toNat + number) &&& 0xFFFF) byte) flat

/-- There is a place for the low half of any sum, since it is below the number of cells. The
write there is the write at the address that wraps. -/
theorem writeAt?_masked (flat : Flat) (origin : UInt16) (number : Nat) (value : UInt8) :
    flat.writeAt? ((origin.toNat + number) &&& 0xFFFF) value =
      some (flat.write (origin + UInt16.ofNat number) value) := by
  have place : (origin.toNat + number) &&& 0xFFFF = (origin + UInt16.ofNat number).toNat := by
    rw [← (fallsOn_iff.mpr rfl : FallsOn origin _ number)]
    exact Nat.and_two_pow_sub_one_eq_mod _ 16
  rw [place, writeAt?, dif_pos (UInt16.toNat_lt _)]
  rfl

/-- Every byte finds its place. The bytes before the last have found theirs by induction, and
the last one brings its own number with it. -/
theorem loadNumbered?_eq (flat : Flat) (origin : UInt16) (bytes : List UInt8) :
    flat.loadNumbered? origin bytes = some (flat.load origin bytes) := by
  induction bytes using List.reverseRecOn with
  | nil => rfl
  | append_singleton bytes byte ih =>
    rw [loadNumbered?] at ih
    rw [loadNumbered?, List.zipIdx_append, List.foldlM_append, ih, Nat.zero_add,
      List.zipIdx_singleton]
    simp only [Option.bind_eq_bind, Option.bind_some, List.foldlM_cons, List.foldlM_nil,
      Option.pure_def, writeAt?_masked, load_concat]

/-- Bytes of any number can be placed from any address on. Each address then holds the last byte
that fell on it, or what it held before (`Remains`). It does not matter whether they are placed
at once or in two parts, the second from where the first one ends. And each of them has a place:
numbering the bytes and looking for the low half of `origin + number` finds one every time, and
comes to the same storage.

No bound on the length is needed, and none on the origin. A list that is longer than the storage
writes some cells twice or more, and the induction from the end settles which byte stays. -/
theorem load_lawful (flat : Flat) (origin : UInt16) :
    (∀ bytes addr,
      Remains origin addr bytes (flat.read addr) ((flat.load origin bytes).read addr)) ∧
    (∀ front back, flat.load origin (front ++ back) =
      (flat.load origin front).load (origin + UInt16.ofNat front.length) back) ∧
    ∀ bytes, flat.loadNumbered? origin bytes = some (flat.load origin bytes) :=
  ⟨fun bytes addr => flat.remains_load origin addr bytes, flat.load_append origin,
    flat.loadNumbered?_eq origin⟩

end Flat

end GameBoy
