import GameBoy.Text.LowerCase

/-!
# `GameBoy.Log.Category`: what a log record is about

Every record of the machine belongs to one of five categories, each with names,
read in any letter case, and a target under which its records appear.

Levels are kept for each category in a vector of five, so a category has a place
among all of them. That no place is shared and none is left over is proved here.
-/

set_option autoImplicit false

namespace GameBoy

/-- The part of the machine that a record is about. -/
inductive Category where
  /-- Execution, sleep and wake, opcodes that stand for nothing. -/
  | cpu
  /-- The memory map. -/
  | mmu
  /-- The cartridge and its header. -/
  | cartridge
  /-- Entry into interrupts. -/
  | interrupts
  /-- Writes to hardware that is not there. -/
  | stubs
deriving DecidableEq

namespace Category

/-- Every category, in the order in which they are listed. -/
def all : List Category := [cpu, mmu, cartridge, interrupts, stubs]

/-- The place of a category among all of them. -/
def index : Category → Fin 5
  | cpu => 0
  | mmu => 1
  | cartridge => 2
  | interrupts => 3
  | stubs => 4

/-- No two categories have the same place. -/
theorem index_inj {a b : Category} : a.index = b.index ↔ a = b := by
  cases a <;> cases b <;> decide

/-- No category is left out. -/
theorem mem_all (category : Category) : category ∈ all := by
  cases category <;> decide

/-- Every place is that of a category. -/
theorem exists_index (place : Fin 5) : ∃ category ∈ all, category.index = place := by
  revert place
  decide

/-- The target under which the records of a category appear. -/
def target : Category → String
  | cpu => "dmg::cpu"
  | mmu => "dmg::mmu"
  | cartridge => "dmg::cartridge"
  | interrupts => "dmg::interrupts"
  | stubs => "dmg::stubs"

/-- The lower-case names of the categories. -/
def names : List (String × Category) :=
  [("cpu", cpu),
    ("mmu", mmu), ("bus", mmu),
    ("cartridge", cartridge), ("cart", cartridge),
    ("interrupts", interrupts), ("irq", interrupts),
    ("stubs", stubs)]

/-- The category with the given name, in any letter case. -/
def ofName? (name : String) : Option Category := names.lookup (lowerCase name)

end Category

end GameBoy
