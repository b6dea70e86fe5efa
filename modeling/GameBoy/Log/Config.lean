import GameBoy.Log.Level
import GameBoy.Log.Category

/-!
# `GameBoy.Log.Config`: which records are wanted

There is one level for everything, and a category may have a level of its own,
which then counts instead, even where it is `off`. So a category can be kept
silent while all else is logged, and the other way round.

A configuration is known by the level of everything and by the level that each
category has of its own, or has not (`LogConfig.eq_of_own`). What is proved of
changes is said in these terms, and how the levels are stored does not come in.
Main statements: setting or clearing a category's own level changes that of no
other (`LogConfig.own_set`, `LogConfig.own_clear`), and a reset takes everything
back (`LogConfig.reset_eq`).
-/

set_option autoImplicit false

namespace GameBoy

/-- A log configuration. -/
structure LogConfig where
  /-- The level of every category that has none of its own. -/
  global : Level
  /-- The levels that categories have of their own, each in its category's place. -/
  ownLevels : Vector (Option Level) 5
deriving DecidableEq

namespace LogConfig

/-- Nothing is logged, and no category has a level of its own. -/
def silent : LogConfig := ⟨.off, Vector.replicate 5 none⟩

/-- The level that a category has of its own. -/
def own (config : LogConfig) (category : Category) : Option Level :=
  config.ownLevels[category.index]

/-- Sets the level of everything. -/
def setGlobal (config : LogConfig) (level : Level) : LogConfig :=
  { config with global := level }

/-- Gives a category a level of its own. -/
def set (config : LogConfig) (category : Category) (level : Level) : LogConfig :=
  { config with ownLevels := config.ownLevels.set category.index (some level) }

/-- Takes a category's own level away. -/
def clear (config : LogConfig) (category : Category) : LogConfig :=
  { config with ownLevels := config.ownLevels.set category.index none }

/-- Takes everything back. -/
def reset (config : LogConfig) : LogConfig :=
  Category.all.foldl clear (config.setGlobal .off)

/-- Nothing has a level of its own while nothing is logged. -/
@[simp]
theorem own_silent (category : Category) : silent.own category = none := by
  simp [silent, own]

/-- The level of everything is no category's own. -/
@[simp]
theorem own_setGlobal (config : LogConfig) (level : Level) (category : Category) :
    (config.setGlobal level).own category = config.own category := rfl

/-- Replacing what stands in a category's place leaves the other places alone. -/
theorem getElem_set_index (levels : Vector (Option Level) 5) (category other : Category)
    (level : Option Level) :
    (levels.set category.index level)[other.index] =
      if category = other then level else levels[other.index] := by
  simp [Vector.getElem_set, ← Category.index_inj, Fin.ext_iff]

/-- Setting a category's own level changes that level and no other. -/
theorem own_set (config : LogConfig) (category other : Category) (level : Level) :
    (config.set category level).own other =
      if category = other then some level else config.own other :=
  getElem_set_index config.ownLevels category other (some level)

/-- Clearing a category's own level takes away that level and no other. -/
theorem own_clear (config : LogConfig) (category other : Category) :
    (config.clear category).own other = if category = other then none else config.own other :=
  getElem_set_index config.ownLevels category other none

/-- A configuration is known by the level of everything and the levels of the categories. -/
theorem eq_of_own {config other : LogConfig} (global : config.global = other.global)
    (own : ∀ category, config.own category = other.own category) : config = other := by
  obtain ⟨_, levels⟩ := config
  obtain ⟨_, levels'⟩ := other
  obtain rfl := global
  have same : levels = levels' := by
    apply Vector.ext
    intro i h
    obtain ⟨category, -, index⟩ := Category.exists_index ⟨i, h⟩
    have here := own category
    simp only [LogConfig.own, index] at here
    exact here
  rw [same]

/-- After a reset nothing is logged, and no category has a level of its own. -/
theorem reset_eq (config : LogConfig) : config.reset = silent := by
  apply eq_of_own
  · rfl
  · intro category
    rw [own_silent]
    cases category <;> simp [reset, Category.all, own_clear]

/-- The level that counts for a category. -/
def effective (config : LogConfig) (category : Category) : Level :=
  (config.own category).getD config.global

/-- Whether a record of this category and level is wanted. No record has the
level `off`. -/
def shouldLog (config : LogConfig) (category : Category) (level : Level) : Bool :=
  level ≠ .off && level ≤ config.effective category

/-- The most detailed level at which any category logs. -/
def maxLevel (config : LogConfig) : Level :=
  (Category.all.map config.effective).foldl Level.max .off

end LogConfig

end GameBoy
