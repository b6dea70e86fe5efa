import GameBoy.Proofs.Settings.Levels
import GameBoy.Settings.Overlay

/-!
# `GameBoy.Proofs.Settings.FlagPrecedence`: flags for log levels over a file's

A flag gives a category a level under one of the category's names. The overlay
merges by the name as it is written, and the levels are set in the order of the
names. So a flag prevails over every entry with the same spelling, but between two
spellings of one category the greater decides, wherever it was given.

A user who gives `interrupts=trace` over a file that says `irq` is error gets the
level of the file. With the two names the other way round, the flag's counts. Both
are fixed examples of one equivalence, which says for every file and every list of
flags which entry decides. Main statements:

* `Settings.get?_assignLevels`: what the merged map holds under a name.
* `Settings.effective_eq_iff_of_flags`: exactly when the last flag for a category
  prevails.
-/

set_option autoImplicit false

namespace GameBoy.Settings

/-- The names and levels that flags give, in order. -/
def assignments (log : List String) : List (String × String) := log.filterMap splitAssignment

/-- The level that the last flag under a name gives it. -/
def assigned (log : List String) (name : String) : Option String :=
  (assignments log).reverse.lookup name

/-- The first flag gives a name its level where no later one does. -/
theorem assigned_cons (text : String) (rest : List String) (name : String) :
    assigned (text :: rest) name =
      (assigned rest name).or ((splitAssignment text).bind fun entry =>
        if name = entry.1 then some entry.2 else none) := by
  rw [assigned, assignments, List.filterMap_cons]
  cases splitAssignment text with
  | none =>
    rw [Option.bind_none, Option.or_none]
    rfl
  | some entry =>
    obtain ⟨key, level⟩ := entry
    show ((key, level) :: assignments rest).reverse.lookup name = _
    rw [List.reverse_cons, List.lookup_append, NameMap.lookup_cons, List.lookup_nil]
    rfl

/-- A name's level in the merged map is that of the last flag under the same name, and
without one that of the file. Names are compared as they are written here, so another
name of the same category counts for nothing. -/
theorem get?_assignLevels {log : List String} {map merged : NameMap}
    (h : assignLevels map log = (merged, none)) (name : String) :
    merged.get? name = (assigned log name).or (map.get? name) := by
  -- On the flags, in order; the map grows by each, so it is generalized.
  induction log generalizing map with
  | nil =>
    cases h
    rfl
  | cons text rest ih =>
    rw [assignLevels] at h
    cases split : splitAssignment text with
    | none =>
      rw [split] at h
      cases h
    | some pair =>
      obtain ⟨key, level⟩ := pair
      rw [split] at h
      rw [ih h, NameMap.get?_insert, assigned_cons, split, Option.bind_some, Option.or_assoc]
      -- A later flag under the same name comes first in the look-up, by `Option.or_assoc`.
      by_cases same : name = key
      · rw [if_pos same, if_pos same, Option.some_or]
      · rw [if_neg same, if_neg same, Option.none_or]

/-- The last flag for a category is the last flag under its name. -/
theorem assigned_of_lastNaming {log : List String} {category : Category} {name level : String}
    (last : lastNaming (assignments log) category = some (name, level)) :
    assigned log name = some level := by
  obtain ⟨names, before, after, split, none⟩ := lastNaming_eq_some_iff.mp last
  rw [assigned, List.lookup_eq_some_iff]
  -- A later flag under this name would name the category too.
  refine ⟨after.reverse, before.reverse, ?_, ?_⟩
  · rw [split]
    simp
  · intro later mem
    have apart : name ≠ later.1 := by
      rintro rfl
      exact none later (List.mem_reverse.mp mem) names
    simpa using apart

/-- The merged settings hold the map that the flags were put into. -/
theorem assignLevels_of_overlay {settings merged : Settings} {args : Args}
    (applied : settings.overlay args = (merged, none)) :
    assignLevels settings.logCategories args.log = (merged.logCategories, none) := by
  unfold overlay at applied
  cases merge : assignLevels settings.logCategories args.log with
  | mk map error =>
    rw [merge] at applied
    cases applied
    rfl

/-- Which level prevails for a category that flags name. The hypotheses are that the
flags could be merged, that the merged settings took effect, and that `name` and `flag`
are the two sides of the last flag for the category. Of all spellings of the category
among the flags and in the file the greatest one, `top`, decides, with the level of the
last flag so spelt, or else the file's. So:

1. The flag gives a level, and that level counts exactly if the deciding one is the same.
2. It always counts if the flag itself has the greatest spelling.
3. The spelling that decides names the category, has an entry, and no greater one does.

The flag is an entry of the merged map (`get?_assignLevels`), so the map has a last entry
for the category, and that entry decides (`effective_of_lastNaming`). -/
theorem effective_eq_iff_of_flags {settings merged : Settings} {args : Args} {config : LogConfig}
    {category : Category} {name flag : String}
    (applied : settings.overlay args = (merged, none))
    (configured : merged.configure .silent = .ok config)
    (last : lastNaming (assignments args.log) category = some (name, flag)) :
    ∃ level top value,
      Level.ofName? flag = some level ∧
      (config.effective category = level ↔ Level.ofName? value = some level) ∧
      (top = name → config.effective category = level) ∧
      Category.ofName? top = some category ∧
      (assigned args.log top).or (settings.logCategories.get? top) = some value ∧
      ∀ other text, (assigned args.log other).or (settings.logCategories.get? other) = some text →
        Category.ofName? other = some category → ¬top < other := by
  have get? := get?_assignLevels (assignLevels_of_overlay applied)
  have given := assigned_of_lastNaming last
  have names := (lastNaming_eq_some_iff.mp last).1
  -- The flag is an entry of the merged map, so some entry names the category.
  have held : merged.logCategories.get? name = some flag := by rw [get?, given, Option.some_or]
  have mem := NameMap.get?_eq_some_iff.mp held
  obtain ⟨⟨top, value⟩, deciding⟩ := exists_lastNaming mem names
  have effective := effective_of_lastNaming configured deciding
  obtain ⟨level, levels⟩ : ∃ level, Level.ofName? flag = some level := by
    obtain ⟨_, resolved, -, entries, -⟩ := configure_eq_ok configured
    obtain ⟨⟨_, level⟩, ok⟩ := resolveEntry_of_mem entries mem
    exact ⟨level, (resolveEntry_eq_ok.mp ok).2⟩
  have topHeld := NameMap.get?_eq_some_iff.mpr (mem_of_lastNaming deciding)
  refine ⟨level, top, value, levels, ?_, ?_, ?_, ?_, ?_⟩
  · rw [effective, Option.some_inj]
  · -- One name has one entry, so the deciding level is the flag's own.
    rintro rfl
    have same : flag = value := Option.some_inj.mp (held.symm.trans topHeld)
    rw [← same, levels] at effective
    exact (Option.some_inj.mp effective).symm
  · exact (lastNaming_eq_some_iff.mp deciding).1
  · rw [← get?, topHeld]
  · intro other text found
    rw [← get?] at found
    exact NameMap.not_lt_of_lastNaming deciding found

/-! ### Two names of one category -/

/-- Settings whose file gives one category a level. -/
def fileOf (name level : String) : Settings :=
  { standard with logCategories := NameMap.empty.insert name level }

/-- A command line with one flag, for the level of a category. -/
def flagged (flag : String) : Args where
  rom := "game.gb"
  bootRom := none
  config := none
  frames := none
  timing := none
  unthrottled := false
  header := false
  logLevel := none
  log := [flag]

/-- The log configuration in which only one category has a level of its own. -/
def onlyInterrupts (level : Level) : LogConfig :=
  (LogConfig.silent.setGlobal .info).set .interrupts level

/-- A flag under the greater name of a category prevails over the file. -/
theorem irq_flag_over_interrupts :
    ((fileOf "interrupts" "error").overlay (flagged "irq=trace")).1.configure .silent =
        .ok (onlyInterrupts .trace) ∧
      (onlyInterrupts .trace).effective .interrupts = .trace := by
  have configured :
      ((fileOf "interrupts" "error").overlay (flagged "irq=trace")).1.configure .silent =
        .ok (onlyInterrupts .trace) := by rfl
  have last : lastNaming (assignments (flagged "irq=trace").log) .interrupts =
      some ("irq", "trace") := by decide +kernel
  obtain ⟨level, top, value, levels, -, prevails, -, found, greatest⟩ :=
    effective_eq_iff_of_flags (by rfl) configured last
  have highest : top = "irq" := by
    by_cases same : top = "irq"
    · exact same
    · -- The only other name is the file's, and it is the lesser one.
      have flags : assignments (flagged "irq=trace").log = [("irq", "trace")] := by decide +kernel
      have file : (fileOf "interrupts" "error").logCategories.entries =
          [("interrupts", "error")] := by rfl
      rw [assigned, NameMap.get?, flags, file, List.reverse_singleton, NameMap.lookup_cons,
        NameMap.lookup_cons, if_neg same, List.lookup_nil, Option.none_or] at found
      have other : top = "interrupts" := by
        by_cases other : top = "interrupts"
        · exact other
        · rw [if_neg other] at found
          cases found
      have less : ¬top < "irq" := greatest "irq" "trace" (by rfl) (by rfl)
      rw [other] at less
      exact absurd (by decide) less
  have trace : Level.ofName? "trace" = some .trace := by rfl
  rw [trace] at levels
  exact ⟨configured, (prevails highest).trans (Option.some_inj.mp levels).symm⟩

/-- A flag under the lesser name of a category is overruled by the file. -/
theorem interrupts_flag_under_irq :
    ((fileOf "irq" "error").overlay (flagged "interrupts=trace")).2 = none ∧
      lastNaming (assignments (flagged "interrupts=trace").log) .interrupts =
        some ("interrupts", "trace") ∧
      ((fileOf "irq" "error").overlay (flagged "interrupts=trace")).1.configure .silent =
        .ok (onlyInterrupts .error) ∧
      (onlyInterrupts .error).effective .interrupts ≠ .trace := by
  refine ⟨by rfl, by decide +kernel, by rfl, by decide⟩

end GameBoy.Settings
