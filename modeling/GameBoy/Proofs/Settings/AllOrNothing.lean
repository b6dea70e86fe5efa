import GameBoy.Proofs.Settings.Levels
import GameBoy.Proofs.Text.ByteOrder

/-!
# `GameBoy.Proofs.Settings.AllOrNothing`: log settings take effect as a whole

Settings are put into effect on a log configuration that is there already. Every name in them is
read before anything is changed, so one that is none leaves the configuration as it was. Where
all are known, the level of everything is set, and after it those of the categories. A category
may be named more than once; the last of its names counts, in the order of their bytes. A category
that is not named is not touched.

The program changes the configuration in place, one level at a time, in a monad that may fail.
`Settings.configure` is what it comes to, as a function from a configuration to a configuration or
an error, and the first step is to show that these two agree (`run_applyLogging`). That nothing is
changed before an error is then part of an equation, and the rest is about a function.

The order of the entries is that of texts, as the map has it. The main statement speaks of the
bytes of the names; that this is the same order is a theorem on UTF-8 (`utf8Bytes_lt_iff`). Main
statements:

* `Settings.run_applyLogging`: the changes made one after another come to those made at once.
* `Settings.exists_configure_iff`: settings take effect just if all their names are known.
* `Settings.blames_of_configure`: otherwise the error is about a name that is none.
* `Settings.logging_all_or_nothing`: what is left in either case.
-/

set_option autoImplicit false

namespace GameBoy

/-! ### The last name of a category -/

/-- A name that a map holds for a category, with its value. It is the last one in the order of
their bytes. -/
structure NameMap.LastFor (map : NameMap) (category : Category) (name value : String) : Prop where
  held : map.get? name = some value
  names : Category.ofName? name = some category
  last : ∀ other text, map.get? other = some text → Category.ofName? other = some category →
    utf8Bytes other ≤ utf8Bytes name

/-- The last entry that names a category has the last name. -/
theorem NameMap.lastFor_of_lastNaming {map : NameMap} {category : Category} {name value : String}
    (last : lastNaming map.entries category = some (name, value)) :
    map.LastFor category name value where
  held := get?_eq_some_iff.mpr (mem_of_lastNaming last)
  names := (lastNaming_eq_some_iff.mp last).1
  last other text held names := by
    intro greater
    exact not_lt_of_lastNaming last held names (utf8Bytes_lt_iff.mp greater)

namespace Settings

/-! ### Names -/

/-- Every name in the settings is one. -/
structure NamesKnown (settings : Settings) : Prop where
  level : ∃ level, Level.ofName? settings.logLevel = some level
  category : ∀ name value, settings.logCategories.get? name = some value →
    ∃ category, Category.ofName? name = some category
  categoryLevel : ∀ name value, settings.logCategories.get? name = some value →
    ∃ level, Level.ofName? value = some level

/-- An error says which name in the settings is none. -/
inductive Blames (settings : Settings) : SettingsError → Prop where
  | level (none : Level.ofName? settings.logLevel = none) :
      Blames settings (.unknownLevel settings.logLevel)
  | category {name value : String} (held : settings.logCategories.get? name = some value)
      (none : Category.ofName? name = none) : Blames settings (.unknownCategory name)
  | categoryLevel {name value : String} (held : settings.logCategories.get? name = some value)
      (none : Level.ofName? value = none) : Blames settings (.unknownLevelOf value name)

/-- Where entries cannot be resolved, one of them is at fault, and the error is the one that it
causes. By induction on the entries: the first that cannot be resolved ends it. -/
theorem exists_resolveEntry_error {entries : List (String × String)} {error : SettingsError}
    (h : entries.mapM resolveEntry = .error error) :
    ∃ entry ∈ entries, resolveEntry entry = .error error := by
  induction entries with
  | nil => cases h
  | cons first rest ih =>
    rw [List.mapM_cons] at h
    cases here : resolveEntry first with
    | error reason =>
      rw [here] at h
      cases h
      exact ⟨first, List.mem_cons_self, here⟩
    | ok pair =>
      cases others : rest.mapM resolveEntry with
      | error reason =>
        rw [here, others] at h
        cases h
        obtain ⟨entry, mem, there⟩ := ih others
        exact ⟨entry, List.mem_cons_of_mem first mem, there⟩
      | ok tail =>
        rw [here, others] at h
        cases h

/-- An error is never without a name to blame. It is about the level of everything, about an
entry's category or about its level, and what it complains of is in the settings and is no name. -/
theorem blames_of_configure {settings : Settings} {config : LogConfig} {error : SettingsError}
    (h : settings.configure config = .error error) : settings.Blames error := by
  unfold configure resolve at h
  cases levels : Level.ofName? settings.logLevel with
  | none =>
    rw [levels] at h
    cases h
    exact .level levels
  | some level =>
    cases entries : settings.logCategories.entries.mapM resolveEntry with
    | ok resolved =>
      rw [levels, entries] at h
      cases h
    | error reason =>
      rw [levels, entries] at h
      cases h
      obtain ⟨⟨name, value⟩, mem, fault⟩ := exists_resolveEntry_error entries
      have held := NameMap.get?_eq_some_iff.mpr mem
      -- The category is read before its level.
      unfold resolveEntry at fault
      cases names : Category.ofName? name with
      | none =>
        rw [names] at fault
        cases fault
        exact .category held names
      | some category =>
        cases levels : Level.ofName? value with
        | none =>
          rw [names, levels] at fault
          cases fault
          exact .categoryLevel held levels
        | some level =>
          rw [names, levels] at fault
          cases fault

/-- Entries are resolved if each of them can be. -/
theorem exists_mapM_resolveEntry {entries : List (String × String)}
    (known : ∀ entry ∈ entries, ∃ pair, resolveEntry entry = .ok pair) :
    ∃ resolved, entries.mapM resolveEntry = .ok resolved := by
  induction entries with
  | nil => exact ⟨[], rfl⟩
  | cons first rest ih =>
    obtain ⟨pair, ok⟩ := known first List.mem_cons_self
    obtain ⟨tail, others⟩ := ih fun entry later => known entry (List.mem_cons_of_mem first later)
    refine ⟨pair :: tail, ?_⟩
    rw [List.mapM_cons, ok, others]
    rfl

/-- Settings take effect exactly if all their names are known. Whether they do does not depend on
the configuration they are put into effect on. The map of categories is read in two ways here: by
its entries, as they are resolved one after the other, and by its names, as they are known. An
entry is there just if its name has its value (`NameMap.get?_eq_some_iff`). -/
theorem exists_configure_iff {settings : Settings} {config : LogConfig} :
    (∃ after, settings.configure config = .ok after) ↔ settings.NamesKnown := by
  constructor
  · rintro ⟨after, ok⟩
    obtain ⟨level, resolved, levels, entries, -⟩ := configure_eq_ok ok
    have known {name value : String} (held : settings.logCategories.get? name = some value) :=
      resolveEntry_of_mem entries (NameMap.get?_eq_some_iff.mp held)
    refine ⟨⟨level, levels⟩, ?_, ?_⟩
    · intro name value held
      obtain ⟨⟨category, _⟩, ok⟩ := known held
      exact ⟨category, (resolveEntry_eq_ok.mp ok).1⟩
    · intro name value held
      obtain ⟨⟨_, level⟩, ok⟩ := known held
      exact ⟨level, (resolveEntry_eq_ok.mp ok).2⟩
  · intro known
    obtain ⟨level, levels⟩ := known.level
    have each : ∀ entry ∈ settings.logCategories.entries,
        ∃ pair, resolveEntry entry = .ok pair := by
      rintro ⟨name, value⟩ mem
      have held := NameMap.get?_eq_some_iff.mpr mem
      obtain ⟨category, names⟩ := known.category name value held
      obtain ⟨level, levels⟩ := known.categoryLevel name value held
      exact ⟨(category, level), resolveEntry_eq_ok.mpr ⟨names, levels⟩⟩
    obtain ⟨resolved, entries⟩ := exists_mapM_resolveEntry each
    refine ⟨resolved.foldl (fun config entry => config.set entry.1 entry.2)
      (config.setGlobal level), ?_⟩
    rw [configure, resolve, levels, entries]
    rfl

/-! ### Changes -/

/-- Levels of categories are set one after another, and nothing can go wrong. -/
theorem run_forIn_set (entries : List (Category × Level)) (config : LogConfig) :
    (do
      for (category, level) in entries do
        modify fun config => config.set category level :
      ExceptT SettingsError (StateM LogConfig) Unit).run.run config =
      (.ok (), entries.foldl (fun config entry => config.set entry.1 entry.2) config) := by
  -- On the entries, in the order in which they are set; `config` is what was set so far.
  induction entries generalizing config with
  | nil => rfl
  | cons first rest ih =>
    rw [List.foldl_cons, ← ih, List.forIn_cons]
    rfl

/-- The changes made one after another come to those made at once. An error comes before all
of them, because all names are read first; in the loop that sets the levels nothing fails. -/
theorem run_applyLogging (settings : Settings) (config : LogConfig) :
    settings.applyLogging.run.run config =
      match settings.configure config with
      | .ok after => (.ok (), after)
      | .error error => (.error error, config) := by
  unfold applyLogging configure
  cases settings.resolve with
  | error error => rfl
  | ok resolved =>
    obtain ⟨level, categories⟩ := resolved
    exact run_forIn_set categories (config.setGlobal level)

/-- The levels of categories are not that of everything. -/
theorem global_foldl_set (entries : List (Category × Level)) (config : LogConfig) :
    (entries.foldl (fun config entry => config.set entry.1 entry.2) config).global =
      config.global := by
  induction entries generalizing config with
  | nil => rfl
  | cons first rest ih => exact ih (config.set first.1 first.2)

/-- What settings that took effect have changed. -/
theorem changed_of_configure {settings : Settings} {config after : LogConfig}
    (ok : settings.configure config = .ok after) :
    Level.ofName? settings.logLevel = some after.global ∧
      ∀ category, after.own category =
        match lastNaming settings.logCategories.entries category with
        | some entry => Level.ofName? entry.2
        | none => config.own category := by
  obtain ⟨level, resolved, levels, entries, rfl⟩ := configure_eq_ok ok
  constructor
  · rw [levels, global_foldl_set]
    rfl
  · intro category
    exact own_foldl_set entries (config.setGlobal level) category

/-- Log settings take effect as a whole or not at all, on any configuration.

1. If a name in them is none, putting them into effect fails with an error about such a name, and
   the configuration is what it was.
2. Otherwise it succeeds, and the level of everything is the settings'.
3. A category that they name then has a level of its own, the one under the last of its names in
   the order of their bytes.
4. A category that they do not name has what it had, a level of its own or none.

Whether a name is one is decided by the readers of levels and categories, in any case
(`names_in_any_case` says which texts those are). -/
theorem logging_all_or_nothing (settings : Settings) (config : LogConfig) :
    (¬settings.NamesKnown →
      ∃ error, settings.Blames error ∧
        settings.applyLogging.run.run config = (.error error, config)) ∧
    (settings.NamesKnown →
      ∃ after, settings.applyLogging.run.run config = (.ok (), after) ∧
        Level.ofName? settings.logLevel = some after.global ∧
        ∀ category,
          ((∃ name value, settings.logCategories.get? name = some value ∧
              Category.ofName? name = some category) →
            ∃ name value level, settings.logCategories.LastFor category name value ∧
              Level.ofName? value = some level ∧ after.own category = some level) ∧
          ((∀ name value, settings.logCategories.get? name = some value →
              Category.ofName? name ≠ some category) →
            after.own category = config.own category)) := by
  rw [run_applyLogging]
  constructor
  · intro unknown
    cases ok : settings.configure config with
    | error error => exact ⟨error, blames_of_configure ok, rfl⟩
    | ok after => exact absurd (exists_configure_iff.mp ⟨after, ok⟩) unknown
  · intro known
    obtain ⟨after, ok⟩ := exists_configure_iff.mpr known
    obtain ⟨global, own⟩ := changed_of_configure ok
    rw [ok]
    refine ⟨after, rfl, global, fun category => ⟨?_, ?_⟩⟩
    · -- Some entry names the category, so there is a last one, and its level is a known one.
      rintro ⟨name, value, held, names⟩
      obtain ⟨⟨top, deciding⟩, last⟩ :=
        exists_lastNaming (NameMap.get?_eq_some_iff.mp held) names
      have lastFor := NameMap.lastFor_of_lastNaming last
      obtain ⟨level, levels⟩ := known.categoryLevel top deciding lastFor.held
      refine ⟨top, deciding, level, lastFor, levels, ?_⟩
      rw [own, last]
      exact levels
    · intro unnamed
      rw [own]
      cases last : lastNaming settings.logCategories.entries category with
      | none => rfl
      | some entry =>
        have lastFor := NameMap.lastFor_of_lastNaming last
        exact absurd lastFor.names (unnamed _ _ lastFor.held)

/-- Settings that name one category twice, in capitals and by another name. -/
def twice : Settings :=
  { standard with logCategories := (NameMap.empty.insert "bus" "off").insert "MMU" "trace" }

/-- Capitals come before small letters, so of the two names the other one counts. -/
theorem logging_all_or_nothing_twice :
    twice.NamesKnown ∧
      ∃ after, twice.applyLogging.run.run .silent = (.ok (), after) ∧
        after.own .mmu = some .off := by
  have configured : ∃ after, twice.configure .silent = .ok after := ⟨_, by rfl⟩
  have known := exists_configure_iff.mp configured
  obtain ⟨after, run, -, own⟩ := (logging_all_or_nothing twice .silent).2 known
  obtain ⟨name, value, level, lastFor, levels, counts⟩ :=
    (own .mmu).1 ⟨"bus", "off", by rfl, by rfl⟩
  have held : (name, value) ∈ [("MMU", "trace"), ("bus", "off")] :=
    NameMap.get?_eq_some_iff.mp lastFor.held
  have off : value = "off" := by
    rcases List.mem_cons.mp held with capitals | small
    · cases capitals
      exact absurd (lastFor.last "bus" "off" (by rfl) (by rfl)) (by decide)
    · cases List.mem_singleton.mp small
      rfl
  subst off
  have none : Level.ofName? "off" = some .off := by rfl
  rw [none] at levels
  exact ⟨known, after, run, counts.trans levels.symm⟩

end Settings

end GameBoy
