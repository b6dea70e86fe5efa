import GameBoy.Settings.Basic

/-!
# `GameBoy.Proofs.Settings.Levels`: what named levels come to

The entries of a settings' map are resolved in the order of their names, and each
sets the level of the category it names. So of several entries for one category
the last in that order decides, and it is the one with the greatest name.

A category has more than one name, and a name may be written in any case, so that a
map has at most one entry for each name does not mean that it has one for each
category. What is said of flags over a file and of settings as a whole starts from
here. Main statements:

* `Settings.own_foldl_set`: levels that are set one after another leave the last one.
* `Settings.effective_of_lastNaming`: the last entry that names a category decides.
* `NameMap.not_lt_of_lastNaming`: it has the greatest of the category's names.
-/

set_option autoImplicit false

namespace GameBoy

/-! ### The last entry for a category -/

/-- The last entry that names a category. -/
def lastNaming (entries : List (String × String)) (category : Category) :
    Option (String × String) :=
  entries.reverse.find? fun entry => Category.ofName? entry.1 = some category

/-- An entry in front of others is the last for its category only if no other names it. -/
theorem lastNaming_cons (entry : String × String) (rest : List (String × String))
    (category : Category) :
    lastNaming (entry :: rest) category =
      (lastNaming rest category).or
        (if Category.ofName? entry.1 = some category then some entry else none) := by
  rw [lastNaming, List.reverse_cons, List.find?_append, lastNaming]
  by_cases names : Category.ofName? entry.1 = some category
  · simp [names]
  · simp [names]

/-- What it is to be the last entry that names a category. -/
theorem lastNaming_eq_some_iff {entries : List (String × String)} {category : Category}
    {entry : String × String} :
    lastNaming entries category = some entry ↔
      Category.ofName? entry.1 = some category ∧
        ∃ before after, entries = before ++ entry :: after ∧
          ∀ later ∈ after, Category.ofName? later.1 ≠ some category := by
  rw [lastNaming, List.find?_eq_some_iff_append]
  constructor
  · rintro ⟨names, after, before, split, none⟩
    refine ⟨of_decide_eq_true names, before.reverse, after.reverse, ?_, ?_⟩
    · rw [← List.reverse_reverse entries, split]
      simp
    · intro later mem
      simpa using none later (List.mem_reverse.mp mem)
  · rintro ⟨names, before, after, rfl, none⟩
    refine ⟨decide_eq_true names, after.reverse, before.reverse, by simp, ?_⟩
    intro later mem
    simpa using none later (List.mem_reverse.mp mem)

/-- The last entry that names a category is one of the entries. -/
theorem mem_of_lastNaming {entries : List (String × String)} {category : Category}
    {entry : String × String} (last : lastNaming entries category = some entry) :
    entry ∈ entries :=
  List.mem_reverse.mp (List.mem_of_find?_eq_some last)

/-- Where an entry names a category, there is a last one that does. -/
theorem exists_lastNaming {entries : List (String × String)} {category : Category}
    {entry : String × String} (mem : entry ∈ entries)
    (names : Category.ofName? entry.1 = some category) :
    ∃ last, lastNaming entries category = some last := by
  apply Option.ne_none_iff_exists'.mp
  intro none
  have never := List.find?_eq_none.mp none entry (List.mem_reverse.mpr mem)
  exact never (decide_eq_true names)

/-! ### Maps -/

namespace NameMap

/-- The value of a name is the one that its entry holds. -/
theorem get?_eq_some_iff {map : NameMap} {name value : String} :
    map.get? name = some value ↔ (name, value) ∈ map.entries := by
  -- Names ascend strictly, so none stands twice.
  have distinct : (map.entries.map Prod.fst).Nodup :=
    List.pairwise_map.mpr (map.ascending.imp fun less => String.ne_of_lt less)
  exact lookup_eq_some_iff_mem distinct

/-- Of the names of a category, the last entry's is the greatest. The names in a map ascend,
so an entry with a greater name would come later, and no later entry names the category. -/
theorem not_lt_of_lastNaming {map : NameMap} {category : Category} {top : String × String}
    (last : lastNaming map.entries category = some top) {name value : String}
    (held : map.get? name = some value) (names : Category.ofName? name = some category) :
    ¬top.1 < name := by
  obtain ⟨-, before, after, split, none⟩ := lastNaming_eq_some_iff.mp last
  have mem := get?_eq_some_iff.mp held
  have ascending := map.ascending
  rw [split] at mem ascending
  -- An entry before the last one has a lesser name, and none after it names the category.
  rcases List.mem_append.mp mem with earlier | later
  · have less := (List.pairwise_append.mp ascending).2.2 _ earlier top List.mem_cons_self
    exact String.lt_asymm less
  · rcases List.mem_cons.mp later with same | later
    · rw [← same]
      exact String.lt_irrefl _
    · exact absurd names (none (name, value) later)

end NameMap

/-! ### Levels -/

namespace Settings

/-- An entry that can be resolved names a category and a level. -/
theorem resolveEntry_eq_ok {entry : String × String} {category : Category} {level : Level} :
    resolveEntry entry = .ok (category, level) ↔
      Category.ofName? entry.1 = some category ∧ Level.ofName? entry.2 = some level := by
  unfold resolveEntry
  cases Category.ofName? entry.1 <;> cases Level.ofName? entry.2 <;> simp

/-- A list of entries is resolved one after another. -/
theorem mapM_resolveEntry_cons {entry : String × String} {rest : List (String × String)}
    {resolved : List (Category × Level)}
    (h : (entry :: rest).mapM resolveEntry = .ok resolved) :
    ∃ pair tail, resolveEntry entry = .ok pair ∧ rest.mapM resolveEntry = .ok tail ∧
      resolved = pair :: tail := by
  rw [List.mapM_cons] at h
  cases first : resolveEntry entry with
  | error reason =>
    rw [first] at h
    cases h
  | ok pair =>
    cases others : rest.mapM resolveEntry with
    | error reason =>
      rw [first, others] at h
      cases h
    | ok tail =>
      rw [first, others] at h
      cases h
      exact ⟨pair, tail, rfl, rfl, rfl⟩

/-- Where every entry was resolved, each names a category and a level. -/
theorem resolveEntry_of_mem {entries : List (String × String)}
    {resolved : List (Category × Level)} (h : entries.mapM resolveEntry = .ok resolved)
    {entry : String × String} (mem : entry ∈ entries) :
    ∃ pair, resolveEntry entry = .ok pair := by
  induction entries generalizing resolved with
  | nil => cases mem
  | cons first rest ih =>
    obtain ⟨pair, tail, ok, others, -⟩ := mapM_resolveEntry_cons h
    rcases List.mem_cons.mp mem with rfl | later
    · exact ⟨pair, ok⟩
    · exact ih others later

/-- Setting the levels of resolved entries one after another leaves a category with the
level of the last entry that names it, or with what it had. -/
theorem own_foldl_set {entries : List (String × String)} {resolved : List (Category × Level)}
    (h : entries.mapM resolveEntry = .ok resolved) (config : LogConfig) (category : Category) :
    (resolved.foldl (fun config entry => config.set entry.1 entry.2) config).own category =
      match lastNaming entries category with
      | some entry => Level.ofName? entry.2
      | none => config.own category := by
  -- On the entries, in the order in which they are set; `config` is what was set so far.
  induction entries generalizing resolved config with
  | nil =>
    cases h
    rfl
  | cons first rest ih =>
    obtain ⟨⟨named, level⟩, tail, ok, others, rfl⟩ := mapM_resolveEntry_cons h
    obtain ⟨names, levels⟩ := resolveEntry_eq_ok.mp ok
    rw [List.foldl_cons, ih others, lastNaming_cons, names]
    cases lastNaming rest category with
    | some entry => rfl
    | none =>
      -- No later entry sets the category, so what this one sets stays.
      rw [LogConfig.own_set]
      by_cases same : named = category
      · simp [same, levels]
      · simp [same]

/-- Settings that take effect name a level for everything, and their entries name categories
and levels. The levels are set in the order of the entries, after that of everything. -/
theorem configure_eq_ok {settings : Settings} {config after : LogConfig}
    (h : settings.configure config = .ok after) :
    ∃ level resolved, Level.ofName? settings.logLevel = some level ∧
      settings.logCategories.entries.mapM resolveEntry = .ok resolved ∧
      after = resolved.foldl (fun config entry => config.set entry.1 entry.2)
        (config.setGlobal level) := by
  unfold configure resolve at h
  cases levels : Level.ofName? settings.logLevel with
  | none =>
    rw [levels] at h
    cases h
  | some level =>
    cases entries : settings.logCategories.entries.mapM resolveEntry with
    | error reason =>
      rw [levels, entries] at h
      cases h
    | ok resolved =>
      rw [levels, entries] at h
      cases h
      exact ⟨level, resolved, rfl, rfl, rfl⟩

/-- Where settings took effect, the last entry that names a category decides the level
that counts for it. It is a level of the category's own, so that of everything does not
come in, even where it is more detailed. -/
theorem effective_of_lastNaming {settings : Settings} {config after : LogConfig}
    (h : settings.configure config = .ok after) {category : Category} {top : String × String}
    (last : lastNaming settings.logCategories.entries category = some top) :
    Level.ofName? top.2 = some (after.effective category) := by
  obtain ⟨level, resolved, -, entries, rfl⟩ := configure_eq_ok h
  obtain ⟨⟨named, known⟩, ok⟩ := resolveEntry_of_mem entries (mem_of_lastNaming last)
  have levels := (resolveEntry_eq_ok.mp ok).2
  have own := own_foldl_set entries (config.setGlobal level) category
  simp only [last, levels] at own
  rw [levels, LogConfig.effective, own, Option.getD_some]

end Settings

end GameBoy
