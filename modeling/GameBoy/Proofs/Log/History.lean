import Mathlib.Data.List.DropRight
import GameBoy.Log.Event

/-!
# `GameBoy.Proofs.Log.History`: what a log configuration has come to

A configuration starts out silent and is changed one change at a time. What it has come to is
told by its history: of the changes since the last one that took a level back, the last one that
gave it counts. The level of everything and those of the categories are thus told apart, and a
category that was given `off` is not one that was given nothing.

Both levels are told in the same way, by two things one knows of a change: whether it ends what
was before, and what it gives. A reset ends the level of everything; a reset and a clearing of the
category end its own. One lemma says what the last change does to such a reading
(`getLast?_since_concat`), and both inductions take a history apart from its end, where the
configuration is changed last.

The filter of a logging library stands before all categories, so it has to let through whatever
any of them wants. It is set to the most detailed level of all, and the last part shows that this
is wide enough and no wider than it has to be. Main statements:

* `LogConfig.own_after`, `LogConfig.global_after`: the levels that a history leaves.
* `LogConfig.exists_shouldLog_iff`: the most detailed level is the last one that is logged.
* `LogConfig.means_its_history`: a configuration means what its history says, and its filter is
  exactly wide enough.
-/

set_option autoImplicit false

namespace GameBoy

/-! ### Levels -/

namespace Level

/-- What is not above the more detailed of two levels is not above one of them. -/
theorem le_max_iff {level a b : Level} : level ≤ a.max b ↔ level ≤ a ∨ level ≤ b := by
  cases level <;> cases a <;> cases b <;> decide

theorem le_off_iff {level : Level} : level ≤ off ↔ level = off := by
  cases level <;> decide

/-- What is not above the most detailed of several levels is not above one of them. -/
theorem le_foldl_max_iff {level start : Level} {levels : List Level} :
    level ≤ levels.foldl max start ↔ level ≤ start ∨ ∃ other ∈ levels, level ≤ other := by
  induction levels generalizing start with
  | nil => simp
  | cons first rest ih =>
    rw [List.foldl_cons, ih, le_max_iff, or_assoc, List.exists_mem_cons_iff]

/-- A filter lets through what is logged at its level. -/
theorem filter_eq (level : Level) : level.filter = level := by
  cases level <;> rfl

end Level

/-! ### Histories -/

/-- A change to a log configuration. -/
inductive LogChange where
  | setGlobal (level : Level)
  | set (category : Category) (level : Level)
  | clear (category : Category)
  | reset
deriving DecidableEq

namespace LogChange

/-- The level that a change gives to everything. -/
def globalLevel? : LogChange → Option Level
  | setGlobal level => some level
  | set .. | clear _ | reset => none

/-- The level of its own that a change gives to a category. -/
def ownLevel? (category : Category) : LogChange → Option Level
  | set other level => if other = category then some level else none
  | setGlobal _ | clear _ | reset => none

end LogChange

/-- The changes since the last one that ends something, or all of them. -/
def since (ends : LogChange → Prop) [DecidablePred ends] (changes : List LogChange) :
    List LogChange :=
  changes.rtakeWhile fun change => ¬ends change

/-- The last change ends what was before, or may itself be the last to give a level. That a
change which ends something gives no level is not asked for: where it ends, nothing of it
counts. -/
theorem getLast?_since_concat (ends : LogChange → Prop) [DecidablePred ends]
    (gives : LogChange → Option Level) (changes : List LogChange) (change : LogChange) :
    ((since ends (changes ++ [change])).filterMap gives).getLast? =
      if ends change then none
      else (gives change).or ((since ends changes).filterMap gives).getLast? := by
  rw [since, List.rtakeWhile_concat]
  by_cases ending : ends change
  · simp [ending]
  · -- A change that gives nothing leaves what was given before.
    cases given : gives change with
    | none => simp [ending, since, given]
    | some level => simp [ending, given]

namespace LogConfig

/-- The configuration after a change. -/
def change (config : LogConfig) : LogChange → LogConfig
  | .setGlobal level => config.setGlobal level
  | .set category level => config.set category level
  | .clear category => config.clear category
  | .reset => config.reset

/-- The configuration after a history, from the start. -/
def after (changes : List LogChange) : LogConfig := changes.foldl change silent

theorem after_concat (changes : List LogChange) (last : LogChange) :
    after (changes ++ [last]) = (after changes).change last :=
  List.foldl_concat ..

/-- What a change does to the level of everything. -/
theorem global_change (config : LogConfig) (change : LogChange) :
    (config.change change).global =
      if change = .reset then .off else change.globalLevel?.getD config.global := by
  cases change with
  | reset => rw [LogConfig.change, reset_eq]; rfl
  | setGlobal level => rfl
  | set category level => rfl
  | clear category => rfl

/-- What a change does to the level that a category has of its own. It is taken away if that
category is cleared or everything is reset, it is replaced if the change sets it, and changes that
concern other categories or the level of everything leave it as it was. -/
theorem own_change (config : LogConfig) (change : LogChange) (category : Category) :
    (config.change change).own category =
      if change = .clear category ∨ change = .reset then none
      else (change.ownLevel? category).or (config.own category) := by
  cases change with
  | reset => rw [LogConfig.change, reset_eq, own_silent]; rfl
  | setGlobal level => rfl
  | set other level =>
    rw [LogConfig.change, own_set]
    by_cases same : other = category
    · simp [LogChange.ownLevel?, same]
    · simp [LogChange.ownLevel?, same]
  | clear other =>
    rw [LogConfig.change, own_clear]
    by_cases same : other = category
    · simp [same]
    · simp [same, LogChange.ownLevel?]

/-- The level of everything is the last one that was set since the last reset, or `off`. -/
theorem global_after (changes : List LogChange) :
    (after changes).global =
      ((since (· = .reset) changes).filterMap LogChange.globalLevel?).getLast?.getD .off := by
  -- On the history, its last change first.
  induction changes using List.reverseRecOn with
  | nil => rfl
  | append_singleton changes last ih =>
    rw [after_concat, global_change, getLast?_since_concat, ih]
    split
    · rfl
    · cases last.globalLevel? <;> rfl

/-- A category's own level is the last one that it was given since it was last cleared and since
the last reset, if it was given one. What other categories were given does not count, nor does
what was set for everything. -/
theorem own_after (changes : List LogChange) (category : Category) :
    (after changes).own category =
      ((since (fun change => change = .clear category ∨ change = .reset) changes).filterMap
        (LogChange.ownLevel? category)).getLast? := by
  induction changes using List.reverseRecOn with
  | nil => exact own_silent category
  | append_singleton changes last ih =>
    rw [after_concat, own_change, getLast?_since_concat, ih]

/-- A category that was given `off` does not follow the level of everything until it is cleared. -/
example :
    (after [.set .cpu .off, .setGlobal .info]).effective .cpu = .off ∧
      (after [.set .cpu .off, .setGlobal .info, .clear .cpu]).effective .cpu = .info := by
  decide

/-! ### What is logged -/

variable {config : LogConfig} {category : Category} {level : Level}

theorem shouldLog_iff :
    config.shouldLog category level = true ↔ level ≠ .off ∧ level ≤ config.effective category := by
  rw [shouldLog, Bool.and_eq_true, decide_eq_true_iff, decide_eq_true_iff]

/-- A message is made for a record that is wanted, and for no other. The message may have
effects in any monad, and where the record is not wanted there are none. -/
theorem log_eq {m : Type → Type} [Monad m] (config : LogConfig) (category : Category)
    (level : Level) (message : m String) :
    config.log category level message =
      if config.shouldLog category level then
        (do return some ⟨level, category.target, ← message⟩)
      else return none := by
  rw [log]
  cases wanted : config.shouldLog category level with
  | false => rfl
  | true =>
    -- A record that is wanted has a level, so it is not held back for want of one.
    have some : level ≠ .off := (shouldLog_iff.mp wanted).1
    cases level with
    | off => exact absurd rfl some
    | error | warn | info | debug | trace => rfl

/-- A record that is emitted is that of the message, and was wanted. -/
theorem emit_eq_some_iff {message : String} {record : Record} :
    config.emit category level message = some record ↔
      config.shouldLog category level = true ∧ ⟨level, category.target, message⟩ = record := by
  rw [emit, log_eq]
  cases wanted : config.shouldLog category level with
  | false => simp
  | true => simp

/-- A level is logged somewhere exactly if it is not above the most detailed one. That one is
taken over all categories, so there is a category that reaches it. -/
theorem exists_shouldLog_iff (some : level ≠ .off) :
    (∃ category, config.shouldLog category level = true) ↔ level ≤ config.maxLevel := by
  rw [maxLevel, Level.le_foldl_max_iff, Level.le_off_iff]
  constructor
  · rintro ⟨category, wanted⟩
    exact .inr ⟨_, List.mem_map_of_mem category.mem_all, (shouldLog_iff.mp wanted).2⟩
  · rintro (off | ⟨_, mem, le⟩)
    · exact absurd off some
    · obtain ⟨category, -, rfl⟩ := List.mem_map.mp mem
      exact ⟨category, shouldLog_iff.mpr ⟨some, le⟩⟩

/-- Whatever was done to a log configuration, it means what its history says.

1. A category's own level is the last one that it was given since it was last cleared and since
   the last reset, if it was given one.
2. The level of everything is the last one that was set since the last reset, or `off`.
3. The own level counts if there is one, even `off`, and otherwise the level of everything.
4. A level is wanted if it is not `off` and not above the level that counts.
5. A message is made, and its record given on, just where it is wanted.
6. The most detailed level is the last one that is wanted somewhere.
7. The filter lets through every record that can be emitted.
8. The filter is open for no level at which nothing can be emitted.

The first two are inductions on the history (`own_after`, `global_after`); what follows them holds
of every configuration. -/
theorem means_its_history (changes : List LogChange) :
    let config := after changes
    (∀ category, config.own category =
      ((since (fun change => change = .clear category ∨ change = .reset) changes).filterMap
        (LogChange.ownLevel? category)).getLast?) ∧
    config.global =
      ((since (· = .reset) changes).filterMap LogChange.globalLevel?).getLast?.getD .off ∧
    (∀ category,
      (∀ level, config.own category = some level → config.effective category = level) ∧
      (config.own category = none → config.effective category = config.global)) ∧
    (∀ category level, config.shouldLog category level = true ↔
      level ≠ .off ∧ level ≤ config.effective category) ∧
    (∀ (category : Category) (level : Level) (m : Type → Type) [Monad m] (message : m String),
      config.log category level message =
        if config.shouldLog category level then
          (do return some ⟨level, category.target, ← message⟩)
        else return none) ∧
    (∀ level, level ≠ .off →
      ((∃ category, config.shouldLog category level = true) ↔ level ≤ config.maxLevel)) ∧
    (∀ category level message record, config.emit category level message = some record →
      record.level ≤ config.maxLevel.filter) ∧
    ∀ level, level ≠ .off → level ≤ config.maxLevel.filter →
      ∃ category, ∀ message, ∃ record, config.emit category level message = some record ∧
        record.level = level := by
  intro config
  refine ⟨own_after changes, global_after changes, ?_, fun _ _ => shouldLog_iff,
    fun category level m _ message => log_eq config category level message,
    fun _ => exists_shouldLog_iff, ?_, ?_⟩
  · intro category
    constructor
    · intro level own
      rw [effective, own, Option.getD_some]
    · intro own
      rw [effective, own, Option.getD_none]
  · intro category level message record emitted
    obtain ⟨wanted, rfl⟩ := emit_eq_some_iff.mp emitted
    rw [Level.filter_eq]
    exact (exists_shouldLog_iff (shouldLog_iff.mp wanted).1).mp ⟨category, wanted⟩
  · intro level some le
    rw [Level.filter_eq] at le
    obtain ⟨category, wanted⟩ := (exists_shouldLog_iff some).mpr le
    exact ⟨category, fun message => ⟨_, emit_eq_some_iff.mpr ⟨wanted, rfl⟩, rfl⟩⟩

end LogConfig

end GameBoy
