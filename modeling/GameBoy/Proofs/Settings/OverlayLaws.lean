import GameBoy.Proofs.Settings.FlagPrecedence
import GameBoy.Proofs.Text.Trimming
import Mathlib.Data.List.Sort

/-!
# `GameBoy.Proofs.Settings.OverlayLaws`: command lines over settings

What an entry says is told without a search: `Assigns` splits the text at its first equals sign
and trims both sides. Entries are put into the map one after the other, up to the first one
without an equals sign. A map is told by its values (`NameMap.ext_get?`), so two ways to overlay
give the same map as soon as each name has the same last entry.

The laws are those of giving something precedence over something else. That doing it again changes
nothing, and that two command lines are one, comes down for each kind of flag to two laws of
alternatives: an alternative with itself is itself, and three alternatives may be grouped either
way. For the entries it is the same once they are looked at by name.

A command line that is wrong still leaves its entries up to the fault in the map. So the first law
holds of it too, and what is asked of a command line before another is only that the fault stays
the same. Main statements:

* `assigned_eq_some_iff`: the last entry for a name is the one whose level is found.
* `overlay_eq_iff`: the settings that an overlay leaves, by what they say.
* `overlay_overlay`: overlaying a command line again changes nothing.
* `overlay_followedBy`: two command lines one after the other are one command line.
* `overlay_lawful`: all of it together.
-/

set_option autoImplicit false

namespace GameBoy

/-- A map is told by its values. Its entries ascend strictly by name, so two maps with the same
entries have them in the same order. -/
theorem NameMap.ext_get? {left right : NameMap} (same : ∀ name, left.get? name = right.get? name) :
    left = right := by
  have entries : left.entries = right.entries := by
    -- Names that ascend strictly leave only one order to the entries.
    let below (a b : String × String) : Prop := a.1 < b.1
    have : Std.Irrefl below := ⟨fun a => String.lt_irrefl a.1⟩
    have : Std.Antisymm below := ⟨fun a b less more => absurd more (String.lt_asymm less)⟩
    apply List.Pairwise.eq_of_mem_iff (r := below) left.ascending right.ascending
    rintro ⟨name, value⟩
    rw [← get?_eq_some_iff, ← get?_eq_some_iff, same]
  cases left
  cases right
  congr

/-! ### Command lines -/

/-- Every entry of a command line has an equals sign. -/
def Args.InOrder (args : Args) : Prop := ∀ text ∈ args.log, '=' ∈ text.toList

/-- One command line after another. What can be given once counts as it was given last, and the
entries of the second come after those of the first. -/
def Args.followedBy (first second : Args) : Args where
  rom := second.rom
  bootRom := second.bootRom.or first.bootRom
  config := second.config.or first.config
  frames := second.frames.or first.frames
  timing := second.timing.or first.timing
  unthrottled := first.unthrottled || second.unthrottled
  header := first.header || second.header
  logLevel := second.logLevel.or first.logLevel
  log := first.log ++ second.log

namespace Settings

/-! ### What an entry says -/

/-- A text gives a name a level. They stand before and after its first equals sign, and blanks
around them do not count. -/
def Assigns (text name level : String) : Prop :=
  ∃ before after, text.toList = before ++ '=' :: after ∧ '=' ∉ before ∧
    IsTrimOf name.toList before ∧ IsTrimOf level.toList after

/-- A text is split at its first equals sign. -/
theorem splitAssignment_of_split {text : String} {before after : List Char}
    (whole : text.toList = before ++ '=' :: after) (first : '=' ∉ before) :
    splitAssignment text =
      some (String.ofList (trimBlank before), String.ofList (trimBlank after)) := by
  have others : ∀ c ∈ before, decide (c ≠ '=') = true := by
    intro c mem
    apply decide_eq_true
    rintro rfl
    exact first mem
  rw [splitAssignment, whole, List.dropWhile_append_of_pos others,
    List.takeWhile_append_of_pos others]
  simp

/-- A text without one is not split. -/
theorem splitAssignment_of_not_mem {text : String} (absent : '=' ∉ text.toList) :
    splitAssignment text = none := by
  have others : text.toList.dropWhile (· ≠ '=') = [] := by
    rw [List.dropWhile_eq_nil_iff]
    intro c mem
    apply decide_eq_true
    rintro rfl
    exact absent mem
  rw [splitAssignment, others]

/-- The two names that are found are those that the text gives. The text is cut at its first
equals sign, so the part before it has none, and both parts are trimmed, which has one outcome
(`trimBlank_eq_iff`). A text without the sign gives nothing. -/
theorem splitAssignment_eq_some_iff {text name level : String} :
    splitAssignment text = some (name, level) ↔ Assigns text name level := by
  have trimmed : ∀ (name : String) (part : List Char),
      String.ofList (trimBlank part) = name ↔ IsTrimOf name.toList part := by
    intro name part
    rw [← trimBlank_eq_iff, ← String.toList_inj, String.toList_ofList]
  constructor
  · intro split
    have sign : '=' ∈ text.toList := by
      by_contra absent
      rw [splitAssignment_of_not_mem absent] at split
      cases split
    obtain ⟨before, after, whole, first⟩ := List.eq_append_cons_of_mem sign
    rw [splitAssignment_of_split whole first] at split
    obtain ⟨hname, hlevel⟩ := Prod.mk.inj (Option.some.inj split)
    exact ⟨before, after, whole, first, (trimmed _ _).mp hname, (trimmed _ _).mp hlevel⟩
  · rintro ⟨before, after, whole, first, hname, hlevel⟩
    rw [splitAssignment_of_split whole first, (trimmed _ _).mpr hname, (trimmed _ _).mpr hlevel]

/-- What follows the first equals sign may hold others. -/
example : splitAssignment " cpu = debug=trace " = some ("cpu", "debug=trace") := by
  decide +kernel

/-- The level of a name in a list of entries is that of the last entry for the name. -/
def LastAssigns (log : List String) (name level : String) : Prop :=
  ∃ before text after, log = before ++ text :: after ∧ Assigns text name level ∧
    ∀ later ∈ after, ∀ other, ¬Assigns later name other

/-- No level is found where no entry gives one. -/
theorem assigned_eq_none_iff {log : List String} {name : String} :
    assigned log name = none ↔ ∀ text ∈ log, ∀ level, ¬Assigns text name level := by
  rw [assigned, assignments, List.lookup_eq_none_iff]
  constructor
  · intro apart text mem level assigns
    have found := List.mem_filterMap.mpr ⟨text, mem, splitAssignment_eq_some_iff.mpr assigns⟩
    simpa using apart (name, level) (List.mem_reverse.mpr found)
  · rintro never ⟨key, level⟩ found
    obtain ⟨text, mem, split⟩ := List.mem_filterMap.mp (List.mem_reverse.mp found)
    have apart : name ≠ key := by
      rintro rfl
      exact never text mem level (splitAssignment_eq_some_iff.mp split)
    simpa using apart

/-- The last entry for a name is the one whose level is found. By induction on the entries from
the front: the first one is the last for its name only where no later one is. -/
theorem assigned_eq_some_iff {log : List String} {name level : String} :
    assigned log name = some level ↔ LastAssigns log name level := by
  induction log with
  | nil => simp [assigned, assignments, LastAssigns]
  | cons text rest ih =>
    have own : ((splitAssignment text).bind fun entry =>
        if name = entry.1 then some entry.2 else none) = some level ↔ Assigns text name level := by
      rw [← splitAssignment_eq_some_iff]
      cases splitAssignment text with
      | none => simp
      | some entry =>
        obtain ⟨key, value⟩ := entry
        by_cases same : name = key
        · simp [same]
        · simp [same, Ne.symm same]
    rw [assigned_cons, Option.or_eq_some_iff, ih, assigned_eq_none_iff, own]
    constructor
    · rintro (⟨before, last, after, rfl, assigns, none⟩ | ⟨never, assigns⟩)
      · exact ⟨text :: before, last, after, rfl, assigns, none⟩
      · exact ⟨[], text, rest, rfl, assigns, never⟩
    · rintro ⟨before, last, after, split, assigns, none⟩
      cases before with
      | nil =>
        obtain ⟨rfl, rfl⟩ := List.cons.inj split
        exact .inr ⟨none, assigns⟩
      | cons first before =>
        obtain ⟨rfl, rfl⟩ := List.cons.inj split
        exact .inl ⟨before, last, after, rfl, assigns, none⟩

/-! ### Entries in order -/

/-- The entries that take effect: those before the first without an equals sign. -/
def accepted (log : List String) : List String :=
  log.takeWhile fun text => (splitAssignment text).isSome

/-- The first entry without an equals sign is complained of. -/
theorem assignLevels_snd (map : NameMap) (log : List String) :
    (assignLevels map log).2 = (log.find? fun text => '=' ∉ text.toList).map .notAssignment := by
  induction log generalizing map with
  | nil => rfl
  | cons text rest ih =>
    rw [assignLevels, List.find?_cons]
    by_cases sign : '=' ∈ text.toList
    · obtain ⟨before, after, whole, first⟩ := List.eq_append_cons_of_mem sign
      rw [splitAssignment_of_split whole first]
      simp only [sign, not_true_eq_false, decide_false]
      exact ih _
    · rw [splitAssignment_of_not_mem sign]
      simp [sign]

/-- The entries before it take effect as if they were all. -/
theorem assignLevels_accepted (map : NameMap) (log : List String) :
    assignLevels map (accepted log) = ((assignLevels map log).1, none) := by
  induction log generalizing map with
  | nil => rfl
  | cons text rest ih =>
    rw [accepted, List.takeWhile_cons, assignLevels]
    cases split : splitAssignment text with
    | none => rfl
    | some entry =>
      obtain ⟨key, level⟩ := entry
      show assignLevels map (text :: accepted rest) =
        ((assignLevels (map.insert key level) rest).1, none)
      rw [assignLevels, split]
      exact ih _

/-- What the map says afterwards, whether or not something was wrong. -/
theorem get?_assignLevels_fst (map : NameMap) (log : List String) (name : String) :
    (assignLevels map log).1.get? name = (assigned (accepted log) name).or (map.get? name) :=
  get?_assignLevels (assignLevels_accepted map log) name

/-- The same entries once more change nothing. -/
theorem assignLevels_assignLevels (map : NameMap) (log : List String) :
    assignLevels (assignLevels map log).1 log = assignLevels map log := by
  apply Prod.ext
  · apply NameMap.ext_get?
    intro name
    -- The first round already holds what the second would put there.
    rw [get?_assignLevels_fst, get?_assignLevels_fst, ← Option.or_assoc, Option.or_self]
  · rw [assignLevels_snd, assignLevels_snd]

/-- Entries after others go into the map that those left. The first ones have to be in order,
since assigning stops at the first text that is not. -/
theorem assignLevels_append {map between : NameMap} {first : List String}
    (done : assignLevels map first = (between, none)) (second : List String) :
    assignLevels map (first ++ second) = assignLevels between second := by
  induction first generalizing map with
  | nil =>
    cases done
    rfl
  | cons text rest ih =>
    rw [assignLevels] at done
    rw [List.cons_append, assignLevels]
    cases split : splitAssignment text with
    | none =>
      rw [split] at done
      cases done
    | some entry =>
      rw [split] at done
      exact ih done

/-! ### Whole command lines -/

/-- What settings say after a command line that was in order. -/
structure Overlaid (settings : Settings) (args : Args) (after : Settings) : Prop where
  bootRom : after.bootRom = args.bootRom.or settings.bootRom
  timing : after.timing = args.timing.getD settings.timing
  throttle : after.throttle = true ↔ settings.throttle = true ∧ args.unthrottled = false
  logLevel : after.logLevel = args.logLevel.getD settings.logLevel
  /-- The last entry for a name decides. -/
  named : ∀ name level, LastAssigns args.log name level →
    after.logCategories.get? name = some level
  /-- A name without an entry keeps what it had. -/
  unnamed : ∀ name, (∀ text ∈ args.log, ∀ level, ¬Assigns text name level) →
    after.logCategories.get? name = settings.logCategories.get? name

/-- The first entry without an equals sign is what is wrong with a command line. -/
theorem overlay_snd (settings : Settings) (args : Args) :
    (settings.overlay args).2 =
      (args.log.find? fun text => '=' ∉ text.toList).map .notAssignment :=
  assignLevels_snd settings.logCategories args.log

/-- Nothing is wrong if every entry has one. -/
theorem overlay_snd_eq_none_iff (settings : Settings) (args : Args) :
    (settings.overlay args).2 = none ↔ args.InOrder := by
  rw [overlay_snd, Option.map_eq_none_iff, List.find?_eq_none]
  simp [Args.InOrder]

/-- An overlay of a command line in order leaves what the line says. There is a case for each
field. The map of categories is the one that takes an argument: a name has the level of its last
entry if it has one (`assigned_eq_some_iff`), and else the level it had. -/
theorem overlaid_overlay {settings after : Settings} {args : Args}
    (applied : settings.overlay args = (after, none)) : settings.Overlaid args after := by
  have get? := get?_assignLevels (assignLevels_of_overlay applied)
  obtain rfl : (settings.overlay args).1 = after := congrArg Prod.fst applied
  constructor
  case bootRom =>
    show (args.bootRom <|> settings.bootRom) = _
    cases args.bootRom <;> rfl
  case timing => rfl
  case throttle =>
    show (settings.throttle && !args.unthrottled) = true ↔ _
    simp
  case logLevel => rfl
  case named =>
    intro name level last
    rw [get?, assigned_eq_some_iff.mpr last, Option.some_or]
  case unnamed =>
    intro name never
    rw [get?, assigned_eq_none_iff.mpr never, Option.none_or]

/-- Nothing is left open by what the line says. Maps are the same if they answer the same for
every name, and a name is either given a level by the line or keeps the one it had. -/
theorem Overlaid.unique {settings left right : Settings} {args : Args}
    (hleft : settings.Overlaid args left) (hright : settings.Overlaid args right) :
    left = right := by
  have bootRom := hleft.bootRom.trans hright.bootRom.symm
  have timing := hleft.timing.trans hright.timing.symm
  have throttle := Bool.eq_iff_iff.mpr (hleft.throttle.trans hright.throttle.symm)
  have logLevel := hleft.logLevel.trans hright.logLevel.symm
  have logCategories : left.logCategories = right.logCategories := by
    apply NameMap.ext_get?
    intro name
    cases found : assigned args.log name with
    | none =>
      have never := assigned_eq_none_iff.mp found
      rw [hleft.unnamed name never, hright.unnamed name never]
    | some level =>
      have last := assigned_eq_some_iff.mp found
      rw [hleft.named name level last, hright.named name level last]
  cases left
  cases right
  congr

/-- The settings that an overlay leaves where nothing is wrong are those that say what the line
says. There is one such, which gives the direction back from what they say. -/
theorem overlay_eq_iff {settings after : Settings} {args : Args} :
    settings.overlay args = (after, none) ↔ args.InOrder ∧ settings.Overlaid args after := by
  constructor
  · intro applied
    exact ⟨(overlay_snd_eq_none_iff settings args).mp (congrArg Prod.snd applied),
      overlaid_overlay applied⟩
  · rintro ⟨order, told⟩
    have applied : settings.overlay args = ((settings.overlay args).1, none) :=
      Prod.ext rfl ((overlay_snd_eq_none_iff settings args).mpr order)
    rw [applied, (overlaid_overlay applied).unique told]

/-- Overlaying a command line again changes nothing, be it right or wrong. -/
theorem overlay_overlay (settings : Settings) (args : Args) :
    (settings.overlay args).1.overlay args = settings.overlay args := by
  simp only [overlay, assignLevels_assignLevels, Option.orElse_eq_orElse, Option.orElse_eq_or,
    ← Option.or_assoc, ← Option.getD_or, Option.or_self, Bool.and_assoc, Bool.and_self]

/-- Two command lines one after the other are one command line. -/
theorem overlay_followedBy {settings between : Settings} {first : Args}
    (done : settings.overlay first = (between, none)) (second : Args) :
    between.overlay second = settings.overlay (first.followedBy second) := by
  have entries : assignLevels settings.logCategories (first.log ++ second.log) =
      assignLevels between.logCategories second.log :=
    assignLevels_append (assignLevels_of_overlay done) second.log
  obtain rfl : (settings.overlay first).1 = between := congrArg Prod.fst done
  simp only [overlay] at entries
  -- What is left are the laws of the two alternatives, for each kind of flag.
  simp only [overlay, Args.followedBy, entries, Option.orElse_eq_orElse, Option.orElse_eq_or,
    Option.or_assoc, Option.getD_or, Bool.not_or, Bool.and_assoc]

/-- What is wrong with a command line is wrong with it before another. -/
theorem overlay_followedBy_of_wrong {settings : Settings} {first : Args} {error : SettingsError}
    (wrong : (settings.overlay first).2 = some error) (second : Args) :
    (settings.overlay (first.followedBy second)).2 = some error := by
  rw [overlay_snd] at wrong ⊢
  rw [Args.followedBy, List.find?_append, Option.map_or, wrong, Option.some_or]

/-- Command lines over settings obey the laws that one would want of them.

1. The overlay goes through exactly if every entry has an equals sign.
2. Then it leaves the settings, and only those, that are told by the flags where they are given,
   by the last entry for a name, and by the settings before where nothing is said.
3. Doing it again changes nothing, and complains of the same entry if it complains.
4. Two command lines one after the other do what one does that holds the entries of both, the
   later after the earlier.
5. Where the first of them is wrong, so is that one, in the same way.

The second clause is an equivalence over all settings, so it says at once that the result is what
the line says and that nothing is left open (`Overlaid.unique`). -/
theorem overlay_lawful (settings : Settings) (args : Args) :
    ((settings.overlay args).2 = none ↔ ∀ text ∈ args.log, '=' ∈ text.toList) ∧
      (∀ after, settings.overlay args = (after, none) ↔
        args.InOrder ∧ settings.Overlaid args after) ∧
      (settings.overlay args).1.overlay args = settings.overlay args ∧
      ∀ second : Args,
        ((settings.overlay args).2 = none →
          (settings.overlay args).1.overlay second = settings.overlay (args.followedBy second)) ∧
        ∀ error, (settings.overlay args).2 = some error →
          (settings.overlay (args.followedBy second)).2 = some error := by
  refine ⟨overlay_snd_eq_none_iff settings args, fun after => overlay_eq_iff,
    overlay_overlay settings args, fun second => ⟨?_, ?_⟩⟩
  · intro done
    exact overlay_followedBy (Prod.ext rfl done) second
  · intro error wrong
    exact overlay_followedBy_of_wrong wrong second

end Settings

end GameBoy
