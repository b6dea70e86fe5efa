import GameBoy.Cli.Args
import GameBoy.Settings.Basic

/-!
# `GameBoy.Settings.Overlay`: the command line over the settings

What the command line says takes the place of what the settings say. A level for
a category is written as one text with an equals sign; blanks around the two
names do not count.

The two names are not looked at here: any text may stand for a category, and what
follows a second equals sign is part of the level. Entries are put into the map
in order, up to the first one that has no equals sign, and are compared with what
is in the map by their spelling.
-/

set_option autoImplicit false

namespace GameBoy.Settings

/-- The names of a category and of its level, out of one text. -/
def splitAssignment (text : String) : Option (String × String) :=
  match text.toList.dropWhile (· ≠ '=') with
  | _ :: level =>
    some (String.ofList (trimBlank (text.toList.takeWhile (· ≠ '='))),
      String.ofList (trimBlank level))
  | [] => none

/-- Gives categories levels, in order, until a text that does not. -/
def assignLevels (map : NameMap) : List String → NameMap × Option SettingsError
  | [] => (map, none)
  | text :: rest =>
    match splitAssignment text with
    | some (category, level) => assignLevels (map.insert category level) rest
    | none => (map, some (.notAssignment text))

/-- The settings under a command line, and what was wrong with it. Where
something was, what comes before it has taken effect. -/
def overlay (settings : Settings) (args : Args) : Settings × Option SettingsError :=
  let (logCategories, error) := assignLevels settings.logCategories args.log
  ({ bootRom := args.bootRom <|> settings.bootRom
     timing := args.timing.getD settings.timing
     throttle := settings.throttle && !args.unthrottled
     logLevel := args.logLevel.getD settings.logLevel
     logCategories }, error)

end GameBoy.Settings
