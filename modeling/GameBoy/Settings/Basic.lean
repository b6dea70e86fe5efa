import GameBoy.Log.Config
import GameBoy.Settings.NameMap
import GameBoy.Text.Blank
import GameBoy.Text.Quoted
import GameBoy.Timing

/-!
# `GameBoy.Settings.Basic`: how a console is to be run

Settings say which boot image to use, how long a frame is, whether frames are
paced, and what is logged. The log levels are kept as they were written;
`Settings.resolve` reads all of them before any takes effect, so a name that is
none changes nothing. Names of categories are resolved in their order, and where
two name one category the later counts.

Settings come from a file and are overlaid by a command line. Both put names into
one map, under the spelling that they were given in, so the map may hold several
names of a category. Which of them counts is only decided when the settings take
effect.

`Settings.applyLogging` is how the program does that, one change after another on
the configuration that there is. `Settings.configure` is what it comes to, as a
function.
-/

set_option autoImplicit false

namespace GameBoy

/-- The settings. -/
structure Settings where
  bootRom : Option String
  timing : FrameTiming
  /-- Whether frames are paced to the refresh rate. -/
  throttle : Bool
  /-- The level of everything, by name. -/
  logLevel : String
  /-- The levels of categories, both by name. -/
  logCategories : NameMap
deriving DecidableEq

/-- What is wrong with settings. -/
inductive SettingsError where
  /-- The text does not give a category a level. -/
  | notAssignment (text : String)
  /-- No level has this name. -/
  | unknownLevel (name : String)
  /-- No category has this name. -/
  | unknownCategory (name : String)
  /-- No level has this name, which was given to a category. -/
  | unknownLevelOf (name category : String)
deriving DecidableEq

/-- The error in words. -/
def SettingsError.message : SettingsError → String
  | notAssignment text => "expected CATEGORY=LEVEL, got " ++ quoted text
  | unknownLevel name => "unknown log level " ++ quoted name
  | unknownCategory name => "unknown log category " ++ quoted name
  | unknownLevelOf name category => "unknown log level " ++ quoted name ++ " for " ++ category

namespace Settings

/-- The settings where nothing is said. -/
def standard : Settings where
  bootRom := none
  timing := .refresh
  throttle := true
  logLevel := "info"
  logCategories := .empty

/-- The category and the level that an entry names. -/
def resolveEntry (entry : String × String) : Except SettingsError (Category × Level) :=
  match Category.ofName? entry.1, Level.ofName? entry.2 with
  | none, _ => .error (.unknownCategory entry.1)
  | some _, none => .error (.unknownLevelOf entry.2 entry.1)
  | some category, some level => .ok (category, level)

/-- The level of everything and the levels of categories, in the order of their
names. The first name that is none decides the error. -/
def resolve (settings : Settings) : Except SettingsError (Level × List (Category × Level)) := do
  match Level.ofName? settings.logLevel with
  | none => throw (.unknownLevel settings.logLevel)
  | some level => return (level, ← settings.logCategories.entries.mapM resolveEntry)

/-- The log configuration after the settings took effect on it. Categories that
they do not name keep what they had. -/
def configure (settings : Settings) (config : LogConfig) : Except SettingsError LogConfig := do
  let (level, categories) ← settings.resolve
  return categories.foldl (fun config entry => config.set entry.1 entry.2) (config.setGlobal level)

/-- Puts the settings into effect on the log configuration that there is. -/
def applyLogging (settings : Settings) : ExceptT SettingsError (StateM LogConfig) Unit := do
  let (level, categories) ← MonadExcept.ofExcept settings.resolve
  modify fun config => config.setGlobal level
  for (category, level) in categories do
    modify fun config => config.set category level

end Settings

end GameBoy
