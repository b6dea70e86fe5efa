import GameBoy.File
import GameBoy.Json.Reader
import GameBoy.Settings.Basic
import GameBoy.Text.Utf8

/-!
# `GameBoy.Settings.File`: settings from a JSON file

The file holds an object whose fields are settings, or an array that lists them
in a fixed order. What it does not say is as in `Settings.standard`. A field may
be given once; fields that are no settings are skipped.

Reading goes on from left to right and ends at the first thing that is wrong. So
a field that is given twice is complained of where it is given again, before its
value, and a fault behind it is not seen. Log levels are read as texts, and whether
they are names is asked later.
-/

set_option autoImplicit false

namespace GameBoy

open Json (Reader Fault)

namespace Settings

/-- The names of the settings, in their order in an array. -/
inductive Field where
  | bootRom | timing | throttle | logLevel | logCategories
deriving DecidableEq

namespace Field

/-- Every setting, in order. -/
def all : List Field := [bootRom, timing, throttle, logLevel, logCategories]

/-- The name of a setting. -/
def name : Field → String
  | bootRom => "boot_rom"
  | timing => "timing"
  | throttle => "throttle"
  | logLevel => "log_level"
  | logCategories => "log_categories"

/-- The setting with exactly the given name. -/
def ofName? (name : String) : Option Field := all.find? (·.name == name)

end Field

/-- Reads the name of a timing. -/
def readTimingName : Reader FrameTiming := do
  match FrameTiming.ofName? (← Reader.text) with
  | some timing => return timing
  | none => throw .mismatch

/-- Reads a timing: its name, or an object with its name as the only key and no
value. -/
def readTiming : Reader FrameTiming := do
  match ← Reader.peek with
  | '"' => readTimingName
  | '{' =>
    Reader.skip
    unless ← Reader.hasKey true do throw .malformed
    let timing ← readTimingName
    Reader.expect ':'
    if (← Reader.peek) == 'n' then Reader.word "ull" else Reader.wrongKind
    Reader.expect '}'
    return timing
  | _ => throw .malformed

/-- Reads the entries of a map whose opening brace was read. Every round takes a
character, which bounds their number. -/
def readEntries (rounds : Nat) (first : Bool) (map : NameMap) : Reader NameMap := do
  match rounds with
  | 0 => throw .ended
  | rounds + 1 =>
    if ← Reader.hasKey first then
      let name ← Reader.text
      Reader.expect ':'
      let value ← Reader.text
      readEntries rounds false (map.insert name value)
    else
      Reader.skip
      return map

/-- Reads a map from names to names. -/
def readMap : Reader NameMap := do
  if (← Reader.peek) == '{' then
    Reader.skip
    readEntries (← Reader.enoughRounds) true .empty
  else
    Reader.wrongKind

/-- Reads the value of a setting. -/
def readField (settings : Settings) : Field → Reader Settings
  | .bootRom => return { settings with bootRom := ← Reader.optional Reader.text }
  | .timing => return { settings with timing := ← readTiming }
  | .throttle => return { settings with throttle := ← Reader.bool }
  | .logLevel => return { settings with logLevel := ← Reader.text }
  | .logCategories => return { settings with logCategories := ← readMap }

/-- Reads the fields of an object whose opening brace was read. `seen` are the
settings that were given before. A field takes more characters than it takes
rounds, so rounds that are enough for the text stay enough for what is left of
it. -/
def readObject (rounds : Nat) (seen : List Field) (first : Bool) (settings : Settings) :
    Reader Settings := do
  match rounds with
  | 0 => throw .ended
  | rounds + 1 =>
    if ← Reader.hasKey first then
      match Field.ofName? (← Reader.text) with
      | some field =>
        if field ∈ seen then throw .mismatch
        Reader.expect ':'
        readObject rounds (field :: seen) false (← readField settings field)
      | none =>
        Reader.expect ':'
        Reader.skipValue rounds
        readObject rounds seen false settings
    else
      Reader.skip
      return settings

/-- Reads the elements of an array whose opening bracket was read. -/
def readArray (fields : List Field) (first : Bool) (settings : Settings) : Reader Settings := do
  match fields with
  | [] =>
    Reader.expect ']'
    return settings
  | field :: rest =>
    if ← Reader.hasElement first then
      readArray rest false (← readField settings field)
    else
      Reader.skip
      return settings

/-- Reads settings. -/
def read : Reader Settings := do
  match ← Reader.peek with
  | '{' =>
    Reader.skip
    readObject (← Reader.enoughRounds) [] true .standard
  | '[' =>
    Reader.skip
    readArray Field.all true .standard
  | _ => Reader.wrongKind

/-- The settings that a text gives. -/
def ofText (text : List Char) : Except Fault Settings := Reader.run read text

/-- Why a file gives no settings. -/
inductive FileFault where
  | unreadable (reason : FileError)
  | unparsable (fault : Fault)
deriving DecidableEq

/-- The settings in a file, or the standard ones where no file is named. -/
def ofFile : Option FileContent → Except FileFault Settings
  | none => .ok .standard
  | some (.error reason) => .error (.unreadable reason)
  | some (.ok bytes) =>
    match Utf8.decode bytes.toList with
    | none => .error (.unreadable .notText)
    | some text => (ofText text).mapError .unparsable

end Settings

end GameBoy
