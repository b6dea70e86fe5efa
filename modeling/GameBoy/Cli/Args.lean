import GameBoy.TimingName

/-!
# `GameBoy.Cli.Args`: the command line

The command line names a cartridge image, options with values and flags without.
It is read from left to right. A value that stands by itself is held back until
the word after it was looked at, since a word that cannot be used at all is
complained of first. After `--` every word is a value.

An option that may be given once is refused when it is given again, and entries
for log levels are collected in the order in which they stand. A request for help
or for the version wins where it stands, over anything that is wrong further on.
-/

set_option autoImplicit false

namespace GameBoy

/-- What the command line asks for. -/
structure Args where
  rom : String
  bootRom : Option String
  config : Option String
  frames : Option Nat
  timing : Option FrameTiming
  unthrottled : Bool
  header : Bool
  logLevel : Option String
  /-- The log levels given to categories, each as one text, in order. -/
  log : List String
deriving DecidableEq

/-- Why the command line asks for nothing to be run. -/
inductive ArgsError where
  /-- No cartridge image is named. -/
  | missingRom
  /-- An option or a value that is not known or not wanted. -/
  | unknown (word : String)
  /-- An option has no value, or an empty one where a path is wanted. -/
  | noValue (name : String)
  /-- The value of an option does not have the right form. -/
  | badValue (name value : String)
  /-- An option or flag that may be given once is given again. -/
  | repeated (name : String)
  /-- A flag is given a value. -/
  | unwantedValue (name : String)
  /-- Help is asked for. -/
  | help
  /-- The version is asked for. -/
  | version
deriving DecidableEq

namespace Args

/-- The options, which take a value. -/
inductive Opt where
  | bootRom | config | frames | timing | logLevel | log
deriving DecidableEq

/-- The flags, which take none. -/
inductive Flag where
  | unthrottled | header | help | version
deriving DecidableEq

/-- The names of the options, without the dashes. -/
def optNames : List (String × Opt) :=
  [("boot-rom", .bootRom), ("config", .config), ("frames", .frames), ("timing", .timing),
    ("log-level", .logLevel), ("log", .log)]

/-- The names of the flags, without the dashes. -/
def flagNames : List (String × Flag) :=
  [("unthrottled", .unthrottled), ("header", .header), ("help", .help), ("version", .version)]

/-- The flags that a single dash and a letter stand for. -/
def flagLetters : List (Char × Flag) := [('h', .help), ('V', .version)]

/-- What was read so far, where the cartridge image may still be missing. -/
structure Draft where
  rom : Option String
  bootRom : Option String
  config : Option String
  frames : Option Nat
  timing : Option FrameTiming
  unthrottled : Bool
  header : Bool
  logLevel : Option String
  /-- The log levels given to categories, the latest first. -/
  log : List String

/-- Nothing was read yet. -/
def Draft.empty : Draft := ⟨none, none, none, none, none, false, false, none, []⟩

/-- The greatest number of frames that can be asked for. -/
def frameLimit : Nat := 0xFFFFFFFFFFFFFFFF

/-- A number of frames: decimal digits, perhaps after a plus sign. -/
def parseFrames (value : String) : Option Nat :=
  let digits := match value.toList with
    | '+' :: rest => rest
    | text => text
  if digits.isEmpty || digits.any fun c => c < '0' || '9' < c then none
  else
    let number := digits.foldl
      (fun number c => min (number * 10 + (c.toNat - '0'.toNat)) (frameLimit + 1)) 0
    if number ≤ frameLimit then some number else none

/-- A path, which must not be empty. -/
def parsePath (name value : String) : Except ArgsError String :=
  if value.isEmpty then .error (.noValue name) else .ok value

/-- Refuses an option that was given before. -/
def once {α : Type} (name : String) (given : Option α) : Except ArgsError Unit :=
  if given.isSome then .error (.repeated name) else .ok ()

/-- Takes note of an option with its value, if it has one. -/
def Draft.assign (draft : Draft) (opt : Opt) (value : Option String) : Except ArgsError Draft :=
  match opt, value with
  | .bootRom, some value => do
    once "boot-rom" draft.bootRom
    return { draft with bootRom := some (← parsePath "boot-rom" value) }
  | .config, some value => do
    once "config" draft.config
    return { draft with config := some (← parsePath "config" value) }
  | .frames, some value => do
    once "frames" draft.frames
    match parseFrames value with
    | some frames => return { draft with frames := some frames }
    | none => throw (.badValue "frames" value)
  | .timing, some value => do
    once "timing" draft.timing
    match FrameTiming.parse value with
    | .ok timing => return { draft with timing := some timing }
    | .error _ => throw (.badValue "timing" value)
  | .logLevel, some value => do
    once "log-level" draft.logLevel
    return { draft with logLevel := some value }
  | .log, some value => return { draft with log := value :: draft.log }
  | opt, none => .error (.noValue ((optNames.find? (·.2 = opt)).elim "" (·.1)))

/-- Takes note of a flag. -/
def Draft.raise (draft : Draft) (flag : Flag) : Except ArgsError Draft :=
  match flag with
  | .unthrottled =>
    if draft.unthrottled then .error (.repeated "unthrottled")
    else .ok { draft with unthrottled := true }
  | .header =>
    if draft.header then .error (.repeated "header") else .ok { draft with header := true }
  | .help => .error .help
  | .version => .error .version

/-- What is held back until the next word was looked at. -/
inductive Pending where
  | nothing
  /-- An option, with its value if that was read. -/
  | opt (opt : Opt) (value : Option String)
  /-- The cartridge image. -/
  | rom (value : String)
deriving DecidableEq

/-- Where the reading of a command line stands. -/
structure Progress where
  draft : Draft
  pending : Pending
  /-- Whether the cartridge image was read. -/
  romSeen : Bool
  /-- Whether only values follow. -/
  valuesOnly : Bool

/-- Takes note of what was held back. -/
def Progress.settle (progress : Progress) : Except ArgsError Draft :=
  match progress.pending with
  | .nothing => .ok progress.draft
  | .opt opt value => progress.draft.assign opt value
  | .rom value => do return { progress.draft with rom := some (← parsePath "ROM" value) }

/-- Reads a value that belongs to no option. -/
def Progress.takeValue (progress : Progress) (word : String) : Except ArgsError Progress := do
  if progress.romSeen then throw (.unknown word)
  return { progress with draft := ← progress.settle, pending := .rom word, romSeen := true }

/-- Reads a flag, which takes no value. -/
def Progress.takeFlag (progress : Progress) (flag : Flag) : Except ArgsError Progress := do
  return { progress with draft := ← (← progress.settle).raise flag, pending := .nothing }

/-- Reads a word that starts with two dashes, split at its first equals sign. -/
def Progress.takeLong (progress : Progress) (name : String) (value : Option String) :
    Except ArgsError Progress := do
  match optNames.lookup name, flagNames.lookup name with
  | some opt, _ =>
    let draft ← progress.settle
    match value with
    | some _ => return { progress with draft := ← draft.assign opt value, pending := .nothing }
    | none => return { progress with draft, pending := .opt opt none }
  | none, some flag => if value.isSome then throw (.unwantedValue name) else progress.takeFlag flag
  | none, none => throw (.unknown name)

/-- A text up to its first equals sign and, if it has one, the text after it. -/
def splitAtEquals (text : List Char) : String × Option String :=
  match text.dropWhile (· ≠ '=') with
  | _ :: rest => (String.ofList (text.takeWhile (· ≠ '=')), some (String.ofList rest))
  | [] => (String.ofList text, none)

/-- Reads a word. -/
def Progress.take (progress : Progress) (word : String) : Except ArgsError Progress :=
  if progress.valuesOnly then progress.takeValue word
  else
    match word.toList with
    | ['-', '-'] => .ok { progress with valuesOnly := true }
    | '-' :: '-' :: long =>
      let (name, value) := splitAtEquals long
      progress.takeLong name value
    | '-' :: letter :: _ =>
      match flagLetters.lookup letter with
      | some flag => progress.takeFlag flag
      | none => .error (.unknown word)
    | _ =>
      match progress.pending with
      | .opt opt none => .ok { progress with pending := .opt opt (some word) }
      | _ => progress.takeValue word

/-- Reads a command line, without the program's name. -/
def parse (words : List String) : Except ArgsError Args := do
  let progress ← words.foldlM Progress.take ⟨.empty, .nothing, false, false⟩
  let draft ← progress.settle
  match draft.rom with
  | none => throw .missingRom
  | some rom =>
    return {
      rom
      bootRom := draft.bootRom
      config := draft.config
      frames := draft.frames
      timing := draft.timing
      unthrottled := draft.unthrottled
      header := draft.header
      logLevel := draft.logLevel
      log := draft.log.reverse }

end Args

end GameBoy
