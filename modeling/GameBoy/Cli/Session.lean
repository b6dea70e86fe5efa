import GameBoy.Console.Run
import GameBoy.Settings.File
import GameBoy.Settings.Overlay

/-!
# `GameBoy.Cli.Session`: what the program does with a command line

A session reads the command line, the settings, the cartridge and the boot
image, in this order, and stops at the first thing that is wrong. What is left
is a `Launch`: a console that is ready to run. `Session.prepare` goes as far as
that, with files read by any means; `Launch.conclude` says what is told of the
run. Nothing here waits or prints.

How files are read is a parameter, a function in any monad, so a session can be
carried out on files that are only given as bytes. What it comes to is an `Outcome`,
which keeps the output, the records of the log and a failure apart.
-/

set_option autoImplicit false

namespace GameBoy

/-- Something that went wrong, and why. -/
structure Failure where
  message : String
  /-- Each cause of the one before. -/
  causes : List String
deriving DecidableEq

namespace Failure

/-- The causes, one a line, with numbers if there are several. -/
def causeLines (causes : List String) : List String :=
  match causes with
  | [cause] => ["    " ++ cause]
  | causes => causes.zipIdx.map fun (cause, i) => "    " ++ toString i ++ ": " ++ cause

/-- The report of a failure. -/
def lines (failure : Failure) : List String :=
  ("Error: " ++ failure.message).splitOn "\n" ++
    if failure.causes.isEmpty then [] else ["", "Caused by:"] ++ causeLines failure.causes

/-- What is told of settings that could not be had from a file. -/
def ofFileFault (path : String) : Settings.FileFault → Failure
  | .unreadable reason => ⟨"failed to read settings file " ++ path, [reason.message]⟩
  | .unparsable .ended => ⟨"failed to parse settings file " ++ path, ["unexpected end of text"]⟩
  | .unparsable .malformed => ⟨"failed to parse settings file " ++ path, ["malformed JSON"]⟩
  | .unparsable .mismatch =>
    ⟨"failed to parse settings file " ++ path, ["a value that is no setting"]⟩

/-- What is told of settings that cannot be used. -/
def ofSettingsError (error : SettingsError) : Failure := ⟨error.message, []⟩

/-- What is told of a cartridge that could not be loaded. -/
def ofCartridgeError (path : String) (error : CartridgeError) : Failure where
  message := "failed to load ROM " ++ path
  causes :=
    match error with
    | .unreadable reason => [error.message, reason.message]
    | .truncated _ => [error.message]

/-- What is told of a boot image that could not be loaded. -/
def ofBootError (path : String) (error : BootError) : Failure where
  message := "failed to load boot ROM " ++ path
  causes :=
    match error with
    | .unreadable reason => [error.message, reason.message]
    | .wrongSize _ => [error.message]

/-- What is told of a trap, at which the program counter stands behind the
opcode. -/
def ofTrap (pc : UInt16) (trap : Trap) : Failure :=
  ⟨"emulation stopped at PC=" ++ Hex.word pc, [trap.message]⟩

end Failure

/-- What a session comes to. -/
structure Outcome where
  /-- The exit code. -/
  code : UInt8
  /-- What is printed. -/
  output : String
  /-- What is logged, oldest first. -/
  records : List Record
  /-- What went wrong, if anything did. -/
  failure : Option Failure

/-- A record as it is printed: later lines of its message are indented. -/
def Record.lines (record : Record) : List String :=
  match record.message.splitOn "\n" with
  | first :: rest => first :: rest.map ("    " ++ ·)
  | [] => []

namespace Outcome

/-- Something was printed, and all is well. -/
def printed (output : String) : Outcome := ⟨0, output, [], none⟩

/-- Something went wrong. -/
def failed (failure : Failure) : Outcome := ⟨1, "", [], some failure⟩

/-- The command line cannot be used. -/
def misused : Outcome := ⟨2, "", [], none⟩

end Outcome

/-- A console that is ready to run. -/
structure Launch where
  console : Console
  /-- How many frames to run, if not for ever. -/
  frames : Option Nat
  /-- Whether frames are paced. -/
  paced : Bool
  /-- The most detailed level that is logged. -/
  filter : Level
  /-- Whether a boot image was loaded. -/
  booted : Bool

namespace Session

/-- The version, as it is printed. -/
def version : String := "dmg 0.1.0\n"

/-- The options, each with what it does. -/
def options : List (String × String) :=
  [("    --boot-rom <BOOT_ROM>",
      "256-byte boot ROM mapped over 0x0000-0x00FF until 0xFF50 is written"),
    ("    --config <CONFIG>", "JSON settings file"),
    ("    --frames <FRAMES>", "Stop after this many frames (default: run until interrupted)"),
    ("    --timing <TIMING>",
      "Frame budget: \"refresh\" (70221 cycles) or \"scanline\" (154 x 114)"),
    ("    --unthrottled", "Run frames back to back instead of pacing them at 59.73 Hz"),
    ("    --header", "Print the cartridge header as JSON and exit"),
    ("    --log-level <LOG_LEVEL>",
      "Global log level (off, error, warn, info, debug, trace)"),
    ("    --log <CATEGORY=LEVEL>",
      "Per-category log level, e.g. --log cpu=debug (repeatable)"),
    ("-h, --help", "Print help"),
    ("-V, --version", "Print version")]

/-- How the program is called. -/
def usage : String :=
  let rows := options.map fun (name, help) =>
    "  " ++ String.ofList (name.toList.rightpad 27 ' ') ++ "  " ++ help ++ "\n"
  "Game Boy CPU and memory emulator\n\n" ++
    "Usage: dmg [OPTIONS] <ROM>\n\n" ++
    "Arguments:\n  <ROM>  Path to a cartridge ROM image\n\n" ++
    "Options:\n" ++ String.join rows

/-- The target of the program's own records. -/
def target : String := "dmg"

/-- A record of the program's own, if it is logged. -/
def note (filter : Level) (message : String) : List Record :=
  if Level.info ≤ filter then [⟨.info, target, message⟩] else []

/-- Goes as far as a console that is ready to run, or ends before. -/
def prepareArgs {m : Type → Type} [Monad m] (fetch : String → m FileContent) (args : Args) :
    ExceptT Outcome m Launch := do
  let content ← args.config.mapM fun path => fetch path
  let settings ← match Settings.ofFile content with
    | .ok settings => pure settings
    | .error fault => throw (.failed (.ofFileFault (args.config.getD "") fault))
  let (settings, wrong) := settings.overlay args
  if let some error := wrong then
    throw (.failed (.ofSettingsError error))
  let config ← match settings.configure .silent with
    | .ok config => pure config
    | .error error => throw (.failed (.ofSettingsError error))
  let cartridge ← match Cartridge.ofFile (← fetch args.rom) with
    | .ok cartridge => pure cartridge
    | .error error => throw (.failed (.ofCartridgeError args.rom error))
  if args.header then
    throw (.printed (Json.pretty cartridge.summary ++ "\n"))
  let boot ← settings.bootRom.mapM fun path => do
    match BootImage.ofFile (← fetch path) with
    | .ok boot => pure boot
    | .error error => throw (.failed (.ofBootError path error))
  return {
    console := (Console.powerOn cartridge boot config).withTiming settings.timing
    frames := args.frames
    paced := settings.throttle
    filter := config.maxLevel.filter
    booted := boot.isSome }

/-- Reads a command line and goes as far as a console that is ready to run. -/
def prepare {m : Type → Type} [Monad m] (fetch : String → m FileContent)
    (words : List String) : ExceptT Outcome m Launch :=
  match Args.parse words with
  | .ok args => prepareArgs fetch args
  | .error .help => throw (.printed usage)
  | .error .version => throw (.printed version)
  | .error _ => throw .misused

end Session

namespace Launch

/-- What is told before the run. -/
def opening (launch : Launch) : List Record :=
  let cartridge := launch.console.cartridge
  Session.note launch.filter
    ("loaded \"" ++ cartridge.header.title ++ "\" (" ++ cartridge.header.typeName ++ ", " ++
      toString cartridge.image.size ++ " bytes)" ++
      if launch.booted then " with boot ROM" else "")

/-- What is told after the run. The time it took may be given in words. -/
def closing (launch : Launch) (summary : RunSummary) (took : String) : List Record :=
  Session.note launch.filter
    ("ran " ++ toString summary.frames ++ " frames, " ++ toString summary.instructions ++
      " instructions, " ++ toString summary.cycles ++ " machine cycles" ++ took)

/-- What a run comes to. -/
def conclude (launch : Launch) (summary : RunSummary) (trap : Option Trap) (console : Console)
    (took : String) : Outcome where
  code := if trap.isSome then 1 else 0
  output := ""
  records :=
    launch.opening ++ console.machine.journal.records ++ launch.closing summary took
  failure := trap.map (Failure.ofTrap console.machine.cpu.regs.pc)

/-- Runs the console without waiting. -/
def run (launch : Launch) : Outcome :=
  let (summary, trap, console) := launch.console.run launch.frames true
  launch.conclude summary trap console ""

end Launch

/-- A whole session, with frames back to back. -/
def Session.run {m : Type → Type} [Monad m] (fetch : String → m FileContent)
    (words : List String) : m Outcome := do
  match ← (Session.prepare fetch words).run with
  | .ok launch => return launch.run
  | .error outcome => return outcome

end GameBoy
