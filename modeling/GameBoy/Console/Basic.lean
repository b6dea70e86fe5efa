import GameBoy.Bus.Basic
import GameBoy.Cartridge.Basic
import GameBoy.Machine
import GameBoy.Timing

/-!
# `GameBoy.Console.Basic`: the console

A console is a machine on the bus of a cartridge and, perhaps, a boot image. It
keeps both, so that a reset can build the machine anew, and it knows how long a
frame is.

Power-on and reset build the machine by one function (`Console.connect`). They
differ in what is logged: a new console starts a log of its own and reports a
header whose checksum is wrong, while after a reset the log goes on and only what
the bus has to say of the cartridge is reported once more. The timing survives a
reset.

Nothing about a cartridge but its length keeps a console from being built. A wrong
checksum or a bank controller that is not modelled is reported, and no more.
-/

set_option autoImplicit false

namespace GameBoy

/-- The console. -/
structure Console where
  machine : Machine Bus
  cartridge : Cartridge
  boot : Option BootImage
  timing : FrameTiming

/-- Why a console could not be made or went no further. -/
inductive ConsoleError where
  | trap (trap : Trap)
  | cartridge (reason : CartridgeError)
  | boot (reason : BootError)
deriving DecidableEq

/-- The reason in words. -/
def ConsoleError.message : ConsoleError → String
  | trap reason => reason.message
  | cartridge reason => reason.message
  | boot reason => reason.message

namespace Console

/-- The machine at power-on: the boot program runs first if there is one. The
journal goes on. -/
def connect (cartridge : Cartridge) (boot : Option BootImage) (journal : Journal) :
    Machine Bus where
  cpu := if boot.isSome then .preBoot else .postBoot
  memory := Bus.powerOn ⟨cartridge.image⟩ boot
  journal := journal.noteAll (Mapper.onInsert cartridge.header.type)

/-- What inserting a cartridge has to report. -/
def onInsert (cartridge : Cartridge) : List Event :=
  if cartridge.headerChecksumOk then []
  else
    [.checksumMismatch cartridge.header.title cartridge.header.checksum cartridge.headerChecksum]

/-- A new console with a cartridge inserted. -/
def powerOn (cartridge : Cartridge) (boot : Option BootImage) (config : LogConfig) : Console where
  machine := connect cartridge boot ((Journal.start config).noteAll (onInsert cartridge))
  cartridge
  boot
  timing := .refresh

/-- A new console with what two files hold; the cartridge's file is looked at
first. -/
def ofFiles (rom : FileContent) (boot : Option FileContent) (config : LogConfig) :
    Except ConsoleError Console := do
  let cartridge ← (Cartridge.ofFile rom).mapError .cartridge
  let boot ← boot.mapM fun content => (BootImage.ofFile content).mapError .boot
  return powerOn cartridge boot config

/-- The same console with another timing. -/
def withTiming (console : Console) (timing : FrameTiming) : Console := { console with timing }

/-- Builds the machine anew from the cartridge and the boot image. -/
def reset (console : Console) : Console :=
  { console with machine := connect console.cartridge console.boot console.machine.journal }

/-- Requests interrupts from outside the processor, as devices would. The processor
takes notice at its next step. -/
def requestInterrupts (console : Console) (bits : UInt8) : Console :=
  { console with
    machine := { console.machine with memory := console.machine.memory.requestInterrupts bits } }

end Console

end GameBoy
