import GameBoy.Text.Hex
import GameBoy.Log.Config

/-!
# `GameBoy.Log.Event`: what the machine has to report

The machine reports events. An event has a category, a level and a message, and
becomes a log record if the configuration wants it.

An event holds what its message shows, and not the message: what is reported can
be spoken of without taking a text apart. A program that uses the log for messages
of its own makes them on demand (`LogConfig.log`), so that nothing is put into words
which nobody wants to read.
-/

set_option autoImplicit false

namespace GameBoy

/-- One line of a log. -/
structure Record where
  level : Level
  target : String
  message : String
deriving DecidableEq

/-- Logs a message that is made on demand. It is made only if the configuration wants a record
of it. -/
def LogConfig.log {m : Type → Type} [Monad m] (config : LogConfig) (category : Category)
    (level : Level) (message : m String) : m (Option Record) := do
  if !config.shouldLog category level then
    return none
  match level.ofRecord? with
  | none => return none
  | some level => return some ⟨level, category.target, ← message⟩

/-- The record of a message that is at hand, if the configuration wants one. -/
def LogConfig.emit (config : LogConfig) (category : Category) (level : Level) (message : String) :
    Option Record :=
  Id.run (config.log category level (pure message))

/-- Something the machine reports. -/
inductive Event where
  /-- The byte at `pc` stands for no instruction. -/
  | illegalOpcode (opcode : UInt8) (pc : UInt16)
  /-- The machine went to sleep at `pc` until an interrupt is pending. -/
  | halted (pc : UInt16)
  /-- The machine stopped at `pc` until the joypad wakes it. -/
  | stopped (pc : UInt16) (padding : UInt8)
  /-- Pending interrupts ended the sleep. -/
  | haltReleased (pc : UInt16) (pending : UInt8)
  /-- The joypad ended the stop. -/
  | stopReleased (pc : UInt16)
  /-- The machine entered an interrupt. -/
  | interruptEntered (line : Nat) (vector returnTo : UInt16)
  /-- A write took the boot image out of the memory map. -/
  | overlayDisabled (value : UInt8)
  /-- A write to the cartridge's read-only memory had no effect. -/
  | romWriteIgnored (value : UInt8) (addr : UInt16)
  /-- The cartridge declares a bank controller that is not modelled. -/
  | controllerMissing (type : UInt8)
  /-- The cartridge's header does not have the checksum it states. -/
  | checksumMismatch (title : String) (stored computed : UInt8)
deriving DecidableEq

namespace Event

/-- What the event is about. -/
def category : Event → Category
  | illegalOpcode .. | halted .. | stopped .. | haltReleased .. | stopReleased .. => .cpu
  | interruptEntered .. => .interrupts
  | overlayDisabled .. => .mmu
  | romWriteIgnored .. => .stubs
  | controllerMissing .. | checksumMismatch .. => .cartridge

/-- The level at which the event is logged. -/
def level : Event → Level
  | illegalOpcode .. => .error
  | halted .. | stopped .. | haltReleased .. | stopReleased .. => .debug
  | interruptEntered .. => .trace
  | overlayDisabled .. => .info
  | romWriteIgnored .. => .debug
  | controllerMissing .. | checksumMismatch .. => .warn

/-- The event in words. -/
def message : Event → String
  | illegalOpcode opcode pc => "illegal opcode " ++ Hex.byte opcode ++ " at " ++ Hex.word pc
  | halted pc => "HALT at PC=" ++ Hex.word pc
  | stopped pc padding =>
    "STOP at PC=" ++ Hex.word pc ++ " (padding " ++ Hex.byte padding ++ ")"
  | haltReleased pc pending =>
    "HALT released at PC=" ++ Hex.word pc ++ " (pending=" ++ Hex.byte pending ++ ")"
  | stopReleased pc => "STOP released at PC=" ++ Hex.word pc
  | interruptEntered line vector returnTo =>
    "interrupt " ++ toString line ++ " -> " ++ Hex.word vector ++ " (return " ++
      Hex.word returnTo ++ ")"
  | overlayDisabled value => "boot overlay disabled (wrote " ++ Hex.byte value ++ " to FF50)"
  | romWriteIgnored value addr =>
    "ROM-only cartridge ignored write " ++ Hex.byte value ++ " to " ++ Hex.word addr
  | controllerMissing type =>
    "cartridge type " ++ Hex.byte type ++ " has no bank controller model; using ROM-only access"
  | checksumMismatch title stored computed =>
    "header checksum mismatch for \"" ++ title ++ "\": stored " ++ Hex.byte stored ++
      ", computed " ++ Hex.byte computed

/-- The event as a line of a log. -/
def record (event : Event) : Record :=
  ⟨event.level, event.category.target, event.message⟩

end Event

end GameBoy
