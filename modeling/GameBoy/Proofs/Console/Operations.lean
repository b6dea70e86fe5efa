import GameBoy.Proofs.Console.Lockstep

/-!
# `GameBoy.Proofs.Console.Operations`: everything that can be done with a console

The operations on a machine and on a console, with what each of them answers. Statements on
whatever is done with a console quantify over lists of them (`session`), so what is left out here
is left out of all of those. Among them are the operations that a frontend has: loading and
inserting cartridges, timing, reset, steps, frames and requests of interrupts. There are also
those that reach into the machine: an opcode run by itself, reads and writes of memory from
outside, and a processor that is put into any other state.

A console that is built anew takes the place of the one before it, and its log goes on where that
one's ends. So a session has one log, however many consoles there were in it.

Main statements:

* `Machine.operate_lockstep`: machines on which the processor acts in lockstep are so through
  every operation.
* `Console.ofFiles_cases`: loading a cartridge from files fails or succeeds whatever is logged.
-/

set_option autoImplicit false

namespace GameBoy

/-- What an operation answers. -/
inductive Answer where
  /-- It answers nothing. -/
  | done
  /-- The byte that was read. -/
  | byte (value : UInt8)
  /-- The cost of an instruction, or its trap. -/
  | cost (result : Except Trap Nat)
  /-- What a frame did, or its trap. -/
  | report (result : Except Trap FrameReport)
  /-- Whether a cartridge was loaded, or why not. -/
  | loaded (result : Except ConsoleError Unit)

namespace Machine

/-- What can be done with a processor and the memory it is connected to. -/
inductive Operation where
  | step
  /-- Runs an opcode that was fetched before. -/
  | execute (opcode : UInt8)
  | read (addr : UInt16)
  | write (addr : UInt16) (value : UInt8)
  /-- Puts the processor into another state, from outside. -/
  | adjust (change : Cpu → Cpu)

variable {M : Type} [Memory M]

/-- The answer of an operation, and the machine after it. -/
def operate (machine : Machine M) : Operation → Answer × Machine M
  | .step =>
    let (result, machine) := machine.step
    (.cost result, machine)
  | .execute opcode =>
    let (result, machine) := machine.execute opcode
    (.cost result, machine)
  | .read addr => (.byte (machine.read addr), machine)
  | .write addr value => (.done, machine.write addr value)
  | .adjust change => (.done, { machine with cpu := change machine.cpu })

/-- Machines on which the processor acts in lockstep, and which stay related when it is put
into another state, are in lockstep through every operation. To read and to write from outside is
to let the processor do that and nothing else. -/
theorem operate_lockstep {N : Type} [Memory N] {related : Machine M → Machine N → Prop}
    (run : ∀ {α : Type} (one : Machine M) (other : Machine N)
      (action : Cpu → Transaction (α × Cpu)), related one other →
        Lockstep related (one.run action) (other.run action))
    (adjust : ∀ (one : Machine M) (other : Machine N) (change : Cpu → Cpu), related one other →
      related { one with cpu := change one.cpu } { other with cpu := change other.cpu })
    {one : Machine M} {other : Machine N} (h : related one other) (operation : Operation) :
    Lockstep related (one.operate operation) (other.operate operation) := by
  cases operation with
  | step =>
    have both := run one other Cpu.step h
    exact ⟨congrArg Answer.cost both.answer, both.after⟩
  | execute opcode =>
    have both := run one other (·.execute opcode) h
    exact ⟨congrArg Answer.cost both.answer, both.after⟩
  | read addr =>
    -- To read is to let the processor read and stay as it is.
    have both := run one other (fun cpu => .read addr fun value => .done (value, cpu)) h
    exact ⟨congrArg Answer.byte both.answer, h⟩
  | write addr value =>
    have both := run one other (fun cpu => .write addr value (.done ((), cpu))) h
    exact ⟨rfl, both.after⟩
  | adjust change => exact ⟨rfl, adjust one other change h⟩

end Machine

namespace Console

/-- What can be done with a console. -/
inductive Operation where
  /-- Takes a new console instead, with what two files hold. -/
  | load (rom : FileContent) (boot : Option FileContent)
  /-- Takes a new console instead, with a cartridge inserted. -/
  | insert (cartridge : Cartridge) (boot : Option BootImage)
  | retime (timing : FrameTiming)
  | reset
  | step
  | frame (allowance : Option Nat)
  /-- Requests interrupts from outside the processor. -/
  | request (bits : UInt8)
  /-- Uses the processor or the memory in the console. -/
  | machine (operation : Machine.Operation)

/-- A new console, its log behind an earlier one. -/
def following (console : Console) (earlier : Journal) : Console :=
  { console with
    machine.journal :=
      { console.machine.journal with events := earlier.events ++ console.machine.journal.events } }

/-- The answer of an operation, and the console after it. -/
def operate (console : Console) : Operation → Answer × Console
  | .load rom boot =>
    match ofFiles rom boot console.machine.journal.config with
    | .ok new => (.loaded (.ok ()), new.following console.machine.journal)
    | .error reason => (.loaded (.error reason), console)
  | .insert cartridge boot =>
    let new := powerOn cartridge boot console.machine.journal.config
    (.done, new.following console.machine.journal)
  | .retime timing => (.done, console.withTiming timing)
  | .reset => (.done, console.reset)
  | .step =>
    let (result, console) := console.step
    (.cost result, console)
  | .frame allowance =>
    let (result, console) := console.frame allowance
    (.report result, console)
  | .request bits => (.done, console.requestInterrupts bits)
  | .machine operation =>
    let (answer, machine) := console.machine.operate operation
    (answer, { console with machine })

/-- Two files give the same console, or fail for the same reason, whatever is logged. The log
configuration is handed on to the new console, and nothing depends on it before. -/
theorem ofFiles_cases (rom : FileContent) (boot : Option FileContent) :
    (∃ reason, ∀ config, ofFiles rom boot config = .error reason) ∨
      ∃ cartridge image,
        ∀ config, ofFiles rom boot config = .ok (powerOn cartridge image config) := by
  cases loaded : (Cartridge.ofFile rom).mapError ConsoleError.cartridge with
  | error reason => exact .inl ⟨reason, fun config => by rw [ofFiles, loaded]; rfl⟩
  | ok cartridge =>
    cases read : boot.mapM fun content => (BootImage.ofFile content).mapError ConsoleError.boot with
    | error reason => exact .inl ⟨reason, fun config => by rw [ofFiles, loaded, read]; rfl⟩
    | ok image => exact .inr ⟨cartridge, image, fun config => by rw [ofFiles, loaded, read]; rfl⟩

/-- To load two files is to insert the cartridge that they hold, or it fails and nothing is
done. -/
theorem operate_load_cases (rom : FileContent) (boot : Option FileContent) :
    (∃ reason, ∀ console : Console,
        console.operate (.load rom boot) = (.loaded (.error reason), console)) ∨
      ∃ cartridge image, ∀ console : Console,
        console.operate (.load rom boot) =
          (.loaded (.ok ()), (console.operate (.insert cartridge image)).2) := by
  rcases ofFiles_cases rom boot with ⟨reason, failed⟩ | ⟨cartridge, image, loaded⟩
  · refine .inl ⟨reason, fun console => ?_⟩
    rw [operate, failed]
  · refine .inr ⟨cartridge, image, fun console => ?_⟩
    rw [operate, loaded]
    rfl

end Console

end GameBoy
