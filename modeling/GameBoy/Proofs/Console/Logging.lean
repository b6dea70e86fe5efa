import GameBoy.Proofs.Console.Operations
import GameBoy.Proofs.Log.Sifting

/-!
# `GameBoy.Proofs.Console.Logging`: the log observes and does not interfere

Every run is compared with the same run under a full log. The two are in lockstep: the
processors, the memories and all else are the same, and the log that is kept is part of the
full one (`Machine.Sifts`, `Console.Sifts`). Two runs under any two configurations are thus
the same but for their logs.

The comparison goes by way of the full log and not from one configuration to the other, because
what two logs have in common is not told by either of them. A configuration that keeps less may
keep events that the other does not; the full log has all of them, in order.

A console that is built anew starts a log of its own, under the configuration of the one before,
and that log is put behind the earlier one. It is part of the full one for the same reason, so the
lockstep goes on through resets and through cartridges that are loaded (`following`). Main
statements:

* `Machine.Sifts.operate`, `Console.Sifts.operate`: an operation keeps the two in lockstep.
* `Console.log_only_observes`: whatever is done, no log configuration shows in the answers or
  in the machine, and the log is the full log, sifted by the configuration.
-/

set_option autoImplicit false

namespace GameBoy

variable {config all : LogConfig}

/-! ### Machines -/

namespace Machine

variable {M α : Type} {machine full : Machine M}

/-- The same machine, its log empty and under a configuration. -/
def under (machine : Machine M) (config : LogConfig) : Machine M :=
  { machine with journal := .start config }

/-- A machine beside the same machine with a full log. -/
structure Sifts (config : LogConfig) (machine full : Machine M) : Prop where
  cpu : machine.cpu = full.cpu
  memory : machine.memory = full.memory
  journal : Journal.Sifts config machine.journal full.journal

namespace Sifts

theorem under (h : all.Full) (machine : Machine M) :
    Sifts config (machine.under config) (machine.under all) :=
  ⟨rfl, rfl, .start h⟩

/-- What the two have in common is all but the log. -/
theorem under_eq (h : Sifts config machine full) (other : LogConfig) :
    machine.under other = full.under other := by
  rw [Machine.under, Machine.under, h.cpu, h.memory]

variable [Memory M]

/-- Whatever the processor does, it does on both. -/
theorem run (h : Sifts config machine full) (action : Cpu → Transaction (α × Cpu)) :
    Lockstep (Sifts config) (machine.run action) (full.run action) := by
  obtain ⟨cpu, memory, journal⟩ := machine
  obtain ⟨cpu', memory', journal'⟩ := full
  obtain ⟨rfl, rfl, sifts⟩ :
      cpu = cpu' ∧ memory = memory' ∧ Journal.Sifts config journal journal' :=
    ⟨h.cpu, h.memory, h.journal⟩
  -- Neither the outcome of a transaction nor its writes depend on the journal.
  obtain ⟨result, state, stored⟩ := Machine.run_eq ⟨cpu, memory, journal⟩ action
  obtain ⟨result', state', stored'⟩ := Machine.run_eq ⟨cpu, memory, journal'⟩ action
  exact ⟨result.trans result'.symm, state.trans state'.symm, stored.trans stored'.symm,
    sifts.perform _ memory⟩

theorem step (h : Sifts config machine full) :
    Lockstep (Sifts config) machine.step full.step :=
  h.run Cpu.step

theorem frame (h : Sifts config machine full) (budget : Nat) (allowance : Option Nat) :
    Lockstep (Sifts config) (machine.frame budget allowance) (full.frame budget allowance) :=
  frame_lockstep (fun _ _ => step) h budget allowance

/-- Every operation has the same answer and keeps the two in lockstep. -/
theorem operate (h : Sifts config machine full) (operation : Operation) :
    Lockstep (Sifts config) (machine.operate operation) (full.operate operation) := by
  refine operate_lockstep (fun _ _ action both => both.run action) ?_ h operation
  intro machine full change both
  exact ⟨congrArg change both.cpu, both.memory, both.journal⟩

theorem session (config : LogConfig) (h : all.Full) (start : Machine M)
    (operations : List Operation) :
    Lockstep (Sifts config) (session Machine.operate (start.under config) operations)
      (session Machine.operate (start.under all) operations) :=
  session_lockstep (fun _ _ operation both => both.operate operation) (.under h start) operations

end Sifts

end Machine

/-! ### Consoles -/

namespace Console

variable {console full : Console}

/-- The same console, its log empty and under a configuration. -/
def under (console : Console) (config : LogConfig) : Console :=
  { console with machine := console.machine.under config }

/-- A console beside the same console with a full log. -/
structure Sifts (config : LogConfig) (console full : Console) : Prop where
  machine : console.machine.Sifts config full.machine
  cartridge : console.cartridge = full.cartridge
  boot : console.boot = full.boot
  timing : console.timing = full.timing

namespace Sifts

theorem under (h : all.Full) (console : Console) :
    Sifts config (console.under config) (console.under all) :=
  ⟨.under h console.machine, rfl, rfl, rfl⟩

/-- What the two have in common is all but the log. -/
theorem under_eq (h : Sifts config console full) (other : LogConfig) :
    console.under other = full.under other := by
  rw [Console.under, Console.under, h.machine.under_eq, h.cartridge, h.boot, h.timing]

/-- Both build the same machine, and report the same of it. -/
theorem connect {journal journal' : Journal} (h : Journal.Sifts config journal journal')
    (cartridge : Cartridge) (boot : Option BootImage) :
    Machine.Sifts config (connect cartridge boot journal) (connect cartridge boot journal') :=
  ⟨rfl, rfl, h.noteAll _⟩

/-- A new console is the same under both logs, and both logs go on. The log of the new console is
a part of its full log too, and two such logs may be put one behind the other. -/
theorem following {journal journal' : Journal} (h : Journal.Sifts config journal journal')
    (cartridge : Cartridge) (boot : Option BootImage) :
    Sifts config ((powerOn cartridge boot journal.config).following journal)
      ((powerOn cartridge boot journal'.config).following journal') := by
  have inserted : Journal.Sifts config (Journal.start journal.config) (.start journal'.config) := by
    rw [h.config_eq]
    exact .start h.everything
  have new := connect (inserted.noteAll (onInsert cartridge)) cartridge boot
  exact ⟨⟨rfl, rfl, h.append new.journal⟩, rfl, rfl, rfl⟩

/-- Every operation has the same answer and keeps the two in lockstep. What is built anew by an
insertion, a reset or a load that succeeds has the same start on both sides and goes on with the
log there was (`connect`, `following`). The others are those of the machine. -/
theorem operate (h : Sifts config console full) (operation : Operation) :
    Lockstep (Sifts config) (console.operate operation) (full.operate operation) := by
  obtain ⟨machine, cartridge, boot, timing⟩ := console
  obtain ⟨machine', cartridge', boot', timing'⟩ := full
  obtain ⟨both, rfl, rfl, rfl⟩ : machine.Sifts config machine' ∧ cartridge = cartridge' ∧
    boot = boot' ∧ timing = timing' := ⟨h.machine, h.cartridge, h.boot, h.timing⟩
  cases operation with
  | load rom image =>
    -- Whether it succeeds is the same for both, and so is what is built then.
    rcases operate_load_cases rom image with ⟨reason, failed⟩ | ⟨new, page, loaded⟩
    · rw [failed, failed]
      exact ⟨rfl, h⟩
    · rw [loaded, loaded]
      exact ⟨rfl, following both.journal new page⟩
  | insert new page => exact ⟨rfl, following both.journal new page⟩
  | retime other => exact ⟨rfl, both, rfl, rfl, rfl⟩
  | reset => exact ⟨rfl, connect both.journal cartridge boot, rfl, rfl, rfl⟩
  | step => exact ⟨congrArg Answer.cost both.step.answer, both.step.after, rfl, rfl, rfl⟩
  | frame allowance =>
    have frame := both.frame timing.budget allowance
    exact ⟨congrArg Answer.report frame.answer, frame.after, rfl, rfl, rfl⟩
  | request bits =>
    have memory : machine.memory.requestInterrupts bits = machine'.memory.requestInterrupts bits :=
      congrArg (·.requestInterrupts bits) both.memory
    exact ⟨rfl, ⟨both.cpu, memory, both.journal⟩, rfl, rfl, rfl⟩
  | machine operation =>
    have used := both.operate operation
    exact ⟨used.answer, used.after, rfl, rfl, rfl⟩

theorem session (config : LogConfig) (h : all.Full) (start : Console)
    (operations : List Operation) :
    Lockstep (Sifts config) (session Console.operate (start.under config) operations)
      (session Console.operate (start.under all) operations) :=
  session_lockstep (fun _ _ operation both => both.operate operation) (.under h start) operations

end Sifts

/-- The log observes and does not interfere. Carry out any sequence of operations on a console,
once under each of two log configurations, from an empty log.

1. All answers are the same.
2. The console is the same afterwards in all but its log: processor, memory, cartridge, boot image
   and timing.
3. If the second configuration has every category at its most detailed level, the records under
   the first are those of the events in the second log, in order, that the first one wants.

The same three hold for a processor on any kind of memory. Each of the two runs is in lockstep
with one under a full log (`Sifts.session`). The first two clauses compare both with it, and the
third takes the second configuration for the full one. -/
theorem log_only_observes :
    (∀ (start : Console) (operations : List Operation) (first second : LogConfig),
      let run (config : LogConfig) := session operate (start.under config) operations
      (run first).1 = (run second).1 ∧
      (run first).2.under .silent = (run second).2.under .silent ∧
      ((∀ category, second.effective category = .trace) →
        (run first).2.machine.journal.records =
          ((run second).2.machine.journal.events.toList.filter fun event =>
            first.shouldLog event.category event.level).map Event.record)) ∧
    ∀ {M : Type} [Memory M] (start : Machine M) (operations : List Machine.Operation)
      (first second : LogConfig),
      let run (config : LogConfig) := session Machine.operate (start.under config) operations
      (run first).1 = (run second).1 ∧
      (run first).2.under .silent = (run second).2.under .silent ∧
      ((∀ category, second.effective category = .trace) →
        (run first).2.journal.records =
          ((run second).2.journal.events.toList.filter fun event =>
            first.shouldLog event.category event.level).map Event.record) := by
  -- Each of the two runs is in lockstep with a run under a full log.
  have full : LogConfig.trace.Full := LogConfig.full_trace
  constructor
  · intro start operations first second run
    have one := Sifts.session first full start operations
    have other := Sifts.session second full start operations
    refine ⟨one.answer.trans other.answer.symm, ?_, fun h => ?_⟩
    · rw [one.after.under_eq, other.after.under_eq]
    · have both := Sifts.session first h start operations
      rw [Journal.records, both.after.machine.journal.kept]
      rfl
  · intro M _ start operations first second run
    have one := Machine.Sifts.session first full start operations
    have other := Machine.Sifts.session second full start operations
    refine ⟨one.answer.trans other.answer.symm, ?_, fun h => ?_⟩
    · rw [one.after.under_eq, other.after.under_eq]
    · have both := Machine.Sifts.session first h start operations
      rw [Journal.records, both.after.journal.kept]
      rfl

end Console

end GameBoy
