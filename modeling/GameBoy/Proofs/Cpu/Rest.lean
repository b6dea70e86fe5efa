import Mathlib.Data.List.Chain
import GameBoy.Proofs.Console.Traps
import GameBoy.Proofs.Cpu.Calls
import GameBoy.Proofs.Cpu.EnableDelay
import GameBoy.Proofs.Cpu.Reports
import GameBoy.Proofs.Log.Sifting

/-!
# `GameBoy.Proofs.Cpu.Rest`: how the processor goes to rest and comes back

The processor rests in two ways, asleep or stopped, and an enable of interrupts may be on its
way when it goes to rest. Three things could go wrong then. Both rests could be on at once, so
that one wake-up leaves the other. An enable could be pending through a rest, in which no
instruction ends that would let it come closer. And the log could tell of a rest that does not
end, or of an end without a beginning.

`Cpu.Settled` is the invariant under which none of the first two happens. Its parts need each
other: an instruction that puts the processor to rest ends like any other, so an enable that was
pending takes effect by it, but only because it was at most one instruction away. A trap does not
end like that, and leaves the processor awake. `Alternates` says that the log tells when a rest
began and ended, in turn.

A machine is followed through any `Machine.Occurrence`s: its own steps, and changes of its memory
from outside. The log belongs to the processor only if the memory keeps out of it, which is what
`Memory.Discreet` asks. Both kinds of memory do (`Bus.discreet`, `Flat.discreet`). Main
statements:

* `Machine.settled_step`: a step keeps the invariant.
* `Machine.alternates_step`: a step logs the beginning and the end of a rest, in turn.
* `Machine.rest_keeps_enable`: both hold of every machine that a new processor comes to.
-/

set_option autoImplicit false

namespace GameBoy

open Transaction

/-- The two ways in which the processor rests. -/
inductive Rest where
  /-- Asleep until an interrupt is pending. -/
  | halt
  /-- Stopped until the joypad's interrupt is pending. -/
  | stop
deriving DecidableEq

namespace Rest

/-- The instruction that puts the processor to rest. -/
def instruction : Rest → Instruction
  | halt => .halt
  | stop => .stop

/-- Whether the processor rests in this way. -/
def holds (rest : Rest) (cpu : Cpu) : Bool :=
  match rest with
  | halt => cpu.halted
  | stop => cpu.stopped

/-- Whether an event says that the rest begins, or that it ends. -/
def mark? : Rest → Event → Option Bool
  | halt, .halted .. => some true
  | halt, .haltReleased .. => some false
  | stop, .stopped .. => some true
  | stop, .stopReleased .. => some false
  | _, _ => none

/-- A processor that was woken does not rest. -/
theorem holds_awake (rest : Rest) (cpu : Cpu) : rest.holds cpu.awake = false := by
  cases rest <;> rfl

/-- The beginnings and ends of a rest are logged as details about the processor. -/
theorem wants_of_mark? {rest : Rest} {event : Event} {begins : Bool}
    (mark : rest.mark? event = some begins) (config : LogConfig) :
    config.wants event = config.shouldLog .cpu .debug := by
  cases rest <;> cases event <;> first | rfl | cases mark

/-- Waking reports the end of a rest, if there is one. -/
theorem marks_releases (rest : Rest) (cpu : Cpu) (pending : UInt8) :
    (cpu.releases pending).filterMap rest.mark? = if rest.holds cpu then [false] else [] := by
  unfold Cpu.releases holds
  cases rest <;> cases cpu.halted <;> cases cpu.stopped <;> rfl

end Rest

/-! ### The log -/

/-- Marks that alternate, a beginning first. The last of them tells whether a rest has begun
and not ended. No marks at all are those of a processor that has never rested. -/
structure Alternates (marks : List Bool) (resting : Bool) : Prop where
  first : marks.head? ≠ some false
  alternate : marks.IsChain (· ≠ ·)
  last : resting = true ↔ marks.getLast? = some true

namespace Alternates

variable {marks : List Bool} {resting : Bool}

theorem nil : Alternates [] false := ⟨by simp, .nil, by simp⟩

/-- What follows is an end in a rest, and a beginning outside of one. The last mark tells which
of the two it is, so the new one differs from it. Where there is no mark yet, no rest is on, and
the first mark is a beginning. -/
theorem append_not (h : Alternates marks resting) :
    Alternates (marks ++ [!resting]) (!resting) where
  first := by
    cases marks with
    | nil =>
      have awake : resting = false := by simpa using h.last
      simp [awake]
    | cons mark rest => exact h.first
  alternate := by
    refine List.isChain_append.mpr ⟨h.alternate, List.isChain_singleton _, ?_⟩
    intro mark last next follows
    have told : mark = resting := by
      have := h.last
      rw [last, Option.some_inj] at this
      exact Bool.eq_iff_iff.mpr this.symm
    rw [told, ← Option.some_inj.mp follows]
    exact (Bool.not_ne_self resting).symm
  last := by simp

/-- If a rest is on, it may end. -/
theorem ended (h : Alternates marks resting) :
    Alternates (marks ++ if resting then [false] else []) false := by
  cases resting with
  | true => exact h.append_not
  | false => simpa using h

/-- If no rest is on, one may begin. -/
theorem begun (h : Alternates marks false) (begins : Bool) :
    Alternates (marks ++ if begins then [true] else []) begins := by
  cases begins with
  | true => exact h.append_not
  | false => simpa using h

end Alternates

namespace Journal

/-- The beginnings and ends of a rest that were logged, in order. -/
def marks (journal : Journal) (rest : Rest) : List Bool :=
  journal.events.toList.filterMap rest.mark?

/-- Where such details are wanted, each of them is kept. -/
theorem marks_note {journal : Journal} (wanted : journal.config.shouldLog .cpu .debug = true)
    (event : Event) (rest : Rest) :
    (journal.note event).marks rest = journal.marks rest ++ (rest.mark? event).toList := by
  rw [marks, filterMap_note]
  cases mark : rest.mark? event with
  | none => rw [Option.toList_none, ite_self, marks]
  | some begins =>
    rw [if_pos ((Rest.wants_of_mark? mark _).trans wanted)]
    rfl

theorem marks_noteAll {journal : Journal} (wanted : journal.config.shouldLog .cpu .debug = true)
    (events : List Event) (rest : Rest) :
    (journal.noteAll events).marks rest = journal.marks rest ++ events.filterMap rest.mark? := by
  induction events generalizing journal with
  | nil => exact (List.append_nil _).symm
  | cons event later ih =>
    have noted : (journal.note event).config.shouldLog .cpu .debug = true := by
      rw [config_note]
      exact wanted
    show ((journal.note event).noteAll later).marks rest = _
    rw [ih noted, marks_note wanted, List.append_assoc, List.filterMap_cons]
    cases rest.mark? event <;> rfl

end Journal

/-! ### One instruction -/

namespace Reference

/-- An instruction of the extended page puts nothing to rest. -/
theorem performExtended_rest (memory : UInt16 → UInt8) (state : State)
    (instruction : BitInstruction) :
    let after := (performExtended memory state instruction).state
    after.halted = state.halted ∧ after.stopped = state.stopped := by
  obtain ⟨action, operand⟩ := instruction
  cases action <;> exact ⟨rfl, rfl⟩

/-- Two instructions put the processor to rest, each in its way. No instruction ends a rest. It
is told of the reference, in which an instruction is a state after it and not a transaction. -/
theorem ended_perform_rest (memory : UInt16 → UInt8) (state : State)
    (instruction : Instruction) :
    let after := ended (perform memory state instruction).state
    after.halted = (state.halted || instruction = .halt) ∧
      after.stopped = (state.stopped || instruction = .stop) := by
  cases instruction with
  | jumpBy condition | jump condition | call condition | retIf condition =>
    unfold perform
    dsimp only
    split <;> simp [ended, State.with]
  | extended =>
    have same := performExtended_rest memory (state.with (skip state.file 1))
      (decodeExtended (Fields.ofByte (memory state.file.pc)))
    simp only [perform, ended, same.1, same.2]
    simp [State.with]
  | _ => simp [perform, ended, State.with]

end Reference

/-- A memory that reports nothing of the processor's rest. Its remarks go to the same log, and
one that looked like the beginning of a rest would be taken for one. -/
def Memory.Discreet (M : Type) [Memory M] : Prop :=
  ∀ (memory : M) (addr : UInt16) (value : UInt8) (event : Event),
    Memory.remark memory addr value = some event → ∀ rest : Rest, rest.mark? event = none

/-- The bus reports of itself and of the cartridge. -/
theorem Bus.discreet : Memory.Discreet Bus := by
  intro bus addr value event remark rest
  change bus.remark addr value = some event at remark
  unfold Bus.remark at remark
  split at remark
  · cases remark
    cases rest <;> rfl
  · split at remark
    · cases remark
      cases rest <;> rfl
    · cases remark
  · cases remark

/-- Plain storage reports nothing at all. -/
theorem Flat.discreet : Memory.Discreet Flat := fun _ _ _ _ remark => nomatch remark

namespace Machine

variable {M : Type} [Memory M] {machine : Machine M}

/-- An instruction that is run puts the processor to rest if it is one of the two. -/
theorem holds_execute {opcode : UInt8} {instruction : Instruction}
    (decoded : Opcode.decode opcode = some instruction) (machine : Machine M) (rest : Rest) :
    rest.holds (machine.execute opcode).2.cpu =
      (rest.holds machine.cpu || instruction = rest.instruction) := by
  have view := congrArg (·.2.1) (Reference.observe_execute machine.cpu machine.memory opcode)
  simp only [Reference.execute, ← Reference.decode_eq, decoded] at view
  have told :=
    Reference.ended_perform_rest (Memory.read machine.memory) machine.cpu.view instruction
  rw [← view] at told
  rw [Machine.execute, (machine.run_eq (·.execute opcode)).2.1]
  cases rest with
  | halt => exact told.1
  | stop => exact told.2

/-- An opcode that stands for no instruction is reported, and changes nothing. -/
theorem execute_of_trap {opcode : UInt8} (decoded : Opcode.decode opcode = none)
    (machine : Machine M) :
    machine.execute opcode =
      (.error ⟨opcode, machine.cpu.regs.pc - 1⟩,
        { machine with
          journal := machine.journal.note (.illegalOpcode opcode (machine.cpu.regs.pc - 1)) }) := by
  rw [Machine.execute, Machine.run,
    Cpu.execute_illegal machine.cpu ((Opcode.decode_eq_none_iff opcode).mp decoded)]
  rfl

/-! ### What is logged -/

/-- On a discreet memory, what reports nothing of a rest logs nothing of it. The log is followed
event by event, along with what is wanted of it, which no event changes. Events come from two
sides: those of the transaction are without a mark by the first hypothesis, and the remarks of
the memory by its discretion. -/
theorem marks_perform {α : Type} (discreet : Memory.Discreet M) {transaction : Transaction α}
    (reports : transaction.Reports fun event => ∀ rest : Rest, rest.mark? event = none)
    (memory : M) {journal : Journal} (wanted : journal.config.shouldLog .cpu .debug = true)
    (rest : Rest) :
    (transaction.perform memory journal).2.2.marks rest = journal.marks rest := by
  have noted : ∀ (log : Journal) (event : Event), rest.mark? event = none →
      log.config = journal.config ∧ log.marks rest = journal.marks rest →
        (log.note event).config = journal.config ∧
          (log.note event).marks rest = journal.marks rest := by
    rintro log event unmarked ⟨config, same⟩
    rw [← config] at wanted
    rw [log.config_note, Journal.marks_note wanted, unmarked, same]
    exact ⟨config, List.append_nil _⟩
  refine (perform_preserves
    (motive := fun (_ : M) log =>
      log.config = journal.config ∧ log.marks rest = journal.marks rest)
    ?_ ?_ reports ⟨rfl, rfl⟩).2
  · intro memory log addr value same
    unfold remarked
    split
    · next event remark => exact noted log event (discreet memory addr value event remark rest) same
    · exact same
  · intro memory log event unmarked same
    exact noted log event (unmarked rest) same

/-- An opcode that is run by a processor that is awake logs that a rest begins, if it does. The
two instructions log it themselves; all others are silent, and a trap logs something else. The
processor has to be awake, since the rest it is in afterwards would otherwise be an old one,
whose beginning was logged before. -/
theorem marks_execute (discreet : Memory.Discreet M) {machine : Machine M}
    (wanted : machine.journal.config.shouldLog .cpu .debug = true)
    (awake : ∀ rest : Rest, rest.holds machine.cpu = false) (opcode : UInt8) (rest : Rest) :
    (machine.execute opcode).2.journal.marks rest =
      machine.journal.marks rest ++
        if rest.holds (machine.execute opcode).2.cpu then [true] else [] := by
  have run : (machine.execute opcode).2.journal =
      ((machine.cpu.execute opcode).perform machine.memory machine.journal).2.2 := rfl
  cases decoded : Opcode.decode opcode with
  | none =>
    rw [execute_of_trap decoded machine, awake rest]
    show (machine.journal.note _).marks rest = _
    rw [Journal.marks_note wanted]
    cases rest <;> rfl
  | some instruction =>
    have begins := holds_execute decoded machine rest
    rw [awake rest, Bool.false_or] at begins
    rw [begins, run, Cpu.execute, decoded]
    by_cases halt : instruction = .halt
    · subst halt
      show (machine.journal.note _).marks rest = _
      rw [Journal.marks_note wanted]
      cases rest <;> rfl
    · by_cases stop : instruction = .stop
      · subst stop
        show (machine.journal.note _).marks rest = _
        rw [Journal.marks_note wanted]
        cases rest <;> rfl
      · have silent := machine.cpu.perform_silent halt stop
        have other : instruction ≠ rest.instruction := by
          cases rest with
          | halt => exact halt
          | stop => exact stop
        rw [if_neg (by simpa using other), List.append_nil]
        refine marks_perform discreet (Reports.bind (silent.mono fun _ => False.elim) ?_)
          machine.memory wanted rest
        exact fun _ => trivial

/-! ### Steps -/

/-- Once it was woken, a machine has logged that a rest has ended, if it has. -/
theorem marks_woken (wanted : machine.journal.config.shouldLog .cpu .debug = true)
    (rest : Rest) :
    machine.woken.journal.marks rest =
      machine.journal.marks rest ++ if rest.holds machine.cpu then [false] else [] := by
  show (machine.journal.noteAll _).marks rest = _
  rw [Journal.marks_noteAll wanted, rest.marks_releases]

/-- A step logs the end of a rest if it wakes the processor, and the beginning of one if it puts
it to rest. One step may do both: an interrupt that is not accepted wakes the processor, and the
instruction that is run then may put it to rest again. The waking is taken first, which leaves
marks that have ended, and an idle slot neither wakes nor logs. -/
theorem alternates_step (discreet : Memory.Discreet M)
    (wanted : machine.journal.config.shouldLog .cpu .debug = true) {rest : Rest}
    (h : Alternates (machine.journal.marks rest) (rest.holds machine.cpu)) :
    Alternates (machine.step.2.journal.marks rest) (rest.holds machine.step.2.cpu) := by
  have awake := h.ended
  rw [← marks_woken wanted] at awake
  have wantedStill : machine.woken.journal.config.shouldLog .cpu .debug = true := by
    rw [show machine.woken.journal.config = machine.journal.config from
      machine.journal.config_noteAll _]
    exact wanted
  cases turn : machine.turn with
  | entry source =>
    have entered : rest.holds machine.step.2.cpu = false := by
      rw [cpu_of_entry turn]
      exact rest.holds_awake machine.cpu
    have reports : ((machine.cpu.awake.enter source).bind fun result =>
        done ((.ok result.1 : Except Trap Nat), result.2)).Reports
          fun event => ∀ rest : Rest, rest.mark? event = none := by
      refine fun _ => ⟨fun rest => ?_, trivial⟩
      cases rest <;> rfl
    have marks := marks_perform discreet reports machine.memory wantedStill rest
    rw [entered, step_eq_of_turn, turn]
    exact marks.symm ▸ awake
  | idle =>
    rw [step_eq_of_turn, turn]
    cases rest <;> exact h
  | instruction opcode =>
    have wantedReady : machine.ready.journal.config.shouldLog .cpu .debug = true := wantedStill
    have begins := marks_execute discreet wantedReady (fun rest => rest.holds_awake machine.cpu)
      opcode rest
    rw [step_eq_execute turn, begins]
    exact awake.begun _

/-- A step leaves what is wanted of the log as it was. -/
theorem config_step (machine : Machine M) :
    machine.step.2.journal.config = machine.journal.config :=
  config_perform machine.cpu.step machine.memory machine.journal

/-- What a completed instruction makes of the two ways to rest. -/
theorem Completes.holds {instruction : Instruction} (h : machine.Completes instruction)
    (rest : Rest) :
    rest.holds machine.step.2.cpu = decide (instruction = rest.instruction) := by
  obtain ⟨opcode, turn, decoded⟩ := h
  rw [step_eq_execute turn, holds_execute decoded, show rest.holds machine.ready.cpu = false from
    rest.holds_awake machine.cpu, Bool.false_or]

end Machine

/-- A processor that rests in one way at most, and then without an enable on its way. An enable
is never further away than the next instruction. -/
structure Cpu.Settled (cpu : Cpu) : Prop where
  single : ¬(cpu.halted = true ∧ cpu.stopped = true)
  settled : cpu.halted = true ∨ cpu.stopped = true → cpu.enableDelay = 0
  near : cpu.enableDelay ≤ 1

namespace Cpu.Settled

/-- A processor that is awake has to keep the countdown only. -/
theorem of_awake {cpu : Cpu} (awake : ∀ rest : Rest, rest.holds cpu = false)
    (near : cpu.enableDelay ≤ 1) : cpu.Settled := by
  have halted : cpu.halted = false := awake .halt
  have stopped : cpu.stopped = false := awake .stop
  exact ⟨by simp [halted], by simp [halted, stopped], near⟩

end Cpu.Settled

namespace Machine

variable {M : Type} [Memory M] {machine : Machine M}

/-- An instruction that has ended leaves the countdown at one if it is an enable, and else has
brought it to zero. -/
theorem Completes.enableDelay_le {instruction : Instruction} (h : machine.Completes instruction)
    (near : machine.cpu.enableDelay ≤ 1) :
    machine.step.2.cpu.enableDelay = if instruction = .ei then 1 else 0 := by
  have after := (Prod.mk.inj h.enabling).2
  rw [after]
  cases instruction with
  | ei | di => rfl
  | _ =>
    show machine.cpu.enableDelay - 1 = 0
    omega

/-- A step keeps the processor settled. An entry leaves it awake with no enable pending, an idle
slot leaves it as it was, and a trap leaves it awake with the countdown where it stood. What is
left is a completed instruction. It leaves the countdown at one if it is an enable and else has
brought it to zero (`Completes.enableDelay_le`), and it leaves the processor at rest if it is one
of the two that do that (`Completes.holds`). An enable is neither of the two, and they are not
the same instruction. -/
theorem settled_step (h : machine.cpu.Settled) : machine.step.2.cpu.Settled := by
  cases turn : machine.turn with
  | entry source =>
    rw [cpu_of_entry turn]
    exact .of_awake (fun rest => rest.holds_awake machine.cpu) (Nat.zero_le 1)
  | idle =>
    rw [cpu_of_idle turn]
    exact ⟨h.single, h.settled, h.near⟩
  | instruction opcode =>
    cases decoded : Opcode.decode opcode with
    | none =>
      -- A trap leaves the processor as the fetch left it, awake.
      rw [step_eq_execute turn, execute_of_trap decoded]
      exact .of_awake (fun rest => rest.holds_awake machine.cpu) h.near
    | some instruction =>
      have completes : machine.Completes instruction := ⟨opcode, turn, decoded⟩
      have delay := completes.enableDelay_le h.near
      have halted : machine.step.2.cpu.halted = decide (instruction = .halt) :=
        completes.holds .halt
      have stopped : machine.step.2.cpu.stopped = decide (instruction = .stop) :=
        completes.holds .stop
      refine ⟨?_, ?_, ?_⟩
      · rintro ⟨one, other⟩
        rw [halted, decide_eq_true_iff] at one
        rw [stopped, decide_eq_true_iff, one] at other
        cases other
      · rw [halted, stopped, delay, decide_eq_true_iff, decide_eq_true_iff]
        rintro (rfl | rfl) <;> rfl
      · rw [delay]
        split <;> omega

/-- A step that begins a rest is the instruction to rest, completed: no entry, no idle slot and no
trap leaves the processor at rest that was not. -/
theorem completes_of_begun {rest : Rest} (before : rest.holds machine.cpu = false)
    (after : rest.holds machine.step.2.cpu = true) : machine.Completes rest.instruction := by
  cases turn : machine.turn with
  | entry source =>
    rw [cpu_of_entry turn, show rest.holds (machine.cpu.entered source) = false from
      rest.holds_awake machine.cpu] at after
    cases after
  | idle =>
    rw [cpu_of_idle turn, show rest.holds (machine.cpu.spend 1) = rest.holds machine.cpu by
      cases rest <;> rfl, before] at after
    cases after
  | instruction opcode =>
    cases decoded : Opcode.decode opcode with
    | none =>
      rw [step_eq_execute turn, execute_of_trap decoded,
        show rest.holds machine.ready.cpu = false from rest.holds_awake machine.cpu] at after
      cases after
    | some instruction =>
      have completes : machine.Completes instruction := ⟨opcode, turn, decoded⟩
      rw [completes.holds, decide_eq_true_iff] at after
      exact after ▸ completes

/-! ### What a machine comes to -/

/-- What can happen to a machine: a step of its processor, a store from outside, and any other
change of its memory. Requests of interrupts are among the last. -/
inductive Occurrence (M : Type) where
  | step
  | write (addr : UInt16) (value : UInt8)
  | change (memory : M)

/-- The machine after an occurrence. A step that traps is a step. -/
def occur (machine : Machine M) : Occurrence M → Machine M
  | .step => machine.step.2
  | .write addr value => machine.write addr value
  | .change memory => { machine with memory }

/-- The machine after a number of occurrences. -/
def after (start : Machine M) (occurrences : List (Occurrence M)) : Machine M :=
  occurrences.foldl occur start

/-- What every occurrence keeps, any sequence of them keeps. -/
theorem after_preserves (property : Machine M → Prop)
    (occur : ∀ machine occurrence, property machine → property (machine.occur occurrence))
    {start : Machine M} (h : property start) (occurrences : List (Occurrence M)) :
    property (start.after occurrences) := by
  induction occurrences generalizing start with
  | nil => exact h
  | cons occurrence later ih => exact ih (occur start occurrence h)

/-- Whatever occurs, the processor stays settled. -/
theorem settled_occur (occurrence : Occurrence M) (h : machine.cpu.Settled) :
    (machine.occur occurrence).cpu.Settled := by
  cases occurrence with
  | step => exact settled_step h
  | write addr value => exact h
  | change memory => exact h

/-- The log tells of a rest what there is to tell. -/
structure TellsRest (config : LogConfig) (rest : Rest) (machine : Machine M) : Prop where
  config : machine.journal.config = config
  told : Alternates (machine.journal.marks rest) (rest.holds machine.cpu)

/-- Whatever occurs, the log goes on telling of a rest. A step has its own lemma
(`alternates_step`). A store from outside is a transaction without reports, on which a discreet
memory makes no remark about a rest, and any other change leaves processor and log alone. -/
theorem tellsRest_occur (discreet : Memory.Discreet M) {config : LogConfig}
    (wanted : config.shouldLog .cpu .debug = true) {rest : Rest} (occurrence : Occurrence M)
    (h : machine.TellsRest config rest) : (machine.occur occurrence).TellsRest config rest := by
  have wantedHere : machine.journal.config.shouldLog .cpu .debug = true := by
    rw [h.config]
    exact wanted
  cases occurrence with
  | step => exact ⟨machine.config_step.trans h.config, alternates_step discreet wantedHere h.told⟩
  | change memory => exact ⟨h.config, h.told⟩
  | write addr value =>
    have stores : ((store addr value).bind fun _ => done ((), machine.cpu)).Reports
        fun event => ∀ rest : Rest, rest.mark? event = none := trivial
    have marks := marks_perform discreet stores machine.memory wantedHere rest
    refine ⟨?_, ?_⟩
    · exact (config_perform ((store addr value).bind fun _ => done ((), machine.cpu))
        machine.memory machine.journal).trans h.config
    · have told := h.told
      rw [← marks] at told
      exact told

omit [Memory M] in
/-- A new processor does not rest. -/
theorem holds_fresh (rest : Rest) (booting : Bool) (memory : M) (journal : Journal) :
    rest.holds (fresh booting memory journal).cpu = false := by
  cases booting <;> cases rest <;> rfl

/-- Whatever occurs to a machine with a new processor, sleep, stop and a pending enable do not
get in each other's way. The machine may start with a boot program or without, on any memory and
with any configuration of the log, and steps that trap are steps.

1. The processor rests in one way at most.
2. While it rests, no enable is on its way.
3. None is lost by that: a step that begins a rest lets a pending enable take effect.
4. An enable is never further away than the next instruction to end.
5. If details about the processor are logged, and the memory does not log such details itself, the
   log tells of every rest how it began and then how it ended, in turn, and the processor rests if
   it was the beginning that was told last.

The first, second and fourth are the invariant (`settled_step`). The third looks at the one step
that can begin a rest, an instruction that completes, with the countdown at one by the fourth. The
last is an invariant of its own (`alternates_step`), which asks for the two hypotheses: without
the first a rest need not be logged, and without the second others might log it. -/
theorem rest_keeps_enable (booting : Bool) (memory : M) (config : LogConfig)
    (occurrences : List (Occurrence M)) :
    let machine := (fresh booting memory (.start config)).after occurrences
    ¬(machine.cpu.halted = true ∧ machine.cpu.stopped = true) ∧
      (machine.cpu.halted = true ∨ machine.cpu.stopped = true → machine.cpu.enableDelay = 0) ∧
      (∀ rest : Rest, rest.holds machine.cpu = false → rest.holds machine.step.2.cpu = true →
        machine.cpu.enableDelay ≠ 0 → machine.step.2.cpu.ime = true) ∧
      machine.cpu.enableDelay ≤ 1 ∧
      (Memory.Discreet M → config.shouldLog .cpu .debug = true →
        ∀ rest : Rest, Alternates (machine.journal.marks rest) (rest.holds machine.cpu)) := by
  intro machine
  have settled : machine.cpu.Settled := by
    refine after_preserves (·.cpu.Settled) (fun _ => settled_occur) ?_ occurrences
    refine .of_awake (fun rest => holds_fresh rest booting memory _) ?_
    cases booting <;> exact Nat.zero_le 1
  refine ⟨settled.single, settled.settled, ?_, settled.near, ?_⟩
  · intro rest before begun pending
    have delay : machine.cpu.enableDelay = 1 := by
      have near := settled.near
      omega
    have enabled := congrArg Prod.fst (completes_of_begun before begun).enabling
    rw [show machine.step.2.cpu.ime = _ from enabled, delay]
    cases rest <;> exact Bool.or_true _
  · intro discreet wanted rest
    have tells : machine.TellsRest config rest := by
      refine after_preserves (TellsRest config rest) (fun _ => tellsRest_occur discreet wanted) ?_
        occurrences
      refine ⟨rfl, ?_⟩
      rw [holds_fresh]
      exact .nil
    exact tells.told

/-- An enable and then a sleep, on a bus that logs everything: the processor sleeps and accepts
interrupts, and the log tells of the sleep. -/
theorem rest_keeps_enable_asleep :
    let start : Machine Bus :=
      fresh true (.powerOn ⟨#[0xFB, 0x76]⟩ none) (.start LogConfig.trace)
    let enabling := start.after [.step]
    let asleep := start.after [.step, .step]
    enabling.cpu.enableDelay = 1 ∧ asleep.cpu.halted = true ∧ asleep.cpu.ime = true ∧
      asleep.cpu.enableDelay = 0 ∧ asleep.journal.marks .halt = [true] ∧
      Alternates (asleep.journal.marks .halt) true := by
  intro start enabling asleep
  have halted : asleep.cpu.halted = true := by decide +kernel
  have marks : asleep.journal.marks .halt = [true] := by decide +kernel
  have delay : enabling.cpu.enableDelay = 1 := by decide +kernel
  obtain ⟨-, -, enables, -, -⟩ := rest_keeps_enable true (.powerOn ⟨#[0xFB, 0x76]⟩ none)
    LogConfig.trace ([.step] : List (Occurrence Bus))
  obtain ⟨-, settled, -, -, tells⟩ := rest_keeps_enable true (.powerOn ⟨#[0xFB, 0x76]⟩ none)
    LogConfig.trace ([.step, .step] : List (Occurrence Bus))
  have told : Alternates (asleep.journal.marks .halt) asleep.cpu.halted :=
    tells Bus.discreet (by decide) .halt
  rw [halted] at told
  refine ⟨delay, halted, enables .halt (by decide +kernel) halted ?_, settled (.inl halted), marks,
    told⟩
  rw [delay]
  decide

end Machine

end GameBoy
