import GameBoy.Proofs.Console.FrameLoop
import GameBoy.Proofs.Console.RunLoop

/-!
# `GameBoy.Proofs.Console.Traps`: how an illegal opcode ends things

An opcode that stands for no instruction is the only thing that can fail, and it fails
without a trace but for the fetch. The frame loop and the run hand its trap on.

An opcode by itself is told from the chart: it has an instruction and ends with a cost, or
it has none and is reported. Nothing that is read on the way makes a difference
(`Transaction.Always`). A step traps if it is one that fetches, which an entry into an
interrupt and an idle cycle do not, and the trap names the address before the fetch, also
when that was the last one of memory.

For frames and runs the condition is told by what came before: steps that succeeded and
left some of the budget, or frames that were completed, with no request to stop in between.
Each of the two is an equivalence, so it says as well that nothing else makes a frame or a
run fail. Main statements:

* `Machine.step_eq_error_iff`, `Machine.execute_eq_error_iff`: when a step and an opcode
  trap, and with what.
* `Machine.step_of_trap`: what a step that traps leaves.
* `Console.frame_eq_error_iff`, `Console.runFrames_eq_trap_iff`: a frame ends with the trap
  of its first step that traps, and a run with that of its first such frame.
-/

set_option autoImplicit false

namespace GameBoy

open Transaction

namespace Cpu

/-- An opcode that stands for an instruction ends with a cost, whatever is read. -/
theorem execute_ok {opcode : UInt8} (cpu : Cpu) (legal : opcode ∉ Opcode.illegal) :
    (cpu.execute opcode).Always fun result => ∃ cost, result.1 = .ok cost := by
  unfold execute
  cases decoded : Opcode.decode opcode with
  | none => exact absurd ((Opcode.decode_eq_none_iff opcode).mp decoded) legal
  | some instruction =>
    exact Always.bind_iff.2 (Always.of_forall (fun result => ⟨result.1, rfl⟩) _)

/-- An opcode that stands for no instruction is reported, and that is all. -/
theorem execute_illegal {opcode : UInt8} (cpu : Cpu) (illegal : opcode ∈ Opcode.illegal) :
    cpu.execute opcode =
      report (.illegalOpcode opcode (cpu.regs.pc - 1))
        (done (.error ⟨opcode, cpu.regs.pc - 1⟩, cpu)) := by
  unfold execute
  rw [(Opcode.decode_eq_none_iff opcode).mpr illegal]
  rfl

end Cpu

namespace Machine

variable {M : Type} [Memory M] {machine : Machine M} {trap : Trap}

/-! ### Opcodes -/

/-- An opcode that stands for no instruction traps where it was fetched, and leaves
processor and memory as they are. -/
theorem execute_of_illegal {opcode : UInt8} (machine : Machine M)
    (illegal : opcode ∈ Opcode.illegal) :
    (machine.execute opcode).1 = .error ⟨opcode, machine.cpu.regs.pc - 1⟩ ∧
      (machine.execute opcode).2.cpu = machine.cpu ∧
      (machine.execute opcode).2.memory = machine.memory := by
  obtain ⟨outcome, cpu, memory⟩ := machine.run_eq (·.execute opcode)
  rw [Cpu.execute_illegal machine.cpu illegal] at outcome cpu memory
  exact ⟨outcome, cpu, memory⟩

/-- An opcode that stands for an instruction never traps. -/
theorem execute_of_legal {opcode : UInt8} (machine : Machine M)
    (legal : opcode ∉ Opcode.illegal) : ∃ cost, (machine.execute opcode).1 = .ok cost := by
  have always := (Cpu.execute_ok machine.cpu legal).perform machine.memory machine.journal
  exact always

/-- An opcode traps if it stands for no instruction, and for no other reason. -/
theorem execute_eq_error_iff (machine : Machine M) (opcode : UInt8) (trap : Trap) :
    (machine.execute opcode).1 = .error trap ↔
      opcode ∈ Opcode.illegal ∧ trap = ⟨opcode, machine.cpu.regs.pc - 1⟩ := by
  by_cases illegal : opcode ∈ Opcode.illegal
  · rw [(machine.execute_of_illegal illegal).1, Except.error.injEq]
    exact ⟨fun same => ⟨illegal, same.symm⟩, fun h => h.2.symm⟩
  · obtain ⟨cost, outcome⟩ := machine.execute_of_legal illegal
    rw [outcome]
    exact ⟨fun h => (nomatch h), fun h => absurd h.1 illegal⟩

/-! ### Steps -/

/-- A machine that fetches, once it is awake and past the opcode. -/
def fetched (machine : Machine M) : Machine M :=
  { machine with cpu := machine.cpu.awake.jump (machine.cpu.regs.pc + 1) }

/-- A step that fetches runs its opcode: what it leaves is what the opcode leaves when it is run
by itself, on the processor that is awake and past it. -/
theorem step_of_fetches (fetches : machine.Fetches) :
    let opcode := machine.read machine.cpu.regs.pc
    machine.step.1 = (machine.fetched.execute opcode).1 ∧
      machine.step.2.cpu = (machine.fetched.execute opcode).2.cpu ∧
      machine.step.2.memory = (machine.fetched.execute opcode).2.memory := by
  obtain ⟨outcome, cpu, memory⟩ := machine.step_eq
  rw [seen_instruction (turn_eq_instruction_iff.mpr ⟨fetches, rfl⟩)] at outcome cpu memory
  obtain ⟨outcome', cpu', memory'⟩ :=
    machine.fetched.run_eq (·.execute (machine.read machine.cpu.regs.pc))
  exact ⟨outcome.trans outcome'.symm, cpu.trans cpu'.symm, memory.trans memory'.symm⟩

/-- Only a step that fetches can trap. -/
theorem fetches_of_trap (traps : machine.step.1 = .error trap) : machine.Fetches := by
  have outcome := machine.step_eq.1
  cases turn : machine.turn with
  | entry source =>
    rw [seen_entry turn, traps] at outcome
    cases outcome
  | idle =>
    rw [seen_idle turn, traps] at outcome
    cases outcome
  | instruction opcode => exact (turn_eq_instruction_iff.mp turn).1

/-- A step traps if it fetches an opcode that stands for no instruction, and for no other
reason. -/
theorem step_eq_error_iff (machine : Machine M) (trap : Trap) :
    machine.step.1 = .error trap ↔
      machine.Fetches ∧ machine.read machine.cpu.regs.pc ∈ Opcode.illegal ∧
        trap = ⟨machine.read machine.cpu.regs.pc, machine.cpu.regs.pc⟩ := by
  -- Going back from behind the opcode leads to the opcode, also around the end of memory.
  have back : machine.fetched.cpu.regs.pc - 1 = machine.cpu.regs.pc :=
    UInt16.add_sub_cancel machine.cpu.regs.pc 1
  constructor
  · intro traps
    have fetches := fetches_of_trap traps
    rw [(step_of_fetches fetches).1, execute_eq_error_iff, back] at traps
    exact ⟨fetches, traps⟩
  · rintro ⟨fetches, illegal⟩
    rw [(step_of_fetches fetches).1, execute_eq_error_iff, back]
    exact illegal

/-- A step that traps leaves a processor that is awake and past the opcode, and nothing
else is changed. -/
theorem step_of_trap (traps : machine.step.1 = .error trap) :
    machine.step.2.cpu =
        { machine.cpu with
          regs.pc := machine.cpu.regs.pc + 1
          halted := false
          stopped := false } ∧
      machine.step.2.memory = machine.memory := by
  obtain ⟨fetches, illegal, -⟩ := (machine.step_eq_error_iff trap).mp traps
  obtain ⟨-, cpu, memory⟩ := step_of_fetches fetches
  obtain ⟨-, kept, kept'⟩ := machine.fetched.execute_of_illegal illegal
  exact ⟨cpu.trans kept, memory.trans kept'⟩

/-! ### Frames -/

/-- A frame ends with a trap exactly if it comes to a step that traps: all steps before succeed
and leave some of the budget, and the request to stop is not due up to there. -/
theorem frame_eq_error_iff (start : Machine M) (budget : Nat) (allowance : Option Nat)
    (trap : Trap) (after : Machine M) :
    start.frame budget allowance = (.error trap, after) ↔
      ∃ count, start.Succeeds count ∧ start.spent count < budget ∧
        (∀ i ≤ count, allowance ≠ some i) ∧
          (start.trajectory count).step = (.error trap, after) := by
  constructor
  · intro frame
    obtain ⟨count, reached, exit⟩ := start.frame_end budget allowance
    rw [frame] at exit
    cases exit with
    | trapped short undue traps =>
      refine ⟨count, reached.succeeds, short, fun i le => ?_, Prod.ext traps rfl⟩
      rcases Nat.lt_or_eq_of_le le with lt | rfl
      · exact reached.undue i lt
      · exact undue
  · rintro ⟨count, succeeds, short, undue, step⟩
    have reached : FrameReaches start budget allowance count :=
      ⟨succeeds, fun i lt => Nat.lt_of_le_of_lt (spent_mono lt.le) short, fun i lt =>
        undue i lt.le⟩
    have before := lt_min (reached.lt_stepLimit (undue count le_rfl)) (lt_frameLength short)
    rw [frame_eq_of_trap before succeeds (congrArg Prod.fst step), step]

end Machine

namespace Console

/-- A console ends a frame with a trap if its machine does, and changes nothing else. -/
theorem frame_eq_error_iff (console : Console) (allowance : Option Nat) (trap : Trap)
    (after : Console) :
    console.frame allowance = (.error trap, after) ↔
      ∃ machine, console.machine.frame console.timing.budget allowance = (.error trap, machine) ∧
        after = { console with machine } := by
  constructor
  · intro ends
    cases inner : console.machine.frame console.timing.budget allowance with
    | mk result machine =>
      rw [frame_eq inner] at ends
      cases ends
      exact ⟨machine, rfl, rfl⟩
  · rintro ⟨machine, inner, rfl⟩
    exact frame_eq inner

/-! ### Runs -/

/-- A run ends with a trap exactly if it completes some frames and the next one traps. Forwards
this goes frame by frame through the loop, and the looks that were made add up. Backwards the loop
goes past the completed frames at once (`Completes.runFrames_add`). -/
theorem runFrames_eq_trap_iff (console : Console) (left : Nat) (allowance : Option Nat)
    (sum summary : RunSummary) (trap : Trap) (after : Console) :
    console.runFrames left allowance sum = (summary, some trap, after) ↔
      ∃ frames < left, ∃ looks last, Completes console allowance sum frames looks summary last ∧
        last.frame (allowance.map (· - (looks + 1))) = (.error trap, after) := by
  constructor
  · intro ends
    -- On the frames left. The console, the sum and the allowance are generalized: what comes
    -- after a frame starts from what it left.
    induction left generalizing console allowance sum with
    | zero => cases ends
    | succ left ih =>
      by_cases asked : allowance = some 0
      · rw [runFrames_of_asked _ _ asked] at ends
        cases ends
      rcases first : console.frame (allowance.map (· - 1)) with ⟨trap' | report, next⟩
      · rw [runFrames_succ_of_trap left sum asked first] at ends
        cases ends
        exact ⟨0, Nat.succ_pos left, 0, console, .zero asked, first⟩
      · cases interrupted : report.interrupted with
        | true =>
          rw [runFrames_succ_of_interrupted left sum asked first interrupted] at ends
          cases ends
        | false =>
          rw [runFrames_succ_of_completed left sum asked first interrupted] at ends
          obtain ⟨frames, lt, looks, last, completed, traps⟩ := ih _ _ _ ends
          refine ⟨frames + 1, Nat.succ_lt_succ lt, _, last,
            completed.succ asked first interrupted, ?_⟩
          rw [← traps, Option.map_map]
          congr 2
          funext limit
          simp only [Function.comp_apply]
          omega
  · rintro ⟨frames, lt, looks, last, completed, traps⟩
    obtain ⟨more, rfl⟩ := Nat.exists_eq_add_of_lt lt
    -- The look before the last frame is the next after all that were made.
    have unasked : allowance.map (· - looks) ≠ some 0 := by
      refine unasked_map_sub_iff.mpr ?_ 0 le_rfl
      rw [Nat.zero_add]
      exact completed.unasked
    have frame : last.frame ((allowance.map (· - looks)).map (· - 1)) = (.error trap, after) := by
      rw [← traps, Option.map_map]
      rfl
    rw [Nat.add_assoc, completed.runFrames_add, runFrames_succ_of_trap _ _ unasked frame]

/-- Illegal opcodes trap, they do so cleanly, and nothing else fails. On any kind of memory:

1. A step traps exactly if it fetches one of the eleven opcodes, with that opcode and the
   address that it was fetched from.
2. Such a step leaves the processor awake and past the opcode, and all else in it and in the
   memory as it was.
3. An opcode that is run by itself traps exactly if it is one of the eleven, whatever the
   memory holds behind it.

On a console:

4. A frame ends with a trap exactly if a step in it traps, with the trap of the first one and
   in the state which that step left.
5. A run ends with a trap exactly if a frame in it does, behind frames that were completed and
   that it reports. -/
theorem illegal_opcodes_trap :
    (∀ (M : Type) [Memory M] (machine : Machine M),
      (∀ trap, machine.step.1 = .error trap ↔
        machine.Fetches ∧
          machine.read machine.cpu.regs.pc ∈
            [0xD3, 0xDB, 0xDD, 0xE3, 0xE4, 0xEB, 0xEC, 0xED, 0xF4, 0xFC, 0xFD] ∧
          trap = ⟨machine.read machine.cpu.regs.pc, machine.cpu.regs.pc⟩) ∧
      (∀ trap, machine.step.1 = .error trap →
        machine.step.2.cpu =
            { machine.cpu with
              regs.pc := machine.cpu.regs.pc + 1
              halted := false
              stopped := false } ∧
          machine.step.2.memory = machine.memory) ∧
      (∀ opcode trap, (machine.execute opcode).1 = .error trap ↔
        opcode ∈ [0xD3, 0xDB, 0xDD, 0xE3, 0xE4, 0xEB, 0xEC, 0xED, 0xF4, 0xFC, 0xFD] ∧
          trap = ⟨opcode, machine.cpu.regs.pc - 1⟩)) ∧
    (∀ (console : Console) (allowance : Option Nat) (trap : Trap) (after : Console),
      console.frame allowance = (.error trap, after) ↔
        ∃ count, console.machine.Succeeds count ∧
          console.machine.spent count < console.timing.budget ∧
          (∀ i ≤ count, allowance ≠ some i) ∧
          (console.machine.trajectory count).step.1 = .error trap ∧
          after = { console with machine := (console.machine.trajectory count).step.2 }) ∧
    (∀ (console : Console) (limit allowance : Option Nat) (summary : RunSummary) (trap : Trap)
      (after : Console),
      console.runUntil limit allowance = (summary, some trap, after) ↔
        ∃ frames < limit.getD frameCounter, ∃ looks last,
          Completes console allowance .zero frames looks summary last ∧
            last.frame (allowance.map (· - (looks + 1))) = (.error trap, after)) := by
  refine ⟨fun M _ machine => ⟨?_, ?_, ?_⟩, ?_, ?_⟩
  · exact machine.step_eq_error_iff
  · exact fun trap traps => Machine.step_of_trap traps
  · exact machine.execute_eq_error_iff
  · intro console allowance trap after
    rw [frame_eq_error_iff]
    constructor
    · rintro ⟨machine, inner, rfl⟩
      obtain ⟨count, succeeds, short, undue, step⟩ :=
        (Machine.frame_eq_error_iff _ _ _ _ _).mp inner
      exact ⟨count, succeeds, short, undue, by rw [step], by rw [step]⟩
    · rintro ⟨count, succeeds, short, undue, traps, rfl⟩
      exact ⟨_, (Machine.frame_eq_error_iff _ _ _ _ _).mpr
        ⟨count, succeeds, short, undue, Prod.ext traps rfl⟩, rfl⟩
  · exact fun console limit allowance => runFrames_eq_trap_iff console _ allowance .zero

end Console

end GameBoy
