import GameBoy.Proofs.Console.Operations
import GameBoy.Proofs.Cpu.StepKinds

/-!
# `GameBoy.Proofs.Console.Idling`: an idle console idles exactly

A processor that sleeps or is stopped, and is not called for, lets a cycle pass at every step.
Which step it is depends on the processor and on two registers in memory, and such a step changes
none of these: so it is followed by another one, and by as many as a frame has cycles. Only a
change of memory from outside, such as a request, ends this.

The machine after some idle slots is written down at once (`Machine.idled`), with nothing but the
cycle counter moved, and is idle exactly if the machine before was, by definition. So no induction
over frames has to say again what holds between them. How many steps a frame of them takes is read
off the theory of the frame loop: each slot costs one cycle, so the length of the frame is its
budget.

What ends the rest depends on how the processor rests. Asleep, it wakes for any source that is
enabled and requested; stopped, for the joypad alone, whatever else is pending. `Cpu.wakers` is the
set of sources in either case, and whether a machine idles is then one equation on three bytes
(`Machine.idles_iff`), from which it is seen what a request adds. Main statements:

* `Machine.Idles.frame_eq`: an idle machine makes frames of idle slots alone.
* `Machine.idles_iff`: what a processor at rest has to be called for by.
* `Console.idles_exactly`: frames of an idle console, what else it idles through, and its end.
-/

set_option autoImplicit false

namespace GameBoy

open Interrupt (enableAddr requestAddr)

/-! ### Idle slots -/

namespace Machine

variable {M : Type} [Memory M] {machine : Machine M}

/-- The machine after a number of idle slots. -/
def idled (machine : Machine M) (slots : Nat) : Machine M :=
  { machine with cpu := machine.cpu.spend slots }

omit [Memory M] in
theorem idled_idled (machine : Machine M) (first more : Nat) :
    (machine.idled first).idled more = machine.idled (first + more) := by
  simp [idled, Cpu.spend, Nat.add_assoc]

/-- Idle slots leave a machine as idle as it was. -/
theorem idles_idled (slots : Nat) : (machine.idled slots).Idles ↔ machine.Idles := Iff.rfl

namespace Idles

variable (idles : machine.Idles)

include idles

/-- An idle slot costs one cycle, and that is all there is to it. -/
theorem step_eq : machine.step = (.ok 1, machine.idled 1) := by
  rw [step_eq_of_turn, turn_of_idles idles]
  rfl

/-- Step after step is idle. -/
theorem trajectory_eq (slots : Nat) : machine.trajectory slots = machine.idled slots := by
  induction slots with
  | zero => rfl
  | succ slots ih =>
    have next : (machine.idled slots).step = _ := step_eq (machine.idles_idled slots |>.mpr idles)
    rw [trajectory, ih, next, idled_idled]

theorem outcome_eq (slot : Nat) : (machine.trajectory slot).step.1 = .ok 1 := by
  rw [idles.trajectory_eq, step_eq (machine.idles_idled slot |>.mpr idles)]

theorem succeeds (slots : Nat) : machine.Succeeds slots := fun slot _ => ⟨1, idles.outcome_eq slot⟩

/-- Idle slots cost as many cycles as there are. -/
theorem spent_eq (slots : Nat) : machine.spent slots = slots := by
  induction slots with
  | zero => rfl
  | succ slots ih =>
    rw [spent_succ, ih, cost, idles.outcome_eq]
    rfl

/-- So a frame has as many of them as its budget has cycles. -/
theorem frameLength_eq (budget : Nat) : machine.frameLength budget = budget := by
  refine le_antisymm (frameLength_le (idles.succeeds budget) (idles.spent_eq budget).ge) ?_
  refine le_frameLength fun slots _ enough => ?_
  rw [idles.spent_eq] at enough
  exact enough

/-- A frame of an idle machine is idle to its end, or until it is asked to stop. No step traps,
so the frame makes the smaller of the two numbers of steps (`frame_eq_of_succeeds`). -/
theorem frame_eq (budget : Nat) (allowance : Option Nat) :
    ∃ slots ≤ budget, (allowance = none → slots = budget) ∧
      machine.frame budget allowance =
        (.ok ⟨slots, slots, decide (slots < budget)⟩, machine.idled slots) := by
  obtain ⟨slots, last, most, whole⟩ : ∃ slots : Nat,
      (slots : ℕ∞) = min (stepLimit allowance) budget ∧ slots ≤ budget ∧
        (allowance = none → slots = budget) := by
    cases allowance with
    | none => exact ⟨budget, (min_eq_right le_top).symm, Nat.le_refl budget, fun _ => rfl⟩
    | some limit =>
      exact ⟨min limit budget, Nat.mono_cast.map_min, Nat.min_le_right limit budget, nofun⟩
  have early : stepLimit allowance < budget ↔ slots < budget := by
    rw [← Nat.cast_lt (α := ℕ∞), last, min_lt_iff]
    simp
  rw [← idles.frameLength_eq budget] at last
  have frame := frame_eq_of_succeeds last (idles.succeeds slots)
  rw [idles.spent_eq, idles.trajectory_eq, idles.frameLength_eq] at frame
  refine ⟨slots, most, whole, ?_⟩
  rw [frame]
  simp only [early]

end Idles

end Machine

/-! ### The call that ends it -/

/-- Bits that are wanted of two bytes are wanted of either. -/
theorem and_or_and (byte one other wanted : UInt8) :
    byte &&& (one ||| other) &&& wanted =
      byte &&& one &&& wanted ||| byte &&& other &&& wanted := by
  apply UInt8.toNat_inj.mp
  simp only [UInt8.toNat_and, UInt8.toNat_or, Nat.and_or_distrib_left, Nat.and_or_distrib_right]

/-- The sources that end the rest of a processor: if it is stopped the joypad alone. -/
def Cpu.wakers (cpu : Cpu) : UInt8 :=
  if cpu.stopped then Interrupt.joypad.mask else Interrupt.sources

/-- They are sources of interrupts. -/
theorem Cpu.sources_and_wakers (cpu : Cpu) : Interrupt.sources &&& cpu.wakers = cpu.wakers := by
  unfold wakers
  split <;> rfl

namespace Machine

variable {M : Type} [Memory M] {machine : Machine M}

/-- Whether the processor sleeps or is stopped. -/
def Rests (machine : Machine M) : Prop :=
  machine.cpu.halted = true ∨ machine.cpu.stopped = true

theorem Idles.rests (idles : machine.Idles) : machine.Rests :=
  idles.symm.imp And.left And.left

/-- A processor at rest idles as long as none of the sources that end its rest is both enabled
and requested. One that is both stopped and asleep counts as stopped. -/
theorem idles_iff (rests : machine.Rests) :
    machine.Idles ↔
      machine.read enableAddr &&& machine.read requestAddr &&& machine.cpu.wakers = 0 := by
  unfold Idles Cpu.wakers
  cases stopped : machine.cpu.stopped with
  | true =>
    -- What is pending is cut down to the sources, of which the joypad is one.
    have joypad : machine.pending &&& Interrupt.joypad.mask =
        machine.read enableAddr &&& machine.read requestAddr &&& Interrupt.joypad.mask := by
      rw [pending, UInt8.and_assoc]
      rfl
    rw [if_pos rfl, ← joypad]
    constructor
    · rintro (⟨-, quiet⟩ | ⟨-, quiet⟩)
      · exact quiet
      · rw [quiet]
        rfl
    · intro quiet
      exact .inl ⟨rfl, quiet⟩
  | false =>
    have halted : machine.cpu.halted = true := by
      simpa [Rests, stopped] using rests
    simp [halted, pending]

/-- A processor at rest that does not idle enters an interrupt, if interrupts are accepted: what
ends its rest is pending too. -/
theorem enters_of_called (rests : machine.Rests) (called : ¬machine.Idles)
    (ime : machine.cpu.ime = true) : machine.Enters := by
  rw [Idles, not_or, not_and, not_and] at called
  refine ⟨ime, ?_, called.1⟩
  intro quiet
  rcases rests with halted | stopped
  · exact called.2 halted quiet
  · exact called.1 stopped (by rw [quiet]; rfl)

/-- The step of a processor that was called from its rest: it enters an interrupt that is
pending, or goes on with the instruction where it stands. -/
theorem step_of_called (rests : machine.Rests) (called : ¬machine.Idles) :
    (machine.cpu.ime = true →
      ∃ source, machine.pending &&& source.mask ≠ 0 ∧ machine.step.1 = .ok 5 ∧
        machine.step.2.cpu = machine.cpu.entered source) ∧
    (machine.cpu.ime = false →
      machine.step = machine.ready.execute (machine.read machine.cpu.regs.pc)) := by
  constructor
  · intro ime
    obtain ⟨source, turn⟩ := turn_of_enters (enters_of_called rests called ime)
    refine ⟨source, pending_of_entry turn, ?_, cpu_of_entry turn⟩
    rw [machine.step_eq.1, seen_entry turn]
  · intro ime
    have fetches : machine.Fetches := by
      refine ⟨fun enters => ?_, called⟩
      rw [enters.1] at ime
      cases ime
    exact step_eq_execute (turn_eq_instruction_iff.mpr ⟨fetches, rfl⟩)

end Machine

namespace Bus

/-- A request does not reach the enable register. -/
theorem read_enable_requestInterrupts (bus : Bus) (bits : UInt8) :
    (bus.requestInterrupts bits).read enableAddr = bus.read enableAddr := by
  have place : Place.ofAddr enableAddr = .cell .interruptEnable := by decide
  simp [read, requestInterrupts, place, Cells.get_set, requestCell]

end Bus

namespace Console

/-! ### A console left to itself -/

/-- Whether an operation leaves a console to itself, or only looks at its memory. -/
def Operation.passive : Operation → Bool
  | .retime _ | .step | .frame _ | .machine .step | .machine (.read _) => true
  | _ => false

/-- The console after a number of idle slots. -/
def idled (console : Console) (slots : Nat) : Console :=
  { console with machine := console.machine.idled slots }

theorem idled_idled (console : Console) (first more : Nat) :
    (console.idled first).idled more = console.idled (first + more) := by
  rw [idled, idled, Machine.idled_idled]
  rfl

variable {console : Console}

/-- A frame of an idle console is idle to its end. -/
theorem frame_of_idles (idles : console.machine.Idles) :
    console.operate (.frame none) =
      (.report (.ok ⟨console.timing.budget, console.timing.budget, false⟩),
        console.idled console.timing.budget) := by
  obtain ⟨slots, -, whole, frame⟩ := idles.frame_eq console.timing.budget none
  rw [whole rfl, decide_eq_false (Nat.lt_irrefl _)] at frame
  rw [operate, frame_eq frame]
  rfl

/-- So is every further one. -/
theorem frames_of_idles (idles : console.machine.Idles) (frames : Nat) :
    session operate console (List.replicate frames (.frame none)) =
      (List.replicate frames
          (.report (.ok ⟨console.timing.budget, console.timing.budget, false⟩)),
        console.idled (frames * console.timing.budget)) := by
  -- On the frames that are left. The console is generalized, since each frame leaves another.
  induction frames generalizing console with
  | zero =>
    rw [Nat.zero_mul]
    rfl
  | succ frames ih =>
    have still : (console.idled console.timing.budget).machine.Idles := idles
    rw [List.replicate_succ, List.replicate_succ, session_cons, frame_of_idles idles, ih still,
      idled_idled, Nat.succ_mul, Nat.add_comm]
    rfl

/-- A step of an idle console is an idle slot, whichever way it is asked for. -/
theorem step_of_idles (idles : console.machine.Idles) :
    { console with machine := console.machine.step.2 } = console.idled 1 := by
  rw [idles.step_eq]
  rfl

/-- An idle console that is left to itself stays as it is, but for idle slots and the timing it
is given. All that the operations in question do is to make steps or to look at memory. -/
theorem operate_of_idles (idles : console.machine.Idles) {operation : Operation}
    (passive : operation.passive = true) :
    ∃ slots timing, (console.operate operation).2 = (console.idled slots).withTiming timing := by
  cases operation with
  | retime timing => exact ⟨0, timing, rfl⟩
  | step => exact ⟨1, console.timing, step_of_idles idles⟩
  | frame allowance =>
    obtain ⟨slots, -, -, frame⟩ := idles.frame_eq console.timing.budget allowance
    refine ⟨slots, console.timing, ?_⟩
    rw [operate, frame_eq frame]
    rfl
  | machine operation =>
    cases operation with
    | step => exact ⟨1, console.timing, step_of_idles idles⟩
    | read addr => exact ⟨0, console.timing, rfl⟩
    | execute | write | adjust => cases passive
  | load | insert | reset | request => cases passive

/-- So it does for any time. -/
theorem session_of_idles (idles : console.machine.Idles) {operations : List Operation}
    (passive : ∀ operation ∈ operations, operation.passive = true) :
    ∃ slots timing,
      (session operate console operations).2 = (console.idled slots).withTiming timing := by
  refine session_preserves
    (fun after => ∃ slots timing, after = (console.idled slots).withTiming timing)
    (fun operation mem after reached => ?_) ⟨0, console.timing, rfl⟩
  obtain ⟨slots, timing, rfl⟩ := reached
  have still : ((console.idled slots).withTiming timing).machine.Idles := idles
  obtain ⟨more, timing', next⟩ := operate_of_idles still (passive operation mem)
  refine ⟨slots + more, timing', ?_⟩
  rw [next, ← idled_idled]
  rfl

/-- A request lets an idle console idle on unless one of the sources that end its rest is among
the bits and enabled. What was requested before does not count: the console was idle with it. -/
theorem idles_request_iff (idles : console.machine.Idles) (bits : UInt8) :
    (console.requestInterrupts bits).machine.Idles ↔
      console.machine.read enableAddr &&& bits &&& console.machine.cpu.wakers = 0 := by
  have rests := idles.rests
  have quiet := (Machine.idles_iff rests).mp idles
  have restsStill : (console.requestInterrupts bits).machine.Rests := rests
  have enabled : (console.requestInterrupts bits).machine.read enableAddr =
      console.machine.read enableAddr := console.machine.memory.read_enable_requestInterrupts bits
  have requested : (console.requestInterrupts bits).machine.read requestAddr =
      console.machine.read requestAddr ||| (bits &&& Interrupt.sources) :=
    console.machine.memory.read_requestInterrupts bits
  have wakers : (console.requestInterrupts bits).machine.cpu.wakers =
      console.machine.cpu.wakers := rfl
  have cut : console.machine.read enableAddr &&& (bits &&& Interrupt.sources) &&&
      console.machine.cpu.wakers =
      console.machine.read enableAddr &&& bits &&& console.machine.cpu.wakers := by
    rw [← UInt8.and_assoc, UInt8.and_assoc _ Interrupt.sources, Cpu.sources_and_wakers]
  rw [Machine.idles_iff restsStill, enabled, requested, wakers, and_or_and, quiet, cut,
    UInt8.zero_or]

/-- A console whose processor is stopped and not called by the joypad, or asleep and not called
by anything, idles exactly. That is the hypothesis; nothing is asked of the memory, the program or
the counter.

1. Every frame is idle to its end. It takes as many steps as it has cycles to spend, and after any
   number of frames all that has changed in the console is the cycle counter.
2. Whatever steps and frames it is left to, and however its memory is looked at, it idles on, and
   nothing but the counter and the timing it was given has changed.
3. Then let a request come from outside. It leaves the console idle exactly if none of its bits is
   both enabled and one that ends the rest: any source for one asleep, the joypad's for one that
   is stopped.
4. If it does not, the very next step enters a pending interrupt, if interrupts are accepted, and
   otherwise runs the instruction where the processor stands.

The first two are inductions over the frames and over the operations, both with the machine after
the slots so far. The other two are `idles_request_iff` and `Machine.step_of_called`. -/
theorem idles_exactly (console : Console) (idles : console.machine.Idles) :
    let budget := console.timing.budget
    let later (cycles : Nat) : Console :=
      { console with machine.cpu.cycles := console.machine.cpu.cycles + cycles }
    (∀ frames : Nat, session operate console (List.replicate frames (.frame none)) =
      (List.replicate frames (.report (.ok ⟨budget, budget, false⟩)), later (frames * budget))) ∧
    ∀ operations : List Operation, (∀ operation ∈ operations, operation.passive = true) →
      let after := (session operate console operations).2
      after.machine.Idles ∧ (∃ cycles, after = (later cycles).withTiming after.timing) ∧
      ∀ bits : UInt8,
        let called := (after.requestInterrupts bits).machine
        let heard := called.read enableAddr &&& bits &&& called.cpu.wakers
        (called.Idles ↔ heard = 0) ∧
        (heard ≠ 0 →
          (called.cpu.ime = true →
            ∃ source, called.pending &&& source.mask ≠ 0 ∧ called.step.1 = .ok 5 ∧
              called.step.2.cpu = called.cpu.entered source) ∧
          (called.cpu.ime = false →
            called.step = called.ready.execute (called.read called.cpu.regs.pc))) := by
  intro budget later
  constructor
  · exact frames_of_idles idles
  · intro operations passive after
    obtain ⟨cycles, timing, reached⟩ := session_of_idles idles passive
    have still : after.machine.Idles := by
      rw [show after = _ from reached]
      exact idles
    refine ⟨still, ⟨cycles, ?_⟩, ?_⟩
    · rw [show after = _ from reached]
      rfl
    · intro bits called heard
      have enabled : called.read enableAddr = after.machine.read enableAddr :=
        after.machine.memory.read_enable_requestInterrupts bits
      have idlesOn : called.Idles ↔ heard = 0 := by
        have request := idles_request_iff still bits
        rw [← enabled] at request
        exact request
      refine ⟨idlesOn, fun loud => ?_⟩
      have rests : called.Rests := still.rests
      exact Machine.step_of_called rests (mt idlesOn.mp loud)

/-- A console that is stopped while a timer interrupt is pending. -/
def dozing : Console where
  machine :=
    { cpu := { Cpu.postBoot with stopped := true }
      memory := ((Bus.powerOn ⟨#[]⟩ none).write 0xFFFF 0x1F).requestInterrupts 0x04
      journal := .start .silent }
  cartridge := ⟨#[], Header.ofBytes (Vector.replicate _ 0)⟩
  boot := none
  timing := .scanline

/-- It idles through its frames and through every other request, until the joypad calls. -/
theorem idles_exactly_dozing :
    let after := (session operate dozing (List.replicate 3 (.frame none))).2
    dozing.machine.Idles ∧ after.machine.cpu.cycles = 3 * (154 * 114) ∧
      (after.requestInterrupts 0x0F).machine.Idles ∧
      ¬(after.requestInterrupts 0x10).machine.Idles := by
  intro after
  have idles : dozing.machine.Idles := .inl ⟨rfl, by decide +kernel⟩
  obtain ⟨frames, left⟩ := idles_exactly dozing idles
  have reached : after = _ := congrArg Prod.snd (frames 3)
  obtain ⟨-, -, calls⟩ := left (List.replicate 3 (.frame none)) (by decide)
  have others := (calls 0x0F).1
  have joypad := (calls 0x10).1
  rw [show (session operate dozing _).2 = _ from reached] at others joypad
  rw [reached]
  refine ⟨idles, rfl, others.mpr (by decide +kernel), fun still => ?_⟩
  exact absurd (joypad.mp still) (by decide +kernel)

end Console

end GameBoy
