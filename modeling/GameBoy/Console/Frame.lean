import GameBoy.Cpu.Cost
import GameBoy.Console.Basic

/-!
# `GameBoy.Console.Frame`: the frame loop

A frame is a run of steps that ends once the frame's budget of machine cycles is
spent, at a trap, or when it is interrupted. A request to stop is looked at
before every step; how many steps it leaves time for is the frame's allowance.

Steps are not cut in two, so the last one may take a frame past its budget, and
the next frame does not make up for that. A frame that traps has no report: what
its steps did to the machine stays, and what they cost is only to be seen in the
cycle counter.

The loop is defined by recursion on what is left of the budget. It comes to its
end because a step that does not trap costs at least one cycle.
-/

set_option autoImplicit false

namespace GameBoy

/-- What a frame did. -/
structure FrameReport where
  /-- The machine cycles spent. -/
  cycles : Nat
  /-- The steps made. -/
  instructions : Nat
  /-- Whether the frame ended early because it was asked to stop. -/
  interrupted : Bool
deriving DecidableEq

namespace Machine

variable {M : Type} [Memory M]

/-- Steps until the cycles spent reach the budget. With an allowance, the request
to stop comes after that many steps. Once the budget is spent it is not looked at
any more, so a frame that ends at the same step counts as whole. -/
def frame (machine : Machine M) (budget : Nat) (allowance : Option Nat) :
    Except Trap FrameReport × Machine M :=
  go machine allowance 0 0
where
  /-- Goes on after some steps. -/
  go (machine : Machine M) (allowance : Option Nat) (cycles instructions : Nat) :
      Except Trap FrameReport × Machine M :=
    if cycles < budget then
      if allowance = some 0 then (.ok ⟨cycles, instructions, true⟩, machine)
      else
        match _step : machine.step with
        | (.ok cost, after) =>
          go after (allowance.map (· - 1)) (cycles + cost) (instructions + 1)
        | (.error trap, after) => (.error trap, after)
    else (.ok ⟨cycles, instructions, false⟩, machine)
  termination_by budget - cycles
  decreasing_by
    have := (cost_of_step _step).1
    omega

end Machine

namespace Console

/-- One step of the processor. -/
def step (console : Console) : Except Trap Nat × Console :=
  let ⟨machine, cartridge, boot, timing⟩ := console
  let (result, machine) := machine.step
  (result, ⟨machine, cartridge, boot, timing⟩)

/-- One frame, unless it is interrupted. -/
def frame (console : Console) (allowance : Option Nat) : Except Trap FrameReport × Console :=
  let ⟨machine, cartridge, boot, timing⟩ := console
  let (result, machine) := machine.frame timing.budget allowance
  (result, ⟨machine, cartridge, boot, timing⟩)

end Console

end GameBoy
