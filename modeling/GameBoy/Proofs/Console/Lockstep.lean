import GameBoy.Proofs.Console.FrameLoop
import GameBoy.Proofs.Memory.Watching

/-!
# `GameBoy.Proofs.Console.Lockstep`: two machines that go on together

Two machines are compared by a relation between them. If it is kept by a step, and the step
has the same outcome on both, then they go on together: through frames, and through any
sequence of operations of which each keeps the relation.

This is where the inductions over long runs are, once for all comparisons. What is compared with
what is left to the relation: a watched machine with the machine itself, two buses that show the
same, or two logs of which one is part of the other. The two sides may be on different kinds of
memory, and the frame loop looks at nothing of a machine but the outcome of its steps, so no more
is asked for than that. Main statements:

* `Machine.frame_lockstep`: what steps keep, frames keep.
* `Machine.unwatched_frame`: a watched machine makes the frames of the machine itself.
* `session_lockstep`: what each operation keeps, any sequence of them keeps.
-/

set_option autoImplicit false

namespace GameBoy

/-- Both sides give the same answer, and where they come to is related again. -/
structure Lockstep {α S T : Type} (related : S → T → Prop) (one : α × S) (other : α × T) :
    Prop where
  answer : one.1 = other.1
  after : related one.2 other.2

/-! ### Frames -/

namespace Machine

variable {M N : Type} [Memory M] [Memory N] {related : Machine M → Machine N → Prop}

/-- From anywhere in a frame, machines whose steps are in lockstep go on in lockstep. By
induction on the recursion of the loop on one side; the other takes the same turns, since both
look at the same numbers and at outcomes that are the same. -/
theorem frame_go_lockstep
    (step : ∀ one other, related one other → Lockstep related one.step other.step)
    (budget : Nat) {one : Machine M} {other : Machine N} (h : related one other)
    (left : Option Nat) (cycles count : Nat) :
    Lockstep related (frame.go budget one left cycles count)
      (frame.go budget other left cycles count) := by
  -- On the recursion of the first loop. Both look at the same numbers, and their steps have
  -- the same outcome.
  induction one, left, cycles, count using frame.go.induct (M := M) budget generalizing other with
  | case1 machine cycles count short =>
    rw [frame.go.eq_def, frame.go.eq_def, if_pos short, if_pos short, if_pos rfl, if_pos rfl]
    exact ⟨rfl, h⟩
  | case2 machine left cycles count short more cost after made ih =>
    have both := step machine other h
    have outcome : machine.step.1 = .ok cost := by rw [made]
    have outcome' : other.step.1 = .ok cost := by rw [← both.answer, outcome]
    rw [frame_go_of_ok short more outcome, frame_go_of_ok short more outcome', made]
    rw [made] at both
    exact ih both.after
  | case3 machine left cycles count short more trap after made =>
    have both := step machine other h
    have outcome : machine.step.1 = .error trap := by rw [made]
    have outcome' : other.step.1 = .error trap := by rw [← both.answer, outcome]
    rw [frame_go_of_trap short more outcome, frame_go_of_trap short more outcome']
    exact ⟨rfl, both.after⟩
  | case4 machine left cycles count enough =>
    rw [frame.go.eq_def, frame.go.eq_def, if_neg enough, if_neg enough]
    exact ⟨rfl, h⟩

/-- Machines whose steps are in lockstep make frames in lockstep. -/
theorem frame_lockstep
    (step : ∀ one other, related one other → Lockstep related one.step other.step)
    {one : Machine M} {other : Machine N} (h : related one other) (budget : Nat)
    (allowance : Option Nat) :
    Lockstep related (one.frame budget allowance) (other.frame budget allowance) :=
  frame_go_lockstep step budget h allowance 0 0

/-- A frame of a watched machine is a frame of the machine: watching a step does not change what
it does, and so it does not change a frame. -/
theorem unwatched_frame (machine : Machine (Traced M)) (budget : Nat) (allowance : Option Nat) :
    ((machine.frame budget allowance).1, (machine.frame budget allowance).2.unwatched) =
      machine.unwatched.frame budget allowance := by
  have step : ∀ (one : Machine (Traced M)) (other : Machine M), one.unwatched = other →
      Lockstep (fun one other => one.unwatched = other) one.step other.step := by
    rintro one other rfl
    exact ⟨congrArg Prod.fst one.unwatched_step, congrArg Prod.snd one.unwatched_step⟩
  have frame := frame_lockstep step (rfl : machine.unwatched = _) budget allowance
  exact Prod.ext frame.answer frame.after

end Machine

/-! ### Sequences of operations -/

section

variable {S T O A : Type}

/-- Carries out operations one after another, and collects what they answer. -/
def session (operate : S → O → A × S) (start : S) : List O → List A × S
  | [] => ([], start)
  | operation :: rest =>
    let (answer, after) := operate start operation
    let (answers, last) := session operate after rest
    (answer :: answers, last)

/-- An operation and then others. -/
theorem session_cons (operate : S → O → A × S) (start : S) (operation : O) (rest : List O) :
    session operate start (operation :: rest) =
      ((operate start operation).1 :: (session operate (operate start operation).2 rest).1,
        (session operate (operate start operation).2 rest).2) := rfl

/-- Given operations that are in lockstep one by one are in lockstep in sequence. What is asked
of an operation is only asked of those in the list, so one that would break the relation may be
left out of it. -/
theorem session_lockstep_of_mem {related : S → T → Prop} {operate : S → O → A × S}
    {operate' : T → O → A × T} {operations : List O}
    (each : ∀ operation ∈ operations, ∀ one other, related one other →
      Lockstep related (operate one operation) (operate' other operation))
    {one : S} {other : T} (h : related one other) :
    Lockstep related (session operate one operations) (session operate' other operations) := by
  induction operations generalizing one other with
  | nil => exact ⟨rfl, h⟩
  | cons operation rest ih =>
    have first := each operation List.mem_cons_self one other h
    have later := ih (fun next mem => each next (List.mem_cons_of_mem operation mem)) first.after
    exact ⟨congrArg₂ List.cons first.answer later.answer, later.after⟩

/-- If all operations are in lockstep one by one, any of them are in sequence. -/
theorem session_lockstep {related : S → T → Prop} {operate : S → O → A × S}
    {operate' : T → O → A × T}
    (each : ∀ one other operation, related one other →
      Lockstep related (operate one operation) (operate' other operation))
    {one : S} {other : T} (h : related one other) (operations : List O) :
    Lockstep related (session operate one operations) (session operate' other operations) :=
  session_lockstep_of_mem (fun operation _ one other => each one other operation) h

/-- Operations and then others are carried out one after the other. -/
theorem session_append (operate : S → O → A × S) (start : S) (before after : List O) :
    session operate start (before ++ after) =
      ((session operate start before).1 ++
          (session operate (session operate start before).2 after).1,
        (session operate (session operate start before).2 after).2) := by
  induction before generalizing start with
  | nil => rfl
  | cons operation rest ih =>
    rw [List.cons_append, session_cons, session_cons, ih, List.cons_append]

/-- What every given operation keeps, the sequence of them keeps. Each has to keep it from any
state that has it, and not only from those that are reached. -/
theorem session_preserves (property : S → Prop) {operate : S → O → A × S} {operations : List O}
    (each : ∀ operation ∈ operations, ∀ state, property state →
      property (operate state operation).2)
    {start : S} (h : property start) : property (session operate start operations).2 := by
  induction operations generalizing start with
  | nil => exact h
  | cons operation rest ih =>
    refine ih (fun next mem => each next (List.mem_cons_of_mem operation mem)) ?_
    exact each operation List.mem_cons_self start h

end

end GameBoy
