import GameBoy.Bus.Basic
import GameBoy.Proofs.Bus.Mirror
import GameBoy.Proofs.Cpu.Turn

/-!
# `GameBoy.Proofs.Bus.Requests`: no interrupt request is lost or served twice

A machine on the bus takes steps while interrupts are requested from outside, in
any order (`Machine.Action`). Three things change the request register: a request
from outside, the acknowledge of an entry, and a store of the program's own, by an
instruction or on the stack. What happens to the register is told as a history of
such deeds, in the order in which they are made, and `Deed.apply` is what a deed does
to the register. Stores elsewhere are deeds too, which leave it alone.

The history of a step is read off what is seen of it. If the step is an entry, its
first write is the acknowledge, and the two bytes that it pushes are stores like any
others: the stack may lie over the register. In any other step all writes are the
program's.

From there on it is arithmetic on one byte. A bit that is set stays set through every
deed that does not drop it (`Deed.kept`), and a bit that is set after a deed was set
before it or raised by it (`Deed.raised`). Both go through a history by induction.
Main statements:

* `Machine.requests_acts`: the register is the outcome of its history.
* `Machine.raised_between`: between two entries of a source, something raises its bit.
* `Machine.requests_honoured`: a request is kept until it is served, and is served once.
-/

set_option autoImplicit false

namespace GameBoy

open Interrupt (requestAddr enableAddr)

/-! ### The request register on the bus -/

namespace Place

/-- The request register lies at its own address. -/
theorem ofAddr_requestAddr : ofAddr requestAddr = .cell Bus.requestCell := by
  decide

end Place

namespace Bus

/-- The request register answers with the last byte written to its address. No other address
is its echo, so no other write shows there. -/
theorem read_write_request (bus : Bus) (addr : UInt16) (value : UInt8) :
    (bus.write addr value).read requestAddr =
      if addr = requestAddr then value else bus.read requestAddr := by
  have writable : Writable requestAddr := by decide
  by_cases same : addr = requestAddr
  · rw [if_pos same, bus.read_write_of_home value (same ▸ writable) (congrArg homeAddr same)]
  · rw [if_neg same, bus.read_write_of_apart value writable]
    -- It has no echo, so another address has another cell.
    intro home
    have homes := congrArg UInt16.toNat home
    have known : (homeAddr requestAddr).toNat = 0xFF0F := by decide
    rw [toNat_homeAddr, known] at homes
    refine same (UInt16.toNat_inj.mp ?_)
    show addr.toNat = 0xFF0F
    split at homes <;> omega

/-- A request adds its bits to the request register. -/
theorem read_requestInterrupts (bus : Bus) (bits : UInt8) :
    (bus.requestInterrupts bits).read requestAddr =
      bus.read requestAddr ||| (bits &&& Interrupt.sources) := by
  simp only [read, requestInterrupts, Place.ofAddr_requestAddr, Cells.get_set, if_true]
  rfl

end Bus

namespace Interrupt

/-- Only the bit of the source is set in its mask. -/
theorem testBit_mask (source : Interrupt) (n : Nat) :
    source.mask.toNat.testBit n = decide (n = source.line) := by
  have power : source.mask.toNat = 2 ^ source.line := by cases source <;> rfl
  rw [power, Nat.testBit_two_pow, decide_eq_decide]
  exact eq_comm

/-- The bit of a source is one of those that count. -/
theorem testBit_sources (source : Interrupt) : sources.toNat.testBit source.line = true := by
  cases source <;> rfl

/-- A byte that shares a bit with the mask of a source has the bit of the source. -/
theorem testBit_of_and_mask {byte : UInt8} {source : Interrupt} (h : byte &&& source.mask ≠ 0) :
    byte.toNat.testBit source.line = true := by
  by_cases bit : byte.toNat.testBit source.line = true
  · exact bit
  · -- The mask has no other bit to share.
    have none : (byte &&& source.mask).toNat = 0 := by
      apply Nat.eq_of_testBit_eq
      intro n
      rw [UInt8.toNat_and, Nat.testBit_and, testBit_mask, Nat.zero_testBit]
      by_cases line : n = source.line
      · rw [line, Bool.eq_false_iff.mpr bit, Bool.false_and]
      · rw [decide_eq_false line, Bool.and_false]
    exact absurd (UInt8.toNat_inj.mp none) h

end Interrupt

/-- The acknowledge of a source clears its bit and keeps every other one, those that stand for
no source included. -/
theorem testBit_acknowledge (register : UInt8) (source : Interrupt) (n : Nat) :
    (register &&& ~~~source.mask).toNat.testBit n =
      (register.toNat.testBit n && !decide (n = source.line)) := by
  have bound : source.mask.toNat < 2 ^ 8 := source.mask.toNat_lt
  have complement : (~~~source.mask).toNat = 2 ^ 8 - (source.mask.toNat + 1) := by
    rw [UInt8.toNat_not]
    show 2 ^ 8 - 1 - source.mask.toNat = _
    omega
  rw [UInt8.toNat_and, Nat.testBit_and, complement, Nat.testBit_two_pow_sub_succ bound,
    Interrupt.testBit_mask]
  -- From bit 8 on the complement is clear, but so is the register.
  by_cases low : n < 8
  · simp [low]
  · have clear : register.toNat.testBit n = false := by
      apply Nat.testBit_lt_two_pow
      exact Nat.lt_of_lt_of_le register.toNat_lt (Nat.pow_le_pow_right (by omega) (by omega))
    simp [clear]

/-! ### Deeds -/

/-- What is done to the request register, or to the memory beside it. -/
inductive Deed where
  /-- Interrupts are requested from outside. -/
  | requested (bits : UInt8)
  /-- The processor acknowledges the interrupt it enters. -/
  | acknowledged (source : Interrupt)
  /-- The program stores a byte, by an instruction or on the stack. -/
  | stored (addr : UInt16) (value : UInt8)
deriving DecidableEq

namespace Deed

/-- The request register after a deed. -/
def apply (register : UInt8) : Deed → UInt8
  | requested bits => register ||| (bits &&& Interrupt.sources)
  | acknowledged source => register &&& ~~~source.mask
  | stored addr value => if addr = requestAddr then value else register

/-- A deed that may take a request of the source back: its own acknowledge, and a store
to the request register. -/
def Drops (source : Interrupt) : Deed → Prop
  | requested _ => False
  | acknowledged other => other = source
  | stored addr _ => addr = requestAddr

/-- A deed that may raise a request of the source: a request with its bit, and a store of
a byte with its bit to the request register. -/
def Raises (source : Interrupt) : Deed → Prop
  | requested bits => bits.toNat.testBit source.line = true
  | acknowledged _ => False
  | stored addr value => addr = requestAddr ∧ value.toNat.testBit source.line = true

/-- A request is kept by every deed that does not drop it. The case to mind is the acknowledge
of another source, which clears another bit. -/
theorem kept {source : Interrupt} {register : UInt8} {deed : Deed}
    (h : register.toNat.testBit source.line = true) (keeps : ¬deed.Drops source) :
    (deed.apply register).toNat.testBit source.line = true := by
  cases deed with
  | requested bits => rw [apply, UInt8.toNat_or, Nat.testBit_or, h, Bool.true_or]
  | acknowledged other =>
    have apart : source.line ≠ other.line := by
      intro same
      have sources : other = source := by
        cases other <;> cases source <;> first | rfl | cases same
      exact keeps sources
    rw [apply, testBit_acknowledge, h, decide_eq_false apart]
    rfl
  | stored addr value =>
    have apart : addr ≠ requestAddr := keeps
    rw [apply, if_neg apart, h]

/-- A request that is there after a deed was there before it, or the deed raised it. An
acknowledge raises nothing. -/
theorem raised {source : Interrupt} {register : UInt8} {deed : Deed}
    (h : (deed.apply register).toNat.testBit source.line = true) :
    register.toNat.testBit source.line = true ∨ deed.Raises source := by
  cases deed with
  | requested bits =>
    rw [apply, UInt8.toNat_or, Nat.testBit_or, UInt8.toNat_and, Nat.testBit_and,
      Interrupt.testBit_sources, Bool.and_true, Bool.or_eq_true] at h
    exact h
  | acknowledged other =>
    rw [apply, testBit_acknowledge, Bool.and_eq_true] at h
    exact .inl h.1
  | stored addr value =>
    rw [apply] at h
    split at h
    · next same => exact .inr ⟨same, h⟩
    · exact .inl h

/-- A request is kept by a history in which no deed drops it. -/
theorem kept_foldl {source : Interrupt} {register : UInt8} {history : List Deed}
    (h : register.toNat.testBit source.line = true)
    (keeps : ∀ deed ∈ history, ¬deed.Drops source) :
    (history.foldl apply register).toNat.testBit source.line = true := by
  -- On the history, the register carried along: each deed starts from what the last left.
  induction history generalizing register with
  | nil => exact h
  | cons deed history ih =>
    have first := kept h (keeps deed List.mem_cons_self)
    exact ih first fun later mem => keeps later (List.mem_cons_of_mem deed mem)

/-- A request that is there after a history was there before it, or a deed raised it. -/
theorem raised_foldl {source : Interrupt} {register : UInt8} {history : List Deed}
    (h : (history.foldl apply register).toNat.testBit source.line = true) :
    register.toNat.testBit source.line = true ∨ ∃ deed ∈ history, deed.Raises source := by
  induction history generalizing register with
  | nil => exact .inl h
  | cons deed history ih =>
    rcases ih h with before | ⟨later, mem, raises⟩
    · rcases raised before with earlier | raises
      · exact .inl earlier
      · exact .inr ⟨deed, List.mem_cons_self, raises⟩
    · exact .inr ⟨later, List.mem_cons_of_mem deed mem, raises⟩

end Deed

namespace Machine

/-! ### Steps and requests -/

/-- What can happen to a machine on the bus. -/
inductive Action where
  | step
  | request (bits : UInt8)

/-- The machine after an action. -/
def act (machine : Machine Bus) : Action → Machine Bus
  | .step => machine.step.2
  | .request bits => { machine with memory := machine.memory.requestInterrupts bits }

/-- The deeds of an action, in order. The first write of an entry is its acknowledge, and is
told as that. All other writes of a step are stores. -/
def deeds (machine : Machine Bus) : Action → List Deed
  | .request bits => [.requested bits]
  | .step =>
    let stores := machine.seen.2.map fun entry => .stored entry.1 entry.2
    match machine.turn with
    | .entry source => .acknowledged source :: stores.tail
    | _ => stores

/-- The machine after some actions. -/
def acts (start : Machine Bus) (actions : List Action) : Machine Bus := actions.foldl act start

/-- The deeds of some actions, in order. -/
def history (start : Machine Bus) : List Action → List Deed
  | [] => []
  | action :: actions => start.deeds action ++ (start.act action).history actions

/-- The request register. -/
def requests (machine : Machine Bus) : UInt8 := machine.read 0xFF0F

/-- Writes made in order leave the request register as the stores they are. -/
theorem requests_writeAll (bus : Bus) (writes : List (UInt16 × UInt8)) :
    (Memory.writeAll bus writes).read requestAddr =
      (writes.map fun entry => Deed.stored entry.1 entry.2).foldl Deed.apply
        (bus.read requestAddr) := by
  induction writes generalizing bus with
  | nil => rfl
  | cons entry writes ih =>
    have first := bus.read_write_request entry.1 entry.2
    have rest := ih (bus.write entry.1 entry.2)
    rw [first] at rest
    exact rest

/-- An action leaves the request register as its deeds do. For a step this compares the writes
that are seen of it with their outcome on the bus, and the acknowledge that is written with the
one that is told. -/
theorem requests_act (machine : Machine Bus) (action : Action) :
    (machine.act action).requests = (machine.deeds action).foldl Deed.apply machine.requests := by
  cases action with
  | request bits => exact machine.memory.read_requestInterrupts bits
  | step =>
    have memory : (machine.act .step).requests =
        (Memory.writeAll machine.memory machine.seen.2).read requestAddr :=
      congrArg (Bus.read · requestAddr) machine.step_eq.2.2
    rw [memory, requests_writeAll, deeds]
    cases turn : machine.turn with
    | entry source =>
      -- The store of the acknowledge is made from what the register held.
      rw [seen_entry turn]
      simp only [List.map_cons, List.tail_cons, List.foldl_cons, Deed.apply, if_true]
      rfl
    | idle | instruction => rfl

/-- The request register is the outcome of its history. -/
theorem requests_acts (machine : Machine Bus) (actions : List Action) :
    (machine.acts actions).requests =
      (machine.history actions).foldl Deed.apply machine.requests := by
  induction actions generalizing machine with
  | nil => rfl
  | cons action actions ih =>
    rw [history, List.foldl_append, ← requests_act]
    exact ih (machine.act action)

/-- A source that is entered is enabled and requested. -/
theorem testBit_of_entry {machine : Machine Bus} {source : Interrupt}
    (h : machine.turn = .entry source) :
    (machine.read enableAddr).toNat.testBit source.line = true ∧
      machine.requests.toNat.testBit source.line = true := by
  have pending := Interrupt.testBit_of_and_mask (pending_of_entry h)
  simp only [Machine.pending, UInt8.toNat_and, Nat.testBit_and, Bool.and_eq_true] at pending
  exact pending.1

/-- Between two entries of a source, one deed at least raises a request of it. The first entry
acknowledges, so the bit is clear after its first deed. The second finds it set. The deeds after
the acknowledge, the two bytes on the stack among them, have to account for that. -/
theorem raised_between {machine : Machine Bus} {source : Interrupt} {later : List Action}
    (first : machine.turn = .entry source)
    (second : ((machine.act .step).acts later).turn = .entry source) :
    ∃ deed ∈ (machine.deeds .step).tail ++ (machine.act .step).history later,
      deed.Raises source := by
  have deeds : machine.deeds .step = .acknowledged source :: (machine.deeds .step).tail := by
    rw [Machine.deeds, first, List.tail_cons]
  have outcome := requests_acts (machine.act .step) later
  rw [requests_act, ← List.foldl_append, deeds, List.cons_append, List.foldl_cons]
    at outcome
  have set := (testBit_of_entry second).2
  rw [outcome] at set
  rcases Deed.raised_foldl set with acknowledged | raises
  · -- The acknowledge of the first entry has cleared the bit.
    rw [Deed.apply, testBit_acknowledge, decide_eq_true rfl, Bool.not_true, Bool.and_false]
      at acknowledged
    cases acknowledged
  · exact raises

/-- No request is lost and none is served twice, in any order of steps and requests. Take the
machine that some actions `before` have led to.

1. A request from outside raises the bits that it carries, of the five that count, and lowers
   none. Whatever happens later, the request register is the outcome of its history.
2. What is seen of a step is what it makes of the machine, and the turn says all of it. An entry
   acknowledges its source, saves the program counter and goes to the vector. Every other step
   is an idle cycle or the opcode at the program counter, run by a processor that is awake, so a
   machine whose turn is no entry enters nothing.
3. A request is kept until its source is acknowledged or the program stores to the request
   register.
4. An interrupt is entered only while interrupts are accepted, its source enabled and requested.
   Its acknowledge is the first write of the entry; it clears the bit of the source and keeps
   every other, the upper three included. Before the source is entered again, a request or a
   store raises the bit anew.

All of it comes from the history. Each action leaves the register as its deeds do
(`requests_act`), so a run does (`requests_acts`), and what the clauses say of the register is
an induction on the deeds alone (`Deed.kept_foldl`, `Deed.raised_foldl`). -/
theorem requests_honoured (start : Machine Bus) (before : List Action) (source : Interrupt) :
    let machine := start.acts before
    ((∀ bits, (machine.act (.request bits)).requests =
        machine.requests ||| (bits &&& 0x1F)) ∧
      (∀ later, (machine.acts later).requests =
        (machine.history later).foldl Deed.apply machine.requests)) ∧
    ((machine.step.1 = machine.seen.1.1 ∧ machine.step.2.cpu = machine.seen.1.2 ∧
        machine.step.2.memory = Memory.writeAll machine.memory machine.seen.2) ∧
      machine.seen =
        match machine.turn with
        | .entry source =>
          ((.ok 5, machine.cpu.entered source),
            (0xFF0F, machine.requests &&& ~~~source.mask) ::
              Reference.pushWrites machine.cpu.view.file machine.cpu.regs.pc)
        | .idle => ((.ok 1, machine.cpu.spend 1), [])
        | .instruction _ =>
          ((machine.cpu.awake.jump (machine.cpu.regs.pc + 1)).execute
            (machine.read machine.cpu.regs.pc)).observe machine.memory) ∧
    (∀ later, machine.requests.toNat.testBit source.line = true →
      (∀ deed ∈ machine.history later, ¬deed.Drops source) →
        (machine.acts later).requests.toNat.testBit source.line = true) ∧
    (machine.turn = .entry source →
      (machine.cpu.ime = true ∧ (machine.read 0xFFFF).toNat.testBit source.line = true ∧
        machine.requests.toNat.testBit source.line = true) ∧
      (∃ value stores, machine.seen.2 = (0xFF0F, value) :: stores ∧
        ∀ n, value.toNat.testBit n =
          (machine.requests.toNat.testBit n && !decide (n = source.line))) ∧
      (∀ later, ((machine.act .step).acts later).turn = .entry source →
        ∃ deed ∈ (machine.deeds .step).tail ++ (machine.act .step).history later,
          deed.Raises source)) := by
  intro machine
  refine ⟨⟨?_, ?_⟩, ⟨machine.step_eq, machine.seen_told⟩, ?_, fun entry => ⟨?_, ?_, ?_⟩⟩
  · intro bits
    exact machine.memory.read_requestInterrupts bits
  · exact machine.requests_acts
  -- A request that is there is kept until it is dropped.
  · intro later set keeps
    rw [requests_acts]
    exact Deed.kept_foldl set keeps
  -- An entry: its right, its acknowledge and its cause.
  · exact ⟨(heeds_of_entry entry).2, testBit_of_entry entry⟩
  · refine ⟨_, _, congrArg Prod.snd (seen_entry entry), ?_⟩
    exact testBit_acknowledge machine.requests source
  · intro later again
    exact raised_between entry again

end Machine

end GameBoy
