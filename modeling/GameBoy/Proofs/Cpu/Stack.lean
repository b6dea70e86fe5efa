import GameBoy.Proofs.Cpu.Calls

/-!
# `GameBoy.Proofs.Cpu.Stack`: last in, first out

The stack has no storage of its own: a word that is put on it is written to memory, in the two
bytes below the stack pointer. Whether it is found there later depends on the memory. `Room` is
what the bytes below a pointer have to be for that: each answers with what is written to it, and
none with what is written to another. Flat storage has it everywhere, a memory map where it can
be written and has no echo. `Beside` are the addresses that no write to these bytes shows at.

The argument is about words and not about instructions. `Pushes` and `Pops` say what one word
does to the pointer and the memory, and `Stacked` which words lie between a base and the pointer.
A word that is pushed lies deeper than all that are there, so their bytes are spared, and a pop
changes nothing. From there on rows of words are treated by induction, each word of a row joining
those that lie there already.

Words are put on the stack in two ways. From outside it is done directly (`pushAll`, `popAll`).
By the program it is done by calls, of which there are several opcodes, each fetched by a step or
told: `CallRow` and `ReturnRow` are rows of them, and they are rows of words (`CallRow.pushRow`,
`ReturnRow.popRow`). Main statements:

* `Machine.Stacked.push`, `Machine.Stacked.pop`: what one word does to the stack.
* `Machine.PushRow.unwound`: the words of a row are taken off in reverse order, the pointer is
  back, and nothing else has changed.
* `Machine.push_pop`, `Machine.call_return`: so it is with words, and with return addresses.
-/

set_option autoImplicit false

namespace GameBoy

open Transaction

/-! ### Addresses below a base -/

/-- The address so many bytes below another. The address space goes round. -/
def below (base : UInt16) (count : Nat) : UInt16 := base - UInt16.ofNat count

namespace below

variable (base : UInt16) (count : Nat)

/-- The address, as a number. -/
theorem toNat_eq : (below base count).toNat = (base.toNat + (65536 - count % 65536)) % 65536 := by
  rw [below, UInt16.toNat_sub, UInt16.toNat_ofNat']
  omega

@[simp]
theorem zero : below base 0 = base := UInt16.sub_zero base

/-- Further down is below by the sum. -/
theorem sub (more : Nat) : below base count - UInt16.ofNat more = below base (count + more) := by
  apply UInt16.toNat_inj.mp
  rw [UInt16.toNat_sub, toNat_eq, toNat_eq, UInt16.toNat_ofNat']
  omega

theorem sub_one : below base count - 1 = below base (count + 1) := sub base count 1

theorem sub_two : below base count - 2 = below base (count + 2) := sub base count 2

theorem add_one : below base (count + 1) + 1 = below base count := by
  rw [← sub_one, UInt16.sub_add_cancel]

theorem add_two : below base (count + 2) + 2 = below base count := by
  rw [← sub_two, UInt16.sub_add_cancel]

variable {base}

/-- The addresses of a whole round differ. -/
theorem inj {i j : Nat} (hi : 1 ≤ i) (hi' : i ≤ 65536) (hj : 1 ≤ j) (hj' : j ≤ 65536)
    (same : below base i = below base j) : i = j := by
  have values := congrArg UInt16.toNat same
  rw [toNat_eq, toNat_eq] at values
  have lt : base.toNat < 2 ^ 16 := base.toNat_lt
  omega

end below

/-! ### Room in memory -/

namespace Memory

/-- An address answers with what is written to it. -/
def Retains (M : Type) [Memory M] (addr : UInt16) : Prop :=
  ∀ (memory : M) (value : UInt8), read (write memory addr value) addr = value

/-- What is written to one address is not seen at another. -/
def Spares (M : Type) [Memory M] (addr other : UInt16) : Prop :=
  ∀ (memory : M) (value : UInt8), read (write memory addr value) other = read memory other

end Memory

/-- The bytes from one below a base to so many below it can be used as a stack. The conditions are
on the kind of memory, whatever it holds, so they need not be kept up as a stack grows. -/
structure Room (M : Type) [Memory M] (base : UInt16) (count : Nat) : Prop where
  retains : ∀ i, 1 ≤ i → i ≤ count → Memory.Retains M (below base i)
  spares : ∀ i j, 1 ≤ i → i ≤ count → 1 ≤ j → j ≤ count → i ≠ j →
    Memory.Spares M (below base i) (below base j)

/-- No write to one of these bytes is seen at the address. -/
def Beside (M : Type) [Memory M] (base : UInt16) (count : Nat) (addr : UInt16) : Prop :=
  ∀ i, 1 ≤ i → i ≤ count → Memory.Spares M (below base i) addr

namespace Machine

variable {M : Type} [Memory M] {start before after last : Machine M} {base : UInt16}
  {word : UInt16} {words : List UInt16}

/-! ### One word -/

/-- A word is put on the stack: its two bytes are written below the stack pointer, the upper one
first. -/
structure Pushes (before : Machine M) (word : UInt16) (after : Machine M) : Prop where
  sp : after.cpu.regs.sp = before.cpu.regs.sp - 2
  memory : after.memory =
    Memory.write (Memory.write before.memory (before.cpu.regs.sp - 1) (highByte word))
      (before.cpu.regs.sp - 2) (lowByte word)

/-- A word is taken off the stack. -/
structure Pops (before : Machine M) (word : UInt16) (after : Machine M) : Prop where
  word_eq : word =
    joinBytes (before.read (before.cpu.regs.sp + 1)) (before.read before.cpu.regs.sp)
  sp : after.cpu.regs.sp = before.cpu.regs.sp + 2
  memory : after.memory = before.memory

/-- These words lie below a base, the lowest one first. The place of a word is told by how many
lie above it. -/
def Holds (read : UInt16 → UInt8) (base : UInt16) : List UInt16 → Prop
  | [] => True
  | word :: words =>
    read (below base (2 * words.length + 1)) = highByte word ∧
      read (below base (2 * words.length + 2)) = lowByte word ∧ Holds read base words

/-- They still do when their bytes are as they were. -/
theorem Holds.congr {read read' : UInt16 → UInt8} (h : Holds read base words)
    (same : ∀ i, 1 ≤ i → i ≤ 2 * words.length → read' (below base i) = read (below base i)) :
    Holds read' base words := by
  induction words with
  | nil => trivial
  | cons word words ih =>
    obtain ⟨high, low, rest⟩ := h
    rw [List.length_cons] at same
    refine ⟨?_, ?_, ih rest fun i one le => same i one (by omega)⟩
    · rw [same _ (by omega) (by omega), high]
    · rw [same _ (by omega) (by omega), low]

/-- The stack pointer has come down from a base over these words, the last one first. -/
structure Stacked (machine : Machine M) (base : UInt16) (words : List UInt16) : Prop where
  sp : machine.cpu.regs.sp = below base (2 * words.length)
  holds : Holds machine.read base words

/-- A word that is put on the stack is the first there, and no byte beside the room changes. The
room has to reach as far as the new word: its two bytes are then kept where they are written
(`Room.retains`), and neither is seen at the bytes of the words above (`Room.spares`). -/
theorem Stacked.push {count : Nat} (stacked : Stacked before base words)
    (room : Room M base count) (pushes : Pushes before word after)
    (fits : 2 * words.length + 2 ≤ count) :
    Stacked after base (word :: words) ∧
      ∀ addr, Beside M base count addr → after.read addr = before.read addr := by
  have read : ∀ addr, after.read addr =
      Memory.read (Memory.write (Memory.write before.memory
        (below base (2 * words.length + 1)) (highByte word))
        (below base (2 * words.length + 2)) (lowByte word)) addr := by
    intro addr
    rw [Machine.read, pushes.memory, stacked.sp, below.sub_one, below.sub_two]
  -- Both bytes lie deeper than any word that is there, so neither write is seen by those.
  refine ⟨⟨?_, ?_, ?_, ?_⟩, ?_⟩
  · rw [pushes.sp, stacked.sp, below.sub_two]
    rfl
  · rw [read, room.spares _ _ (by omega) fits (by omega) (by omega) (by omega),
      room.retains _ (by omega) (by omega)]
  · rw [read, room.retains _ (by omega) fits]
  · refine stacked.holds.congr fun i one le => ?_
    rw [read, room.spares _ _ (by omega) fits one (by omega) (by omega),
      room.spares _ _ (by omega) (by omega) one (by omega) (by omega)]
    rfl
  · intro addr beside
    rw [read, beside _ (by omega) fits, beside _ (by omega) (by omega)]
    rfl

/-- The first word on the stack is the one that is taken off it. -/
theorem Stacked.pop {top : UInt16} (stacked : Stacked before base (top :: words))
    (pops : Pops before word after) : word = top ∧ Stacked after base words := by
  obtain ⟨high, low, rest⟩ := stacked.holds
  have sp : before.cpu.regs.sp = below base (2 * words.length + 2) := stacked.sp
  refine ⟨?_, ?_, ?_⟩
  · rw [pops.word_eq, sp, below.add_one, high, low, joinBytes_highByte_lowByte]
  · rw [pops.sp, sp, below.add_two]
  · refine rest.congr fun i _ _ => ?_
    rw [Machine.read, pops.memory]
    rfl

/-! ### Rows of words -/

/-- Words are put on the stack one after another. -/
inductive PushRow : Machine M → List UInt16 → Machine M → Prop
  | nil {machine : Machine M} : PushRow machine [] machine
  | cons {before after last : Machine M} {word : UInt16} {words : List UInt16}
      (pushes : Pushes before word after) (later : PushRow after words last) :
      PushRow before (word :: words) last

/-- Words are taken off the stack one after another. -/
inductive PopRow : Machine M → List UInt16 → Machine M → Prop
  | nil {machine : Machine M} : PopRow machine [] machine
  | cons {before after last : Machine M} {word : UInt16} {words : List UInt16}
      (pops : Pops before word after) (later : PopRow after words last) :
      PopRow before (word :: words) last

/-- A row of words lies on the stack in reverse order, above what lay there before. -/
theorem PushRow.stacked {held : List UInt16} {count : Nat} (row : PushRow before words last)
    (stacked : Stacked before base held) (room : Room M base count)
    (fits : 2 * (held.length + words.length) ≤ count) :
    Stacked last base (words.reverse ++ held) ∧
      ∀ addr, Beside M base count addr → last.read addr = before.read addr := by
  -- On the row, over any words that lie there already: each word of the row joins them.
  induction row generalizing held with
  | nil => exact ⟨stacked, fun _ _ => rfl⟩
  | @cons before after last word words pushes later ih =>
    rw [List.length_cons] at fits
    obtain ⟨pushed, kept⟩ := stacked.push room pushes (by omega)
    obtain ⟨all, keeps⟩ := ih pushed (by rw [List.length_cons]; omega)
    rw [List.reverse_cons, List.append_assoc]
    exact ⟨all, fun addr beside => (keeps addr beside).trans (kept addr beside)⟩

/-- So many words as lie on the stack are taken off as they lie, and then the pointer is at the
base. -/
theorem PopRow.unstacked {popped : List UInt16} (row : PopRow before popped last)
    (stacked : Stacked before base words) (same : popped.length = words.length) :
    popped = words ∧ last.cpu.regs.sp = base ∧ last.memory = before.memory := by
  induction row generalizing words with
  | nil =>
    obtain rfl := List.eq_nil_of_length_eq_zero same.symm
    refine ⟨rfl, ?_, rfl⟩
    rw [stacked.sp, List.length_nil, below.zero]
  | @cons before after last word popped pops later ih =>
    cases words with
    | nil => cases same
    | cons top words =>
      obtain ⟨rfl, rest⟩ := stacked.pop pops
      obtain ⟨rfl, sp, memory⟩ := ih rest (Nat.succ.inj same)
      exact ⟨rfl, sp, memory.trans pops.memory⟩

/-- A row of words is taken off the stack in reverse order. Then the pointer is back, and no byte
beside the room has changed. It does not matter what the stack held before: the row starts on a
stack that is empty from where its pointer stood. -/
theorem PushRow.unwound {popped : List UInt16} {middle : Machine M}
    (row : PushRow start words middle) (back : PopRow middle popped last)
    (same : popped.length = words.length)
    (room : Room M start.cpu.regs.sp (2 * words.length)) :
    popped = words.reverse ∧ last.cpu.regs.sp = start.cpu.regs.sp ∧
      ∀ addr, Beside M start.cpu.regs.sp (2 * words.length) addr →
        last.read addr = start.read addr := by
  have empty : Stacked start start.cpu.regs.sp [] := ⟨(below.zero _).symm, trivial⟩
  obtain ⟨stacked, kept⟩ := row.stacked empty room (by rw [List.length_nil]; omega)
  rw [List.append_nil] at stacked
  obtain ⟨words, sp, memory⟩ := back.unstacked stacked (by rw [same, List.length_reverse])
  refine ⟨words, sp, fun addr beside => ?_⟩
  rw [← kept addr beside, Machine.read, memory]
  rfl

/-! ### Words from outside -/

/-- Puts a word on the stack. -/
def push (machine : Machine M) (word : UInt16) : Machine M :=
  (machine.run fun cpu => do
    let cpu ← cpu.pushWord word
    return ((), cpu)).2

/-- Takes a word off the stack. -/
def pop (machine : Machine M) : UInt16 × Machine M := machine.run Cpu.popWord

/-- Puts words on the stack, one after another. -/
def pushAll (machine : Machine M) (words : List UInt16) : Machine M := words.foldl push machine

/-- Takes so many words off the stack, the one that came last first. -/
def popAll (machine : Machine M) : Nat → List UInt16 × Machine M
  | 0 => ([], machine)
  | count + 1 =>
    let (word, machine) := machine.pop
    let (words, machine) := machine.popAll count
    (word :: words, machine)

theorem pushes_push (machine : Machine M) (word : UInt16) :
    Pushes machine word (machine.push word) := ⟨rfl, rfl⟩

theorem pops_pop (machine : Machine M) : Pops machine machine.pop.1 machine.pop.2 :=
  ⟨rfl, rfl, rfl⟩

theorem pushRow_pushAll (machine : Machine M) (words : List UInt16) :
    PushRow machine words (machine.pushAll words) := by
  induction words generalizing machine with
  | nil => exact .nil
  | cons word words ih => exact .cons (machine.pushes_push word) (ih _)

theorem popRow_popAll (machine : Machine M) (count : Nat) :
    PopRow machine (machine.popAll count).1 (machine.popAll count).2 := by
  induction count generalizing machine with
  | zero => exact .nil
  | succ count ih => exact .cons machine.pops_pop (ih _)

theorem length_popAll (machine : Machine M) (count : Nat) :
    (machine.popAll count).1.length = count := by
  induction count generalizing machine with
  | zero => rfl
  | succ count ih => exact congrArg Nat.succ (ih _)

/-- Only the stack pointer moves. -/
theorem cpu_pushAll (machine : Machine M) (words : List UInt16) :
    ∃ sp, (machine.pushAll words).cpu = { machine.cpu with regs.sp := sp } := by
  induction words generalizing machine with
  | nil => exact ⟨machine.cpu.regs.sp, rfl⟩
  | cons word words ih =>
    obtain ⟨sp, cpu⟩ := ih (machine.push word)
    exact ⟨sp, cpu⟩

theorem cpu_popAll (machine : Machine M) (count : Nat) :
    ∃ sp, (machine.popAll count).2.cpu = { machine.cpu with regs.sp := sp } := by
  induction count generalizing machine with
  | zero => exact ⟨machine.cpu.regs.sp, rfl⟩
  | succ count ih =>
    obtain ⟨sp, cpu⟩ := ih machine.pop.2
    exact ⟨sp, cpu⟩

/-- Words that are put on the stack come off it in reverse order, and leave the processor as it
was. Between the two only the stack pointer moves, and the row has brought that back. -/
theorem push_pop (words : List UInt16) (room : Room M start.cpu.regs.sp (2 * words.length)) :
    let taken := (start.pushAll words).popAll words.length
    taken.1 = words.reverse ∧ taken.2.cpu = start.cpu ∧
      ∀ addr, Beside M start.cpu.regs.sp (2 * words.length) addr →
        taken.2.read addr = start.read addr := by
  intro taken
  obtain ⟨order, sp, kept⟩ := (start.pushRow_pushAll words).unwound
    ((start.pushAll words).popRow_popAll words.length) (length_popAll _ _) room
  obtain ⟨down, pushed⟩ := start.cpu_pushAll words
  obtain ⟨up, popped⟩ := (start.pushAll words).cpu_popAll words.length
  refine ⟨order, ?_, kept⟩
  have cpu : taken.2.cpu = { start.cpu with regs.sp := up } := popped.trans (by rw [pushed])
  have back : up = start.cpu.regs.sp := by
    rw [← sp, show (start.pushAll words).popAll words.length = taken from rfl, cpu]
  rw [cpu, back]

/-! ### Calls and returns -/

/-- A machine runs an opcode from where it is ready for it, the program counter at the operands.
It fetches the opcode by a step, or is told it. -/
inductive Obeys (machine : Machine M) (opcode : UInt8) : Machine M → Machine M → Prop
  | fetched (turn : machine.turn = .instruction opcode) :
    Obeys machine opcode machine.ready machine.step.2
  | told : Obeys machine opcode machine (machine.execute opcode).2

/-- The opcode is run where the machine is ready for it, with the stack and the memory that it
had before. -/
theorem Obeys.run_eq {opcode : UInt8} {ready : Machine M}
    (obeys : Obeys before opcode ready after) :
    after = (ready.execute opcode).2 ∧ ready.cpu.regs.sp = before.cpu.regs.sp ∧
      ready.memory = before.memory := by
  cases obeys with
  | fetched turn =>
    rw [step_eq_execute turn]
    exact ⟨rfl, rfl, rfl⟩
  | told => exact ⟨rfl, rfl, rfl⟩

/-- An opcode that calls, and how many bytes belong to it. -/
inductive CallOpcode (flags : Flags) : UInt8 → UInt16 → Prop
  | call {opcode : UInt8} (condition : Option Condition)
      (decoded : Opcode.decode opcode = some (.call condition))
      (taken : Condition.taken condition flags = true) : CallOpcode flags opcode 2
  | rst {opcode : UInt8} (target : UInt8)
      (decoded : Opcode.decode opcode = some (.rst target)) : CallOpcode flags opcode 0

/-- An opcode that stands for an instruction does to the memory what the instruction does. -/
theorem memory_execute {opcode : UInt8} {instruction : Instruction}
    (decoded : Opcode.decode opcode = some instruction) (machine : Machine M) :
    (machine.execute opcode).2.memory =
      Memory.writeAll machine.memory
        ((machine.cpu.perform instruction).observe machine.memory).2 := by
  have memory := (machine.run_eq (·.execute opcode)).2.2
  rw [Cpu.execute, decoded] at memory
  simp only [bind_eq, pure_eq, observe_bind, observe_done, List.append_nil] at memory
  exact memory

/-- An instruction that puts a word on the stack and goes on elsewhere, once its operands were
fetched. -/
theorem pushes_of_seen {opcode : UInt8} {instruction : Instruction} {cost : Nat}
    {behind target : UInt16} (decoded : Opcode.decode opcode = some instruction)
    (seen : (before.cpu.perform instruction).observe before.memory =
      (((before.cpu.jump behind).pushWord word).bind fun cpu =>
        done (cost, cpu.jump target)).observe before.memory) :
    Pushes before word (before.execute opcode).2 := by
  rw [Cpu.observe_pushWord] at seen
  refine ⟨?_, ?_⟩
  · rw [regs_execute decoded, seen]
    rfl
  · rw [memory_execute decoded, seen, highByte_eq_upperOf, lowByte_eq_lowerOf]
    rfl

/-- A call puts the address behind its operands on the stack, whether the target is fetched or
one of the eight fixed ones. A call with a condition has to be taken. The condition looks at the
flags after the target was fetched, which are those from before. -/
theorem pushes_of_call {opcode : UInt8} {operands : UInt16}
    (calls : CallOpcode before.cpu.flags opcode operands) :
    Pushes before (before.cpu.regs.pc + operands) (before.execute opcode).2 := by
  cases calls with
  | call condition decoded taken =>
    let behind := before.cpu.regs.pc + 2
    have holds : Condition.taken condition (before.cpu.jump behind).flags = true := taken
    have seen : (before.cpu.perform (.call condition)).observe before.memory =
        (((before.cpu.jump behind).pushWord behind).bind fun cpu =>
          done (6, cpu.jump (wordOf (before.read (before.cpu.regs.pc + 1))
            (before.read before.cpu.regs.pc)))).observe before.memory := by
      simp only [Cpu.perform, bind_eq, Cpu.observe_fetchWord]
      rw [if_pos holds]
      rfl
    exact pushes_of_seen decoded seen
  | rst target decoded =>
    rw [UInt16.add_zero]
    have seen : (before.cpu.perform (.rst target)).observe before.memory =
        (((before.cpu.jump before.cpu.regs.pc).pushWord before.cpu.regs.pc).bind fun cpu =>
          done (4, cpu.jump target.toUInt16)).observe before.memory := rfl
    exact pushes_of_seen decoded seen

/-- A return takes the address off the stack at which it goes on. -/
theorem pops_of_return (before : Machine M) :
    Pops before (before.execute 0xC9).2.cpu.regs.pc (before.execute 0xC9).2 := by
  have decoded : Opcode.decode 0xC9 = some .ret := rfl
  refine ⟨?_, ?_, ?_⟩
  · rw [regs_execute decoded]
    rfl
  · rw [regs_execute decoded]
    rfl
  · rw [memory_execute decoded]
    rfl

/-- A row of calls, each made by any opcode that calls, with the addresses behind their
operands. A conditional call is one if it is taken, by the flags of the machine that makes it. -/
inductive CallRow : Machine M → List UInt16 → Machine M → Prop
  | nil {machine : Machine M} : CallRow machine [] machine
  | cons {before ready after last : Machine M} {opcode : UInt8} {operands : UInt16}
      {returns : List UInt16} (obeys : Obeys before opcode ready after)
      (calls : CallOpcode ready.cpu.flags opcode operands) (later : CallRow after returns last) :
      CallRow before ((ready.cpu.regs.pc + operands) :: returns) last

/-- A row of so many returns. -/
inductive ReturnRow : Machine M → Nat → Machine M → Prop
  | nil {machine : Machine M} : ReturnRow machine 0 machine
  | cons {before ready after last : Machine M} {count : Nat}
      (obeys : Obeys before 0xC9 ready after) (later : ReturnRow after count last) :
      ReturnRow before (count + 1) last

/-- What is put on the stack where a machine is ready is put on the stack that it had. -/
theorem Pushes.of_obeys {opcode : UInt8} {ready : Machine M}
    (obeys : Obeys before opcode ready after)
    (pushes : Pushes ready word (ready.execute opcode).2) : Pushes before word after := by
  obtain ⟨rfl, sp, memory⟩ := obeys.run_eq
  obtain ⟨down, written⟩ := pushes
  rw [sp] at down written
  rw [memory] at written
  exact ⟨down, written⟩

theorem Pops.of_obeys {opcode : UInt8} {ready : Machine M}
    (obeys : Obeys before opcode ready after)
    (pops : Pops ready word (ready.execute opcode).2) : Pops before word after := by
  obtain ⟨rfl, sp, memory⟩ := obeys.run_eq
  obtain ⟨word_eq, up, same⟩ := pops
  simp only [Machine.read, sp, memory] at word_eq up same
  exact ⟨word_eq, up, same⟩

/-- A row of calls puts the addresses on the stack that it is to return to. -/
theorem CallRow.pushRow {returns : List UInt16} (row : CallRow before returns last) :
    PushRow before returns last := by
  induction row with
  | nil => exact .nil
  | cons obeys calls later ih => exact .cons (.of_obeys obeys (pushes_of_call calls)) ih

/-- A row of returns takes as many addresses off the stack, and goes on at the last of them. By
induction on the row. Where the machine goes on after a return does not matter for the next one,
which is fetched from there or told. So only the last return decides, and only of a row that is
not empty can anything be said. -/
theorem ReturnRow.popRow {count : Nat} (row : ReturnRow before count last) :
    ∃ returns, PopRow before returns last ∧ returns.length = count ∧
      ∀ target ∈ returns.getLast?, last.cpu.regs.pc = target := by
  induction row with
  | nil => exact ⟨[], .nil, rfl, fun _ none => by cases none⟩
  | @cons before ready after last count obeys later ih =>
    obtain ⟨returns, row, length, goes⟩ := ih
    refine ⟨_, .cons (.of_obeys obeys (pops_of_return ready)) row, congrArg Nat.succ length, ?_⟩
    intro target mem
    -- Only the last return is not followed by another, which would go on elsewhere.
    cases later with
    | nil =>
      obtain rfl := List.eq_nil_of_length_eq_zero length
      have goesOn : (ready.execute 0xC9).2.cpu.regs.pc = target := Option.some.inj mem
      rw [← goesOn, obeys.run_eq.1]
    | cons _ _ =>
      refine goes target ?_
      rwa [List.getLast?_cons_of_ne_nil (List.ne_nil_of_length_eq_add_one length)] at mem

/-- Any machine can make calls: it may be told to. -/
theorem exists_callRow (start : Machine M) (count : Nat) :
    ∃ returns middle, returns.length = count ∧ CallRow start returns middle := by
  induction count generalizing start with
  | zero => exact ⟨[], start, rfl, .nil⟩
  | succ count ih =>
    obtain ⟨returns, middle, length, row⟩ := ih (start.execute 0xCD).2
    exact ⟨_ :: returns, middle, congrArg Nat.succ length,
      .cons .told (.call none rfl rfl) row⟩

/-- And it can return. -/
theorem exists_returnRow (start : Machine M) (count : Nat) :
    ∃ last, ReturnRow start count last := by
  induction count generalizing start with
  | zero => exact ⟨start, .nil⟩
  | succ count ih =>
    obtain ⟨last, row⟩ := ih (start.execute 0xC9).2
    exact ⟨last, .cons .told row⟩

/-- As many returns as there were calls go on behind the first of the calls, with the pointer
back. The addresses come off in reverse, so the last return takes the first of them. -/
theorem call_return {returns : List UInt16} {middle : Machine M}
    (calls : CallRow start returns middle) (back : ReturnRow middle returns.length last)
    (room : Room M start.cpu.regs.sp (2 * returns.length)) :
    last.cpu.regs.sp = start.cpu.regs.sp ∧
      (∀ first ∈ returns.head?, last.cpu.regs.pc = first) ∧
      ∀ addr, Beside M start.cpu.regs.sp (2 * returns.length) addr →
        last.read addr = start.read addr := by
  obtain ⟨popped, row, length, goes⟩ := back.popRow
  obtain ⟨rfl, sp, kept⟩ := calls.pushRow.unwound row length room
  rw [List.getLast?_reverse] at goes
  exact ⟨sp, goes, kept⟩

end Machine

end GameBoy
