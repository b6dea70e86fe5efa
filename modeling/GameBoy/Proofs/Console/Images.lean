import GameBoy.Proofs.Cartridge.Loading
import GameBoy.Proofs.Console.Alike

/-!
# `GameBoy.Proofs.Console.Images`: what shows of the two images

A console is built from two images, that of the cartridge and that of the boot program. The
boot image shows in the first page until it is taken away, and never again before the console
is built anew. The cartridge's image shows in the lower half of the address space, and its
header is read from its first page and a half; how long it is and what follows the lower half
is not looked at.

Both statements say that two consoles cannot be told apart, and both follow from the relation
between consoles that are alike: all that is left is to see that they are alike at the start. For
the boot image that is at once so. For the cartridge's image it has to be seen that the header and
what is reported at insertion are read from the part that shows. The global checksum is not, as
it sums up the whole image, but nothing asks for it when a cartridge is inserted. Main
statements:

* `Console.boot_image_unseen`: once the boot image was taken away, nothing depends on it.
* `Cartridge.ofBytes_alike`: images that show the same bytes make cartridges that are alike.
* `Console.image_seen_through_window`: nothing depends on an image but its first 32 kilobytes.
-/

set_option autoImplicit false

namespace GameBoy

/-! ### The boot image -/

namespace Console

/-- The boot image is unobservable once it was taken away. Put any other boot image in its
place, or none: whatever is done with the console, the answers are the same, the processor goes
through the same states, the same is logged, and every address answers the same.

The boot image that the console keeps for a reset may be another one too, unless one of the
operations is a reset: that would show it. This is what the second hypothesis says. The first
one, that the overlay is off, is what is meant by taken away; no write brings it back. -/
theorem boot_image_unseen (console : Console) (shown kept : Option BootImage)
    (operations : List Operation) (off : console.machine.memory.overlay = false)
    (reset : Operation.reset ∈ operations → kept = console.boot) :
    let other := { console with machine.memory.boot := shown, boot := kept }
    let run := session operate console operations
    let run' := session operate other operations
    run.1 = run'.1 ∧ run.2.machine.cpu = run'.2.machine.cpu ∧
      run.2.machine.journal = run'.2.machine.journal ∧
      ∀ addr, run.2.machine.read addr = run'.2.machine.read addr := by
  intro other run run'
  have alike : Alike console.machine.journal.events console.machine.journal.events
      (Operation.reset ∈ operations) console other :=
    ⟨⟨rfl, .of_uncovered off shown, .start rfl⟩, rfl, fun _ => .refl _, fun mem => (reset mem).symm⟩
  have both := alike.session operations id
  have machines := both.after.machine
  exact ⟨both.answer, machines.cpu, machines.journal.eq, machines.read⟩

/-- A console without a boot image, with a program in the first page that counts and starts
over, and its log full. -/
def counting : Console where
  machine :=
    { cpu := .preBoot
      memory := Bus.powerOn ⟨#[0x3C, 0xC7]⟩ none
      journal := .start (LogConfig.silent.setGlobal .trace) }
  cartridge := ⟨#[0x3C, 0xC7], Header.ofBytes (Vector.replicate _ 0)⟩
  boot := none
  timing := .refresh

/-- With a boot image behind its overlay it counts on. -/
theorem boot_image_unseen_counting :
    let hidden : BootImage := ⟨Vector.replicate _ 0xD3⟩
    let other := { counting with machine.memory.boot := some hidden, boot := some hidden }
    let operations : List Operation :=
      [.step, .machine (.write 0xFF50 0x01), .frame none, .machine (.execute 0xC7),
        .machine (.read 0x0000)]
    counting.machine.memory.overlay = false ∧ Operation.reset ∉ operations ∧
      (session operate counting operations).1 = (session operate other operations).1 ∧
      ∀ addr, (session operate counting operations).2.machine.read addr =
        (session operate other operations).2.machine.read addr := by
  intro hidden other operations
  have noReset : Operation.reset ∉ operations := by simp [operations]
  have unseen := boot_image_unseen counting (some hidden) (some hidden) operations rfl
    fun mem => absurd mem noReset
  exact ⟨rfl, noReset, unseen.1, unseen.2.2.2⟩

end Console

/-! ### The cartridge's image -/

section

variable {image image' : Array UInt8}

/-- Where two images have bytes, they have the same bytes if they show the same. -/
theorem Mapper.Alike.extract_eq (h : Mapper.Alike ⟨image⟩ ⟨image'⟩) (start : Nat)
    {stop : Nat} (shown : stop ≤ 0x8000) (long : stop ≤ image.size) (long' : stop ≤ image'.size) :
    image.extract start stop = image'.extract start stop := by
  apply Array.ext
  · simp only [Array.size_extract, Nat.min_eq_left long, Nat.min_eq_left long']
  · intro i lt lt'
    have inside : start + i < stop := by
      rw [Array.size_extract, Nat.min_eq_left long] at lt
      omega
    have same : image.getD (start + i) 0xFF = image'.getD (start + i) 0xFF :=
      h (start + i) (Nat.lt_of_lt_of_le inside shown)
    rw [Array.getElem_extract, Array.getElem_extract]
    simpa [Array.getD_eq_getD_getElem?, Nat.lt_of_lt_of_le inside long,
      Nat.lt_of_lt_of_le inside long'] using same

/-- Set bits up to the end of the lower half, and whatever follows it, do not show. -/
theorem Mapper.Alike.padded (image tail : Array UInt8) {count : Nat}
    (full : 0x8000 ≤ image.size + count) :
    Mapper.Alike ⟨image⟩ ⟨image ++ Array.replicate count 0xFF ++ tail⟩ := by
  intro i lt
  simp only [Array.getD_eq_getD_getElem?]
  rw [Array.getElem?_append_left]
  · by_cases inside : i < image.size
    · rw [Array.getElem?_append_left inside]
    · -- Behind the end of the image there are set bits on both sides.
      rw [Array.getElem?_append_right (Nat.le_of_not_lt inside), Array.getElem?_replicate,
        Array.getElem?_eq_none (Nat.le_of_not_lt inside), if_pos (by omega)]
      rfl
  · rw [Array.size_append, Array.size_replicate]
    omega

/-- The bytes that the header's checksum covers are a part of the image. -/
theorem Checksum.headerBytes_toList (image : Array UInt8) :
    Checksum.headerBytes image.toList = (image.extract 0x134 0x14D).toList := by
  rw [Array.toList_extract, List.extract_eq_take_drop]
  rfl

namespace Cartridge

/-- Images that show the same bytes make cartridges that are alike, down to what inserting
them has to report. Both have to be long enough for a header, or only one of them might make a
cartridge: set bits behind the end show the same as bytes that are there. -/
theorem ofBytes_alike (long : Header.start + Header.length ≤ image.size)
    (long' : Header.start + Header.length ≤ image'.size)
    (same : Mapper.Alike ⟨image⟩ ⟨image'⟩) :
    ∃ cartridge cartridge', ofBytes image = .ok cartridge ∧ ofBytes image' = .ok cartridge' ∧
      cartridge.Alike cartridge' ∧ Console.onInsert cartridge = Console.onInsert cartridge' := by
  have parts := same.extract_eq Header.start (by decide) long long'
  have headers : Header.ofBytes ⟨_, size_headerPart long⟩ =
      Header.ofBytes ⟨_, size_headerPart long'⟩ := by
    simp only [parts]
  refine ⟨_, _, ofBytes_of_le long, ofBytes_of_le long', ⟨headers, same⟩, ?_⟩
  -- The header is the same, and so are the bytes that its checksum covers.
  have covered : image.extract 0x134 0x14D = image'.extract 0x134 0x14D :=
    same.extract_eq 0x134 (by decide) (Nat.le_trans (by decide) long)
      (Nat.le_trans (by decide) long')
  unfold Console.onInsert headerChecksumOk headerChecksum Checksum.header
  rw [Checksum.headerBytes_toList, Checksum.headerBytes_toList]
  dsimp only
  rw [covered, headers]

end Cartridge

end

namespace Console

/-- A console depends on the cartridge's image only through its first 32 kilobytes, its end
followed by set bits. Take two images that are long enough for a header and show the same there.

1. Both make a cartridge.
2. Consoles with these cartridges and with the same boot image, timing and log configuration
   cannot be told apart. From power-on on, whatever is done with them, the answers are the same,
   the processor goes through the same states, the same is logged, and every address answers the
   same.

Resets are among the operations, so the cartridges that are kept for them have to be alike as
well, and they are (`Cartridge.ofBytes_alike`). -/
theorem image_seen_through_window {image image' : Array UInt8} (long : 0x150 ≤ image.size)
    (long' : 0x150 ≤ image'.size)
    (same : ∀ i < 0x8000, image.getD i 0xFF = image'.getD i 0xFF) :
    ∃ cartridge cartridge', Cartridge.ofBytes image = .ok cartridge ∧
      Cartridge.ofBytes image' = .ok cartridge' ∧
      ∀ (boot : Option BootImage) (config : LogConfig) (timing : FrameTiming)
        (operations : List Operation),
        let run (inserted : Cartridge) :=
          session operate ((powerOn inserted boot config).withTiming timing) operations
        (run cartridge).1 = (run cartridge').1 ∧
          (run cartridge).2.machine.cpu = (run cartridge').2.machine.cpu ∧
          (run cartridge).2.machine.journal = (run cartridge').2.machine.journal ∧
          ∀ addr, (run cartridge).2.machine.read addr = (run cartridge').2.machine.read addr := by
  obtain ⟨cartridge, cartridge', made, made', alike, reports⟩ :=
    Cartridge.ofBytes_alike long long' same
  refine ⟨cartridge, cartridge', made, made', fun boot config timing operations => ?_⟩
  intro run
  have start : Alike #[] #[] True ((powerOn cartridge boot config).withTiming timing)
      ((powerOn cartridge' boot config).withTiming timing) := by
    refine ⟨?_, rfl, fun _ => alike, fun _ => rfl⟩
    have log := (Journal.Abreast.start (rfl : (Journal.start config).config = _)).noteAll
      (onInsert cartridge)
    show Machine.Alike #[] #[] (connect cartridge boot _)
      (connect cartridge' boot ((Journal.start config).noteAll (onInsert cartridge')))
    rw [← reports]
    exact Alike.connect alike log boot
  have both := start.session operations fun _ => trivial
  have machines := both.after.machine
  exact ⟨both.answer, machines.cpu, machines.journal.eq, machines.read⟩

/-- A short image and the same image with set bits up to the end of the lower half, and one
more byte, make consoles that do the same. -/
theorem image_seen_through_window_padded :
    let image : Array UInt8 := Array.replicate 0x150 0x76
    let padded := image ++ Array.replicate 0x7EB0 0xFF ++ #[0x00]
    0x150 ≤ image.size ∧ padded.size = 0x8001 ∧
      (∀ i < 0x8000, image.getD i 0xFF = padded.getD i 0xFF) ∧
      ∃ cartridge cartridge', Cartridge.ofBytes image = .ok cartridge ∧
        Cartridge.ofBytes padded = .ok cartridge' ∧
        ∀ operations, (session operate (powerOn cartridge none .silent) operations).1 =
          (session operate (powerOn cartridge' none .silent) operations).1 := by
  intro image padded
  have size : image.size = 0x150 := Array.size_replicate
  have size' : padded.size = 0x8001 := by
    simp only [padded, Array.size_append, size, Array.size_replicate]
    rfl
  have same : Mapper.Alike ⟨image⟩ ⟨padded⟩ := by
    refine Mapper.Alike.padded image #[0x00] ?_
    rw [size]
  have long : 0x150 ≤ padded.size := by
    rw [size']
    decide
  obtain ⟨cartridge, cartridge', made, made', unseen⟩ :=
    image_seen_through_window (Nat.le_of_eq size.symm) long same
  exact ⟨Nat.le_of_eq size.symm, size', same, cartridge, cartridge', made, made',
    fun operations => (unseen none .silent .refresh operations).1⟩

end Console

end GameBoy
