import GameBoy.Log.Category
import GameBoy.Log.Level
import GameBoy.Proofs.Text.AsciiCase
import GameBoy.Settings.NameMap
import GameBoy.Text.Blank
import GameBoy.TimingName

/-!
# `GameBoy.Proofs.Settings.Names`: the texts that are read as names

Levels, categories and timings are read from texts by looking the lower-case form up in a table.
The form is that of all of Unicode, so it is the table that keeps other texts out: its names are
words (`IsWord`), made of small ASCII letters and digits and without a k, which is the one letter
that a character beyond ASCII can become. Each kind of name is told once more by its values
(`Level.spellings` and the like).

The three readers differ in their tables only. What it means to read names is written down once,
as a structure over any reader and any table (`ReadsNames`), and is proved once from what the
tables have in common. For a new kind of name it is enough to list the spellings and to see that
they are words, which is decided. A table with a k in it would not do: the Kelvin sign would then
be read for the letter. Main statements:

* `readsNames`: what follows for a look-up of lower-case forms in a table of words.
* `names_in_any_case`: levels, categories and timings are read in this way.
-/

set_option autoImplicit false

namespace GameBoy

/-! ### Names in any case -/

/-- A word of small ASCII letters and digits, in which there is no k. -/
def IsWord (name : String) : Prop :=
  ∀ c ∈ name.toList, (c.isLower = true ∨ c.isDigit = true) ∧ c ≠ 'k'

-- Characters are finitely many, so without the list they would all be gone through.
instance (name : String) : Decidable (IsWord name) := List.decidableBAll _ name.toList

/-- Texts are read as the values that they spell in any ASCII case, and in no other form. -/
structure ReadsNames {α : Type} (read : String → Option α) (spellings : α → List String) :
    Prop where
  /-- A text has a value if it spells it. -/
  read_iff : ∀ text value,
    read text = some value ↔ IsAscii text ∧ text.toLower ∈ spellings value
  /-- The case of ASCII letters makes no difference. -/
  any_case : ∀ text other, text.toLower = other.toLower → read text = read other
  /-- No text with a character beyond ASCII is read. -/
  foreign : ∀ text, ∀ c ∈ text.toList, 0x80 ≤ c.toNat → read text = none
  /-- No text with a blank is read, be it at one of its ends or elsewhere. -/
  blank : ∀ text, ∀ c ∈ text.toList, Ranges.blank.contains c = true → read text = none
  /-- No text is read for a part of it. With characters before or after the part, it is read only
  if the whole is a spelling, which is longer than the part. -/
  surplus : ∀ before part after value, before ++ after ≠ "" →
    read (before ++ part ++ after) = some value →
      (before ++ part ++ after).toLower ∈ spellings value ∧
        part.length < (before ++ part ++ after).toLower.length

namespace IsWord

variable {name : String}

theorem isAscii (word : IsWord name) : IsAscii name := by
  intro c mem
  obtain ⟨letter | digit, -⟩ := word c mem
  · have low : c.val ≤ 'z'.val := of_decide_eq_true (Bool.and_eq_true_iff.mp letter).2
    exact Nat.lt_of_le_of_lt (UInt32.le_iff_toNat_le.mp low) (by decide)
  · have low : c.val ≤ '9'.val := of_decide_eq_true (Bool.and_eq_true_iff.mp digit).2
    exact Nat.lt_of_le_of_lt (UInt32.le_iff_toNat_le.mp low) (by decide)

/-- A form is a word only if the text is ASCII. -/
theorem lowerCase_eq_iff (word : IsWord name) {text : String} :
    lowerCase text = name ↔ IsAscii text ∧ text.toLower = name :=
  GameBoy.lowerCase_eq_iff word.isAscii fun mem => (word 'k' mem).2 rfl

/-- No character of a word is a blank, in either case. -/
theorem not_blank {text : String} (ascii : IsAscii text) (word : IsWord text.toLower) {c : Char}
    (mem : c ∈ text.toList) : Ranges.blank.contains c = false := by
  have lowered : c.toLower ∈ text.toLower.toList := by
    rw [toList_toLower]
    exact List.mem_map_of_mem mem
  have apart : c.toLower.isLower = true ∨ c.toLower.isDigit = true →
      Ranges.blank.contains c = false :=
    forall_ascii (p := fun c => c.toLower.isLower = true ∨ c.toLower.isDigit = true →
      Ranges.blank.contains c = false) (by decide +kernel) (ascii c mem)
  exact apart (word _ lowered).1

end IsWord

section

variable {α : Type} {find : String → Option α} {spellings : α → List String}

/-- Among words, the form of a text is found if the text is ASCII and spells a word. -/
theorem find_lowerCase_eq_some_iff
    (finds : ∀ name value, find name = some value ↔ name ∈ spellings value)
    (words : ∀ value, ∀ name ∈ spellings value, IsWord name) {text : String} {value : α} :
    find (lowerCase text) = some value ↔ IsAscii text ∧ text.toLower ∈ spellings value := by
  rw [finds]
  constructor
  · intro mem
    obtain ⟨ascii, lowered⟩ := (words value _ mem).lowerCase_eq_iff.mp rfl
    exact ⟨ascii, lowered ▸ mem⟩
  · rintro ⟨ascii, mem⟩
    rwa [lowerCase_of_isAscii ascii]

/-- A look-up of lower-case forms among words reads the words in any case. What a text may be is
told by the first field: an ASCII text that spells a word. The others follow from it, but for the
second, which holds of all texts and rests on the form alone. -/
theorem readsNames (find : String → Option α)
    (finds : ∀ name value, find name = some value ↔ name ∈ spellings value)
    (words : ∀ value, ∀ name ∈ spellings value, IsWord name) :
    ReadsNames (fun text => find (lowerCase text)) spellings where
  read_iff _ _ := find_lowerCase_eq_some_iff finds words
  any_case text other same := by
    show find (lowerCase text) = find (lowerCase other)
    rw [← lowerCase_toLower text, same, lowerCase_toLower]
  foreign text c mem foreign := by
    rw [Option.eq_none_iff_forall_ne_some]
    intro value found
    have ascii := ((find_lowerCase_eq_some_iff finds words).mp found).1 c mem
    exact absurd ascii (Nat.not_lt.mpr foreign)
  blank text c mem blank := by
    rw [Option.eq_none_iff_forall_ne_some]
    intro value found
    obtain ⟨ascii, spelled⟩ := (find_lowerCase_eq_some_iff finds words).mp found
    rw [IsWord.not_blank ascii (words value _ spelled) mem] at blank
    cases blank
  surplus before part after value more found := by
    refine ⟨((find_lowerCase_eq_some_iff finds words).mp found).2, ?_⟩
    have counted : before.length + after.length ≠ 0 := by
      rw [← String.length_append]
      simpa using more
    rw [length_toLower, String.length_append, String.length_append]
    omega

end

/-! ### The names -/

/-- The spellings of a level. -/
def Level.spellings : Level → List String
  | off => ["off", "0"]
  | error => ["error", "err", "1"]
  | warn => ["warn", "warning", "2"]
  | info => ["info", "3"]
  | debug => ["debug", "4"]
  | trace => ["trace", "5"]

/-- Levels are read by their spellings. -/
theorem Level.reads_spellings : ReadsNames ofName? spellings := by
  refine readsNames (fun name => names.lookup name) ?_ ?_
  · intro name level
    rw [NameMap.lookup_eq_some_iff_mem (by decide +kernel)]
    cases level <;> simp [names, spellings]
  · intro level
    cases level <;> decide +kernel

/-- The spellings of a category. -/
def Category.spellings : Category → List String
  | cpu => ["cpu"]
  | mmu => ["mmu", "bus"]
  | cartridge => ["cartridge", "cart"]
  | interrupts => ["interrupts", "irq"]
  | stubs => ["stubs"]

/-- Categories are read by their spellings. -/
theorem Category.reads_spellings : ReadsNames ofName? spellings := by
  refine readsNames (fun name => names.lookup name) ?_ ?_
  · intro name category
    rw [NameMap.lookup_eq_some_iff_mem (by decide +kernel)]
    cases category <;> simp [names, spellings]
  · intro category
    cases category <;> decide +kernel

namespace FrameTiming

/-- The spelling of a timing. -/
def spellings : FrameTiming → List String
  | refresh => ["refresh"]
  | scanline => ["scanline"]

/-- The timing of a spelling is found. -/
theorem ofName?_eq_some_iff {name : String} {timing : FrameTiming} :
    ofName? name = some timing ↔ name ∈ timing.spellings := by
  constructor
  · intro found
    have same : timing.name = name :=
      eq_of_beq (List.find?_some (p := fun timing : FrameTiming => timing.name == name) found)
    rw [← same]
    cases timing <;> exact List.mem_cons_self
  · intro mem
    cases timing <;> rw [List.mem_singleton.mp mem] <;> rfl

/-- Timings are read by their spellings. -/
theorem reads_spellings : ReadsNames (fun text => (parse text).toOption) spellings := by
  have parsed : (fun text => (parse text).toOption) = fun text => ofName? (lowerCase text) := by
    funext text
    rw [parse]
    cases ofName? (lowerCase text) <;> rfl
  rw [parsed]
  refine readsNames ofName? (fun name timing => ofName?_eq_some_iff) ?_
  intro timing
  cases timing <;> decide +kernel

/-- What is read, or what is wrong with it, does not depend on the case of ASCII letters. -/
theorem parse_congr {text other : String} (same : text.toLower = other.toLower) :
    parse text = parse other := by
  rw [parse, parse, ← lowerCase_toLower text, same, lowerCase_toLower]

end FrameTiming

/-- Levels, categories and timings are read from their spellings in any ASCII case, and from no
other text: none with a character beyond ASCII, none with a blank, and none for a part of it only
(`ReadsNames`). The three differ in the spellings alone. A timing that is not found is an error,
which is the same for texts that differ in the case of ASCII letters. -/
theorem names_in_any_case :
    ReadsNames Level.ofName? Level.spellings ∧ ReadsNames Category.ofName? Category.spellings ∧
      ReadsNames (fun text => (FrameTiming.parse text).toOption) FrameTiming.spellings ∧
      ∀ text other, text.toLower = other.toLower →
        FrameTiming.parse text = FrameTiming.parse other :=
  ⟨Level.reads_spellings, Category.reads_spellings, FrameTiming.reads_spellings,
    fun _ _ => FrameTiming.parse_congr⟩

end GameBoy
