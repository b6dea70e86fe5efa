import GameBoy.Text.LowerCase
import Mathlib.Data.String.Basic

/-!
# `GameBoy.Proofs.Text.AsciiCase`: lower case within ASCII

The lower-case form of a text is the one of the standard, for every character and with the
look around a capital sigma. Within ASCII it is the plain one (`lowerCase_of_isAscii`). A form
within ASCII need not come from a text within ASCII: the Kelvin sign becomes the letter k. It is
the only character that does so. The capital I with a dot above becomes an i, but with a mark
after it that is not in ASCII. So a form within ASCII that has no k in it is that of a text within
ASCII (`lowerCase_eq_iff`).

The case of ASCII letters makes no difference to the form of any text (`lowerCase_toLower`). They
are letters in both cases, so a sigma beside them ends its word or does not as before.

The tables of the standard have over a hundred runs, and only two lemmas look at all of them:
within ASCII one run alone applies (`CaseRun.find?_all_of_ascii`), and no run leads into ASCII but
to the letter k (`CaseRun.image_of_foreign`). Both are decided by going through the runs and not
through the characters, of which there are too many. What else is said of single characters is
said of ASCII ones, which are gone through one by one (`forall_ascii`). Main statements:

* `lowerCase_of_isAscii`: within ASCII the form is the plain one.
* `lowerCase_eq_iff`: a form within ASCII and without a k is that of a text within ASCII.
* `lowerCase_toLower`: the case of ASCII letters makes no difference.
-/

set_option autoImplicit false

namespace GameBoy

/-- A text of ASCII characters. -/
def IsAscii (text : String) : Prop := ∀ c ∈ text.toList, c.toNat < 0x80

/-- The ASCII lower case is taken character by character. -/
theorem toList_toLower (text : String) : text.toLower.toList = text.toList.map Char.toLower :=
  String.toList_map

/-- It takes no character away and adds none. -/
theorem length_toLower (text : String) : text.toLower.length = text.length := by
  rw [← String.length_toList, toList_toLower, List.length_map, String.length_toList]

/-! ### Characters -/

/-- What holds of the ASCII characters one by one. -/
theorem forall_ascii {p : Char → Prop} (check : ∀ n < 0x80, p (Char.ofNat n)) {c : Char}
    (ascii : c.toNat < 0x80) : p c := by
  have here := check c.toNat ascii
  rwa [Char.ofNat_toNat] at here

/-- No other character has an ASCII lower case. -/
theorem toLower_of_foreign {c : Char} (foreign : 0x80 ≤ c.toNat) : c.toLower = c := by
  have high : ¬c.val ≤ 'Z'.val := by
    rw [UInt32.le_iff_toNat_le]
    exact fun low => absurd (Nat.le_trans foreign low) (by decide)
  exact dif_neg fun range => high range.2

/-- What does not tell the cases of ASCII characters apart does not tell any apart. -/
theorem apply_toLower {α : Type} {f : Char → α}
    (check : ∀ n < 0x80, f (Char.ofNat n).toLower = f (Char.ofNat n)) (c : Char) :
    f c.toLower = f c := by
  rcases Nat.lt_or_ge c.toNat 0x80 with ascii | foreign
  · exact forall_ascii (p := fun c => f c.toLower = f c) check ascii
  · rw [toLower_of_foreign foreign]

namespace CaseRun

/-- Within ASCII only the run of the capital letters applies. -/
theorem find?_all_of_ascii {code : Nat} (ascii : code < 0x80) :
    all.find? (·.covers code) =
      if 0x41 ≤ code ∧ code ≤ 0x5A then some ⟨0x41, 0x5A, 1, 0x61⟩ else none := by
  have others : all.tail.find? (·.covers code) = none := by
    have beyond : ∀ run ∈ all.tail, 0x80 ≤ run.first := by decide +kernel
    rw [List.find?_eq_none]
    intro run mem covered
    simp only [covers, Bool.and_eq_true, decide_eq_true_eq] at covered
    have := beyond run mem
    omega
  have first : covers ⟨0x41, 0x5A, 1, 0x61⟩ code = decide (0x41 ≤ code ∧ code ≤ 0x5A) := by
    simp [covers, Nat.mod_one]
  show (⟨0x41, 0x5A, 1, 0x61⟩ :: all.tail).find? (·.covers code) = _
  rw [List.find?_cons, first, others]
  split <;> simp_all

/-- A run leads from beyond ASCII to a character beyond ASCII, or to the letter k. The bounds of
a run tell where all of it leads; a run that leads to the letter k has one character only. -/
theorem image_of_foreign {run : CaseRun} (mem : run ∈ all) {code : Nat}
    (covered : run.covers code = true) (foreign : 0x80 ≤ code) :
    (run.image code).isValidChar ∧ (0x80 ≤ run.image code ∨ run.image code = 'k'.toNat) := by
  have bounds : ∀ run ∈ all, 0x80 ≤ run.last →
      (0x80 ≤ run.target ∨ run.target = 'k'.toNat ∧ run.first = run.last) ∧
        (run.target + (run.last - run.first) < 0xD800 ∨
          0xDFFF < run.target ∧ run.target + (run.last - run.first) < 0x110000) := by
    decide +kernel
  simp only [covers, Bool.and_eq_true, decide_eq_true_eq] at covered
  have ends := bounds run mem (by omega)
  simp only [image, Nat.isValidChar]
  omega

end CaseRun

namespace LowerCase

/-- Within ASCII a character has its ASCII lower case. -/
theorem ofChar_of_ascii {c : Char} (ascii : c.toNat < 0x80) : ofChar c = [c.toLower] := by
  have plain : c ≠ '\u0130' := by
    rintro rfl
    exact absurd ascii (by decide)
  have lower : (if 0x41 ≤ c.toNat ∧ c.toNat ≤ 0x5A then
      Char.ofNat (0x61 + (c.toNat - 0x41)) else c) = c.toLower :=
    forall_ascii (p := fun c => (if 0x41 ≤ c.toNat ∧ c.toNat ≤ 0x5A then
      Char.ofNat (0x61 + (c.toNat - 0x41)) else c) = c.toLower) (by decide +kernel) ascii
  rw [ofChar, if_neg plain, CaseRun.find?_all_of_ascii ascii, ← lower]
  by_cases capital : 0x41 ≤ c.toNat ∧ c.toNat ≤ 0x5A
  · rw [if_pos capital, if_pos capital]
    rfl
  · rw [if_neg capital, if_neg capital]

/-- A character and its ASCII lower case have one form. -/
theorem ofChar_toLower (c : Char) : ofChar c.toLower = ofChar c := by
  rcases Nat.lt_or_ge c.toNat 0x80 with ascii | foreign
  · have again : c.toLower.toNat < 0x80 ∧ c.toLower.toLower = c.toLower :=
      forall_ascii (p := fun c => c.toLower.toNat < 0x80 ∧ c.toLower.toLower = c.toLower)
        (by decide +kernel) ascii
    rw [ofChar_of_ascii ascii, ofChar_of_ascii again.1, again.2]
  · rw [toLower_of_foreign foreign]

/-- Beyond ASCII no form lies within ASCII and has no k in it. -/
theorem ofChar_of_foreign {c : Char} (foreign : 0x80 ≤ c.toNat) :
    ∃ d ∈ ofChar c, 0x80 ≤ d.toNat ∨ d = 'k' := by
  unfold ofChar
  split
  · exact ⟨'\u0307', by decide, .inl (by decide)⟩
  split
  · next run found =>
    have covers : run.covers c.toNat = true :=
      List.find?_some (p := fun run : CaseRun => run.covers c.toNat) found
    obtain ⟨valid, image⟩ :=
      CaseRun.image_of_foreign (List.mem_of_find?_eq_some found) covers foreign
    have code : (Char.ofNat (run.image c.toNat)).toNat = run.image c.toNat := by
      rw [Char.ofNat, dif_pos valid]
      rfl
    refine ⟨_, List.mem_singleton_self _, ?_⟩
    rw [code]
    exact image.imp_right fun same => by rw [same, Char.ofNat_toNat]
  · exact ⟨c, List.mem_singleton_self c, .inl foreign⟩

/-! ### Lists of characters -/

/-- Within ASCII no character depends on those around it. -/
theorem after_of_ascii (before : List Char) {text : List Char}
    (ascii : ∀ c ∈ text, c.toNat < 0x80) : after before text = text.map Char.toLower := by
  induction text generalizing before with
  | nil => rfl
  | cons c rest ih =>
    have here := ascii c List.mem_cons_self
    have plain : c ≠ '\u03A3' := by
      rintro rfl
      exact absurd here (by decide)
    rw [after, if_neg plain, ofChar_of_ascii here,
      ih _ fun c mem => ascii c (List.mem_cons_of_mem _ mem)]
    rfl

/-- One character beyond ASCII leaves one in the form, or a k. -/
theorem exists_mem_after (before : List Char) {text : List Char} {c : Char} (mem : c ∈ text)
    (foreign : 0x80 ≤ c.toNat) : ∃ d ∈ after before text, 0x80 ≤ d.toNat ∨ d = 'k' := by
  induction text generalizing before with
  | nil => exact absurd mem List.not_mem_nil
  | cons first rest ih =>
    rw [after]
    rcases List.mem_cons.mp mem with rfl | later
    · by_cases sigma : c = '\u03A3'
      · -- Both small sigmas are beyond ASCII.
        rw [if_pos sigma]
        split
        · exact ⟨'\u03C2', List.mem_append_left _ List.mem_cons_self, .inl (by decide)⟩
        · exact ⟨'\u03C3', List.mem_append_left _ List.mem_cons_self, .inl (by decide)⟩
      · rw [if_neg sigma]
        obtain ⟨d, among, left⟩ := ofChar_of_foreign foreign
        exact ⟨d, List.mem_append_left _ among, left⟩
    · obtain ⟨d, among, left⟩ := ih (first :: before) later
      exact ⟨d, List.mem_append_right _ among, left⟩

/-- Whether a letter is met does not depend on the case of ASCII letters. -/
theorem meetsLetter_map_toLower (text : List Char) :
    meetsLetter (text.map Char.toLower) = meetsLetter text := by
  have ignorable : Ranges.caseIgnorable.contains ∘ Char.toLower = Ranges.caseIgnorable.contains :=
    funext (apply_toLower (by decide +kernel))
  unfold meetsLetter
  rw [List.dropWhile_map, ignorable]
  cases text.dropWhile Ranges.caseIgnorable.contains with
  | nil => rfl
  | cons c rest =>
    exact apply_toLower (f := Ranges.cased.contains) (by decide +kernel) c

/-- The case of ASCII letters makes no difference to the form, nor does it before the text. What
is before has to be told along, as a sigma looks back at it. -/
theorem after_map_toLower (before text : List Char) :
    after (before.map Char.toLower) (text.map Char.toLower) = after before text := by
  induction text generalizing before with
  | nil => rfl
  | cons c rest ih =>
    have sigma : (c.toLower = '\u03A3') = (c = '\u03A3') :=
      apply_toLower (f := (· = '\u03A3')) (by decide +kernel) c
    have later : after (c.toLower :: before.map Char.toLower) (rest.map Char.toLower) =
        after (c :: before) rest := ih (c :: before)
    rw [List.map_cons, after, after, later]
    simp only [sigma, ofChar_toLower, meetsLetter_map_toLower]

end LowerCase

/-! ### Texts -/

/-- Within ASCII the lower-case form is the ASCII one. -/
theorem lowerCase_of_isAscii {text : String} (ascii : IsAscii text) :
    lowerCase text = text.toLower := by
  rw [← String.toList_inj, lowerCase, String.toList_ofList, LowerCase.after_of_ascii [] ascii,
    toList_toLower]

/-- A form within ASCII that has no k in it is that of a text within ASCII. Every character beyond
ASCII would leave one in the form, or a k, and the hypotheses exclude both. -/
theorem lowerCase_eq_iff {text form : String} (ascii : IsAscii form) (no_k : 'k' ∉ form.toList) :
    lowerCase text = form ↔ IsAscii text ∧ text.toLower = form := by
  constructor
  · rintro rfl
    have within : IsAscii text := by
      intro c mem
      by_contra foreign
      obtain ⟨d, among, beyond | rfl⟩ :=
        LowerCase.exists_mem_after [] mem (Nat.le_of_not_lt foreign)
      · rw [lowerCase] at ascii
        exact absurd (ascii d (by rwa [String.toList_ofList])) (Nat.not_lt.mpr beyond)
      · rw [lowerCase, String.toList_ofList] at no_k
        exact no_k among
    exact ⟨within, (lowerCase_of_isAscii within).symm⟩
  · rintro ⟨within, lowered⟩
    rw [lowerCase_of_isAscii within, lowered]

/-- The Kelvin sign has the form of the letter K. -/
example : lowerCase "\u212A" = "k" := by
  decide +kernel

/-- The case of ASCII letters makes no difference to the form of a text. -/
theorem lowerCase_toLower (text : String) : lowerCase text.toLower = lowerCase text := by
  rw [lowerCase, lowerCase, toList_toLower]
  exact congrArg String.ofList (LowerCase.after_map_toLower [] text.toList)

end GameBoy
