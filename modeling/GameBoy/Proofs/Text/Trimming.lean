import GameBoy.Text.Blank
import Mathlib.Data.List.TakeWhile

/-!
# `GameBoy.Proofs.Text.Trimming`: texts between blanks

Blanks are taken away from the front of a text, and from its back by the same search on the
reversed text. What is left is told without a search, by how it lies in the whole text:
everything outside it is blank, and it neither begins nor ends with a blank.

A text of blanks alone is the one to mind. The search from the front already leaves nothing of
it, and the empty text has no ends that could be blank. Main statement: `trimBlank_eq_iff`, an
equivalence, so what is left is determined by how it lies.
-/

set_option autoImplicit false

namespace GameBoy

/-- What is left after the elements that are dropped from the front: all before it have the
property, and the first that is left has not. -/
theorem dropWhile_eq_iff {α : Type} {p : α → Bool} {list rest : List α} :
    list.dropWhile p = rest ↔
      ∃ front, list = front ++ rest ∧ (∀ x ∈ front, p x = true) ∧
        ∀ x ∈ rest.head?, p x = false := by
  constructor
  · rintro rfl
    refine ⟨list.takeWhile p, List.takeWhile_append_dropWhile.symm, ?_, ?_⟩
    · intro x mem
      exact List.mem_takeWhile_imp mem
    · intro x first
      have stops := List.head?_dropWhile_not p list
      rw [Option.mem_def.mp first] at stops
      exact stops
  · rintro ⟨front, rfl, dropped, stops⟩
    rw [List.dropWhile_append_of_pos dropped]
    cases rest with
    | nil => rfl
    | cons x rest =>
      have kept : p x = false := stops x rfl
      exact List.dropWhile_cons_of_neg (by simp [kept])

/-- A text lies in another with nothing but blanks around it, and has none at its own ends. -/
def IsTrimOf (middle text : List Char) : Prop :=
  ∃ left right, text = left ++ middle ++ right ∧
    (∀ c ∈ left, Ranges.blank.contains c = true) ∧
    (∀ c ∈ right, Ranges.blank.contains c = true) ∧
    (∀ c ∈ middle.head?, Ranges.blank.contains c = false) ∧
    ∀ c ∈ middle.getLast?, Ranges.blank.contains c = false

/-- Trimming leaves that text, and no other. Blanks are dropped from the front and then, with the
text turned round, from the back. In the one direction `dropWhile_eq_iff` is read twice. In the
other a text of blanks alone is a case of its own, as the front drop takes all of it and leaves
nothing that would stop there. -/
theorem trimBlank_eq_iff {text middle : List Char} :
    trimBlank text = middle ↔ IsTrimOf middle text := by
  rw [trimBlank, List.reverse_eq_iff, dropWhile_eq_iff]
  constructor
  · rintro ⟨back, split, rightBlank, ends⟩
    have front : text.dropWhile Ranges.blank.contains = middle ++ back.reverse := by
      rw [← List.reverse_reverse (text.dropWhile _), split]
      simp
    obtain ⟨left, whole, leftBlank, starts⟩ := dropWhile_eq_iff.mp front
    refine ⟨left, back.reverse, ?_, leftBlank, ?_, ?_, ?_⟩
    · rw [whole, List.append_assoc]
    · intro c mem
      exact rightBlank c (List.mem_reverse.mp mem)
    · intro c first
      apply starts
      rw [List.head?_append, Option.mem_def.mp first]
      rfl
    · rwa [List.head?_reverse] at ends
  · rintro ⟨left, right, rfl, leftBlank, rightBlank, starts, ends⟩
    cases middle with
    | nil =>
      -- A text of blanks is dropped from the front, to its end.
      have all : ∀ c ∈ left ++ [] ++ right, Ranges.blank.contains c = true := by
        intro c mem
        rw [List.append_nil] at mem
        exact (List.mem_append.mp mem).elim (leftBlank c) (rightBlank c)
      refine ⟨[], ?_, by simp, by simp⟩
      rw [List.dropWhile_eq_nil_iff.mpr all]
      rfl
    | cons first rest =>
      have front : (left ++ (first :: rest) ++ right).dropWhile Ranges.blank.contains =
          (first :: rest) ++ right :=
        dropWhile_eq_iff.mpr ⟨left, List.append_assoc .., leftBlank, starts⟩
      refine ⟨right.reverse, ?_, ?_, ?_⟩
      · rw [front, List.reverse_append]
      · intro c mem
        exact rightBlank c (List.mem_reverse.mp mem)
      · rwa [List.head?_reverse]

end GameBoy
