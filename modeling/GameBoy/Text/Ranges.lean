/-!
# `GameBoy.Text.Ranges`: sets of characters given by ranges

The character properties of the Unicode standard are tables of code point
ranges. `Ranges.contains` reads such a table. Main statement: it finds every
range of an ascending table (`Ranges.contains_iff`).
-/

set_option autoImplicit false

namespace GameBoy

/-- Closed ranges of code points, in ascending order. -/
abbrev Ranges := List (Nat × Nat)

/-- Whether a character lies in one of the ranges. The search ends at the first
range that lies above it. -/
def Ranges.contains (ranges : Ranges) (c : Char) : Bool :=
  match ranges with
  | [] => false
  | (first, last) :: rest => first ≤ c.toNat && (c.toNat ≤ last || Ranges.contains rest c)

/-- In ascending ranges, the search finds every range that the character lies in. -/
theorem Ranges.contains_iff {ranges : Ranges} (ascending : ranges.Pairwise fun a b => a.1 ≤ b.1)
    (c : Char) :
    ranges.contains c = true ↔ ∃ range ∈ ranges, range.1 ≤ c.toNat ∧ c.toNat ≤ range.2 := by
  induction ranges with
  | nil => simp [Ranges.contains]
  | cons range rest ih =>
    obtain ⟨above, later⟩ := List.pairwise_cons.1 ascending
    simp only [Ranges.contains, Bool.and_eq_true, Bool.or_eq_true, decide_eq_true_eq]
    constructor
    · rintro ⟨low, high | found⟩
      · exact ⟨range, List.mem_cons_self, low, high⟩
      · obtain ⟨other, mem, within⟩ := (ih later).1 found
        exact ⟨other, List.mem_cons_of_mem range mem, within⟩
    · rintro ⟨other, mem, low, high⟩
      rcases List.mem_cons.1 mem with rfl | mem
      · exact ⟨low, .inl high⟩
      · exact ⟨Nat.le_trans (above other mem) low, .inr ((ih later).2 ⟨other, mem, low, high⟩)⟩

end GameBoy
