import Mathlib.Data.String.Basic

/-!
# `GameBoy.Proofs.Text.ByteOrder`: the order of texts is that of their bytes

Texts are compared character by character, and characters by their numbers. The bytes of a text
in UTF-8, compared one by one, are in the same order. A character has one to four bytes. The
others after the first hold the low digits of its number in base 64, the highest first, and the
first byte holds what is left of the number beside a mark. The marks of longer forms are greater,
and so are the numbers that need them.

`Spelling` is what the forms have in common: numbers below a bound are spelled in their order,
and the first bytes lie in a range. A form of one byte is one (`Spelling.lead`), a further digit
keeps it one (`Spelling.digit`), and two of them are joined where their ranges meet
(`Spelling.join`). UTF-8 is put together from these three (`spelling_utf8Spell`).

That a lesser number has lesser bytes is not enough for texts, since one text goes on where
another ends. So the order is asked for whatever follows (`Spelling.ascends`), which also rules
out that one form is the beginning of another. Main statement: `utf8Bytes_lt_iff`.
-/

set_option autoImplicit false

namespace GameBoy

/-- The bytes of a text in UTF-8. -/
def utf8Bytes (text : String) : List UInt8 := text.toUTF8.data.toList

/-- They are the bytes of its characters, one character after the other. -/
theorem utf8Bytes_eq (text : String) :
    utf8Bytes text = text.toList.flatMap String.utf8EncodeChar := by
  rw [utf8Bytes, String.toUTF8, ← String.utf8Encode_toList, List.utf8Encode,
    List.toList_data_toByteArray]

/-! ### Numbers -/

/-- Spellings are in order if their first bytes are. -/
theorem cons_lt_cons_of_ofNat {v w : Nat} (less : v < w) (small : w < 0x100) (r s : List UInt8) :
    UInt8.ofNat v :: r < UInt8.ofNat w :: s := by
  refine List.cons_lt_cons_iff.mpr (.inl ?_)
  rw [UInt8.lt_iff_toNat_lt, UInt8.toNat_ofNat', UInt8.toNat_ofNat']
  omega

/-- A way to spell numbers as bytes that keeps their order. -/
structure Spelling (bound low high : Nat) (spell : Nat → List UInt8) : Prop where
  /-- Numbers below the bound are spelled in their order, whatever follows them. -/
  ascends : ∀ v w, v < w → w < bound → ∀ r s, spell v ++ r < spell w ++ s
  /-- The first byte lies in the range. -/
  led : ∀ v < bound, ∃ first rest, low ≤ first ∧ first < high ∧
    spell v = UInt8.ofNat first :: rest

namespace Spelling

/-- A first byte holds a number beside a mark. -/
theorem lead {count mark high : Nat} (room : count + mark ≤ high) (fits : high ≤ 0x100) :
    Spelling count mark high fun v => [UInt8.ofNat (v % count + mark)] where
  ascends v w less small r s := by
    show UInt8.ofNat (v % count + mark) :: r < UInt8.ofNat (w % count + mark) :: s
    rw [Nat.mod_eq_of_lt small, Nat.mod_eq_of_lt (Nat.lt_trans less small)]
    exact cons_lt_cons_of_ofNat (by omega) (by omega) r s
  led v small := by
    have rest := Nat.mod_lt v (Nat.zero_lt_of_lt small)
    exact ⟨v % count + mark, [], by omega, by omega, rfl⟩

variable {bound low high : Nat} {spell : Nat → List UInt8}

/-- Each further byte holds one more digit, of six bits. Of two numbers the one with the greater
leading part has the greater bytes whatever follows, and if the leading parts are the same, the
new digit decides. The first byte is that of the leading part. -/
theorem digit (h : Spelling bound low high spell) :
    Spelling (bound * 0x40) low high
      fun v => spell (v / 0x40) ++ [UInt8.ofNat (v % 0x40 + 0x80)] where
  ascends v w less small r s := by
    show spell (v / 0x40) ++ [_] ++ r < spell (w / 0x40) ++ [_] ++ s
    rw [List.append_assoc, List.append_assoc]
    by_cases higher : v / 0x40 < w / 0x40
    · exact h.ascends _ _ higher (by omega) _ _
    · -- The higher digits are the same, so it is this one that differs.
      have same : v / 0x40 = w / 0x40 := by omega
      rw [same]
      exact List.append_left_lt (cons_lt_cons_of_ofNat (by omega) (by omega) r s)
  led v small := by
    obtain ⟨first, rest, above, below, starts⟩ := h.led (v / 0x40) (by omega)
    refine ⟨first, rest ++ [UInt8.ofNat (v % 0x40 + 0x80)], above, below, ?_⟩
    show spell (v / 0x40) ++ _ = _
    rw [starts, List.cons_append]

/-- Lesser numbers may be spelled in another way, whose first bytes are lesser. Two numbers that
are spelled in the same way are in order by that way. Of two that are not, the lesser one has the
lesser first byte, since the ranges of first bytes meet at `middle` and do not overlap. -/
theorem join {last middle : Nat} {short : Nat → List UInt8}
    (h : Spelling bound middle high spell) (hs : Spelling (last + 1) low middle short)
    (ordered : low ≤ middle ∧ middle ≤ high) (fits : high ≤ 0x100) :
    Spelling bound low high fun v => if v ≤ last then short v else spell v where
  ascends v w less small r s := by
    show (if v ≤ last then short v else spell v) ++ r <
      (if w ≤ last then short w else spell w) ++ s
    -- The greater number decides whether both are spelled in the other way.
    by_cases both : w ≤ last
    · rw [if_pos (by omega), if_pos both]
      exact hs.ascends v w less (by omega) r s
    rw [if_neg both]
    by_cases one : v ≤ last
    · -- They are spelled in different ways, which the first bytes tell apart.
      rw [if_pos one]
      obtain ⟨first, rest, -, below, starts⟩ := hs.led v (by omega)
      obtain ⟨first', rest', above, below', starts'⟩ := h.led w small
      rw [starts, starts', List.cons_append, List.cons_append]
      exact cons_lt_cons_of_ofNat (by omega) (by omega) _ _
    · rw [if_neg one]
      exact h.ascends v w less small r s
  led v small := by
    show ∃ first rest, _ ∧ _ ∧ (if v ≤ last then short v else spell v) = _
    by_cases one : v ≤ last
    · obtain ⟨first, rest, above, below, starts⟩ := hs.led v (by omega)
      exact ⟨first, rest, above, by omega, by rw [if_pos one, starts]⟩
    · obtain ⟨first, rest, above, below, starts⟩ := h.led v small
      exact ⟨first, rest, by omega, below, by rw [if_neg one, starts]⟩

end Spelling

/-! ### Characters -/

/-- The bytes of the character with a number. -/
def utf8Spell (v : Nat) : List UInt8 :=
  if v ≤ 0x7F then [UInt8.ofNat (v % 0x80 + 0x00)]
  else if v ≤ 0x7FF then [UInt8.ofNat (v / 0x40 % 0x20 + 0xC0)] ++ [UInt8.ofNat (v % 0x40 + 0x80)]
  else if v ≤ 0xFFFF then
    [UInt8.ofNat (v / 0x40 / 0x40 % 0x10 + 0xE0)] ++ [UInt8.ofNat (v / 0x40 % 0x40 + 0x80)] ++
      [UInt8.ofNat (v % 0x40 + 0x80)]
  else
    [UInt8.ofNat (v / 0x40 / 0x40 / 0x40 % 0x08 + 0xF0)] ++
      [UInt8.ofNat (v / 0x40 / 0x40 % 0x40 + 0x80)] ++ [UInt8.ofNat (v / 0x40 % 0x40 + 0x80)] ++
      [UInt8.ofNat (v % 0x40 + 0x80)]

theorem utf8EncodeChar_eq (c : Char) : String.utf8EncodeChar c = utf8Spell c.val.toNat := by
  unfold String.utf8EncodeChar utf8Spell
  simp only [Nat.div_div_eq_div_mul]
  split
  · rw [Nat.mod_eq_of_lt (by omega)]
    rfl
  · rfl

/-- UTF-8 spells numbers in their order. Each of its four forms does, and a longer form begins
with a greater byte, so they may be joined where one ends and the next begins. -/
theorem spelling_utf8Spell : Spelling (0x08 * 0x40 * 0x40 * 0x40) 0x00 0xF8 utf8Spell := by
  have one : Spelling 0x80 0x00 0xC0 _ := .lead (by decide) (by decide)
  have two : Spelling (0x20 * 0x40) 0xC0 0xE0 _ := (Spelling.lead (by decide) (by decide)).digit
  have three : Spelling (0x10 * 0x40 * 0x40) 0xE0 0xF0 _ :=
    (Spelling.lead (by decide) (by decide)).digit.digit
  have four : Spelling (0x08 * 0x40 * 0x40 * 0x40) 0xF0 0xF8 _ :=
    (Spelling.lead (by decide) (by decide)).digit.digit.digit
  exact ((four.join three (by decide) (by decide)).join two (by decide) (by decide)).join one
    (by decide) (by decide)

/-- A lesser character has lesser bytes, whatever follows it. -/
theorem utf8EncodeChar_append_lt {c d : Char} (less : c < d) (r s : List UInt8) :
    String.utf8EncodeChar c ++ r < String.utf8EncodeChar d ++ s := by
  rw [utf8EncodeChar_eq, utf8EncodeChar_eq]
  refine spelling_utf8Spell.ascends _ _ less ?_ r s
  rcases d.valid with low | ⟨-, high⟩
  · exact Nat.lt_trans low (by decide)
  · exact Nat.lt_trans high (by decide)

/-! ### Texts -/

/-- A lesser list of characters has lesser bytes. -/
theorem flatMap_utf8EncodeChar_lt {xs ys : List Char} (less : xs < ys) :
    xs.flatMap String.utf8EncodeChar < ys.flatMap String.utf8EncodeChar := by
  -- On how the one comes before the other.
  induction less with
  | @nil d =>
    have some := String.utf8EncodeChar_ne_nil (c := d)
    obtain ⟨first, rest, starts⟩ := List.exists_cons_of_ne_nil some
    rw [List.flatMap_cons, starts]
    exact List.nil_lt_cons _ _
  | rel less => exact utf8EncodeChar_append_lt less _ _
  | cons _ ih => exact List.append_left_lt ih

/-- The order of texts is that of their bytes. Lesser texts have lesser bytes, and the way back
follows because any two texts compare. -/
theorem utf8Bytes_lt_iff {a b : String} : utf8Bytes a < utf8Bytes b ↔ a < b := by
  rw [utf8Bytes_eq, utf8Bytes_eq, String.lt_iff_toList_lt]
  constructor
  · intro less
    -- Any two texts compare, and their bytes are not in the opposite order.
    rcases lt_trichotomy a.toList b.toList with before | same | behind
    · exact before
    · rw [same] at less
      exact absurd less (List.lt_irrefl _)
    · exact absurd less (List.lt_asymm (flatMap_utf8EncodeChar_lt behind))
  · exact flatMap_utf8EncodeChar_lt

end GameBoy
