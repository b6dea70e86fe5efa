/-!
# `GameBoy.Text.Utf8`: text out of bytes

A text is stored in UTF-8. `Utf8.next` reads one character off a list of bytes;
where the bytes start no character, it skips the longest run of them that could
have been the start of one. `Utf8.decode` takes only well-formed bytes, and
`Utf8.decodeLossy` puts a replacement character for each skipped run.
-/

set_option autoImplicit false

namespace GameBoy.Utf8

/-- What the first byte of a longer character says: the bits it contributes, the
range of the second byte, and how many bytes follow that one. -/
structure Lead where
  bits : Nat
  low : UInt8
  high : UInt8
  further : Nat

/-- The reading of a byte as the first of a longer character. The range of the
second byte excludes longer writings than needed, surrogates, and code points
above the last one. -/
def lead (byte : UInt8) : Option Lead :=
  if 0xC2 ≤ byte ∧ byte ≤ 0xDF then some ⟨byte.toNat - 0xC0, 0x80, 0xBF, 0⟩
  else if byte = 0xE0 then some ⟨0, 0xA0, 0xBF, 1⟩
  else if byte = 0xED then some ⟨0xD, 0x80, 0x9F, 1⟩
  else if 0xE1 ≤ byte ∧ byte ≤ 0xEF then some ⟨byte.toNat - 0xE0, 0x80, 0xBF, 1⟩
  else if byte = 0xF0 then some ⟨0, 0x90, 0xBF, 2⟩
  else if 0xF1 ≤ byte ∧ byte ≤ 0xF3 then some ⟨byte.toNat - 0xF0, 0x80, 0xBF, 2⟩
  else if byte = 0xF4 then some ⟨4, 0x80, 0x8F, 2⟩
  else none

/-- Goes on with `further` more bytes after `bits` were read. -/
def tail (bits further : Nat) (bytes : List UInt8) : Option Char × List UInt8 :=
  match further, bytes with
  | 0, bytes => (some (Char.ofNat bits), bytes)
  | further + 1, byte :: rest =>
    if 0x80 ≤ byte ∧ byte ≤ 0xBF then tail (bits * 64 + (byte.toNat - 0x80)) further rest
    else (none, byte :: rest)
  | _ + 1, [] => (none, [])

/-- The first character of the bytes, if they start with one, and the bytes
after what was read. -/
def next (byte : UInt8) (bytes : List UInt8) : Option Char × List UInt8 :=
  if byte < 0x80 then (some (Char.ofNat byte.toNat), bytes)
  else
    match lead byte, bytes with
    | some lead, second :: rest =>
      if lead.low ≤ second ∧ second ≤ lead.high then
        tail (lead.bits * 64 + (second.toNat - 0x80)) lead.further rest
      else (none, second :: rest)
    | _, bytes => (none, bytes)

/-- Reading on takes bytes off the front. -/
theorem length_tail_le (bits further : Nat) (bytes : List UInt8) :
    (tail bits further bytes).2.length ≤ bytes.length := by
  induction further generalizing bits bytes with
  | zero => simp [tail]
  | succ further ih =>
    cases bytes with
    | nil => simp [tail]
    | cons byte rest =>
      simp only [tail]
      split
      · exact Nat.le_succ_of_le (ih _ rest)
      · exact Nat.le_refl _

/-- Reading a character takes bytes off the front. -/
theorem length_next_le (byte : UInt8) (bytes : List UInt8) :
    (next byte bytes).2.length ≤ bytes.length := by
  unfold next
  split
  · exact Nat.le_refl _
  · split
    · split
      · exact Nat.le_succ_of_le (length_tail_le _ _ _)
      · exact Nat.le_refl _
    · exact Nat.le_refl _

/-- The characters of the bytes, nothing for each run that is none. -/
def pieces : List UInt8 → List (Option Char)
  | [] => []
  | byte :: rest => (next byte rest).1 :: pieces (next byte rest).2
termination_by bytes => bytes.length
decreasing_by
  have := length_next_le byte rest
  simp only [List.length_cons]
  omega

/-- The text of well-formed bytes. -/
def decode (bytes : List UInt8) : Option (List Char) := (pieces bytes).mapM id

/-- The text of any bytes, with a replacement character for what is not
well-formed. -/
def decodeLossy (bytes : List UInt8) : List Char :=
  (pieces bytes).map (·.getD '\ufffd')

end GameBoy.Utf8
