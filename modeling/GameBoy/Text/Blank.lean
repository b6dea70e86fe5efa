import GameBoy.Text.Ranges

/-!
# `GameBoy.Text.Blank`: white space

The characters with the property White_Space, and the removal of them from both
ends of a text. Blanks between other characters stay.
-/

set_option autoImplicit false

namespace GameBoy

/-- The code points of white space. -/
def Ranges.blank : Ranges :=
  [(0x9, 0xD), (0x20, 0x20), (0x85, 0x85), (0xA0, 0xA0), (0x1680, 0x1680), (0x2000, 0x200A),
    (0x2028, 0x2029), (0x202F, 0x202F), (0x205F, 0x205F), (0x3000, 0x3000)]

/-- A text without the white space before its first and after its last other
character. -/
def trimBlank (text : List Char) : List Char :=
  ((text.dropWhile Ranges.blank.contains).reverse.dropWhile Ranges.blank.contains).reverse

end GameBoy
