import GameBoy.Text.Hex
import GameBoy.Text.Unprintable
import GameBoy.Text.Extender

/-!
# `GameBoy.Text.Quoted`: text shown between quotation marks

Messages show a name the user gave between quotation marks, with every
character visible: a quotation mark, a backslash and the usual control
characters are written with a backslash and a letter, and any other character
that is unprintable, or that would attach to its neighbour, by its code point.
An apostrophe is written as it is.
-/

set_option autoImplicit false

namespace GameBoy.Quoted

/-- A character written by its code point. -/
def byCode (c : Char) : List Char :=
  ("\\u\x7b" ++ Hex.shortest c.toNat ++ "\x7d").toList

/-- How a character is written inside the quotation marks. -/
def encodeChar (c : Char) : List Char :=
  match c with
  | '\x00' => ['\\', '0']
  | '\t' => ['\\', 't']
  | '\n' => ['\\', 'n']
  | '\r' => ['\\', 'r']
  | '"' => ['\\', '"']
  | '\\' => ['\\', '\\']
  | c =>
    if Ranges.unprintable.contains c || attaches c then byCode c else [c]

end GameBoy.Quoted

namespace GameBoy

/-- A text between quotation marks. -/
def quoted (text : String) : String :=
  String.ofList ('"' :: text.toList.flatMap Quoted.encodeChar ++ ['"'])

end GameBoy
