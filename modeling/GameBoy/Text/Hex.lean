/-!
# `GameBoy.Text.Hex`: numbers in base sixteen

`Hex.lower` and `Hex.upper` write a fixed number of digits, so that a byte takes
two and a word four; `Hex.shortest` writes as few digits as the number has.
`Hex.digitValue` reads a digit in either case.
-/

set_option autoImplicit false

namespace GameBoy.Hex

/-- The digits of `value` modulo `16 ^ width`, most significant first. -/
def digits : (width : Nat) → (value : Nat) → List (Fin 16)
  | 0, _ => []
  | width + 1, value => digits width (value / 16) ++ [Fin.ofNat 16 value]

/-- A digit in small letters. -/
def lowerDigit (digit : Fin 16) : Char :=
  "0123456789abcdef".toList.getD digit.val '0'

/-- A digit in capital letters. -/
def upperDigit (digit : Fin 16) : Char :=
  "0123456789ABCDEF".toList.getD digit.val '0'

/-- A number in `width` digits with small letters. -/
def lower (width value : Nat) : String :=
  String.ofList ((digits width value).map lowerDigit)

/-- A number in `width` digits with capital letters. -/
def upper (width value : Nat) : String :=
  String.ofList ((digits width value).map upperDigit)

/-- A byte in two capital digits. -/
def byte (value : UInt8) : String := upper 2 value.toNat

/-- A word in four capital digits. -/
def word (value : UInt16) : String := upper 4 value.toNat

/-- How many digits a number has; zero has one. -/
def width (value : Nat) : Nat :=
  if value < 16 then 1 else width (value / 16) + 1

/-- A number in as many small digits as it has. -/
def shortest (value : Nat) : String := lower (width value) value

/-- The value of a digit in either case of letters. -/
def digitValue (c : Char) : Option Nat :=
  if '0' ≤ c ∧ c ≤ '9' then some (c.toNat - '0'.toNat)
  else if 'a' ≤ c ∧ c ≤ 'f' then some (c.toNat - 'a'.toNat + 10)
  else if 'A' ≤ c ∧ c ≤ 'F' then some (c.toNat - 'A'.toNat + 10)
  else none

/-- The bytes written by pairs of digits, or nothing if the text is no such
writing. -/
def bytes : List Char → Option (List UInt8)
  | [] => some []
  | high :: low :: rest => do
    let high ← digitValue high
    let low ← digitValue low
    let rest ← bytes rest
    return UInt8.ofNat (16 * high + low) :: rest
  | [_] => none

end GameBoy.Hex
