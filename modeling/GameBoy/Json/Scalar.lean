import GameBoy.Text.Hex

/-!
# `GameBoy.Json.Scalar`: writing JSON

The summaries the program prints are JSON objects with simple values. Strings
are written with the short escapes where there are any, other control characters
by their code, and everything else as it is. An object is written one field a
line, indented by two blanks, with its fields in the order of their names and not
in the order in which they are given.
-/

set_option autoImplicit false

namespace GameBoy.Json

/-- A JSON value that holds no other. -/
inductive Scalar where
  | null
  | bool (value : Bool)
  | number (value : Nat)
  | string (value : String)
deriving DecidableEq

/-- How a character is written in a JSON string. -/
def escape (c : Char) : List Char :=
  match c with
  | '"' => ['\\', '"']
  | '\\' => ['\\', '\\']
  | '\x08' => ['\\', 'b']
  | '\t' => ['\\', 't']
  | '\n' => ['\\', 'n']
  | '\x0c' => ['\\', 'f']
  | '\r' => ['\\', 'r']
  | c => if c < ' ' then "\\u".toList ++ (Hex.lower 4 c.toNat).toList else [c]

/-- A value as JSON text. -/
def Scalar.render : Scalar → String
  | null => "null"
  | bool value => if value then "true" else "false"
  | number value => toString value
  | string value => "\"" ++ String.ofList (value.toList.flatMap escape) ++ "\""

/-- An object's fields in the order of their names. -/
def sorted (fields : List (String × Scalar)) : List (String × Scalar) :=
  fields.mergeSort fun a b => a.1 ≤ b.1

/-- An object as JSON text over several lines. -/
def pretty (fields : List (String × Scalar)) : String :=
  let lines := (sorted fields).map fun (name, value) =>
    "  " ++ (Scalar.string name).render ++ ": " ++ value.render
  "\x7b\n" ++ ",\n".intercalate lines ++ "\n\x7d"

end GameBoy.Json
