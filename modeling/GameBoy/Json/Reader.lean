import GameBoy.Text.Hex

/-!
# `GameBoy.Json.Reader`: reading JSON from left to right

A reader takes characters off the front of a text and stops at the first thing
that is wrong, which is one of three: the text ended too early, it is malformed,
or a well-formed value is not of the kind wanted. This file holds the readers
for the parts of JSON; a value that nobody asked for is skipped by
`Reader.skipValue`, which checks its form and nothing else.

Which of the three faults it is depends on how far the text was looked at when it
was found, and that is part of what is modelled. A string that is kept is checked
for halves of pairs that stand alone, and one that is skipped is not. A number
that is kept has to be in range, and one that is skipped has not.

Loops over a text are bounded by a number of rounds that is taken from its length.
Every round takes a character at least, so the bound is not reached by a text that
is read to its end.
-/

set_option autoImplicit false

namespace GameBoy.Json

/-- What is wrong with a text. -/
inductive Fault where
  /-- The text ended too early. -/
  | ended
  /-- The text is not JSON. -/
  | malformed
  /-- A value is well-formed and not of the kind wanted. -/
  | mismatch
deriving DecidableEq

/-- Something that is read off the front of a text. -/
abbrev Reader (α : Type) := StateT (List Char) (Except Fault) α

/-- Whether a character may stand between the parts of a text. -/
def isBlank (c : Char) : Bool := c == ' ' || c == '\n' || c == '\t' || c == '\r'

/-- Whether a character is a decimal digit. -/
def isDigit (c : Char) : Bool := '0' ≤ c && c ≤ '9'

/-- The value of a decimal digit. -/
def digitValue (c : Char) : Nat := c.toNat - '0'.toNat

/-- Whether the text goes on with a character that passes a test. -/
def startsWith (test : Char → Bool) (text : List Char) : Bool :=
  match text with
  | c :: _ => test c
  | [] => false

/-! ### Strings -/

/-- The code that four hexadecimal digits stand for. Whether there are enough
characters is judged by their size in UTF-8. -/
def hexCode (text : List Char) : Except Fault Nat :=
  let four := text.take 4
  if four.foldl (fun size c => size + c.utf8Size) 0 < 4 then .error .ended
  else
    match four.mapM Hex.digitValue with
    | some digits => .ok (digits.foldl (fun code digit => code * 16 + digit) 0)
    | none => .error .malformed

/-- Whether a code is the first half of a pair. -/
def isLeading (code : Nat) : Bool := 0xD800 ≤ code && code ≤ 0xDBFF

/-- Whether a code is the second half of a pair. -/
def isTrailing (code : Nat) : Bool := 0xDC00 ≤ code && code ≤ 0xDFFF

/-- The second half of a pair, which must follow at once as an escape of its own. -/
def secondHalf : List Char → Except Fault Nat
  | [] | ['\\'] => .error .ended
  | '\\' :: 'u' :: rest => do
    let code ← hexCode rest
    if isTrailing code then return code else throw .malformed
  | _ => .error .malformed

/-- The character that an escape stands for, given what follows its backslash,
and how many characters the escape has after it. Unless `paired`, the halves of
pairs may stand alone. -/
def unescape (paired : Bool) : List Char → Except Fault (Char × Nat)
  | [] => .error .ended
  | '"' :: _ => .ok ('"', 1)
  | '\\' :: _ => .ok ('\\', 1)
  | '/' :: _ => .ok ('/', 1)
  | 'b' :: _ => .ok ('\x08', 1)
  | 'f' :: _ => .ok ('\x0c', 1)
  | 'n' :: _ => .ok ('\n', 1)
  | 'r' :: _ => .ok ('\r', 1)
  | 't' :: _ => .ok ('\t', 1)
  | 'u' :: rest => do
    let code ← hexCode rest
    if !paired then
      return (Char.ofNat code, 5)
    else if isTrailing code then
      throw .malformed
    else if isLeading code then
      let second ← secondHalf (rest.drop 4)
      return (Char.ofNat ((code - 0xD800) * 0x400 + (second - 0xDC00) + 0x10000), 11)
    else
      return (Char.ofNat code, 5)
  | _ => .error .malformed

/-- The characters of a string whose opening quotation mark was read, and the
text after it. -/
def stringBody (paired : Bool) (text : List Char) : Except Fault (List Char × List Char) :=
  match text with
  | [] => .error .ended
  | '"' :: rest => .ok ([], rest)
  | '\\' :: rest => do
    let (c, length) ← unescape paired rest
    let (body, rest) ← stringBody paired (rest.drop length)
    return (c :: body, rest)
  | c :: rest => do
    if c < ' ' then
      throw .malformed
    let (body, rest) ← stringBody paired rest
    return (c :: body, rest)
termination_by text.length
decreasing_by
  all_goals
    simp only [List.length_drop, List.length_cons]
    omega

/-! ### Numbers -/

/-- What is wrong where a digit is missing. A text that ends there counts as
ended only for a value that was asked for. -/
def missingDigit (wanted : Bool) (text : List Char) : Fault :=
  if wanted && text.isEmpty then .ended else .malformed

/-- The digits at the front of a text, of which there must be one, and the text
after them. -/
def digits (wanted : Bool) (text : List Char) : Except Fault (List Char × List Char) :=
  if startsWith isDigit text then .ok (text.takeWhile isDigit, text.dropWhile isDigit)
  else .error (missingDigit wanted text)

/-- The digits before the point. A zero stands alone. -/
def wholeDigits (wanted : Bool) (text : List Char) : Except Fault (List Char × List Char) := do
  let (whole, rest) ← digits wanted text
  if startsWith (· == '0') whole && 1 < whole.length then throw .malformed
  return (whole, rest)

/-- The digits after a point, if there is one. -/
def fractionDigits (wanted : Bool) (text : List Char) : Except Fault (List Char × List Char) :=
  match text with
  | '.' :: rest => digits wanted rest
  | text => .ok ([], text)

/-- The largest size of an exponent that is told apart. Beyond it, the digits of
no text can make up for the exponent. -/
def exponentLimit : Nat := 0x10000000000000000

/-- The exponent, zero if there is none. -/
def exponent (wanted : Bool) (text : List Char) : Except Fault (Int × List Char) := do
  match text with
  | c :: rest =>
    if c == 'e' || c == 'E' then
      let negative := startsWith (· == '-') rest
      let rest := if startsWith (fun c => c == '+' || c == '-') rest then rest.drop 1 else rest
      let (found, rest) ← digits wanted rest
      let size := found.foldl (fun size c => min (size * 10 + digitValue c) exponentLimit) 0
      let value : Int := size
      return (if negative then -value else value, rest)
    else
      return (0, text)
  | [] => return (0, text)

/-- The largest significand that is kept; digits beyond it are dropped. -/
def significandLimit : Nat := 0xFFFFFFFFFFFFFFFF

/-- Appends digits to a significand as long as it stays within the limit, and
says how many were left out. -/
def accumulate (significand : Nat) : List Char → Nat × Nat
  | [] => (significand, 0)
  | c :: rest =>
    let next := significand * 10 + digitValue c
    if significandLimit < next then (significand, rest.length + 1) else accumulate next rest

/-- Whether a number with these digits is too large for a double: its
significand, rounded, is scaled by the power of ten. -/
def tooLarge (whole fraction : List Char) (exponent : Int) : Bool :=
  let (significand, left) := accumulate 0 whole
  let (significand, dropped) := accumulate significand fraction
  let scale := exponent + left - (fraction.length - dropped : Nat)
  if scale < 0 then false
  else if scale ≤ 308 then
    ((UInt64.ofNat significand).toFloat * Float.ofScientific 1 false scale.toNat).isInf
  else significand != 0

/-- Reads a number without its sign. Only a value that was asked for has to be
in the range of doubles. -/
def number (wanted : Bool) (text : List Char) : Except Fault (List Char) := do
  let (whole, rest) ← wholeDigits wanted text
  let (fraction, rest) ← fractionDigits wanted rest
  let (exponent, rest) ← exponent wanted rest
  if wanted && tooLarge whole fraction exponent then throw .malformed
  return rest

/-- Reads the rest of a word whose first letter was read. -/
def keyword : (letters : List Char) → (text : List Char) → Except Fault (List Char)
  | [], text => .ok text
  | _ :: _, [] => .error .ended
  | letter :: letters, c :: rest =>
    if c = letter then keyword letters rest else .error .malformed

namespace Reader

/-! ### Parts of a text -/

/-- Skips blanks and looks at the next character, if there is one. -/
def peek? : Reader (Option Char) := do
  modify fun text => text.dropWhile isBlank
  return (← get).head?

/-- Skips blanks and looks at the next character, which must be there. -/
def peek : Reader Char := do
  match ← peek? with
  | some c => return c
  | none => throw .ended

/-- Takes one character. -/
def skip : Reader Unit := modify fun text => text.drop 1

/-- Takes the rest of a word whose first letter is next. -/
def word (rest : String) : Reader Unit := do
  skip
  set (← keyword rest.toList (← get))

/-- Takes a string whose opening quotation mark is next. -/
def string (paired : Bool) : Reader String := do
  skip
  let (body, rest) ← stringBody paired (← get)
  set rest
  return String.ofList body

/-- Takes a given character, after blanks. -/
def expect (c : Char) : Reader Unit := do
  if (← peek) == c then skip else throw .malformed

/-- Fails at a value that is not of the kind wanted. A simple value is read to
its end first, and may turn out not to be well-formed. -/
def wrongKind {α : Type} : Reader α := do
  match ← peek with
  | 'n' => word "ull"
  | 't' => word "rue"
  | 'f' => word "alse"
  | '"' => discard (string true)
  | '[' | '{' => pure ()
  | c =>
    if c == '-' then
      skip
    else if !isDigit c then
      throw .malformed
    set (← number true (← get))
  throw .mismatch

/-- Reads a string. -/
def text : Reader String := do
  if (← peek) == '"' then string true else wrongKind

/-- Reads a truth value. -/
def bool : Reader Bool := do
  match ← peek with
  | 't' =>
    word "rue"
    return true
  | 'f' =>
    word "alse"
    return false
  | _ => wrongKind

/-- Reads `null`, or anything that another reader reads. -/
def optional {α : Type} (reader : Reader α) : Reader (Option α) := do
  if (← peek?) == some 'n' then
    word "ull"
    return none
  else
    return some (← reader)

/-! ### Members of objects and arrays -/

/-- Whether an object goes on with a key, which is then next. -/
def hasKey (first : Bool) : Reader Bool := do
  match ← peek with
  | '}' => return false
  | '"' => if first then return true else throw .malformed
  | c =>
    if c == ',' && !first then
      skip
      if (← peek) == '"' then return true else throw .malformed
    else
      throw .malformed

/-- Whether an array goes on with an element, which is then next. -/
def hasElement (first : Bool) : Reader Bool := do
  match ← peek with
  | ']' => return false
  | c =>
    if first then
      return true
    else if c == ',' then
      skip
      if (← peek) == ']' then throw .malformed else return true
    else
      throw .malformed

/-! ### Values nobody asked for -/

/-- Takes a simple value that nobody asked for. -/
def skipSimple : Reader Unit := do
  match ← peek with
  | 'n' => word "ull"
  | 't' => word "rue"
  | 'f' => word "alse"
  | '"' => discard (string false)
  | c =>
    if c == '-' then
      skip
    else if !isDigit c then
      throw .malformed
    set (← number false (← get))

/-- Takes what comes before a value inside an array or an object that is open:
nothing, or a key with its colon. -/
def skipKey (isObject : Bool) : Reader Unit := do
  if isObject then
    if (← peek) == '"' then discard (string false) else throw .malformed
    expect ':'

/-- Goes on inside the arrays and objects that are open, innermost first and
`true` for an object. `atValue` says whether a value is next, rather than the
end of one, and `fresh` whether the innermost has no member yet. Of two rounds in
a row one takes a character, which bounds their number. -/
def skipOpen (rounds : Nat) (isOpen : List Bool) (atValue fresh : Bool) : Reader Unit := do
  match rounds with
  | 0 => throw .ended
  | rounds + 1 =>
    if atValue then
      match ← peek with
      | '[' =>
        skip
        skipOpen rounds (false :: isOpen) false true
      | '{' =>
        skip
        skipOpen rounds (true :: isOpen) false true
      | _ =>
        skipSimple
        skipOpen rounds isOpen false false
    else
      match isOpen with
      | [] => return
      | isObject :: outer =>
        let c ← peek
        if c == (if isObject then '}' else ']') then
          skip
          skipOpen rounds outer false false
        else
          unless fresh do
            expect ','
          skipKey isObject
          skipOpen rounds isOpen true false

/-- A number of rounds that is enough for any value in the text. -/
def enoughRounds : Reader Nat := do
  return 2 * (← get).length + 2

/-- Takes a value that nobody asked for, however deep it nests. -/
def skipValue (rounds : Nat) : Reader Unit := skipOpen rounds [] true false

/-- Runs a reader on a whole text, after which nothing but blanks may follow. -/
def run {α : Type} (reader : Reader α) (text : List Char) : Except Fault α := do
  let (result, rest) ← StateT.run reader text
  if (rest.dropWhile isBlank).isEmpty then return result else throw .malformed

end Reader

end GameBoy.Json
