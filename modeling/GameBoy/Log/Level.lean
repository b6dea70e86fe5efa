import GameBoy.Text.LowerCase

/-!
# `GameBoy.Log.Level`: how much is logged

Levels are ordered from `off`, which logs nothing, to `trace`, which logs all.
Each has names, read in any letter case.

A level is used for two things that are not the same. As a limit it says how much
is wanted, and may be `off`. As the level of a record it says how detailed the
record is, and no record is `off`. `Level.ofRecord?` goes from the first to the
second where that is possible.
-/

set_option autoImplicit false

namespace GameBoy

/-- A level of detail. -/
inductive Level where
  | off | error | warn | info | debug | trace
deriving DecidableEq

namespace Level

/-- The place of a level in the order. -/
def rank : Level → Nat
  | off => 0
  | error => 1
  | warn => 2
  | info => 3
  | debug => 4
  | trace => 5

instance : LE Level := ⟨fun a b => a.rank ≤ b.rank⟩

instance (a b : Level) : Decidable (a ≤ b) := inferInstanceAs (Decidable (a.rank ≤ b.rank))

/-- The more detailed of two levels. -/
def max (a b : Level) : Level := if a ≤ b then b else a

/-- The level of the records that are logged at a level. At `off` there are none. -/
def ofRecord? : Level → Option Level
  | off => none
  | level => some level

/-- The filter that lets through the records up to a level. A filter is told by the last level
that it lets through, and the filter `off` lets nothing through. -/
def filter (level : Level) : Level := level.ofRecord?.getD off

/-- The capital name under which a level appears in a log line. -/
def label : Level → String
  | off => "OFF"
  | error => "ERROR"
  | warn => "WARN"
  | info => "INFO"
  | debug => "DEBUG"
  | trace => "TRACE"

/-- The lower-case names of the levels. -/
def names : List (String × Level) :=
  [("off", off), ("0", off),
    ("error", error), ("err", error), ("1", error),
    ("warn", warn), ("warning", warn), ("2", warn),
    ("info", info), ("3", info),
    ("debug", debug), ("4", debug),
    ("trace", trace), ("5", trace)]

/-- The level with the given name, in any letter case. -/
def ofName? (name : String) : Option Level := names.lookup (lowerCase name)

end Level

end GameBoy
