/-!
# `GameBoy.Text.Elapsed`: a length of time in words

A length of time is shown in the largest unit of which there is at least one,
with two places, rounded to the nearest.
-/

set_option autoImplicit false

namespace GameBoy

/-- A number of hundredths with its two places. -/
def hundredths (value : Nat) : String :=
  let places := value % 100
  toString (value / 100) ++ "." ++ (if places < 10 then "0" else "") ++ toString places

/-- A number of units, each of so many nanoseconds, in hundredths. -/
def inUnits (nanoseconds unit : Nat) : String :=
  hundredths ((nanoseconds * 100 + unit / 2) / unit)

/-- A length of time, given in nanoseconds. -/
def elapsed (nanoseconds : Nat) : String :=
  if 1000000000 ≤ nanoseconds then inUnits nanoseconds 1000000000 ++ "s"
  else if 1000000 ≤ nanoseconds then inUnits nanoseconds 1000000 ++ "ms"
  else if 1000 ≤ nanoseconds then inUnits nanoseconds 1000 ++ "µs"
  else inUnits nanoseconds 1 ++ "ns"

end GameBoy
