import GameBoy.Timing
import GameBoy.Text.LowerCase
import GameBoy.Text.Quoted

/-!
# `GameBoy.TimingName`: naming a timing on the command line

A timing is named in any letter case. A name that is none is shown in its
lower-case form, so two texts that differ in case alone are refused in the same
words. In a settings file the name has to be in lower case as it stands.
-/

set_option autoImplicit false

namespace GameBoy

/-- No timing has this name, which is in lower case. -/
structure UnknownTiming where
  name : String
deriving DecidableEq

/-- The error in words. -/
def UnknownTiming.message (error : UnknownTiming) : String :=
  "unknown timing " ++ quoted error.name ++ " (expected refresh or scanline)"

/-- The timing with the given name, in any letter case. -/
def FrameTiming.parse (name : String) : Except UnknownTiming FrameTiming :=
  match FrameTiming.ofName? (lowerCase name) with
  | some timing => .ok timing
  | none => .error ⟨lowerCase name⟩

end GameBoy
