/-!
# `GameBoy.Timing`: how long a frame is

The processor counts machine cycles, and a frame is over when a budget of them
is spent. The budget follows from the clock and the refresh rate, or from the
number and length of the scanlines. The two are not the same number. The clock
ticks four times in a machine cycle, and the first budget, which is the number of
ticks in a frame, is about four times the second.

How long a frame is shown follows from the refresh rate alone, whichever way its
budget was derived. Main statement: the two budgets as figures
(`FrameTiming.budget_eq`).
-/

set_option autoImplicit false

namespace GameBoy

/-- How a frame's budget is derived. -/
inductive FrameTiming where
  /-- Clock rate over refresh rate. -/
  | refresh
  /-- Scanlines times cycles a scanline. -/
  | scanline
deriving DecidableEq

namespace FrameTiming

/-- The clock rate in hertz. -/
def clockRate : Nat := 4194304

/-- The refresh rate in hundredths of a hertz. -/
def refreshRate : Nat := 5973

/-- Clock rate over refresh rate, rounded down. -/
def cyclesPerFrame : Nat := clockRate * 100 / refreshRate

/-- Scanlines in a frame. -/
def scanlines : Nat := 154

/-- Machine cycles in a scanline. -/
def cyclesPerScanline : Nat := 114

/-- The machine cycles of a frame. -/
def budget : FrameTiming → Nat
  | refresh => cyclesPerFrame
  | scanline => scanlines * cyclesPerScanline

/-- The budgets as figures: clock rate over refresh rate, or 154 scanlines of 114 cycles. -/
theorem budget_eq (timing : FrameTiming) :
    timing.budget =
      match timing with
      | refresh => 70221
      | scanline => 154 * 114 := by
  cases timing <;> rfl

/-- How long a frame is shown, in nanoseconds, rounded down. -/
def frameNanoseconds : Nat := 100000000000 / refreshRate

/-- The name of a timing. -/
def name : FrameTiming → String
  | refresh => "refresh"
  | scanline => "scanline"

/-- Every timing. -/
def all : List FrameTiming := [refresh, scanline]

/-- The timing with exactly the given name. -/
def ofName? (name : String) : Option FrameTiming := all.find? (·.name == name)

end FrameTiming

end GameBoy
