import Testbench.Decimal.Fixed

/-!
# Durations

How long a stage took, in whole seconds and nanoseconds (specification, §3).

- `Duration`: the two parts.
- `Duration.toDyadic`: the duration in seconds as a binary number.
- `Duration.label`: the duration with two places, as people read it.
-/

namespace Testbench

/-- A span of time: whole seconds, and nanoseconds below a second. -/
structure Duration where
  seconds : Nat
  nanos : Nat
  deriving DecidableEq, Repr, Inhabited

namespace Duration

/-- No time at all. -/
def zero : Duration := ⟨0, 0⟩

/-- The duration in seconds. The two parts are rounded on their own before they are added. -/
def toDyadic (d : Duration) : Dyadic :=
  (Dyadic.nearest d.seconds 1).add (Dyadic.nearest d.nanos 1000000000)

/-- The duration in seconds with two places and the unit, such as `2.50s`. -/
def label (d : Duration) : String := d.toDyadic.fixed 2 ++ "s"

end Duration

end Testbench
