import Testbench.Decimal.Dyadic

/-!
# The fewest digits that read back

A dyadic number of 53 bits is told apart from its neighbours by few decimal digits. The decimal
grids of one digit, two digits, and so on are tried in turn; the first grid with a point that
rounds to the number gives its digits.

- `Decimal`: a coefficient and a power of ten.
- `Dyadic.Halo`: the interval of the numbers that round to a dyadic number.
- `Dyadic.shortest`: the shortest decimal in that interval, the nearest one if there are two.
-/

namespace Testbench

/-- The number `coefficient * 10 ^ exponent`. -/
structure Decimal where
  coefficient : Nat
  exponent : Int
  deriving DecidableEq, Repr

namespace Decimal

/-- The number of digits of a positive number, and `0` for zero. -/
def digitCount (n : Nat) : Nat := if n = 0 then 0 else (Nat.toDigits 10 n).length

/-- The greatest `k` with `10 ^ k ≤ num / den`, for positive `num` and `den`. -/
def floorLog10 (num den : Nat) : Int :=
  if den ≤ num then (digitCount (num / den) : Int) - 1 else -(digitCount ((den - 1) / num) : Int)

/-- The greatest `k` with `10 ^ k` not above the number. -/
def magnitude (d : Decimal) : Int := d.exponent + digitCount d.coefficient - 1

end Decimal

namespace Dyadic

/-- The interval of the numbers that round to a dyadic number, in quarters of the unit of its
mantissa. The end points belong to it when the mantissa is even. -/
structure Halo where
  low : Nat
  high : Nat
  closed : Bool
  deriving DecidableEq, Repr

/-- The halo of a number. Below a power of two the neighbours stand half as far apart. -/
def halo (x : Dyadic) : Halo where
  low := if x.mantissa = Decimal.factor 2 52 then 4 * x.mantissa - 1 else 4 * x.mantissa - 2
  high := 4 * x.mantissa + 2
  closed := x.mantissa % 2 = 0

/-- Whether the decimal `c * 10 ^ k` rounds to the number `x`. -/
def rounds (x : Dyadic) (c : Nat) (k : Int) : Bool :=
  let here := 4 * (c * Decimal.factor 10 k * x.den)
  let unit := Decimal.factor 10 (-k) * Decimal.factor 2 x.exponent
  let h := x.halo
  if h.closed then h.low * unit ≤ here && here ≤ h.high * unit
  else h.low * unit < here && here < h.high * unit

/-- The coefficient of the point of the grid `10 ^ k` that stands for the number, if one of its
two neighbours on that grid rounds to it: the nearer one if both do, the even one in a tie. -/
def onGrid? (x : Dyadic) (k : Int) : Option Nat :=
  let num := x.num * Decimal.factor 10 (-k)
  let den := x.den * Decimal.factor 10 k
  let below := num / den
  match x.rounds below k, x.rounds (below + 1) k with
  | true, true => some (Decimal.roundHalfEven num den)
  | true, false => some below
  | false, true => some (below + 1)
  | false, false => none

/-- The point of the first of the grids with `n`, `n + 1`, … digits that has one for the number;
`left` grids are tried. The next power of ten belongs to every grid and has one digit. -/
def shortestFrom (x : Dyadic) (top : Int) : (left n : Nat) → Decimal
  | 0, n => ⟨Decimal.roundHalfEven (x.num * Decimal.factor 10 (n - 1 - top))
      (x.den * Decimal.factor 10 (top - (n - 1))), top - (n - 1)⟩
  | left + 1, n =>
    match x.onGrid? (top - (n - 1)) with
    -- a coefficient with one digit too many is the next power of ten
    | some c => if c = Decimal.factor 10 n then ⟨1, top + 1⟩ else ⟨c, top - (n - 1)⟩
    | none => shortestFrom x top left (n + 1)

/-- The decimal with the fewest digits that rounds to the number; seventeen digits always do. -/
def shortest (x : Dyadic) : Decimal :=
  if x.mantissa = 0 then ⟨0, 0⟩ else x.shortestFrom (Decimal.floorLog10 x.num x.den) 16 1

end Dyadic

end Testbench
