/-!
# Dyadic numbers of 53 bits

Measured times are kept as binary numbers of 53 significant bits. Only numbers that are not
negative occur, and all of them lie far inside the range of the exponent, so a number is a
mantissa and a power of two.

- `Decimal.factor`: a power of a base.
- `Decimal.roundHalfEven`: a quotient of natural numbers rounded to the nearest integer, a tie
  going to the even one.
- `Dyadic`: a mantissa and a power of two.
- `Dyadic.nearest`: the dyadic number of 53 bits nearest to a quotient.
- `Dyadic.add`: the rounded sum.
-/

namespace Testbench

namespace Decimal

/-- The power `base ^ k`, or `1` where `k` is negative. -/
def factor (base : Nat) (k : Int) : Nat := base.pow k.toNat

/-- The quotient `num / den` rounded to the nearest integer; a tie goes to the even one. -/
def roundHalfEven (num den : Nat) : Nat :=
  let whole := num / den
  let rest := num % den
  if 2 * rest < den then whole
  else if den < 2 * rest then whole + 1
  else whole + whole % 2

end Decimal

/-- The number `mantissa * 2 ^ exponent`. -/
structure Dyadic where
  mantissa : Nat
  exponent : Int
  deriving DecidableEq, Repr

namespace Dyadic

/-- The numerator of the number as a quotient of natural numbers. -/
def num (x : Dyadic) : Nat := x.mantissa * Decimal.factor 2 x.exponent

/-- The denominator of the number as a quotient of natural numbers. -/
def den (x : Dyadic) : Nat := Decimal.factor 2 (-x.exponent)

/-- The greatest `k` with `2 ^ k ≤ num / den`, for positive `num` and `den`. -/
def floorLog2 (num den : Nat) : Int :=
  let k : Int := (num.log2 : Int) - den.log2
  if den * Decimal.factor 2 k ≤ num * Decimal.factor 2 (-k) then k else k - 1

/-- The number of 53 significant bits nearest to `num / den`, a tie going to the even
mantissa. -/
def nearest (num den : Nat) : Dyadic :=
  if num = 0 then ⟨0, 0⟩
  else
    let q := floorLog2 num den - 52
    -- a mantissa that is rounded up to 54 bits is a power of two
    let m := Decimal.roundHalfEven (num * Decimal.factor 2 (-q)) (den * Decimal.factor 2 q)
    if m = Decimal.factor 2 53 then ⟨Decimal.factor 2 52, q + 1⟩ else ⟨m, q⟩

/-- The sum of two numbers, rounded to 53 bits. -/
def add (x y : Dyadic) : Dyadic := nearest (x.num * y.den + y.num * x.den) (x.den * y.den)

end Dyadic

end Testbench
