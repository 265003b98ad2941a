import Testbench.Decimal.Dyadic

/-!
# Numbers with a fixed number of places

- `Dyadic.fixed`: a dyadic number with exactly so many places after the point, its exact value
  rounded to the nearest such number and a tie going to the even last digit.
-/

namespace Testbench

namespace Decimal

/-- The last `places` digits of a number, with zeros in front where it has fewer. -/
def places (count n : Nat) : List Char :=
  let digits := Nat.toDigits 10 (n % factor 10 count)
  List.replicate (count - digits.length) '0' ++ digits

end Decimal

namespace Dyadic

/-- The text of the number with `count` places after the point; `count` is positive. -/
def fixed (count : Nat) (x : Dyadic) : String :=
  let scaled := Decimal.roundHalfEven (x.num * Decimal.factor 10 count) x.den
  let whole := scaled / Decimal.factor 10 count
  String.ofList (Nat.toDigits 10 whole ++ '.' :: Decimal.places count scaled)

end Dyadic

end Testbench
