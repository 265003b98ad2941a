import Testbench.Decimal.Binary
import Testbench.Decimal.Fixed

/-!
# Layouts of numbers

How binary numbers are written in full, with a power of ten, in the shorter of these two ways, and
in base sixteen. All of them round the exact value, and a tie goes to the even last digit.

- `Dyadic.positional`: with a number of places behind the point.
- `Dyadic.scientific`: with one digit in front of the point and a power of ten.
- `Dyadic.general`: with a number of digits in all.
- `Dyadic.hexadecimal`: in base sixteen with a power of two.
-/

namespace Testbench

namespace Dyadic

/-- Digits with a point behind the first part of them, if there is a second part or it has to
stand there. -/
def pointed (keepPoint : Bool) (whole part : List Char) : List Char :=
  whole ++ (if part ≠ [] || keepPoint then '.' :: part else part)

/-- The number with so many places behind the point. -/
def positional (keepPoint : Bool) (places : Nat) (x : Dyadic) : List Char :=
  let scaled := Decimal.roundHalfEven (x.num * Decimal.factor 10 places) x.den
  let whole := Nat.toDigits 10 (scaled / Decimal.factor 10 places)
  pointed keepPoint whole (if places = 0 then [] else Decimal.places places scaled)

/-- The greatest power of ten that is no more than a quotient of positive numbers. -/
def powerOfTen (num den : Nat) : Int :=
  if den ≤ num then ((Nat.toDigits 10 (num / den)).length : Int) - 1
  else -((Nat.toDigits 10 ((den - 1) / num)).length : Int)

/-- The digits of the number, so many and one more of them, and the power of ten of the first. -/
def leading (more : Nat) (x : Dyadic) : Nat × Int :=
  if x.mantissa = 0 then (0, 0)
  else
    let e := powerOfTen x.num x.den
    let shift : Int := (more : Int) - e
    let n := Decimal.roundHalfEven (x.num * Decimal.factor 10 shift)
      (x.den * Decimal.factor 10 (-shift))
    -- a number that is rounded up to one digit more is a power of ten
    if n = Decimal.factor 10 (more + 1 : Nat) then (Decimal.factor 10 more, e + 1) else (n, e)

/-- A power behind a mark: its sign, and at least so many digits. -/
def powerText (mark : Char) (digits : Nat) (e : Int) : List Char :=
  let ds := Nat.toDigits 10 e.natAbs
  mark :: (if e < 0 then '-' else '+') :: (List.replicate (digits - ds.length) '0' ++ ds)

/-- The number with so many places behind its first digit, and a power of ten. -/
def scientific (keepPoint : Bool) (places : Nat) (x : Dyadic) : List Char :=
  let (n, e) := x.leading places
  let ds := Nat.toDigits 10 n
  let ds := ds ++ List.replicate (places + 1 - ds.length) '0'
  pointed keepPoint (ds.take 1) (ds.drop 1) ++ powerText 'e' 2 e

/-- Digits without the zeros behind a point, and without the point if nothing else follows it. -/
def withoutZeros (cs : List Char) : List Char :=
  if cs.contains '.' then
    let cs := cs.reverse.dropWhile (· = '0')
    (if cs.head? = some '.' then cs.drop 1 else cs).reverse
  else cs

/-- The number with so many digits in all, with a power of ten if it is very small or larger than
that. Zeros behind the point are left out, unless `keepPoint`. -/
def general (keepPoint : Bool) (digits : Nat) (x : Dyadic) : List Char :=
  let digits := max 1 digits
  let (_, e) := x.leading (digits - 1)
  let strip := fun cs => if keepPoint then cs else withoutZeros cs
  if -4 ≤ e ∧ e < digits then
    strip (x.positional keepPoint ((digits : Int) - 1 - e).toNat)
  else
    let cs := x.scientific keepPoint (digits - 1)
    let isDigit := fun c => c ≠ 'e'
    strip (cs.takeWhile isDigit) ++ cs.dropWhile isDigit

/-- The number in base sixteen with a power of two. The first digit holds the first of the binary
digits, or the first four if that is what the width makes of them. -/
def hexadecimal (w : Width) (keepPoint : Bool) (places? : Option Nat) (x : Dyadic) : List Char :=
  let front := (w.bits - 1) % 4 + 1
  let full := (w.bits - front) / 4
  let e : Int := if x.mantissa = 0 then 0 else x.exponent + (w.bits - front : Nat)
  let cut := full - (places?.getD full)
  let n := Decimal.roundHalfEven x.mantissa (Decimal.factor 16 cut)
  let ds := Nat.toDigits 16 n
  let ds := List.replicate (full - cut + 1 - ds.length) '0' ++ ds
  let size := ds.length - (full - cut)
  let part := ds.drop size ++ List.replicate (places?.getD 0 - full) '0'
  let part := if places?.isNone then (part.reverse.dropWhile (· = '0')).reverse else part
  "0x".toList ++ pointed keepPoint (ds.take size) part ++ powerText 'p' 1 e

end Dyadic

end Testbench
