/-!
# Instants

Points in time and how they are written: the date and the time of day in universal time, as in the
`timestamp` of a report (specification, §4.5).

- `Instant`: seconds since the start of 1970, and nanoseconds.
- `Instant.date`: the year, month and day of a day counted from the start of 1970.
- `Instant.text`: the written form.
-/

namespace Testbench

/-- A point in time: seconds since the start of 1970 in universal time, and nanoseconds. -/
structure Instant where
  seconds : Int
  nanos : Nat
  deriving DecidableEq, Repr

namespace Instant

/-- The year, month and day of a day counted from the start of 1970. Years are counted from March
on here, so that a leap day is the last day of its year, and in eras of four hundred years, which
all have the same number of days. -/
def date (day : Int) : Int × Nat × Nat :=
  let shifted := day + 719468
  let era := shifted / 146097
  let dayOfEra := (shifted % 146097).toNat
  let year := (dayOfEra - dayOfEra / 1460 + dayOfEra / 36524 - dayOfEra / 146096) / 365
  let dayOfYear := dayOfEra - (365 * year + year / 4 - year / 100)
  let month := (5 * dayOfYear + 2) / 153
  let dayOfMonth := dayOfYear - (153 * month + 2) / 5 + 1
  let civil := if month < 10 then month + 3 else month - 9
  ((year : Int) + era * 400 + (if civil ≤ 2 then 1 else 0), civil, dayOfMonth)

/-- A number with zeros in front up to a width. -/
def padded (width n : Nat) : String :=
  let digits := toString n
  String.ofList (List.replicate (width - digits.length) '0') ++ digits

/-- The fraction of a second behind a point, without zeros at its end; nothing for none. -/
def fraction (nanos : Nat) : String :=
  if nanos = 0 then ""
  else
    let digits := (padded 9 nanos).toList.reverse.dropWhile (· == '0')
    "." ++ String.ofList digits.reverse

/-- The written form. -/
def text (i : Instant) : String :=
  let (year, month, day) := date (i.seconds / 86400)
  let time := (i.seconds % 86400).toNat
  padded 4 year.toNat ++ "-" ++ padded 2 month ++ "-" ++ padded 2 day ++ "T" ++
    padded 2 (time / 3600) ++ ":" ++ padded 2 (time / 60 % 60) ++ ":" ++ padded 2 (time % 60) ++
    fraction i.nanos ++ "Z"

end Instant

end Testbench
