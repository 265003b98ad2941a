import Testbench.Text.DecimalDigit
import Testbench.Json.Reader
import Testbench.Toml

/-!
# Bare values in TOML

Truth values, numbers, dates and times are written without quotes. A bare word is cut off first;
what it spells is then decided by its form. A number is looked at closely only where an integer is
wanted, so a word that begins like an integer may be a number of which nothing else is known.

- `Toml.underscoresFit`: where underscores may stand in a number.
- `Toml.integer?`, `Toml.isNumber`, `Toml.isMoment`: the forms.
- `Toml.ofWord?`: the value that a word spells.
- `Toml.readScalar`: a bare value in front of a text.
-/

namespace Testbench

namespace Toml

/-! ## Digits -/

/-- A digit of a number in base sixteen. -/
def isHexDigit (c : Char) : Bool := (Json.hexValue? c).isSome

/-- The parts of a number between its underscores go on with digits: each but the first begins
with one, and each but the last ends with one. A first part of a single character may be a sign. -/
def underscoresFit (isDigit : Char → Bool) (s : List Char) : Bool :=
  let parts := s.splitOn '_'
  parts.tail.all (fun p => p.head?.any isDigit) &&
    parts.dropLast.all fun p => p.length == 1 || p.getLast?.any isDigit

/-- The number that digits of a base spell. -/
def numberIn (base : Nat) (ds : List Char) : Nat :=
  ds.foldl (fun n c => n * base + (Json.hexValue? c).getD 0) 0

/-- A digit, or one of the underscores that may stand between digits. -/
def isPlace (c : Char) : Bool := Text.isAsciiDigit c || c == '_'

/-- The places have a needless zero in front. -/
def isPadded (s : List Char) : Bool :=
  s.head? == some '0' && 1 < (s.takeWhile isPlace).countP Text.isAsciiDigit

/-- A number without its sign. -/
def unsigned : List Char → List Char
  | '+' :: s => s
  | '-' :: s => s
  | s => s

/-! ## Forms -/

/-- The digits of a base other than ten behind the zero and the letter of the base, and the base;
there may be no digits at all. -/
def based? : List Char → Option (Nat × List Char)
  | '0' :: letter :: ds =>
    let fits := fun (isDigit : Char → Bool) =>
      ds.all (fun c => isDigit c || c == '_') && underscoresFit isHexDigit ds
    if letter = 'x' && fits isHexDigit then some (16, ds)
    else if letter = 'o' && fits (fun c => '0' ≤ c && c ≤ '7') then some (8, ds)
    else if letter = 'b' && fits (fun c => c == '0' || c == '1') then some (2, ds)
    else none
  | _ => none

/-- The word begins like a decimal integer: a sign if there is one, and digits to the end or to
an underscore. What stands behind the underscore is only looked at where the integer is wanted. -/
def isDecimal (s : List Char) : Bool :=
  let digits := unsigned s
  let rest := digits.dropWhile Text.isAsciiDigit
  digits ≠ [] && (rest = [] || rest.head? = some '_') &&
    !(digits.head? = some '0' && digits.length ≠ 1) && underscoresFit isHexDigit s

/-- The integer that a word spells. -/
def integer? (s : List Char) : Option Int :=
  let plain := fun (ds : List Char) => ds.filter (· ≠ '_')
  match based? s with
  | some (base, ds) => if plain ds = [] then none else some (numberIn base (plain ds))
  | none =>
    let ds := plain (unsigned s)
    if isDecimal s && ds.all Text.isAsciiDigit then
      let n : Int := numberIn 10 ds
      some (if s.head? = some '-' then -n else n)
    else none

/-- An exponent, from its letter on, or nothing. -/
def isExponent : List Char → Bool
  | [] => true
  | c :: s =>
    let ds := unsigned s
    (c == 'e' || c == 'E') && ds.all isPlace && ds.any Text.isAsciiDigit

/-- The word is a number with a point or an exponent, or a special number. -/
def isFloat (s : List Char) : Bool :=
  let digits := unsigned s
  let whole := digits.takeWhile isPlace
  let special := digits == ['i', 'n', 'f'] || digits == ['n', 'a', 'n']
  special || (whole.any Text.isAsciiDigit && !isPadded digits &&
    underscoresFit Text.isAsciiDigit s &&
      match digits.dropWhile isPlace with
      | [] => false
      | '.' :: rest =>
        (rest.takeWhile isPlace).any Text.isAsciiDigit && isExponent (rest.dropWhile isPlace)
      | rest => isExponent rest)

/-- The word has the form of a number of some kind. Behind the digits in front, a point or the
letter of an exponent asks for all of the form. -/
def isNumber (s : List Char) : Bool :=
  let rest := (unsigned s).dropWhile Text.isAsciiDigit
  isFloat s || (based? s).isSome ||
    (isDecimal s && !rest.any fun c => c == '.' || c == 'e' || c == 'E' || c == ' ')

/-- The number of exactly so many digits in front, and what follows them. -/
def digitRun : (count value : Nat) → List Char → Option (Nat × List Char)
  | 0, value, s => some (value, s)
  | _ + 1, _, [] => none
  | count + 1, value, c :: s =>
    if Text.isAsciiDigit c then digitRun count (value * 10 + Text.digitValue c) s else none

/-- The number of days in a month. -/
def daysIn (year month : Nat) : Nat :=
  if month = 2 then
    if year % 4 = 0 ∧ (year % 100 ≠ 0 ∨ year % 400 = 0) then 29 else 28
  else if month = 4 ∨ month = 6 ∨ month = 9 ∨ month = 11 then 30
  else 31

/-- What follows a date in front. -/
def afterDate? (s : List Char) : Option (List Char) :=
  match digitRun 4 0 s with
  | some (year, '-' :: s) =>
    match digitRun 2 0 s with
    | some (month, '-' :: s) =>
      match digitRun 2 0 s with
      | some (day, s) =>
        if 1 ≤ month ∧ month ≤ 12 ∧ 1 ≤ day ∧ day ≤ daysIn year month then some s else none
      | none => none
    | _ => none
  | _ => none

/-- What follows the seconds of a time of day and the places behind their point. -/
def afterSeconds? (s : List Char) : Option (List Char) :=
  match digitRun 2 0 s with
  | none => none
  | some (second, s) =>
    if 61 ≤ second then none
    else match s with
      | '.' :: rest =>
        if rest.takeWhile Text.isAsciiDigit = [] then none
        else some (rest.dropWhile Text.isAsciiDigit)
      | s => some s

/-- What follows a time of day in front; the seconds may be left out. -/
def afterTime? (s : List Char) : Option (List Char) :=
  match digitRun 2 0 s with
  | some (hour, ':' :: s) =>
    match digitRun 2 0 s with
    | none => none
    | some (minute, s) =>
      if 24 ≤ hour ∨ 60 ≤ minute then none
      else match s with
        | ':' :: s => afterSeconds? s
        | s => some s
  | _ => none

/-- The text is the offset of a time of day, or nothing. -/
def isOffset : List Char → Bool
  | [] => true
  | ['Z'] => true
  | ['z'] => true
  | c :: s =>
    (c == '+' || c == '-') &&
      match digitRun 2 0 s with
      | some (hour, ':' :: s) =>
        match digitRun 2 0 s with
        | some (minute, []) => hour < 24 && minute < 60
        | _ => false
      | _ => false

/-- The word is a date, a time of day, or both with or without an offset. -/
def isMoment (s : List Char) : Bool :=
  match afterDate? s with
  | some [] => true
  | some (c :: rest) =>
    (c == 'T' || c == 't' || c == ' ') &&
      match afterTime? rest with
      | some rest => isOffset rest
      | none => false
  | none => afterTime? s == some []

/-! ## Words -/

/-- The value that a word spells. -/
def ofWord? (s : List Char) : Option Toml :=
  if s = ['t', 'r', 'u', 'e'] then some (.boolean true)
  else if s = ['f', 'a', 'l', 's', 'e'] then some (.boolean false)
  else match integer? s with
    | some n => some (.integer n)
    | none =>
      if isNumber s then some (.number (String.ofList s))
      else if isMoment s then some (.moment (String.ofList s))
      else none

/-- A character of a bare word: anything but a blank, a line end, or one of the marks that part
values. -/
def isWordChar (c : Char) : Bool := !" \t\r\n=,[]\x7b\x7d#".toList.contains c

/-- A bare value, and what follows it. A single blank may stand between a date and a time. -/
def readScalar (s : List Char) : Option (Toml × List Char) :=
  let word := s.takeWhile isWordChar
  let rest := s.dropWhile isWordChar
  match afterDate? word, rest with
  | some [], ' ' :: c :: more =>
    if Text.isAsciiDigit c then
      (ofWord? (word ++ ' ' :: (c :: more).takeWhile isWordChar)).map
        (·, (c :: more).dropWhile isWordChar)
    else (ofWord? word).map (·, rest)
  | _, _ => (ofWord? word).map (·, rest)

end Toml

end Testbench
