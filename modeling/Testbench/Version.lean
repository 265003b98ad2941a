import Testbench.Text.Expression

/-!
# Versions

A toolchain states its version somewhere in its output: a banner, blanks, a major number, a
point, and further numbers (specification, §4.1).

- `Version.Stated`: a version is stated at the start of a text.
- `Version.readAt?`: the numbers, if the text starts with a stated version.
- `Version.find?`: the version that an output states first.
- `Version.findBy`: the same, with the version found by an expression.
-/

namespace Testbench

/-- A version that a toolchain stated. -/
structure Version where
  /-- All the toolchain put out, without the blanks around it. -/
  raw : String
  /-- The numbers with the points between them. -/
  number : String
  major : Nat
  deriving DecidableEq, Repr

namespace Version

/-- A character of the part behind the major number. -/
def isTail (c : Char) : Bool := Text.isAsciiDigit c || c == '.'

/-- The text starts with the banner, one blank or more, a whole run of decimal digits, and a
point. -/
def Stated (banner text digits rest : List Char) : Prop :=
  ∃ blanks, text = banner ++ (blanks ++ (digits ++ '.' :: rest)) ∧
    blanks ≠ [] ∧ (∀ c ∈ blanks, Text.isBlank c) ∧
    digits ≠ [] ∧ (∀ c ∈ digits, Text.isDecimalDigit c)

/-- The major number and what follows its point, if the text starts with the banner, one blank or
more, a run of decimal digits, and a point. -/
def readAt? (banner text : List Char) : Option (List Char × List Char) :=
  match Text.after? banner text with
  | none => none
  | some rest =>
    let numbers := rest.dropWhile Text.isBlank
    let digits := numbers.takeWhile Text.isDecimalDigit
    if rest.takeWhile Text.isBlank = [] ∨ digits = [] then none
    else match numbers.dropWhile Text.isDecimalDigit with
      | '.' :: rest => some (digits, rest.takeWhile isTail)
      | _ => none

/-- A run of digits as a number of 32 bits; only the digits `0` to `9` spell one. -/
def major? (digits : List Char) : Option Nat :=
  if digits.all Text.isAsciiDigit ∧ Text.numberOfDigits digits < UInt32.size then
    some (Text.numberOfDigits digits)
  else none

/-- A text without the points behind. -/
def trimPoints (s : List Char) : List Char := (s.reverse.dropWhile (· == '.')).reverse

/-- The version that the output states first. Where its major number does not fit, the output
states no version. -/
def find? (banner output : String) : Option Version :=
  match Text.firstMatch? (readAt? banner.toList) output.toList with
  | none => none
  | some (digits, tail) =>
    (major? digits).map fun major =>
      ⟨Text.trim output, String.ofList (trimPoints (digits ++ '.' :: tail)), major⟩

/-! ## Versions found by an expression -/

/-- The group of all the numbers. -/
def numberGroup : Text.GroupName := ⟨['v', 'e', 'r', 's', 'i', 'o', 'n'], by decide⟩

/-- The group of the major number. -/
def majorGroup : Text.GroupName := ⟨['m', 'a', 'j', 'o', 'r'], by decide⟩

/-- A stated version: the banner, blanks, and the numbers, of which the major one is a group of its
own. -/
def expression (banner : List Char) : Text.Expression :=
  .phrase banner <| .run .blank false <|
    .group numberGroup
      (.group majorGroup (.run .decimal false .done) (.char '.' (.run .numeral true .done))) .done

/-- How a stated version is written as an expression. -/
def pattern (banner : List Char) : List Char :=
  Text.Pattern.ofPhrase banner ++ "\\s+(?P<version>(?P<major>\\d+)\\.[0-9.]*)".toList

theorem text_expression (banner : List Char) : (expression banner).text = pattern banner := by
  rw [expression, Text.Expression.text_phrase, pattern]
  rfl

/-- As `find?`, with the version found by a scanner; where the scanner refuses the pattern, its
reason is the answer. -/
def findBy (scanner : Text.Scanner) (banner output : String) : Except String (Option Version) :=
  match scanner.read (pattern banner.toList) with
  | .error reason => .error reason
  | .ok search =>
    match search output.toList with
    | none => .ok none
    | some captures =>
      match captures.lookup numberGroup.1, captures.lookup majorGroup.1 with
      | some number, some digits =>
        .ok ((major? digits).map fun major =>
          ⟨Text.trim output, String.ofList (trimPoints number), major⟩)
      | _, _ => .ok none

end Version

end Testbench
