import Testbench.Decimal.Layout
import Testbench.Shell.Arithmetic
import Testbench.Shell.Pattern
import Testbench.Text.Octets

/-!
# Slots of a format

A format holds slots, in which texts, characters and numbers are laid out. All texts are rows.

- `Shell.Slot`: what a slot says of its contents.
- `Shell.Slot.integer`, `Shell.Slot.float`, `Shell.Slot.text`: contents laid out.
- `Shell.Spelling.Flaw`, `Shell.signedOf`, `Shell.unsignedOf`, `Shell.floatOf`: the number that an
  argument spells, and what is wrong with it.

Part of the host that `Executor.host` follows; no result on runs depends on it.
-/

namespace Testbench

namespace Shell

open Text

/-- A place in a format where an argument goes. -/
structure Slot where
  leftAligned : Bool := false
  zeros : Bool := false
  plus : Bool := false
  blank : Bool := false
  /-- The other form of a number: with its base, or with a point. -/
  other : Bool := false
  width : Nat := 0
  precision : Option Nat := none
  deriving DecidableEq, Repr

namespace Slot

/-- The slot with one more flag. -/
def withFlag (slot : Slot) (c : Char) : Slot :=
  if c = '-' then { slot with leftAligned := true }
  else if c = '0' then { slot with zeros := true }
  else if c = '+' then { slot with plus := true }
  else if c = ' ' then { slot with blank := true }
  else if c = '#' then { slot with other := true }
  else slot

/-- The slot with a width that was given as an integer. -/
def withWidth (slot : Slot) (n : Int) : Slot :=
  { slot with leftAligned := slot.leftAligned || decide (n < 0), width := n.natAbs }

/-- The slot with a precision that was given as an integer; a negative one is none. -/
def withPrecision (slot : Slot) (n : Int) : Slot :=
  { slot with precision := if n < 0 then none else some n.toNat }

/-- A row brought to the width of the slot. -/
def pad (slot : Slot) (r : Row) : Row :=
  let missing := String.ofList (List.replicate (slot.width - r.length) ' ')
  if slot.leftAligned then r ++ missing else missing ++ r

/-- Digits brought to the width of the slot, with zeros between them and what stands in front. -/
def padZeros (slot : Slot) (front digits : Row) : Row :=
  let missing := slot.width - front.length - digits.length
  front ++ String.ofList (List.replicate missing '0') ++ digits

/-- What stands in front of a number. -/
def sign (slot : Slot) (negative : Bool) : String :=
  if negative then "-" else if slot.plus then "+" else if slot.blank then " " else ""

/-- Digits with what stands in front of them. -/
def number (slot : Slot) (front digits : String) : Row :=
  match slot.precision with
  | some p =>
    slot.pad (front ++ String.ofList (List.replicate (p - digits.length) '0') ++ digits)
  | none =>
    if slot.zeros && !slot.leftAligned then slot.padZeros front digits
    else slot.pad (front ++ digits)

/-- A signed integer. -/
def integer (slot : Slot) (n : Int) : Row :=
  let digits := if n = 0 ∧ slot.precision = some 0 then "" else toString n.natAbs
  slot.number (slot.sign (decide (n < 0))) digits

/-- An integer without a sign, in the base that a letter stands for. -/
def natural (slot : Slot) (kind : Char) (n : Nat) : Row :=
  let base := if kind = 'o' then 8 else if kind = 'u' then 10 else 16
  let digits := if n = 0 ∧ slot.precision = some 0 then [] else Nat.toDigits base n
  let digits := if kind = 'X' then digits.map Char.toUpper else digits
  let front := if slot.other && n ≠ 0 && base = 16 then String.ofList ['0', kind] else ""
  if slot.other && kind = 'o' then
    let zeros := slot.precision.getD 1 - digits.length
    let digits := List.replicate zeros '0' ++ digits
    slot.number "" (String.ofList (if digits.head? = some '0' then digits else '0' :: digits))
  else slot.number front (String.ofList digits)

/-- A number with a point, in the form that a letter stands for. -/
def float (slot : Slot) (w : Dyadic.Width) (kind : Char) (negative : Bool) (q : Quantity) : Row :=
  let front := slot.sign negative
  let lower := kind.toLower
  let plain := fun (word : String) => slot.pad (front ++ word)
  let r := match q with
    | .infinite => plain "inf"
    | .undefined => plain "nan"
    | .finite x =>
      let digits :=
        if lower = 'e' then x.scientific slot.other (slot.precision.getD 6)
        else if lower = 'f' then x.positional slot.other (slot.precision.getD 6)
        else if lower = 'g' then x.general slot.other (slot.precision.getD 6)
        else x.hexadecimal w slot.other slot.precision
      let (front, digits) :=
        if lower = 'a' then (front ++ "0x", digits.drop 2) else (front, digits)
      { slot with precision := none }.number front (String.ofList digits)
  if kind = lower then r else r.map Char.toUpper

/-- A text, cut to the precision of the slot. -/
def text (slot : Slot) (r : Row) : Row :=
  slot.pad (match slot.precision with
    | some p => (r.take p).toString
    | none => r)

/-- A single character. -/
def char (slot : Slot) (r : Row) : Row := slot.pad (r.take 1).toString

end Slot

/-! ## Numbers that arguments spell -/

/-- What is wrong with an argument that is to be a number. -/
inductive Flaw where
  /-- It does not begin with a number. -/
  | noNumber
  /-- More follows the number. -/
  | leftover
  /-- There is no room for the number. -/
  | outside
  deriving DecidableEq, Repr

/-- The flaw of an argument of which something is left. -/
def flawOf (arg : Row) (rest : List Char) (outside : Bool) : Option Flaw :=
  if rest ≠ [] then some (if rest.length = arg.length then .noNumber else .leftover)
  else if outside then some .outside
  else none

/-- The number of a character that stands behind a quote. -/
def quoted? (arg : Row) : Option Nat :=
  match arg.toList with
  | c :: rest => if c = '\'' ∨ c = '"' then some ((rest.head?.map Char.toNat).getD 0) else none
  | [] => none

/-- The integer in front of an argument, and what follows. -/
def spelled (arg : Row) : Int × List Char :=
  let s := arg.toList.dropWhile isSpace
  let (negative, ds) := match s with
    | '-' :: ds => (true, ds)
    | '+' :: ds => (false, ds)
    | ds => (false, ds)
  match numberAt ds with
  | some (n, rest) => (if negative then -n else n, rest)
  | none => (0, arg.toList)

/-- The signed integer that an argument spells. -/
def signedOf (arg : Row) : Int × Option Flaw :=
  match quoted? arg with
  | some n => (n, none)
  | none =>
    let (n, rest) := spelled arg
    (clamp n, flawOf arg rest (clamp n ≠ n))

/-- The integer without a sign that an argument spells; a negative one wraps around. -/
def unsignedOf (arg : Row) : Nat × Option Flaw :=
  match quoted? arg with
  | some n => (n, none)
  | none =>
    let (n, rest) := spelled arg
    let outside : Bool := UInt64.size ≤ n.natAbs
    (if outside then UInt64.size - 1 else unsigned n, flawOf arg rest outside)

/-- The number with a point that an argument spells: its sign and what it comes to. -/
def floatOf (w : Dyadic.Width) (arg : Row) : (Bool × Quantity) × Option Flaw :=
  match quoted? arg with
  | some n => ((false, .finite (Dyadic.rounded w n 1)), none)
  | none =>
    match Quantity.read w arg.toList with
    | some s => ((s.negative, s.quantity), flawOf arg s.rest s.outside)
    | none => ((false, .finite ⟨0, 0⟩), flawOf arg arg.toList false)

end Shell

end Testbench
