import Testbench.Decimal.Dyadic
import Testbench.Text.DecimalDigit

/-!
# Binary numbers of some width

Numbers with a limited number of binary digits and a limited exponent, and how texts spell them.

- `Dyadic.Width`: how many digits there are, and how small and how large numbers can be.
- `Dyadic.rounded`: the number of some width nearest to a quotient.
- `Quantity`: a number, or what stands beyond all numbers.
- `Quantity.read`: the quantity in front of a text, in base ten or sixteen.
-/

namespace Testbench

namespace Dyadic

/-- The numbers with so many binary digits: multiples of `2 ^ least` below `2 ^ limit`. -/
structure Width where
  bits : Nat
  least : Int
  limit : Int
  deriving DecidableEq, Repr

/-- Numbers in eight octets. -/
def Width.double : Width := ⟨53, -1074, 1024⟩

/-- Numbers in ten octets. -/
def Width.extended : Width := ⟨64, -16445, 16384⟩

/-- The number of a width nearest to `num / den`, a tie going to the even mantissa. -/
def rounded (w : Width) (num den : Nat) : Dyadic :=
  if num = 0 then ⟨0, 0⟩
  else
    let q := max w.least (floorLog2 num den - (w.bits - 1 : Nat))
    let m := Decimal.roundHalfEven (num * Decimal.factor 2 (-q)) (den * Decimal.factor 2 q)
    if m = Decimal.factor 2 w.bits then ⟨Decimal.factor 2 (w.bits - 1 : Nat), q + 1⟩ else ⟨m, q⟩

end Dyadic

/-- A number that is not negative, or what stands beyond all numbers. -/
inductive Quantity where
  | finite (x : Dyadic)
  | infinite
  | undefined
  deriving DecidableEq, Repr

namespace Quantity

/-- What was read in front of a text. -/
structure Spelled where
  negative : Bool
  quantity : Quantity
  /-- What follows it. -/
  rest : List Char
  /-- The number is too large or too small to be told from nothing. -/
  outside : Bool
  deriving Repr

/-- The digits in front of a text, those behind a point included: their value, how many stand behind
the point, and what follows. None if there is no digit. -/
def mantissa? (base : Nat) (value? : Char → Option Nat) (s : List Char) :
    Option (Nat × Nat × List Char) :=
  let isOne := fun c => (value? c).isSome
  let number := fun (n : Nat) (ds : List Char) =>
    ds.foldl (fun n c => base * n + (value? c).getD 0) n
  let whole := s.takeWhile isOne
  let behind := s.dropWhile isOne
  let (part, rest) := match behind with
    | '.' :: rest => (rest.takeWhile isOne, rest.dropWhile isOne)
    | rest => ([], rest)
  if whole = [] ∧ part = [] then none
  else some (number (number 0 whole) part, part.length, rest)

/-- The exponent behind one of two marks, and what follows; `0` where there is none. -/
def exponent (small large : Char) (s : List Char) : Int × List Char :=
  match s with
  | c :: rest =>
    if c = small ∨ c = large then
      let (negative, ds) := match rest with
        | '-' :: ds => (true, ds)
        | '+' :: ds => (false, ds)
        | ds => (false, ds)
      match ds.takeWhile Text.isAsciiDigit with
      | [] => (0, s)
      | run =>
        let n : Int := Text.numberOfDigits run
        (if negative then -n else n, ds.dropWhile Text.isAsciiDigit)
    else (0, s)
  | [] => (0, s)

/-- The value of a digit in base ten. -/
def tenfold? (c : Char) : Option Nat :=
  if Text.isAsciiDigit c then some (Text.digitValue c) else none

/-- The value of a digit in base sixteen. -/
def sixteenfold? (c : Char) : Option Nat :=
  if Text.isAsciiDigit c then some (Text.digitValue c)
  else if 'a' ≤ c ∧ c ≤ 'f' then some (c.toNat - 'a'.toNat + 10)
  else if 'A' ≤ c ∧ c ≤ 'F' then some (c.toNat - 'A'.toNat + 10)
  else none

/-- The number `n * base ^ e` in some width, and whether it is outside of what the width holds. No
exponent beyond all widths is worked out. -/
def scaled (w : Dyadic.Width) (base n : Nat) (e : Int) : Quantity × Bool :=
  let size : Int := n.log2
  if n = 0 then (.finite ⟨0, 0⟩, false)
  else if 20000 < e + size then (.infinite, true)
  else if e < -20000 - size then (.finite ⟨0, 0⟩, true)
  else
    let num := n * Decimal.factor base e
    let den := Decimal.factor base (-e)
    let x := Dyadic.rounded w num den
    if w.limit < x.exponent + w.bits then (.infinite, true)
    else (.finite x, x.mantissa < Decimal.factor 2 (w.bits - 1 : Nat) && x.num * den != num * x.den)

/-- The characters of some word in front of a text, in small or large letters; what follows. -/
def behindWord? (word : String) (s : List Char) : Option (List Char) :=
  if (s.take word.length).map Char.toLower = word.toList then some (s.drop word.length) else none

/-- A quantity without a sign in front of a text. -/
def readUnsigned (w : Dyadic.Width) (s : List Char) : Option (Quantity × List Char × Bool) :=
  match behindWord? "infinity" s, behindWord? "inf" s, behindWord? "nan" s with
  | some rest, _, _ => some (.infinite, rest, false)
  | _, some rest, _ => some (.infinite, rest, false)
  | _, _, some rest =>
    let isInside := fun c => c.isAlphanum || c == '_'
    match rest with
    | '(' :: inside =>
      match inside.dropWhile isInside with
      | ')' :: behind => some (.undefined, behind, false)
      | _ => some (.undefined, rest, false)
    | rest => some (.undefined, rest, false)
  | none, none, none =>
    let sixteen := match s with
      | '0' :: x :: rest => if x = 'x' ∨ x = 'X' then mantissa? 16 sixteenfold? rest else none
      | _ => none
    match sixteen, mantissa? 10 tenfold? s with
    | some (n, places, rest), _ =>
      let (e, rest) := exponent 'p' 'P' rest
      let (q, outside) := scaled w 2 n (e - 4 * (places : Int))
      some (q, rest, outside)
    | none, some (n, places, rest) =>
      let (e, rest) := exponent 'e' 'E' rest
      let (q, outside) := scaled w 10 n (e - (places : Int))
      some (q, rest, outside)
    | none, none => none

/-- The quantity in front of a text, blanks and a sign before it included. -/
def read (w : Dyadic.Width) (s : List Char) : Option Spelled :=
  let isBlank := fun (c : Char) => c == ' ' || (9 ≤ c.toNat && c.toNat ≤ 13)
  let (negative, s) := match s.dropWhile isBlank with
    | '-' :: s => (true, s)
    | '+' :: s => (false, s)
    | s => (false, s)
  (readUnsigned w s).map fun (q, rest, outside) => ⟨negative, q, rest, outside⟩

end Quantity

end Testbench
