import Testbench.Json
import Testbench.Text.DecimalDigit

/-!
# Reading JSON

The grammar of JSON as a reader: it takes a value from the front of a list of characters and
gives back what is left. It accepts every text of the grammar, whatever its layout.

- `Json.readChars`: the rest of a quoted text, escapes resolved.
- `Json.Numeral.read`: a number.
- `Json.readValue`: a value, with fuel for the nesting and the number of members.
- `Json.read`: the value that a whole text spells.
-/

namespace Testbench

namespace Json

/-- The four blanks of the grammar. -/
def isGap (c : Char) : Bool := c == ' ' || c == '\t' || c == '\n' || c == '\r'

/-- A text without the blanks in front of it. -/
def skipGaps (s : List Char) : List Char := s.dropWhile isGap

/-! ## Texts -/

/-- The value of a hexadecimal digit in either case. -/
def hexValue? (c : Char) : Option Nat :=
  if '0' ≤ c ∧ c ≤ '9' then some (c.toNat - 48)
  else if 'a' ≤ c ∧ c ≤ 'f' then some (c.toNat - 87)
  else if 'A' ≤ c ∧ c ≤ 'F' then some (c.toNat - 55)
  else none

/-- The value of four hexadecimal digits. -/
def hexWord? (a b c d : Char) : Option Nat := do
  let a ← hexValue? a
  let b ← hexValue? b
  let c ← hexValue? c
  let d ← hexValue? d
  return ((a * 16 + b) * 16 + c) * 16 + d

/-- The character that stands for a letter after a backslash. -/
def unescape? (c : Char) : Option Char :=
  if c = '"' then some '"'
  else if c = '\\' then some '\\'
  else if c = '/' then some '/'
  else if c = 'b' then some '\x08'
  else if c = 'f' then some '\x0c'
  else if c = 'n' then some '\n'
  else if c = 'r' then some '\r'
  else if c = 't' then some '\t'
  else none

/-- The first half of a surrogate pair. -/
def isHighSurrogate (n : Nat) : Bool := 0xD800 ≤ n && n < 0xDC00

/-- The second half of a surrogate pair. -/
def isLowSurrogate (n : Nat) : Bool := 0xDC00 ≤ n && n < 0xE000

/-- A character put in front of a text that was read. -/
def push (c : Char) (r : List Char × List Char) : List Char × List Char := (c :: r.1, r.2)

/-- The text up to the closing quote, and what follows the quote. -/
def readChars : List Char → Option (List Char × List Char)
  | [] => none
  | c :: rest =>
    if c = '"' then some ([], rest)
    else if c = '\\' then
      match rest with
      | [] => none
      | e :: rest =>
        if e = 'u' then
          match rest with
          | a :: b :: c :: d :: rest =>
            match hexWord? a b c d with
            | none => none
            | some n =>
              if isHighSurrogate n then
                match rest with
                | '\\' :: 'u' :: a :: b :: c :: d :: rest =>
                  match hexWord? a b c d with
                  | none => none
                  | some m =>
                    if isLowSurrogate m then
                      (readChars rest).map
                        (push (Char.ofNat (0x10000 + (n - 0xD800) * 0x400 + (m - 0xDC00))))
                    else none
                | _ => none
              else if isLowSurrogate n then none
              else (readChars rest).map (push (Char.ofNat n))
          | _ => none
        else
          match unescape? e with
          | none => none
          | some c => (readChars rest).map (push c)
    else if c.toNat < 0x20 then none
    else (readChars rest).map (push c)

/-! ## Numbers -/

/-- The longest run of digits in front, and what follows it. -/
def spanDigits (s : List Char) : List Char × List Char := s.span Text.isAsciiDigit

/-- The digit that a character spells. -/
def digitOf (c : Char) : Fin 10 :=
  ⟨Text.digitValue c % 10, Nat.mod_lt _ (by decide)⟩

/-- The digits behind a point, if there is a point. -/
def readPlaces : List Char → Option (List (Fin 10) × List Char)
  | '.' :: s =>
    match spanDigits s with
    | ([], _) => none
    | (ds, rest) => some (ds.map digitOf, rest)
  | s => some ([], s)

/-- The power of ten behind an `e`, if there is one. -/
def readExponent : List Char → Option (Option Int × List Char)
  | c :: s =>
    if c = 'e' ∨ c = 'E' then
      let (negative, s) := match s with
        | '-' :: s => (true, s)
        | '+' :: s => (false, s)
        | s => (false, s)
      match spanDigits s with
      | ([], _) => none
      | (ds, rest) =>
        let n : Int := Text.numberOfDigits ds
        some (some (if negative then -n else n), rest)
    else some (none, c :: s)
  | [] => some (none, [])

/-- The digits of a whole part: a zero stands alone. -/
def readWhole (s : List Char) : Option (Nat × List Char) :=
  match s with
  | '0' :: rest => some (0, rest)
  | s =>
    match spanDigits s with
    | ([], _) => none
    | (ds, rest) => some (Text.numberOfDigits ds, rest)

/-- A number, and what follows it. -/
def Numeral.read (s : List Char) : Option (Numeral × List Char) := do
  let (negative, s) := match s with
    | '-' :: s => (true, s)
    | s => (false, s)
  let (whole, s) ← readWhole s
  let (places, s) ← readPlaces s
  let (exponent, s) ← readExponent s
  return (⟨negative, whole, places, exponent⟩, s)

/-! ## Values -/

mutual

/-- A value, and what follows it. -/
def readValue : (fuel : Nat) → List Char → Option (Json × List Char)
  | 0, _ => none
  | fuel + 1, s =>
    match skipGaps s with
    | 'n' :: 'u' :: 'l' :: 'l' :: rest => some (.null, rest)
    | 't' :: 'r' :: 'u' :: 'e' :: rest => some (.bool true, rest)
    | 'f' :: 'a' :: 'l' :: 's' :: 'e' :: rest => some (.bool false, rest)
    | '"' :: rest => (readChars rest).map fun (t, rest) => (.string (String.ofList t), rest)
    | '[' :: rest =>
      match skipGaps rest with
      | ']' :: rest => some (.array [], rest)
      | _ => do
        let (item, rest) ← readValue fuel rest
        let (items, rest) ← readItems fuel rest
        return (.array (item :: items), rest)
    | '\x7b' :: rest =>
      match skipGaps rest with
      | '\x7d' :: rest => some (.object [], rest)
      | _ => do
        let (member, rest) ← readMember fuel rest
        let (members, rest) ← readMembers fuel rest
        return (.object (member :: members), rest)
    | s => (Numeral.read s).map fun (n, rest) => (.number n, rest)

/-- The further items of an array up to its closing bracket. -/
def readItems : (fuel : Nat) → List Char → Option (List Json × List Char)
  | 0, _ => none
  | fuel + 1, s =>
    match skipGaps s with
    | ']' :: rest => some ([], rest)
    | ',' :: rest => do
      let (item, rest) ← readValue fuel rest
      let (items, rest) ← readItems fuel rest
      return (item :: items, rest)
    | _ => none

/-- A key, a colon and a value. -/
def readMember : (fuel : Nat) → List Char → Option ((String × Json) × List Char)
  | 0, _ => none
  | fuel + 1, s =>
    match skipGaps s with
    | '"' :: rest => do
      let (key, rest) ← readChars rest
      match skipGaps rest with
      | ':' :: rest =>
        let (value, rest) ← readValue fuel rest
        return ((String.ofList key, value), rest)
      | _ => none
    | _ => none

/-- The further members of an object up to its closing bracket. -/
def readMembers : (fuel : Nat) → List Char → Option (List (String × Json) × List Char)
  | 0, _ => none
  | fuel + 1, s =>
    match skipGaps s with
    | '\x7d' :: rest => some ([], rest)
    | ',' :: rest => do
      let (member, rest) ← readMember fuel rest
      let (members, rest) ← readMembers fuel rest
      return (member :: members, rest)
    | _ => none

end

/-- The value that a whole text spells, blanks around it allowed. -/
def read (s : String) : Option Json :=
  let cs := s.toList
  match readValue (cs.length + 1) cs with
  | some (j, rest) => if skipGaps rest = [] then some j else none
  | none => none

end Json

end Testbench
