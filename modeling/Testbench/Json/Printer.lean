import Testbench.Json

/-!
# Writing JSON

One printer serves both forms in use: a layout says what stands before a member of a container
and before the bracket that closes it, and what follows a key.

- `Json.Layout`: the layouts `compact` and `pretty`.
- `Json.escape`: the written form of one character of a text.
- `Json.write`: the characters of a value at a depth.
- `Json.compact`, `Json.pretty`: the text of a value.
-/

namespace Testbench

namespace Json

/-- What stands between the tokens of a value. -/
structure Layout where
  /-- Before a member at this depth, and before a closing bracket at this depth. -/
  gap : Nat → List Char
  /-- Between a key and its value. -/
  colon : List Char

/-- Everything on one line, without a blank. -/
def Layout.compact : Layout := ⟨fun _ => [], [':']⟩

/-- A line for each member, indented by two blanks for each depth. -/
def Layout.pretty : Layout := ⟨fun depth => '\n' :: List.replicate (2 * depth) ' ', [':', ' ']⟩

/-! ## Texts and numbers -/

/-- A lower-case hexadecimal digit for a number below sixteen. -/
def hexDigit (n : Nat) : Char := Nat.digitChar n

/-- The written form of one character. Only quotes, backslashes and the control characters
below the blank are escaped. -/
def escape (c : Char) : List Char :=
  if c = '"' then ['\\', '"']
  else if c = '\\' then ['\\', '\\']
  else if c = '\x08' then ['\\', 'b']
  else if c = '\x0c' then ['\\', 'f']
  else if c = '\n' then ['\\', 'n']
  else if c = '\r' then ['\\', 'r']
  else if c = '\t' then ['\\', 't']
  else if c.toNat < 0x20 then
    ['\\', 'u', '0', '0', hexDigit (c.toNat / 16), hexDigit (c.toNat % 16)]
  else [c]

/-- A text in quotes. -/
def quoted (s : String) : List Char := '"' :: (s.toList.flatMap escape ++ ['"'])

/-- The digits of a natural number. -/
def digits (n : Nat) : List Char := Nat.toDigits 10 n

/-- The characters of a number. A power of ten always carries its sign. -/
def Numeral.write (n : Numeral) : List Char :=
  (if n.negative then ['-'] else []) ++ digits n.whole ++
    (if n.places.isEmpty then [] else '.' :: n.places.map fun d => Nat.digitChar d.val) ++
    match n.exponent with
    | none => []
    | some e => 'e' :: (if e < 0 then '-' else '+') :: digits e.natAbs

/-! ## Values -/

mutual

/-- The characters of a value that stands at a depth. -/
def write (layout : Layout) (depth : Nat) : Json → List Char
  | .null => ['n', 'u', 'l', 'l']
  | .bool true => ['t', 'r', 'u', 'e']
  | .bool false => ['f', 'a', 'l', 's', 'e']
  | .number n => n.write
  | .string s => quoted s
  | .array [] => ['[', ']']
  | .array (j :: js) =>
    '[' :: (layout.gap (depth + 1) ++ write layout (depth + 1) j ++
      writeItems layout (depth + 1) js ++ layout.gap depth ++ [']'])
  | .object [] => ['\x7b', '\x7d']
  | .object ((key, j) :: ms) =>
    '\x7b' :: (layout.gap (depth + 1) ++ quoted key ++ layout.colon ++
      write layout (depth + 1) j ++ writeMembers layout (depth + 1) ms ++
      layout.gap depth ++ ['\x7d'])

/-- The further items of an array, each behind a comma. -/
def writeItems (layout : Layout) (depth : Nat) : List Json → List Char
  | [] => []
  | j :: js => ',' :: (layout.gap depth ++ write layout depth j ++ writeItems layout depth js)

/-- The further members of an object, each behind a comma. -/
def writeMembers (layout : Layout) (depth : Nat) : List (String × Json) → List Char
  | [] => []
  | (key, j) :: ms =>
    ',' :: (layout.gap depth ++ quoted key ++ layout.colon ++ write layout depth j ++
      writeMembers layout depth ms)

end

/-- The value on one line. -/
def compact (j : Json) : String := String.ofList (write .compact 0 j)

/-- The value with a line for each member. -/
def pretty (j : Json) : String := String.ofList (write .pretty 0 j)

end Json

end Testbench
