import Testbench.Json.Reader
import Testbench.Toml

/-!
# Texts in TOML

The four kinds of quoted text. A reader starts behind the opening quotes and gives back the text
and what follows the closing quotes; the characters read so far are handed on in reverse order.

- `Toml.readEscape`: the character that an escape stands for.
- `Toml.readBasic`, `Toml.readLiteral`: texts on one line.
- `Toml.readBasicLines`, `Toml.readLiteralLines`: texts over several lines.
- `Toml.readText?`: a text of any kind, from its opening quotes on.
-/

namespace Testbench

namespace Toml

/-- Blanks within a line. -/
def isBlank (c : Char) : Bool := c == ' ' || c == '\t'

/-- A control character that may stand nowhere but in a line end; the tab is none of them. -/
def isControl (c : Char) : Bool := (c.toNat < 0x20 && c != '\t') || c.toNat == 0x7F

/-- What follows a line end, if there is one in front. -/
def lineEnd? : List Char → Option (List Char)
  | '\n' :: rest => some rest
  | '\r' :: '\n' :: rest => some rest
  | _ => none

/-! ## Escapes -/

/-- The number of so many hexadecimal digits in front, and what follows them. -/
def hexRun : (count value : Nat) → List Char → Option (Nat × List Char)
  | 0, value, s => some (value, s)
  | _ + 1, _, [] => none
  | count + 1, value, c :: s =>
    match Json.hexValue? c with
    | some d => hexRun count (value * 16 + d) s
    | none => none

/-- The character with the number spelled by so many hexadecimal digits. -/
def hexChar (count : Nat) (s : List Char) : Option (Char × List Char) :=
  match hexRun count 0 s with
  | some (n, rest) => if n.isValidChar then some (Char.ofNat n, rest) else none
  | none => none

/-- The character that an escape stands for; the text starts behind the backslash. -/
def readEscape : List Char → Option (Char × List Char)
  | [] => none
  | c :: s =>
    if c = 'b' then some ('\x08', s)
    else if c = 't' then some ('\t', s)
    else if c = 'n' then some ('\n', s)
    else if c = 'f' then some ('\x0c', s)
    else if c = 'r' then some ('\r', s)
    else if c = '"' then some ('"', s)
    else if c = '\\' then some ('\\', s)
    else if c = 'e' then some ('\x1b', s)
    else if c = 'x' then hexChar 2 s
    else if c = 'u' then hexChar 4 s
    else if c = 'U' then hexChar 8 s
    else none

/-! ## Texts on one line -/

/-- A text up to its closing double quote, escapes resolved. -/
def readBasic : (fuel : Nat) → (read : List Char) → List Char → Option (String × List Char)
  | 0, _, _ => none
  | _ + 1, _, [] => none
  | fuel + 1, read, c :: s =>
    if c = '"' then some (String.ofList read.reverse, s)
    else if c = '\\' then
      match readEscape s with
      | some (c, s) => readBasic fuel (c :: read) s
      | none => none
    else if isControl c then none
    else readBasic fuel (c :: read) s

/-- A text up to its closing single quote, taken as it stands. -/
def readLiteral : (read : List Char) → List Char → Option (String × List Char)
  | _, [] => none
  | read, c :: s =>
    if c = '\'' then some (String.ofList read.reverse, s)
    else if isControl c then none
    else readLiteral (c :: read) s

/-! ## Texts over several lines -/

/-- The text behind a line end in front. -/
def afterLineEnd (s : List Char) : List Char := (lineEnd? s).getD s

/-- The number of quotes in front, at most five: three close a text, and two may belong to it. -/
def quoteRun (q : Char) (s : List Char) : Nat := ((s.takeWhile (· == q)).take 5).length

/-- All blanks and line ends in front are left out; a lone carriage return stays. -/
def skipLines : (fuel : Nat) → List Char → List Char
  | 0, s => s
  | fuel + 1, s =>
    match lineEnd? s with
    | some rest => skipLines fuel rest
    | none =>
      match s with
      | c :: rest => if isBlank c then skipLines fuel rest else s
      | [] => []

/-- The first character of what is left may stand in a text over several lines, where line ends are
kept as they are written. -/
def belongs (s : List Char) : Bool := (lineEnd? s).isSome || !s.head?.any isControl

/-- A text up to its three closing double quotes, escapes resolved. A backslash at the end of a
line joins it to the next text that is not blank. -/
def readBasicLines : (fuel : Nat) → (read : List Char) → List Char → Option (String × List Char)
  | 0, _, _ => none
  | _ + 1, _, [] => none
  | fuel + 1, read, c :: s =>
    if c = '"' then
      let run := quoteRun '"' (c :: s)
      if 3 ≤ run then
        some (String.ofList (List.replicate (run - 3) '"' ++ read).reverse, (c :: s).drop run)
      else readBasicLines fuel (c :: read) s
    else if c = '\\' then
      match lineEnd? (s.dropWhile isBlank) with
      | some rest => readBasicLines fuel read (skipLines fuel rest)
      | none =>
        match readEscape s with
        | some (c, s) => readBasicLines fuel (c :: read) s
        | none => none
    else if belongs (c :: s) then readBasicLines fuel (c :: read) s
    else none

/-- A text up to its three closing single quotes, taken as it stands. -/
def readLiteralLines : (fuel : Nat) → (read : List Char) → List Char →
    Option (String × List Char)
  | 0, _, _ => none
  | _ + 1, _, [] => none
  | fuel + 1, read, c :: s =>
    if c = '\'' then
      let run := quoteRun '\'' (c :: s)
      if 3 ≤ run then
        some (String.ofList (List.replicate (run - 3) '\'' ++ read).reverse, (c :: s).drop run)
      else readLiteralLines fuel (c :: read) s
    else if belongs (c :: s) then readLiteralLines fuel (c :: read) s
    else none

/-- A text of any kind, from its opening quotes on. -/
def readText? (fuel : Nat) : List Char → Option (String × List Char)
  | '"' :: '"' :: '"' :: s => readBasicLines fuel [] (afterLineEnd s)
  | '"' :: s => readBasic fuel [] s
  | '\'' :: '\'' :: '\'' :: s => readLiteralLines fuel [] (afterLineEnd s)
  | '\'' :: s => readLiteral [] s
  | _ => none

/-- A text on one line, from its opening quote on. -/
def readLine? (fuel : Nat) : List Char → Option (String × List Char)
  | '"' :: s => readBasic fuel [] s
  | '\'' :: s => readLiteral [] s
  | _ => none

end Toml

end Testbench
