import Testbench.Toml.Node
import Testbench.Toml.Scalar
import Testbench.Toml.Text

/-!
# Reading TOML

A document is a list of statements, each on lines of its own: headers of tables, headers of
elements of arrays of tables, and keys with values.

- `Toml.readKey`: a key with points in it.
- `Toml.readValue`: a value; three times its length is fuel enough.
- `Toml.readDocument`: the statements of a document.
- `Toml.read`: the table that a text spells.
- `Toml.Reader`: any way to read texts as documents.
-/

namespace Testbench

namespace Toml

/-! ## Blanks, comments and line ends -/

/-- A text without the blanks in front of it. -/
def skipBlanks (s : List Char) : List Char := s.dropWhile isBlank

/-- What follows blanks and a comment in front. A comment holds no control characters. -/
def skipComment (s : List Char) : Option (List Char) :=
  match skipBlanks s with
  | '#' :: rest =>
    let isInside := fun c => !isControl c
    let rest := rest.dropWhile isInside
    if rest = [] ∨ (lineEnd? rest).isSome then some rest else none
  | s => some s

/-- What follows the end of a line, blanks and a comment before it allowed. -/
def endLine (s : List Char) : Option (List Char) :=
  match skipComment s with
  | some [] => some []
  | some s => lineEnd? s
  | none => none

/-- What follows blanks, comments and line ends in front. -/
def skipFiller : (fuel : Nat) → List Char → Option (List Char)
  | 0, s => some s
  | fuel + 1, s =>
    match skipComment s with
    | none => none
    | some s =>
      match lineEnd? s with
      | some s => skipFiller fuel s
      | none => some s

/-! ## Keys -/

/-- A character of a key without quotes. -/
def isKeyChar (c : Char) : Bool := c.isAlphanum || c == '_' || c == '-'

/-- A key without points in it. -/
def readSimpleKey (fuel : Nat) (s : List Char) : Option (String × List Char) :=
  match s.takeWhile isKeyChar with
  | [] => readLine? fuel s
  | word => some (String.ofList word, s.dropWhile isKeyChar)

/-- The most points in a key. -/
def pointLimit : Nat := 79

/-- A key with at most so many points in it: the keys before the last point, the last key, and
what follows it and the blanks behind it. -/
def readKeyWithin : (points : Nat) → (path : List String) → List Char →
    Option (List String × String × List Char)
  | points, path, s =>
    let s := skipBlanks s
    match readSimpleKey s.length s with
    | none => none
    | some (key, s) =>
      match points, skipBlanks s with
      | 0, '.' :: _ => none
      | points + 1, '.' :: s => readKeyWithin points (path ++ [key]) s
      | _, s => some (path, key, s)

/-- A key with points in it: the keys before the last point, the last key, and what follows it
and the blanks behind it. -/
def readKey (s : List Char) : Option (List String × String × List Char) :=
  readKeyWithin pointLimit [] s

/-! ## Values -/

/-- How deep arrays and tables in braces may stand in one another. -/
def nestingLimit : Nat := 80

mutual

/-- A value, and what follows it; arrays and tables may stand in one another `room` deep. -/
def readValue : (fuel room : Nat) → List Char → Option (Toml × List Char)
  | 0, _, _ => none
  | fuel + 1, room, s =>
    match s, room with
    | '"' :: _, _ => (readText? (fuel + 1) s).map fun (t, rest) => (.string t, rest)
    | '\'' :: _, _ => (readText? (fuel + 1) s).map fun (t, rest) => (.string t, rest)
    | '[' :: rest, room + 1 =>
      (readItems fuel room [] rest).map fun (items, rest) => (.array items, rest)
    | '\x7b' :: rest, room + 1 =>
      (readMembers fuel room [] rest).map fun (ns, rest) => (.table (finishMembers ns), rest)
    | s, _ => readScalar s

/-- The items of an array up to its closing bracket; those read so far come in reverse order. A
comma may stand behind the last item. -/
def readItems : (fuel room : Nat) → (read : List Toml) → List Char →
    Option (List Toml × List Char)
  | 0, _, _, _ => none
  | fuel + 1, room, read, s =>
    match skipFiller fuel s with
    | none => none
    | some (']' :: rest) => some (read.reverse, rest)
    | some s =>
      match readValue fuel room s with
      | none => none
      | some (item, s) =>
        match skipFiller fuel s with
        | some (',' :: s) => readItems fuel room (item :: read) s
        | some (']' :: s) => some ((item :: read).reverse, s)
        | _ => none

/-- The members of a table up to its closing brace, added to those read so far. A comma may stand
behind the last member. -/
def readMembers : (fuel room : Nat) → (read : Nodes) → List Char → Option (Nodes × List Char)
  | 0, _, _, _ => none
  | fuel + 1, room, read, s =>
    match skipFiller fuel s with
    | none => none
    | some ('\x7d' :: rest) => some (read, rest)
    | some s =>
      match readMember fuel room read s with
      | none => none
      | some (read, s) =>
        match skipFiller fuel s with
        | some (',' :: s) => readMembers fuel room read s
        | some ('\x7d' :: s) => some (read, s)
        | _ => none

/-- One member of a table in braces, added to those read so far, and what follows it. -/
def readMember : (fuel room : Nat) → (read : Nodes) → List Char → Option (Nodes × List Char)
  | 0, _, _, _ => none
  | fuel + 1, room, read, s =>
    match readKey s with
    | none => none
    | some (path, key, s) =>
      match skipFiller fuel s with
      | some ('=' :: s) =>
        match skipFiller fuel s with
        | none => none
        | some s =>
          match readValue fuel room s with
          | none => none
          | some (v, s) => (addValue [] path key v read).map (·, s)
      | _ => none

end

/-! ## Documents -/

/-- The statements of a document, carried out on what was built so far; `path` leads to the table
of the last header. -/
def readDocument : (fuel : Nat) → (path : List String) → Nodes → List Char → Option Nodes
  | 0, _, _, _ => none
  | fuel + 1, path, ns, s =>
    match skipFiller fuel s with
    | none => none
    | some [] => some ns
    | some ('[' :: '[' :: s) =>
      match readKey s with
      | some (path, key, ']' :: ']' :: s) =>
        match openElement path key ns, endLine s with
        | some ns, some s => readDocument fuel (path ++ [key]) ns s
        | _, _ => none
      | _ => none
    | some ('[' :: s) =>
      match readKey s with
      | some (path, key, ']' :: s) =>
        match openTable path key ns, endLine s with
        | some ns, some s => readDocument fuel (path ++ [key]) ns s
        | _, _ => none
      | _ => none
    | some s =>
      match readKey s with
      | some (keyPath, key, '=' :: s) =>
        match readValue fuel nestingLimit (skipBlanks s) with
        | none => none
        | some (v, s) =>
          match addValue path keyPath key v ns, endLine s with
          | some ns, some s => readDocument fuel path ns s
          | _, _ => none
      | _ => none

/-- The text behind the mark that may stand in front of a document. -/
def afterMark : List Char → List Char
  | '\uFEFF' :: s => s
  | s => s

/-- The table that a text spells. -/
def read (text : String) : Option Toml :=
  let s := afterMark text.toList
  (readDocument (3 * s.length + 3) [] [] s).map fun ns => .table (finishMembers ns)

/-! ## Readers -/

/-- How texts are read as documents. -/
structure Reader where
  /-- The document that a text spells, if it spells one. -/
  read : (text : String) → Option Toml

/-- The reader of this module. -/
def Reader.direct : Reader := ⟨Toml.read⟩

end Toml

end Testbench
