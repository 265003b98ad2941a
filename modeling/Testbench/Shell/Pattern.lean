/-!
# Patterns

The patterns that the arms of a case, the names of files and the ends of values are chosen by. All
texts are rows of octets.

- `Shell.Cell`: a character, and whether it is quoted; quoted ones stand for themselves.
- `Shell.Glyph`: a character, any of some characters, or any text.
- `Shell.glyphs`: the pattern that characters make.
- `Shell.isMatch`: whether a text as a whole has the form of a pattern.

Part of the host that `Executor.host` follows; no result on runs depends on it.
-/

namespace Testbench

namespace Shell

/-- A character, and whether it is quoted. -/
abbrev Cell := Char × Bool

/-- A part of the set between brackets. -/
inductive Member where
  | range (low high : Char)
  /-- The characters of a class, by its name. -/
  | kind (name : String)
  deriving DecidableEq, Repr

/-- A part of a pattern. -/
inductive Glyph where
  | one (c : Char)
  /-- Any single character. -/
  | anyChar
  /-- Any text, the empty one included. -/
  | anyText
  /-- A single character among some, or none of them. -/
  | among (members : List Member) (inside : Bool)
  deriving DecidableEq, Repr

/-! ## Classes of characters -/

/-- A mark that is printed and is neither a letter nor a digit. -/
def isPunctuation (c : Char) : Bool := 0x20 < c.toNat && c.toNat < 0x7F && !c.isAlphanum

/-- One of the six blanks. -/
def isSpace (c : Char) : Bool := c == ' ' || (9 ≤ c.toNat && c.toNat ≤ 13)

/-- A digit of a number in base sixteen. -/
def isHexDigit (c : Char) : Bool :=
  c.isDigit || ('a' ≤ c && c ≤ 'f') || ('A' ≤ c && c ≤ 'F')

/-- The names of the classes, and the characters in them; no octet beyond the first 128 is in
any. -/
def classes : List (String × (Char → Bool)) :=
  [("alnum", Char.isAlphanum), ("cntrl", fun c => c.toNat < 0x20 || c.toNat == 0x7F),
   ("lower", Char.isLower), ("space", isSpace), ("alpha", Char.isAlpha), ("digit", Char.isDigit),
   ("print", fun c => 0x20 ≤ c.toNat && c.toNat < 0x7F), ("upper", Char.isUpper),
   ("blank", fun c => c == ' ' || c == '\t'), ("graph", fun c => 0x20 < c.toNat && c.toNat < 0x7F),
   ("punct", isPunctuation), ("xdigit", isHexDigit)]

/-- The number of an octet in ranges, where the upper half of all octets comes first. -/
def rank (c : Char) : Int := if c.toNat < 0x80 then c.toNat else (c.toNat : Int) - 0x100

/-- The character belongs to the part of the set. -/
def Member.holds (c : Char) : Member → Bool
  | range low high => rank low ≤ rank c && rank c ≤ rank high
  | kind name => ((classes.lookup name).map (· c)).getD false

/-! ## Brackets -/

/-- The class that is named in front, as it stands between brackets, and what follows it. -/
def readClass (cs : List Cell) : Option (String × List Cell) :=
  classes.findSome? fun (name, _) =>
    let sign := (":" ++ name ++ ":]").toList
    if (cs.take sign.length) = sign.map (·, false) then some (name, cs.drop sign.length) else none

/-- The set behind an opening bracket up to its closing one, and what follows. The first member may
be a closing bracket; none if the set has no end. -/
def readMembers : (fuel : Nat) → (first : Bool) → (read : List Member) → List Cell →
    Option (List Member × List Cell)
  | 0, _, _, _ => none
  | _ + 1, _, _, [] => none
  | fuel + 1, first, read, (c, quoted) :: cs =>
    if c = ']' && !quoted && !first then some (read.reverse, cs)
    else match if c = '[' && !quoted then readClass cs else none with
      | some (name, cs) => readMembers fuel false (.kind name :: read) cs
      | none =>
        match cs with
        | ('-', false) :: (d, quoted) :: rest =>
          if d = ']' && !quoted then readMembers fuel false (.range c c :: read) cs
          else readMembers fuel false (.range c d :: read) rest
        | cs => readMembers fuel false (.range c c :: read) cs

/-- The set behind an opening bracket, and what follows its closing one. -/
def bracket? (cs : List Cell) : Option (Glyph × List Cell) :=
  let (inside, members) := match cs with
    | ('!', false) :: members => (false, members)
    | members => (true, members)
  (readMembers (members.length + 1) true [] members).map fun (ms, rest) =>
    (.among ms inside, rest)

/-! ## Patterns -/

/-- Characters in which those are quoted that stand behind a backslash. -/
def resolve : List Cell → List Cell
  | ('\\', false) :: (c, _) :: cs => (c, true) :: resolve cs
  | c :: cs => c :: resolve cs
  | [] => []

/-- The pattern that characters make; `fuel` bounds their number. -/
def glyphsWithin : (fuel : Nat) → List Cell → List Glyph
  | 0, _ => []
  | _ + 1, [] => []
  | fuel + 1, (c, true) :: cs => .one c :: glyphsWithin fuel cs
  | fuel + 1, (c, false) :: cs =>
    if c = '*' then .anyText :: glyphsWithin fuel cs
    else if c = '?' then .anyChar :: glyphsWithin fuel cs
    else match if c = '[' then bracket? cs else none with
      | some (g, rest) => g :: glyphsWithin fuel rest
      | none => .one c :: glyphsWithin fuel cs

/-- The pattern that characters make. -/
def glyphs (cs : List Cell) : List Glyph := glyphsWithin (cs.length + 1) (resolve cs)

/-- One of the ends of the text has the property. -/
def anyEnd (p : List Char → Bool) : List Char → Bool
  | [] => p []
  | c :: s => p (c :: s) || anyEnd p s

/-- The text as a whole has the form of the pattern. -/
def isMatch : List Glyph → List Char → Bool
  | [], s => s.isEmpty
  | .anyText :: ps, s => anyEnd (isMatch ps) s
  | .anyChar :: ps, _ :: s => isMatch ps s
  | .one c :: ps, d :: s => c == d && isMatch ps s
  | .among members inside :: ps, d :: s =>
    members.any (·.holds d) == inside && isMatch ps s
  | _ :: _, [] => false

/-- The pattern holds a part that is no plain character. -/
def isWild (ps : List Glyph) : Bool :=
  ps.any fun
    | .one _ => false
    | _ => true

end Shell

end Testbench
