import Testbench.Json.Reader

/-!
# The grammar of JSON

Which texts spell a value, said by recursion on the value and without regard to any reader: blanks
may stand around every token, a character of a text may be written in several ways, and so may the
power of ten of a number.

- `Json.SpellsChar`, `Json.SpellsString`: the written forms of a character and of a text.
- `Json.Numeral.Spells`: the written forms of a number.
- `Json.Spells`: the written forms of a value.
-/

namespace Testbench

namespace Json

/-! ## Texts -/

/-- Blanks between tokens. -/
def IsGap (w : List Char) : Prop := ∀ c ∈ w, isGap c = true

/-- The letters that stand for a character behind a backslash, each with that character. -/
def letters : List (Char × Char) :=
  [('"', '"'), ('\\', '\\'), ('/', '/'), ('b', '\x08'), ('f', '\x0c'), ('n', '\n'), ('r', '\r'),
    ('t', '\t')]

/-- The written forms of one character of a text. -/
inductive SpellsChar : Char → List Char → Prop where
  /-- Quotes, backslashes and the control characters below the blank never stand for themselves. -/
  | plain {c : Char} (quote : c ≠ '"') (backslash : c ≠ '\\') (control : 0x20 ≤ c.toNat) :
      SpellsChar c [c]
  | letter {c e : Char} (h : (e, c) ∈ letters) : SpellsChar c ['\\', e]
  /-- Four hexadecimal digits, if they are no half of a surrogate pair. -/
  | unit {a b c d : Char} {n : Nat} (h : hexWord? a b c d = some n)
      (high : isHighSurrogate n = false) (low : isLowSurrogate n = false) :
      SpellsChar (Char.ofNat n) ['\\', 'u', a, b, c, d]
  /-- A surrogate pair. -/
  | pair {a b c d a' b' c' d' : Char} {n m : Nat} (h : hexWord? a b c d = some n)
      (h' : hexWord? a' b' c' d' = some m) (high : isHighSurrogate n = true)
      (low : isLowSurrogate m = true) :
      SpellsChar (Char.ofNat (0x10000 + (n - 0xD800) * 0x400 + (m - 0xDC00)))
        ['\\', 'u', a, b, c, d, '\\', 'u', a', b', c', d']

/-- The written forms of some characters of a text. -/
def SpellsChars : List Char → List Char → Prop
  | [], s => s = []
  | c :: cs, s => ∃ a b, SpellsChar c a ∧ SpellsChars cs b ∧ s = a ++ b

/-- The written forms of a text, in quotes. -/
def SpellsString (t : String) (s : List Char) : Prop :=
  ∃ body, SpellsChars t.toList body ∧ s = '"' :: (body ++ ['"'])

/-! ## Numbers -/

/-- Digits, and at least one of them. -/
def IsRun (ds : List Char) : Prop := ds ≠ [] ∧ ∀ c ∈ ds, Text.isAsciiDigit c = true

/-- The written form of a whole part: no zero stands in front of other digits. -/
def SpellsWhole (n : Nat) (s : List Char) : Prop :=
  IsRun s ∧ (s.head? = some '0' → s = ['0']) ∧ Text.numberOfDigits s = n

/-- The written form of the digits behind a point. -/
def SpellsPlaces (places : List (Fin 10)) (s : List Char) : Prop :=
  (places = [] ∧ s = []) ∨ ∃ ds, IsRun ds ∧ places = ds.map digitOf ∧ s = '.' :: ds

/-- The written forms of a power of ten: a mark, a sign that may be left out where it is no minus,
and digits. -/
def SpellsPower (power : Option Int) (s : List Char) : Prop :=
  (power = none ∧ s = []) ∨ ∃ mark sign ds, (mark = 'e' ∨ mark = 'E') ∧
    (sign = [] ∨ sign = ['+'] ∨ sign = ['-']) ∧ IsRun ds ∧ s = mark :: (sign ++ ds) ∧
    power = some (if sign = ['-'] then -(Text.numberOfDigits ds : Int)
      else (Text.numberOfDigits ds : Int))

/-- The written forms of a number. -/
def Numeral.Spells (n : Numeral) (s : List Char) : Prop :=
  ∃ whole places power, SpellsWhole n.whole whole ∧ SpellsPlaces n.places places ∧
    SpellsPower n.exponent power ∧
    s = (if n.negative then ['-'] else []) ++ (whole ++ (places ++ power))

/-! ## Values -/

/-- The written forms of a key with the colon behind it. -/
def SpellsKey (key : String) (s : List Char) : Prop :=
  ∃ k w w', SpellsString key k ∧ IsGap w ∧ IsGap w' ∧ s = k ++ (w ++ ':' :: w')

mutual

/-- The written forms of a value. -/
def Spells : Json → List Char → Prop
  | .null, s => s = ['n', 'u', 'l', 'l']
  | .bool true, s => s = ['t', 'r', 'u', 'e']
  | .bool false, s => s = ['f', 'a', 'l', 's', 'e']
  | .number n, s => n.Spells s
  | .string t, s => SpellsString t s
  | .array [], s => ∃ w, IsGap w ∧ s = '[' :: (w ++ [']'])
  | .array (j :: js), s => ∃ w v items w', IsGap w ∧ Spells j v ∧ SpellsItems js items ∧
      IsGap w' ∧ s = '[' :: (w ++ (v ++ (items ++ (w' ++ [']']))))
  | .object [], s => ∃ w, IsGap w ∧ s = '\x7b' :: (w ++ ['\x7d'])
  | .object ((key, j) :: ms), s => ∃ w k v members w', IsGap w ∧ SpellsKey key k ∧ Spells j v ∧
      SpellsMembers ms members ∧ IsGap w' ∧
      s = '\x7b' :: (w ++ (k ++ (v ++ (members ++ (w' ++ ['\x7d'])))))

/-- The written forms of the further items of an array, each behind a comma. -/
def SpellsItems : List Json → List Char → Prop
  | [], s => s = []
  | j :: js, s => ∃ w w' v items, IsGap w ∧ IsGap w' ∧ Spells j v ∧ SpellsItems js items ∧
      s = w ++ ',' :: (w' ++ (v ++ items))

/-- The written forms of the further members of an object, each behind a comma. -/
def SpellsMembers : List (String × Json) → List Char → Prop
  | [], s => s = []
  | (key, j) :: ms, s => ∃ w w' k v members, IsGap w ∧ IsGap w' ∧ SpellsKey key k ∧ Spells j v ∧
      SpellsMembers ms members ∧ s = w ++ ',' :: (w' ++ (k ++ (v ++ members)))

end

end Json

end Testbench
