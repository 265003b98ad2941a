import Testbench.Shell.Pattern
import Testbench.Text.Octets

/-!
# Regular expressions

Forms of texts that are searched for in lines. Of all places where a text of the form begins the
first one counts, and of all texts that begin there the longest.

- `Utility.Regex`: a form of texts.
- `Utility.Regex.ends`: where the texts of a form end that begin at a place, the longest first.
- `Utility.Regex.find?`: the first and longest text of a form.
- `Utility.Regex.folded`: a form in which the case of letters does not count.

Part of the host that `Executor.host` follows; no result on runs depends on it.
-/

namespace Testbench

namespace Utility

open Shell Text

/-- A place between two characters. -/
inductive Edge where
  | textStart
  | textEnd
  | lineStart
  | lineEnd
  | wordStart
  | wordEnd
  /-- The start or the end of a word. -/
  | wordEdge
  | noWordEdge
  /-- No part of a word stands in front. -/
  | clearBefore
  /-- No part of a word follows. -/
  | clearAfter
  deriving DecidableEq, Repr

/-- A form of texts. -/
inductive Regex where
  | void
  /-- A single character among some, or none of them. -/
  | among (members : List Member) (inside : Bool)
  | both (a b : Regex)
  | either (a b : Regex)
  /-- A part that can be referred to by its number. -/
  | group (n : Nat) (a : Regex)
  | times (a : Regex) (least : Nat) (most : Option Nat)
  /-- What a numbered part stood for, once more. -/
  | again (n : Nat)
  | here (edge : Edge)
  deriving Repr

/-- A place that was reached, and where the numbered parts on the way begin and end. -/
structure Reach where
  place : Nat
  groups : List (Nat × Nat × Nat) := []
  deriving DecidableEq, Repr

namespace Regex

/-- A single character. -/
def one (c : Char) : Regex := among [.range c c] true

/-- Any single character. -/
def anyOne : Regex := among [] false

/-- A letter, a digit or an underscore. -/
def isWordChar (c : Char) : Bool := c.isAlphanum || c = '_'

/-! ## Matching -/

/-- Places in order, the farthest first, each of them once. -/
def arranged (all : List Reach) : List Reach :=
  match all with
  | [] => []
  | [p] => [p]
  | all =>
    let sorted := all.mergeSort fun p q => q.place ≤ p.place
    sorted.foldr (fun p rest =>
      match rest with
      | q :: rest => if p.place = q.place then p :: rest else p :: q :: rest
      | [] => [p]) []

/-- The character stands in the set. -/
def admits (members : List Member) (inside : Bool) (c : Char) : Bool :=
  members.any (·.holds c) = inside

/-- How many characters from a place on stand in a set; `fuel` bounds it. -/
def run (test : Char → Bool) (text : Array Char) : (fuel place : Nat) → Nat
  | 0, _ => 0
  | fuel + 1, place =>
    match text[place]? with
    | some c => if test c then run test text fuel (place + 1) + 1 else 0
    | none => 0

/-- There is an edge at the place. -/
def isEdge (text : Array Char) (place : Nat) (e : Edge) : Bool :=
  let before := if place = 0 then none else text[place - 1]?
  let after := text[place]?
  let left := before.any isWordChar
  let right := after.any isWordChar
  match e with
  | .textStart => before.isNone
  | .textEnd => after.isNone
  | .lineStart => before.isNone || before = some '\n'
  | .lineEnd => after.isNone || after = some '\n'
  | .wordStart => !left && right
  | .wordEnd => left && !right
  | .wordEdge => left != right
  | .noWordEdge => left == right
  | .clearBefore => !left
  | .clearAfter => !right

/-- All places that repeated steps lead to, no place visited twice; `fuel` bounds the steps. -/
def explore (step : Reach → List Reach) : (fuel : Nat) → (todo found : List Reach) → List Reach
  | 0, _, found => found
  | _ + 1, [], found => found
  | fuel + 1, p :: todo, found =>
    if found.any (·.place = p.place) then explore step fuel todo found
    else explore step fuel (step p ++ todo) (p :: found)

/-- Where the texts of a form end that begin at a place, the farthest first. -/
def ends (text : Array Char) : Regex → Reach → List Reach
  | void, p => [p]
  | among members inside, p =>
    match text[p.place]? with
    | some c => if admits members inside c then [{ p with place := p.place + 1 }] else []
    | none => []
  | both a b, p => arranged ((ends text a p).flatMap fun q => ends text b q)
  | either a b, p => arranged (ends text a p ++ ends text b p)
  | group n a, p =>
    (ends text a p).map fun q =>
      { q with groups := (n, p.place, q.place) :: q.groups.filter (·.1 ≠ n) }
  | times (among members inside) least most, p =>
    let found := run (admits members inside) text (text.size - p.place) p.place
    let found := match most with
      | some most => min found most
      | none => found
    (List.range (found + 1 - least)).reverse.map fun n => { p with place := p.place + least + n }
  | times a least most, p =>
    let step := fun q => ends text a q
    let start := least.repeat (fun ps => arranged (ps.flatMap step)) [p]
    match most with
    | some most =>
      (most - least).repeat (fun ps => arranged (ps.flatMap (fun q => step q ++ [q]))) start
    | none => arranged (explore step ((text.size + 2) * (text.size + 2)) start []).reverse
  | again n, p =>
    match p.groups.lookup n with
    | some (first, last) =>
      let part := text.extract first last
      if text.extract p.place (p.place + part.size) = part then
        [{ p with place := p.place + part.size }]
      else []
    | none => []
  | here e, p => if isEdge text p.place e then [p] else []

/-- A text of a form, with the places where it and its numbered parts begin and end. -/
structure Found where
  start : Nat
  stop : Nat
  groups : List (Nat × Nat × Nat)
  deriving Repr

/-- The first and longest text of a form that begins at a place or behind it; `fuel` bounds how far
behind. -/
def findFrom (r : Regex) (text : Array Char) : (fuel place : Nat) → Option Found
  | 0, _ => none
  | fuel + 1, place =>
    match (ends text r ⟨place, []⟩).head? with
    | some q => some ⟨place, q.place, q.groups⟩
    | none => findFrom r text fuel (place + 1)

/-- The first and longest text of a form that begins at a place or behind it. -/
def find? (r : Regex) (text : Array Char) (place : Nat) : Option Found :=
  findFrom r text (text.size + 1 - place) place

/-! ## Letters of either case -/

/-- The members of a set, and those that differ from them in case only. -/
def foldedMembers (members : List Member) : List Member :=
  let letters := (List.range 26).flatMap fun i => [Char.ofNat (65 + i), Char.ofNat (97 + i)]
  let isIn := fun (c : Char) => members.any (·.holds c)
  members ++ (letters.filter fun c => isIn c.toLower || isIn c.toUpper).map fun c => .range c c

/-- The form in which the case of letters does not count. -/
def folded : Regex → Regex
  | among members inside => among (foldedMembers members) inside
  | both a b => both (folded a) (folded b)
  | either a b => either (folded a) (folded b)
  | group n a => group n (folded a)
  | times a least most => times (folded a) least most
  | r => r

/-- The form in which the ends of a text are those of any line in it. -/
def byLine : Regex → Regex
  | here .textStart => here .lineStart
  | here .textEnd => here .lineEnd
  | both a b => both (byLine a) (byLine b)
  | either a b => either (byLine a) (byLine b)
  | group n a => group n (byLine a)
  | times a least most => times (byLine a) least most
  | r => r

end Regex

end Utility

end Testbench
