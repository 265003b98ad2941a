import Testbench.Shell.Pattern

/-!
# Fields

The value of a word is cut into fields at blanks, but only where it came from values and not from
the script itself.

- `Shell.Spot`: a character of an expanded word, or a place where quotes stood.
- `Shell.Span`: a part of an expanded word, and where it may be cut.
- `Shell.Cutting`: the fields that were cut off so far, and the one that is being read.
- `Shell.fields`: the fields of an expanded word.

Part of the host that `Executor.host` follows; no result on runs depends on it.
-/

namespace Testbench

namespace Shell

/-- A character of an expanded word and whether it is quoted, or a place where quotes stood, which
makes a field of its own if nothing else does. -/
inductive Spot where
  | cell (c : Char) (quoted : Bool)
  | mark
  deriving DecidableEq, Repr

/-- Where a part of a word may be cut. -/
inductive Cut where
  | nowhere
  /-- Between parameters, where a NUL character stands. -/
  | atGaps
  /-- At the characters that part fields. -/
  | atBlanks
  deriving DecidableEq, Repr

/-- A part of an expanded word. -/
structure Span where
  spots : List Spot
  cut : Cut
  deriving Repr

namespace Spot

/-- A text as spots. -/
def ofText (quoted : Bool) (s : String) : List Spot := s.toList.map (cell · quoted)

/-- The characters of some spots. -/
def cells (spots : List Spot) : List Cell := spots.filterMap fun
  | cell c quoted => some (c, quoted)
  | mark => none

/-- The text of some spots. -/
def text (spots : List Spot) : String := String.ofList ((cells spots).map Prod.fst)

end Spot

/-- The text of an expanded word that is not cut. -/
def textOfSpans (spans : List Span) : String := Spot.text (spans.flatMap Span.spots)

/-- The characters of an expanded word that is not cut. -/
def cellsOfSpans (spans : List Span) : List Cell := Spot.cells (spans.flatMap Span.spots)

/-- Fields that were cut off, the last one first, and the spots of the one that is being read, in
reverse order. `blank` after a blank that parts fields, to which more blanks and one other parting
character belong; `behindGap` where parameters have just been parted. -/
structure Cutting where
  done : List (List Spot) := []
  current : List Spot := []
  blank : Bool := false
  behindGap : Bool := false

namespace Cutting

/-- The blanks that part fields where nothing else is said. -/
def usual : List Char := [' ', '\t', '\n']

/-- The field that is being read is finished. -/
def finish (k : Cutting) : Cutting :=
  { k with done := k.current.reverse :: k.done, current := [] }

/-- One spot where fields may be parted at some characters; `gaps` where only parameters are. -/
def step (parting : List Char) (gaps : Bool) (k : Cutting) (spot : Spot) : Cutting :=
  match spot with
  | .mark => { k with current := spot :: k.current, blank := false }
  | .cell c _ =>
    let isParting := c = '\x00' || parting.contains c
    let isBlank := isParting && (c = '\x00' || usual.contains c)
    let ordinary := fun (k : Cutting) (isParting : Bool) =>
      if isParting then
        let blank := !(k.behindGap || gaps) && isBlank
        -- blanks in front of a field belong to no field
        if k.current = [] && blank then { k with blank := false }
        else { k.finish with blank }
      else { k with current := spot :: k.current, blank := false }
    if k.blank then
      if isBlank then { k with current := [] }
      else if isParting then { k with current := [], blank := false }
      else ordinary { k with current := [] } false
    else ordinary k isParting

/-- One part of a word. -/
def span (parting : List Char) (k : Cutting) (s : Span) : Cutting :=
  match s.cut with
  | .nowhere => { k with current := s.spots.reverse ++ k.current }
  | .atGaps =>
    let k := s.spots.foldl (step [] true) { k with blank := false }
    { k with behindGap := true }
  | .atBlanks =>
    let k := s.spots.foldl (step parting false) { k with blank := false }
    { k with behindGap := false }

end Cutting

/-- The fields of an expanded word that is parted at some characters. -/
def fields (parting : List Char) (spans : List Span) : List (List Spot) :=
  let k := spans.foldl (Cutting.span parting) {}
  let cuts := spans.filter (·.cut ≠ .nowhere)
  let k :=
    if k.current ≠ [] || (cuts.getLast?.any (·.cut = .atGaps)) then k.finish else k
  k.done.reverse

end Shell

end Testbench
