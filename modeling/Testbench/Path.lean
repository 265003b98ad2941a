/-!
# Paths

Paths are texts, shown exactly as they were put together. Their meaning is a list of names,
walked one after the other.

- `Path.join`: a path taken from another one.
- `Path.pieces`: what stands between the slashes.
- `Path.names`: the names that a walk along the path meets.
- `Path.segments`: the names whose length is limited.
- `Path.IsPlain`: a relative path of plain names.
- `Path.parent?`: the path without its last name.
-/

namespace Testbench

namespace Path

/-- A path that starts at the root. -/
def isAbsolute (p : String) : Bool := p.toList.head? = some '/'

/-- A path that ends in a slash. -/
def endsInSlash (p : String) : Bool := p.toList.getLast? = some '/'

/-- The path `p` taken from `base`. An absolute path replaces the base; otherwise one slash
stands between the two, unless the base is empty or ends in one. -/
def join (base p : String) : String :=
  if isAbsolute p then p
  else if base = "" || endsInSlash base then base ++ p
  else base ++ "/" ++ p

/-- What stands between the slashes, in order; one piece more than there are slashes. -/
def pieces (s : List Char) : List (List Char) := s.splitOn '/'

/-- The pieces of a path, put together again, are the path. -/
theorem intercalate_pieces (s : List Char) : ['/'].intercalate (pieces s) = s :=
  List.intercalate_splitOn '/'

/-- The names that a walk along the path meets, empty pieces left out. -/
def names (p : String) : List String :=
  ((pieces p.toList).filter (· ≠ [])).map String.ofList

/-- The names with a `.` behind them where the path ends in a slash: such a path only leads to a
directory. -/
def steps (p : String) : List String := names p ++ if endsInSlash p then ["."] else []

/-- The names whose length is limited: all but the `.` that stands for the place already
reached. -/
def segments (p : String) : List String := (names p).filter (· ≠ ".")

/-- A relative path of plain names: no empty piece, none that stands for a place already reached,
and none that leads back. -/
def IsPlain (p : String) : Prop :=
  ∀ piece ∈ pieces p.toList, piece ≠ [] ∧ piece ≠ ['.'] ∧ piece ≠ ['.', '.']

/-! ## The path without its last name -/

/-- A piece that names nothing. The first piece of a relative path counts as a name even if it
is a single point. -/
def isIdle (first : Bool) (piece : List Char) : Bool := piece = [] || (piece = ['.'] && !first)

/-- Pieces in reverse order without the idle ones in front; `rooted` when a slash stands before
the last of them. -/
def dropIdle (rooted : Bool) : List (List Char) → List (List Char)
  | [] => []
  | piece :: rest =>
    if isIdle (rest.isEmpty && !rooted) piece then dropIdle rooted rest else piece :: rest

/-- The path without its last name and without the idle pieces around it; `none` where there is
no name. -/
def parent? (p : String) : Option String :=
  let rooted := isAbsolute p
  let body := if rooted then (pieces p.toList).drop 1 else pieces p.toList
  match dropIdle rooted body.reverse with
  | [] => none
  | _ :: before =>
    let kept := ['/'].intercalate (dropIdle rooted before).reverse
    some (String.ofList (if rooted then '/' :: kept else kept))

end Path

end Testbench
