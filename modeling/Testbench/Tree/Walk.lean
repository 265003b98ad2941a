import Testbench.FileError
import Testbench.Tree

/-!
# Walking along paths

A path is walked name by name, and links on the way are followed.

- `Tree.Place`: where a walk ends: at an entry, or at a free place in a directory.
- `Tree.stroll`: the walk up to its end or to the first link that it has to follow.
- `Tree.walk`: the whole walk; at most forty links are followed.
- `Tree.find`: the place a path leads to, every link followed.
- `Tree.parting`: the directory of the last name of a path, and that name.
- `Tree.isFile`, `Tree.isDir`, `Tree.has`: what stands where a path leads.
-/

namespace Testbench

namespace Tree

/-- Where a walk ends. -/
inductive Place where
  /-- At an entry. -/
  | found (l : Location)
  /-- At a free place in a directory, by the last name of the path. -/
  | vacant (l : Location)
  deriving DecidableEq, Repr

/-- How far a walk comes without following a link. -/
inductive Leg where
  /-- To its end. -/
  | done (r : Except FileError Place)
  /-- To a link in the directory `base`, with the names left behind it. -/
  | link (base : Location) (target : String) (left : List String)

/-- The most octets in a name. -/
def nameLimit : Nat := 255

/-- The number of octets from which on a path is too long. -/
def pathLimit : Nat := 4096

/-- The number of links that one walk follows. -/
def linkLimit : Nat := 40

/-- The walk from a directory along some names, up to its end or to the first link that it has
to follow. A link under the last name is only followed if `last` says so. -/
def stroll (t : Tree) (last : Bool) : Location → List String → Leg
  | base, [] => .done (.ok (.found base))
  | base, n :: ns =>
    if n = "." then stroll t last base ns
    else if n = ".." then stroll t last base.dropLast ns
    else if nameLimit < n.utf8ByteSize then .done (.error .nameTooLong)
    else match t.get? (base ++ [n]) with
      | none => .done (if ns = [] then .ok (.vacant (base ++ [n])) else .error .missing)
      | some .dir => stroll t last (base ++ [n]) ns
      | some (.link target) =>
        if ns = [] ∧ last = false then .done (.ok (.found (base ++ [n])))
        else .link base target ns
      | some _ => .done (if ns = [] then .ok (.found (base ++ [n])) else .error .notDirectory)

/-- The walk from a directory along some names, on which `links` more links may be followed, and
how many may still be followed at its end. -/
def walk (t : Tree) (last : Bool) : (links : Nat) → Location → List String →
    Except FileError (Nat × Place)
  | links, base, ns =>
    match stroll t last base ns with
    | .done r => r.map (links, ·)
    | .link base target left =>
      match links with
      | 0 => .error .tooManyLinks
      | links + 1 =>
        if target = "" then .error .missing
        else walk t last links (if Path.isAbsolute target then [] else base)
          (Path.steps target ++ left)

/-- The place where walks along a path start. -/
def start (t : Tree) (path : String) : Location := if Path.isAbsolute path then [] else t.here

/-- What is wrong with the text of a path, whatever the tree holds. -/
def pathFault? (path : String) : Option FileError :=
  if '\x00' ∈ path.toList then some .nulInName
  else if path = "" then some .missing
  else if pathLimit ≤ path.utf8ByteSize then some .nameTooLong
  else none

/-- A result that only stands if nothing is wrong with the text of the path. -/
def checked {α : Type} (path : String) (r : Except FileError α) : Except FileError α :=
  match pathFault? path with
  | some e => .error e
  | none => r

/-- The entry's place that a path leads to, every link followed. -/
def find (t : Tree) (path : String) : Except FileError Location :=
  checked path <|
    match walk t true linkLimit (t.start path) (Path.steps path) with
    | .ok (_, .found l) => .ok l
    | .ok (_, .vacant _) => .error .missing
    | .error e => .error e

/-- The entry that a path leads to, every link followed. -/
def entry? (t : Tree) (path : String) : Option Entry :=
  match t.find path with
  | .ok l => t.get? l
  | .error _ => none

/-- The path leads to something. -/
def has (t : Tree) (path : String) : Bool := (t.entry? path).isSome

/-- The path leads to a directory. -/
def isDir (t : Tree) (path : String) : Bool := (t.entry? path).any Entry.isDir

/-- The path leads to a regular file. -/
def isFile (t : Tree) (path : String) : Bool := (t.entry? path).any Entry.isFile

/-! ## The last name of a path -/

/-- The last name of a path that is walked from some place, and the directory that it is to be
looked up in, links on the way there followed; `none` in place of the name where the path ends in
`.` or `..` or has no name. In front stands how many of `links` more links may still be
followed. -/
def partingFrom (t : Tree) (links : Nat) (base : Location) (path : String) :
    Except FileError (Nat × Location × Option String) :=
  checked path <|
    let ns := Path.names path
    -- the step `.` behind the names asks for a directory
    match walk t true links base (ns.dropLast ++ ["."]) with
    | .ok (links, .found base) =>
      match ns.getLast? with
      | none => .ok (links, base, none)
      | some n =>
        if n = "." ∨ n = ".." then .ok (links, base, none)
        else if nameLimit < n.utf8ByteSize then .error .nameTooLong
        else .ok (links, base, some n)
    | .ok (_, .vacant _) => .error .missing
    | .error e => .error e

/-- The last name of a path and the directory that it is to be looked up in, links on the way
there followed; `none` in place of the name where the path ends in `.` or `..` or has no name. -/
def parting (t : Tree) (path : String) : Except FileError (Location × Option String) :=
  (t.partingFrom linkLimit (t.start path) path).map Prod.snd

end Tree

end Testbench
