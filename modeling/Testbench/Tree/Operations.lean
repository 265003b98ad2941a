import Testbench.Tree.Walk

/-!
# Operations on files

What can be done to a tree by way of a path. Reading, writing and making directories follow
links; removing acts on the entry that stands under the path's last name.

- `Tree.read`, `Tree.readText`, `Tree.write`: whole files.
- `Tree.makeExecutable`, `Tree.makeLink`: modes and links.
- `Tree.makeDir`, `Tree.makeDirs`: a directory, and a directory with all that lead to it.
- `Tree.removeFile`, `Tree.removeDir`, `Tree.removeAll`: removal.
- `Tree.encloses`: whether one directory holds another one.
-/

namespace Testbench

namespace Tree

/-! ## Whole files -/

/-- The octets of the file that a path leads to. -/
def read (t : Tree) (path : String) : Except FileError ByteArray :=
  match t.find path with
  | .error e => .error e
  | .ok l =>
    match t.get? l with
    | some (.file octets _) => .ok octets
    | some .dir => .error .isDirectory
    | some .faulty => .error .inputOutput
    | some .sink => .ok .empty
    | some .full => .ok .empty
    | _ => .error .missing

/-- The text of the file that a path leads to. -/
def readText (t : Tree) (path : String) : Except FileError String :=
  match t.read path with
  | .error e => .error e
  | .ok octets =>
    match String.fromUTF8? octets with
    | some s => .ok s
    | none => .error .notText

/-- The place that is written under a name in a directory, every link followed; `links` more may
be, and as much fuel is enough. A link whose target can only be a directory leads to no file. -/
def landing (t : Tree) : (fuel links : Nat) → (base : Location) → (name : String) →
    Except FileError Place
  | fuel, links, base, name =>
    match t.get? (base ++ [name]) with
    | none => .ok (.vacant (base ++ [name]))
    | some (.link target) =>
      match fuel, links with
      | fuel + 1, links + 1 =>
        match t.partingFrom links (if Path.isAbsolute target then [] else base) target with
        | .error e => .error e
        | .ok (_, _, none) => .error .isDirectory
        | .ok (links, base, some name) =>
          if Path.endsInSlash target then .error .isDirectory else landing t fuel links base name
      | _, _ => .error .tooManyLinks
    | some _ => .ok (.found (base ++ [name]))

/-- The place that is written by way of a path: a file, or a free place in a directory. A path
that can only lead to a directory is none. The links that lead to the directory and those that
lead on from the last name count together. -/
def writable (t : Tree) (path : String) : Except FileError Place :=
  match t.partingFrom linkLimit (t.start path) path with
  | .error e => .error e
  | .ok (_, _, none) => .error .isDirectory
  | .ok (links, base, some n) =>
    if Path.endsInSlash path then .error .isDirectory else t.landing links links base n

/-- The tree after the file that a path leads to is given these octets. A file that stands there
keeps its mode; a free place gets a new file. -/
def write (t : Tree) (path : String) (octets : ByteArray) : Except FileError Tree :=
  match t.writable path with
  | .error e => .error e
  | .ok (.vacant l) => .ok (t.set l (.file octets false))
  | .ok (.found l) =>
    match t.get? l with
    | some (.file _ executable) => .ok (t.set l (.file octets executable))
    | some .dir => .error .isDirectory
    | some .faulty => if octets.size = 0 then .ok t else .error .inputOutput
    | some .sink => .ok t
    | some .full => if octets.size = 0 then .ok t else .error .noSpace
    | _ => .error .missing

/-- The tree after the file that a path leads to may be run. -/
def makeExecutable (t : Tree) (path : String) : Except FileError Tree :=
  match t.find path with
  | .error e => .error e
  | .ok l =>
    match t.get? l with
    | some (.file octets _) => .ok (t.set l (.file octets true))
    | _ => .ok t

/-- The tree with one new link. -/
def makeLink (t : Tree) (path target : String) : Except FileError Tree :=
  match t.parting path with
  | .error e => .error e
  | .ok (_, none) => .error .occupied
  | .ok (base, some n) =>
    match t.get? (base ++ [n]) with
    | some _ => .error .occupied
    | none => .ok (t.set (base ++ [n]) (.link target))

/-! ## Directories -/

/-- The tree with one new directory. -/
def makeDir (t : Tree) (path : String) : Except FileError Tree :=
  match t.parting path with
  | .error e => .error e
  | .ok (_, none) => .error .occupied
  | .ok (base, some n) =>
    match t.get? (base ++ [n]) with
    | some _ => .error .occupied
    | none => .ok (t.set (base ++ [n]) .dir)

/-- The tree with one new directory; a directory that stands there already is fine. -/
def ensureDir (t : Tree) (path : String) : Except FileError Tree :=
  match t.makeDir path with
  | .ok t => .ok t
  | .error e => if t.isDir path then .ok t else .error e

/-- A directory is made and, where they are missing, the directories that lead to it; `depth`
bounds how many of them may be missing. What was made before something fails stays. -/
def makeDirsWithin (t : Tree) : (depth : Nat) → (path : String) → Except FileError Unit × Tree
  | depth, path =>
    match t.ensureDir path with
    | .ok t => (.ok (), t)
    | .error .missing =>
      match depth, Path.parent? path with
      | depth + 1, some parent =>
        if parent = "" then (.error .missing, t)
        else match makeDirsWithin t depth parent with
          | (.error e, t) => (.error e, t)
          | (.ok (), t) =>
            match t.ensureDir path with
            | .ok t => (.ok (), t)
            | .error e => (.error e, t)
      | _, _ => (.error .missing, t)
    | .error e => (.error e, t)

/-- A directory is made with all the directories that lead to it. A directory that stands there
already is fine, and nothing is to be made for an empty path. -/
def makeDirs (t : Tree) (path : String) : Except FileError Unit × Tree :=
  match Path.parent? path with
  | none => (.ok (), t)
  | some _ => t.makeDirsWithin path.length path

/-! ## Removal -/

/-- The tree without a file or link. -/
def removeFile (t : Tree) (path : String) : Except FileError Tree :=
  match t.parting path with
  | .error e => .error e
  | .ok (_, none) => .error .isDirectory
  | .ok (base, some n) =>
    match t.get? (base ++ [n]) with
    | none => .error .missing
    | some .dir => .error .isDirectory
    | some _ => .ok (t.prune (base ++ [n]))

/-- The tree without an empty directory. -/
def removeDir (t : Tree) (path : String) : Except FileError Tree :=
  match t.parting path with
  | .error e => .error e
  | .ok (_, none) => .error .invalid
  | .ok (base, some n) =>
    match t.get? (base ++ [n]) with
    | none => .error .missing
    | some .dir =>
      if t.isBare (base ++ [n]) then .ok (t.prune (base ++ [n])) else .error .notEmpty
    | some _ => .error .notDirectory

/-- The tree without a directory and all below it; of a link only the link itself goes. -/
def removeAll (t : Tree) (path : String) : Except FileError Tree :=
  match t.parting path with
  | .error e => .error e
  | .ok (_, none) => .error .invalid
  | .ok (base, some n) =>
    match t.get? (base ++ [n]) with
    | none => .error .missing
    | some .dir => .ok (t.prune (base ++ [n]))
    | some (.link _) => .ok (t.prune (base ++ [n]))
    | some _ => .error .notDirectory

/-! ## Enclosure -/

/-- The directory at `outer` is the one at `inner` or holds it. Where one of the two cannot be
found it counts as enclosing. -/
def encloses (t : Tree) (outer inner : String) : Bool :=
  match t.find outer, t.find inner with
  | .ok o, .ok i => o.isPrefixOf i
  | _, _ => true

end Tree

end Testbench
