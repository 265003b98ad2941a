import Testbench.Text.Octets
import Testbench.Tree.Operations

/-!
# Launching programs

Which program a name stands for. A program is a utility of the host, or a file that names in its
first line the program that it is to be handed to.

- `Shell.Launch`: a utility with its arguments; every program comes down to one.
- `Shell.Handing.ofOctets`: what the first line of a file says.
- `Shell.Launch.ofPath`: the program that a path leads to.
- `Shell.Launch.find`: the program that a name stands for, bare names being searched for.
- `Shell.hostWith`: the files of a host on which some utilities are installed.

Part of the host that `Executor.host` follows; no result on runs depends on it.
-/

namespace Testbench

namespace Shell

open Text

/-- A utility with its arguments. -/
structure Launch where
  utility : String
  /-- What the program was called as. -/
  called : Row
  args : List Row
  deriving DecidableEq, Repr

/-! ## First lines -/

/-- What a file is handed to: a program, and an argument in front of its own. -/
structure Handing where
  program : Row
  arg : Option Row
  deriving DecidableEq, Repr

namespace Handing

/-- So many octets of a file count. -/
def limit : Nat := 256

/-- A blank between the parts of a first line. -/
def isGap (c : Char) : Bool := c == ' ' || c == '\t'

/-- A character behind the name of a program. -/
def endsName (c : Char) : Bool := isGap c || c == '\x00'

/-- The program and the argument that a line names behind its first two characters. -/
def ofLine (line : List Char) : Option Handing :=
  let line := line.dropWhile isGap
  let name := String.ofList (line.takeWhile (!endsName ·))
  if line = [] then none
  else match line.dropWhile (!endsName ·) with
    | c :: rest =>
      let arg := rest.dropWhile isGap
      if c = '\x00' || arg = [] then some ⟨name, none⟩
      else some ⟨name, some (String.ofList (arg.takeWhile (· ≠ '\x00')))⟩
    | [] => some ⟨name, none⟩

/-- What the first line of a file says. Behind the end of a short file stand NUL characters; a line
that is too long may be cut behind the name of the program, but not within it. -/
def ofOctets (octets : ByteArray) : Option Handing :=
  let front := (rowOfBytes (octets.extract 0 limit)).toList
  let front := front ++ List.replicate (limit - front.length) '\x00'
  match front with
  | '#' :: '!' :: rest =>
    match rest.dropWhile fun c => c ≠ '\n' && c ≠ '\x00' with
    | '\n' :: _ =>
      let line := rest.takeWhile (· ≠ '\n')
      ofLine (line.reverse.dropWhile isGap).reverse
    | _ =>
      let name := rest.dropWhile isGap
      if name = [] || !name.any endsName then none else ofLine (rest.take (limit - 3))
  | _ => none

end Handing

namespace Launch

/-! ## Programs -/

/-- The program that a path leads to; `depth` bounds how often it is handed on. -/
def ofPath (t : Tree) : (depth : Nat) → (path : Row) → (args : List Row) →
    Except FileError Launch
  | depth, path, args =>
    match t.find (ofRow path) with
    | .error e => .error e
    | .ok l =>
      match t.get? l with
      | some (.utility name) => .ok ⟨name, path, args⟩
      | some (.file octets true) =>
        match depth, Handing.ofOctets octets with
        | _, none => .error .notProgram
        | 0, _ => .error .tooManyLinks
        | depth + 1, some h =>
          if h.program = "" then .error .denied
          else ofPath t depth h.program (h.arg.toList ++ path :: args)
      | _ => .error .denied

/-- How often a program is handed on. -/
def handLimit : Nat := 5

/-- The shell that runs a file that is no program. -/
def shellPath : Row := "/bin/sh"

/-- The program that a path leads to; a file that is none is handed to a shell. -/
def ofScript (t : Tree) (path : Row) (args : List Row) : Except FileError Launch :=
  match ofPath t handLimit path args with
  | .error .notProgram => ofPath t handLimit shellPath (path :: args)
  | r => r

/-- The path of a name in a directory of a search path. -/
def pathIn (dir name : Row) : Row := if dir = "" then name else dir ++ "/" ++ name

/-- The program of a bare name in some directories; `denied` after one was found that may not be
run. Files that are no programs are handed to a shell if `lenient`. -/
def search (t : Tree) (lenient : Bool) (name : Row) (args : List Row) : (denied : Bool) →
    List Row → Except FileError Launch
  | denied, [] => .error (if denied then .denied else .missing)
  | denied, dir :: dirs =>
    let path := pathIn dir name
    let found := if lenient then ofScript t path args else ofPath t handLimit path args
    match found with
    | .ok l => .ok { l with called := if l.called = path then name else l.called }
    | .error .missing => search t lenient name args denied dirs
    | .error .notDirectory => search t lenient name args denied dirs
    | .error .denied => search t lenient name args true dirs
    | .error e => .error e

/-- The directories of a search path; an empty one stands for the current directory. -/
def directories (path : Row) : List Row := path.splitOn ":"

/-- The program that a name stands for. A name with a slash is a path; a bare name is searched
for. -/
def find (t : Tree) (lenient : Bool) (searchPath name : Row) (args : List Row) :
    Except FileError Launch :=
  if name = "" then .error .missing
  else if name.toList.contains '/' then ofPath t handLimit name args
  else if Tree.nameLimit < name.length then .error .nameTooLong
  else search t lenient name args false (directories searchPath)

end Launch

/-! ## What is installed -/

/-- The search path where none is set. -/
def standardSearchPath : String := "/usr/local/sbin:/usr/local/bin:/usr/sbin:/usr/bin:/sbin:/bin"

/-- The files of a host on which some utilities are installed: they stand in `/usr/bin`, which
`/bin` leads to. Besides there are a directory for what is temporary, the empty and the full device,
and a file that cannot be read. -/
def hostWith (utilities : List String) : Tree :=
  let dirs := [["usr"], ["usr", "bin"], ["tmp"], ["dev"], ["proc"], ["proc", "self"]]
  let tree := dirs.foldl (fun t l => t.set l .dir) Tree.empty
  let tree := utilities.foldl (fun t n => t.set ["usr", "bin", n] (.utility n)) tree
  let tree := (tree.set ["dev", "null"] .sink).set ["dev", "full"] .full
  (tree.set ["bin"] (.link "usr/bin")).set ["proc", "self", "mem"] .faulty

end Shell

end Testbench
