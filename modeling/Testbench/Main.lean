import Testbench.CommandLine.Answer
import Testbench.Instant
import Testbench.Platform
import Testbench.Shell.Executor
import Testbench.Tree.Difference

/-!
# The program

The files of the current directory are read, the arguments are answered, and what the answer
changed is written back. Nothing is decided here.

Programs that a run starts are followed by `Executor.host` and not by a clock: no time passes while
they run, so that the stages of a run take none here. Whatever they may take is left open by `Host`.
-/

namespace Testbench

namespace Main

/-! ## Files -/

/-- The path of a place. -/
def pathOf (l : Location) : String := "/" ++ "/".intercalate l

/-- The tree with the directories that lead to a place, and that place as one. -/
def withDirs (t : Tree) (l : Location) : Tree := (t.makeDirs (pathOf l)).2

/-- A script says so in its first two characters; those may be run. -/
def isScript (octets : ByteArray) : Bool := octets.toList.take 2 == [35, 33]

/-- The tree with all that stands in a directory of the host. -/
partial def load (l : Location) (t : Tree) : IO Tree := do
  let mut t := t
  for entry in ← ((← IO.currentDir) / pathOf l).readDir do
    let place := l ++ [entry.fileName]
    match (← entry.path.metadata).type with
    | .dir => t ← load place (t.set place .dir)
    | .file =>
      let octets ← IO.FS.readBinFile (pathOf place)
      t := t.set place (.file octets (isScript octets))
    | _ => pure ()
  return t

/-- The tree with one file of the host, if it stands there. -/
def loadFile (t : Tree) (path : String) : IO Tree := do
  if Path.isAbsolute path && (← ((← IO.currentDir) / path).pathExists) then
    let l := Path.names path
    return (withDirs t l.dropLast).set l (.file (← IO.FS.readBinFile path) false)
  return t

/-- What the answer changed is written back. -/
def store (before after : Tree) : IO Unit := do
  let here ← IO.currentDir
  for l in Tree.lost before after do
    if ← (here / pathOf l).pathExists then
      if ← (here / pathOf l).isDir then IO.FS.removeDirAll (pathOf l)
      else IO.FS.removeFile (pathOf l)
  for (l, e) in Tree.gained before after do
    match e with
    | .dir => IO.FS.createDirAll (pathOf l)
    | .file octets _ => IO.FS.writeBinFile (pathOf l) octets
    | _ => pure ()

/-! ## The host -/

/-- The first line of a file of the host, if it can be read. -/
def lineOf (path : String) : IO (Option String) := do
  try return some (Text.trim (← IO.FS.readFile path)) catch _ => return none

/-- The present time: when the entry of this very process came to be. -/
def now : IO Instant := do
  let time := (← ((← IO.currentDir) / "/proc/self").metadata).modified
  return ⟨time.sec, time.nsec.toNat⟩

/-- The host as runs see it. No time passes while a program is followed. -/
def host : IO Host := do
  let release ← lineOf "/proc/sys/kernel/osrelease"
  let arch ← lineOf "/proc/sys/kernel/arch"
  return ⟨"linux", Platform.descriptor "linux" release (arch.getD "x86_64"), (← now).text,
    fun _ => .zero⟩

/-! ## The environment -/

/-- The pieces between the zeros of a row of octets. -/
def pieces : List UInt8 → List (List UInt8)
  | [] => [[]]
  | b :: bs =>
    match pieces bs with
    | [] => [[b]]
    | p :: ps => if b = 0 then [] :: p :: ps else (b :: p) :: ps

/-- A variable and its value, with an equals sign between them. -/
def variableOf (piece : List UInt8) : Option (ByteArray × ByteArray) :=
  match piece.dropWhile (· ≠ 61) with
  | [] => none
  | _ :: value => some (⟨(piece.takeWhile (· ≠ 61)).toArray⟩, ⟨value.toArray⟩)

/-- The variables of this very process. -/
def inherited : IO (List (ByteArray × ByteArray)) := do
  return (pieces (← IO.FS.readBinFile "/proc/self/environ").toList).filterMap variableOf

/-- The variables that programs inherit, as far as they are text. -/
def environment (vars : List (ByteArray × ByteArray)) : Overlay :=
  .ofList (vars.filterMap fun (name, value) => do
    return (← String.fromUTF8? name, ← String.fromUTF8? value))

/-- The variable that names a configuration. -/
def named (vars : List (ByteArray × ByteArray)) : Config.Variable :=
  match vars.find? fun v => v.1.toList = Config.variableName.toUTF8.toList with
  | some (_, value) => .set value
  | none => .unset

/-! ## Arguments -/

/-- The files of the host that the program is going to look at. -/
def look (here : Location) (asked : Option String) (named : Config.Variable) : IO Tree := do
  let mut t ← load here (withDirs { Shell.installed with here } here)
  for path in asked.toList ++ (named.text?.map Text.trim).toList do t ← loadFile t path
  return t

/-- The arguments are answered in the current directory. -/
def run (args : List String) : IO UInt32 := do
  let vars ← inherited
  let asked := match CommandLine.read args with
    | .ok (.run _ config) => config
    | _ => none
  let before ← look (Path.names (← IO.currentDir).toString) asked (named vars)
  let around : CommandLine.Surroundings := ⟨named vars, ← host, .host (environment vars)⟩
  let answer := CommandLine.answer around args before
  IO.print answer.stdout
  IO.eprint answer.stderr
  store before answer.tree
  return answer.code.toUInt32

end Main

end Testbench

/-- The program. -/
def main (args : List String) : IO UInt32 := Testbench.Main.run args
