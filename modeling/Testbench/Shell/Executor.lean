import Testbench.Session
import Testbench.Shell.Interpreter
import Testbench.Shell.Utility

/-!
# Programs of the host

The executor that follows programs of a host: the directory is entered, the program looked for, and
the program run to its end.

All that is proved of runs is proved for executors of any kind. This one is only there so that the
program can be used and compared from end to end, and so are all modules of this directory: they
stand in for the shell and the utilities of a host, which are no part of a run. Nothing but the
outer layer depends on them.

- `Shell.prepare`: the program of a command and the files it starts with, or why there is none.
- `Executor.host`: the executor that starts programs of the host.
-/

namespace Testbench

namespace Shell

open Text

/-- The files of a host on which all utilities are installed. -/
def installed : Tree := hostWith (shells ++ utilityNames)

/-- Some text of the command holds a NUL character, which no program can be given. -/
def holdsNul (c : Testbench.Command) : Bool :=
  let texts := c.program :: c.args ++ c.cwd.toList ++ c.env.flatMap fun (n, v) => [n, v]
  texts.any fun s => s.toList.contains '\x00'

/-- The variables of a program: the inherited ones with the overlay of the command on top. -/
def environment (around : Overlay) (c : Testbench.Command) : Overlay :=
  c.env.foldl (fun o (n, v) => o.insert n v) around

/-- The variables as a program gets them, each in one text, which the first equals sign cuts. -/
def handedOn (vars : Overlay) : List (String × Row) :=
  vars.filterMap fun (n, v) =>
    let text := (toRow (n ++ "=" ++ v)).toList
    let name := text.takeWhile (· ≠ '=')
    some (String.ofList name, String.ofList (text.drop (name.length + 1)))

/-- The files as they are seen from the directory of a command. -/
def enterDir (t : Tree) (cwd : Option String) : Except FileError Tree :=
  match cwd with
  | none => .ok t
  | some dir =>
    match t.find dir with
    | .error e => .error e
    | .ok l => if t.isDir dir then .ok { t with here := l } else .error .notDirectory

/-- The program of a command and the files it starts with, or why it cannot be started. The
directory is entered before the program is looked for. Where the command has a search path of its
own, a file that is no program is handed to a shell. -/
def prepare (around : Overlay) (c : Testbench.Command) (t : Tree) :
    Except String (Launch × Tree) :=
  if holdsNul c then .error "nul byte found in provided data"
  else match enterDir t c.cwd with
    | .error e => .error e.message
    | .ok t =>
      let searchPath := ((environment around c).lookup "PATH").getD standardSearchPath
      let lenient := (c.env.lookup "PATH").isSome
      match Launch.find t lenient (toRow searchPath) (toRow c.program) (c.args.map toRow) with
      | .error e => .error e.message
      | .ok l => .ok (l, t)

/-- A bound on the depth of a run that no command of a toolchain comes near. -/
def patience : Nat := 100000

/-- The state of a program that starts in a tree: its input is empty, and what it puts out goes to
the surroundings. -/
def startIn (t : Tree) (vars : Overlay) (l : Launch) : State :=
  let bare : State :=
    { files := t
      channels := [(0, .nothing), (1, .stream 1), (2, .stream 2)]
      nextChannel := 3
      here := t.here
      directory := pathOfPlace t.here
      descriptors := [(0, 0), (1, 1), (2, 2)]
      self := l.called }
  bare.forProgram (handedOn vars) l.called l.args

/-- What was put out on a stream. -/
def printedOn (s : State) (stream : Nat) : String :=
  ofRow (String.join ((s.printed.filter (·.1 = stream)).map Prod.snd).reverse)

/-- A program is run from its start to its end. -/
def runLaunch (t : Tree) (vars : Overlay) (l : Launch) : State :=
  let x : Runner := ⟨utility?, Command.run utility? patience⟩
  (State.program x State.programLimit l (startIn t vars l)).takeSignals

/-- What came of a program: a signal leaves it without a code. -/
def outcomeOf (streamed : Bool) (s : State) : Outcome :=
  let text := fun stream => if streamed then "" else printedOn s stream
  let code : Int := match s.ending with
    | .exited code => code
    | .killed _ => -1
  .exited code (text 1) (text 2)

end Shell

/-- The executor that starts programs of the host, `around` being the environment they inherit.
Programs find nothing to read. What a streamed program prints goes to the terminal. -/
def Executor.host (around : Overlay) : Executor := fun _ c t =>
  match Shell.prepare around c t with
  | .error reason => ⟨.notStarted reason, "", t⟩
  | .ok (l, t') =>
    let s := Shell.runLaunch t' (Shell.environment around c) l
    ⟨Shell.outcomeOf c.streamed s, if c.streamed then Shell.printedOn s 1 else "",
      { s.files with here := t.here }⟩

end Testbench
