import Testbench.Command
import Testbench.Console
import Testbench.Tree.Operations

/-!
# Sessions

Everything that a run touches, as one value that is passed on from step to step. How commands are
answered is left open, as it is behind the stage runner of the specification (§4.3).

- `Call`: a command that was executed, and what came of it.
- `Executor`: how commands are answered. An answer may depend on all that was executed before and
  on the files, and it may change the files.
- `Session`: the files, what was put out so far, and the calls so far.
- `Session.emit`: one more console line.
- `Session.execute`: one more command.
-/

namespace Testbench

/-! ## Executors -/

/-- A command that was executed, and what came of it. -/
structure Call where
  command : Command
  outcome : Outcome
  deriving DecidableEq, Repr

/-- What an executor answers: the outcome, what the program printed on the terminal, and the
files as the program left them. -/
structure Reply where
  outcome : Outcome
  printed : String
  tree : Tree

/-- How commands are answered, given the calls before and the files. -/
abbrev Executor := List Call → Command → Tree → Reply

namespace Executor

/-- The executor leaves the files as they are. -/
def Inert (x : Executor) : Prop := ∀ calls c t, (x calls c t).tree = t

/-- The executor that looks the answer up under the first argument of the command; a command
without an entry ends well and prints nothing. -/
def scripted (script : List (String × Outcome)) : Executor := fun _ c t =>
  let answer := c.args.head?.bind fun arg => script.lookup arg
  ⟨answer.getD (.exited 0 "" ""), "", t⟩

theorem inert_scripted (script : List (String × Outcome)) : (scripted script).Inert :=
  fun _ _ _ => rfl

end Executor

/-! ## Sessions -/

/-- A piece of output: a console line, or text that a program printed itself. -/
inductive Output where
  | line (l : Line)
  | printed (text : String)
  deriving DecidableEq, Repr

/-- The files, the output and the calls of a run so far. -/
structure Session where
  tree : Tree
  output : List Output := []
  calls : List Call := []

namespace Session

/-- The console lines so far. -/
def lines (s : Session) : List Line :=
  s.output.filterMap fun
    | .line l => some l
    | .printed _ => none

/-- All that a terminal shows so far. -/
def transcript (s : Session) : String :=
  String.join (s.output.map fun
    | .line l => l.text ++ "\n"
    | .printed text => text)

/-- The session with some more console lines. -/
def emit (s : Session) (ls : List Line) : Session := { s with output := s.output ++ ls.map .line }

/-- The session with one more console line. -/
def say (s : Session) (tag : Tag) (message : String) : Session := s.emit [⟨tag, message⟩]

/-- The session with other files. -/
def withTree (s : Session) (t : Tree) : Session := { s with tree := t }

/-- The outcome of a command, and the session after it. A command that prints on the terminal is
announced, and one that cannot be started is reported. -/
def execute (s : Session) (x : Executor) (c : Command) : Outcome × Session :=
  let s := if c.streamed then s.say .plain ("Running: " ++ c.display) else s
  let reply := x s.calls c s.tree
  let s : Session :=
    { tree := reply.tree
      output := if reply.printed = "" then s.output else s.output ++ [.printed reply.printed]
      calls := s.calls ++ [⟨c, reply.outcome⟩] }
  let s :=
    if reply.outcome.launchFailed then
      s.say .error ("Failed to run command " ++ c.display ++ ": " ++ reply.outcome.stderr)
    else s
  (reply.outcome, s)

/-! ## What each step changes -/

@[simp] theorem tree_emit (s : Session) (ls : List Line) : (s.emit ls).tree = s.tree := rfl

@[simp] theorem calls_emit (s : Session) (ls : List Line) : (s.emit ls).calls = s.calls := rfl

@[simp] theorem tree_say (s : Session) (tag : Tag) (m : String) : (s.say tag m).tree = s.tree := rfl

@[simp] theorem calls_say (s : Session) (tag : Tag) (m : String) :
    (s.say tag m).calls = s.calls := rfl

@[simp] theorem tree_withTree (s : Session) (t : Tree) : (s.withTree t).tree = t := rfl

@[simp] theorem calls_withTree (s : Session) (t : Tree) : (s.withTree t).calls = s.calls := rfl

@[simp] theorem lines_emit (s : Session) (ls : List Line) :
    (s.emit ls).lines = s.lines ++ ls := by
  simp only [lines, emit, List.filterMap_append, List.filterMap_map]
  congr 1
  exact List.filterMap_some

@[simp] theorem lines_say (s : Session) (tag : Tag) (m : String) :
    (s.say tag m).lines = s.lines ++ [⟨tag, m⟩] := lines_emit ..

/-- One command is one more call, whatever comes of it. -/
theorem calls_execute (s : Session) (x : Executor) (c : Command) :
    (s.execute x c).2.calls = s.calls ++ [⟨c, (s.execute x c).1⟩] := by
  simp only [execute]
  split <;> split <;> rfl

end Session

end Testbench
