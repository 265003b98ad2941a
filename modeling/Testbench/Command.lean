/-!
# Commands

External programs that a run starts, and what comes of them: what the stage runner of the
specification (§4.3) is given and what it gives back.

- `Overlay`: variables set on top of the inherited environment, sorted by name.
- `Command`: a program with its arguments, directory, variables and way of output.
- `Outcome`: a program either ended with an exit code and some output, or could not be started.
-/

namespace Testbench

/-! ## Variables -/

/-- Variables and their values, sorted by name, each name once. -/
abbrev Overlay := List (String × String)

/-- The overlay with one variable set. -/
def Overlay.insert (name value : String) : Overlay → Overlay
  | [] => [(name, value)]
  | (n, v) :: rest =>
    if name < n then (name, value) :: (n, v) :: rest
    else if name = n then (name, value) :: rest
    else (n, v) :: Overlay.insert name value rest

/-- The overlay of variables that are set one after the other. -/
def Overlay.ofList (vars : List (String × String)) : Overlay :=
  vars.foldl (fun o v => o.insert v.1 v.2) []

/-! ## Commands and outcomes -/

/-- An external program to run. -/
structure Command where
  program : String
  args : List String
  /-- The directory to run in; the caller's own if there is none. -/
  cwd : Option String := none
  /-- Variables set on top of the inherited environment. -/
  env : Overlay := []
  /-- Whether the output goes to the terminal instead of being collected. -/
  streamed : Bool := false
  deriving DecidableEq, Repr

/-- The program and its arguments on one line. -/
def Command.display (c : Command) : String := " ".intercalate (c.program :: c.args)

/-- What came of a command. -/
inductive Outcome where
  /-- The program ended with a code; a program that a signal ended has code `-1`. Its output is
  what was collected. -/
  | exited (code : Int) (stdout stderr : String)
  /-- The program could not be started. -/
  | notStarted (reason : String)
  deriving DecidableEq, Repr

namespace Outcome

/-- The exit code; a program that could not be started counts as ended with code `1`. -/
def exitCode : Outcome → Int
  | exited code _ _ => code
  | notStarted _ => 1

/-- The collected output. -/
def stdout : Outcome → String
  | exited _ out _ => out
  | notStarted _ => ""

/-- The collected error output, or why the program could not be started. -/
def stderr : Outcome → String
  | exited _ _ err => err
  | notStarted reason => reason

/-- The program could not be started. -/
def launchFailed : Outcome → Bool
  | exited _ _ _ => false
  | notStarted _ => true

/-- The program ended with code `0`. -/
def success (o : Outcome) : Bool := o.exitCode = 0

end Outcome

end Testbench
