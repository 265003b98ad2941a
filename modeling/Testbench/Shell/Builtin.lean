import Testbench.Shell.Builtin.Leaving
import Testbench.Shell.Builtin.Names
import Testbench.Shell.Builtin.Signals
import Testbench.Shell.Builtin.Surroundings
import Testbench.Shell.Printing

/-!
# Commands of the shell itself

- `Shell.State.test`: `test`, which also goes by the name `[`.
- `Shell.State.listJobs`, `Shell.State.resume`: `jobs`, and commands that need a terminal.
- `Shell.State.builtin?`: the command of a name, unless it runs other commands.

Part of the host that `Executor.host` follows; no result on runs depends on it.
-/

namespace Testbench

namespace Shell

open Text

namespace State

/-- The state after a condition was tested: status `0` where it holds and `1` where it does not. -/
def test (args : List Row) (s : State) : State :=
  match s.condition args with
  | .ok holds => s.withStatus (if holds then 0 else 1)
  | .error e => s.fail e

/-- The state after a condition in brackets was tested. -/
def testBracket (args : List Row) (s : State) : State :=
  if args.getLast? = some "]" then s.test args.dropLast else s.fail "missing ]"

/-- How a job is listed. -/
def jobLine (s : State) (withProcess : Bool) (j : Job) : Row :=
  let mark :=
    if s.jobs.getLast?.any (·.number = j.number) then "+"
    else if s.jobs.dropLast.getLast?.any (·.number = j.number) then "-"
    else " "
  let how := match j.ending with
    | none => "Running"
    | some (.exited 0) => "Done"
    | some (.exited n) => "Done(" ++ toString n ++ ")"
    | some (.killed n) => signalTitle n
  let front := "[" ++ toString j.number ++ "] " ++ mark ++ " " ++
    (if withProcess then toString j.process ++ " " else "") ++ how
  front ++ String.ofList (List.replicate (max 1 (33 - front.length)) ' ') ++ "\n"

/-- The jobs are listed; those that have ended are listed once. -/
def listJobs (args : List Row) (s : State) : State :=
  match choices "lp" "" args with
  | .error e => s.fail e
  | .ok (chosen, _) =>
    let has := fun c => chosen.any (·.1 = c)
    let line := fun (j : Job) =>
      if has 'p' then toString j.process ++ "\n" else s.jobLine (has 'l') j
    let s := s.print (String.join (s.jobs.map line))
    { s with jobs := s.jobs.filter (·.ending.isNone), status := 0 }

/-- Jobs can only be resumed from a terminal. -/
def resume (args : List Row) (s : State) : State :=
  match choices "" "" args with
  | .error e => s.fail e
  | .ok (_, operands) =>
    let name := operands.head?.getD "%%"
    match s.jobOf? name with
    | some j => s.fail ("job " ++ toString j.number ++ " not created under job control")
    | none => s.fail (noJob name)

/-- The command of a name, unless it runs other commands. -/
def builtin? (name : String) : Option (List Row → State → State) :=
  if name = "echo" then some fun args s => (s.print (echo args)).withStatus 0
  else if name = "printf" then some fun args s => s.printf args
  else if name = "test" then some test
  else if name = "[" then some testBracket
  else if name = ":" ∨ name = "true" then some fun _ s => s.withStatus 0
  else if name = "false" then some fun _ s => s.withStatus 1
  else if name = "cd" ∨ name = "chdir" then some changeDir
  else if name = "pwd" then some tellDir
  else if name = "umask" then some setMask
  else if name = "ulimit" then some limit
  else if name = "times" then some fun _ s => s.times
  else if name = "export" then some exportAll
  else if name = "readonly" then some protectAll
  else if name = "local" then some localAll
  else if name = "unset" then some unsetAll
  else if name = "shift" then some shift
  else if name = "set" then some setAll
  else if name = "getopts" then some nextOption
  else if name = "read" then some readFields
  else if name = "break" then some (leaveLoops false)
  else if name = "continue" then some (leaveLoops true)
  else if name = "return" then some leaveBody
  else if name = "exit" then some leaveShell
  else if name = "trap" then some setTraps
  else if name = "kill" then some kill
  else if name = "alias" then some setAliases
  else if name = "unalias" then some dropAliases
  else if name = "type" then some describeAll
  else if name = "hash" then some track
  else if name = "command" then some describeCommand
  else if name = "jobs" then some listJobs
  else if name = "fg" ∨ name = "bg" then some resume
  else none

end State

end Shell

end Testbench
