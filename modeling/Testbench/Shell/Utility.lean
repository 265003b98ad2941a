import Testbench.Shell.Utility.Columns
import Testbench.Shell.Utility.Condition
import Testbench.Shell.Utility.Editing
import Testbench.Shell.Utility.Expression
import Testbench.Shell.Utility.Files
import Testbench.Shell.Utility.Lines
import Testbench.Shell.Utility.Names
import Testbench.Shell.Utility.Printing
import Testbench.Shell.Utility.Search
import Testbench.Shell.Utility.Starting

/-!
# Utilities by name

The programs that are installed on a host.

- `Shell.utilities`: all of them, each under its name.
- `Shell.utility?`: the utility of a name.

Part of the host that `Executor.host` follows; no result on runs depends on it.
-/

namespace Testbench

namespace Shell

open Text

/-- A utility that starts no others; its status is 0 unless it says otherwise, and one of its own
where output is lost. -/
def plainUtility (lost : Nat) (run : List Row → State → State) : Utility := fun _ args s =>
  Testbench.Utility.settled lost (run args (s.withStatus 0))

/-- A utility that may start others. -/
def startingUtility (run : Starter → List Row → State → State) : Utility := fun start args s =>
  run start args (s.withStatus 0)

/-- What is said of a program that another one cannot start. -/
def plainStartFault (name : Row) (e : FileError) : String :=
  Testbench.Utility.inQuotes name ++ ": " ++ e.reason

/-- The utilities by name. -/
def utilities : List (String × Utility) :=
  let plain := plainUtility 1
  [("true", fun _ _ s => s.withStatus 0),
   ("false", fun _ _ s => s.withStatus 1),
   ("echo", plain Testbench.Utility.echo),
   ("printf", plain Testbench.Utility.printf),
   ("test", plainUtility 2 (Testbench.Utility.condition false)),
   ("[", plainUtility 2 (Testbench.Utility.condition true)),
   ("pwd", plain Testbench.Utility.printDir),
   ("cat", plain Testbench.Utility.concatenate),
   ("tac", plain (Testbench.Utility.reverseLines false)),
   ("rev", plain (Testbench.Utility.reverseLines true)),
   ("nl", plain Testbench.Utility.numberLines),
   ("head", plain Testbench.Utility.front),
   ("tail", plain Testbench.Utility.back),
   ("wc", plain Testbench.Utility.count),
   ("tee", plain Testbench.Utility.split),
   ("paste", plain Testbench.Utility.paste),
   ("fold", plain Testbench.Utility.fold),
   ("sort", plainUtility 2 Testbench.Utility.sort),
   ("uniq", plain Testbench.Utility.unique),
   ("cut", plain Testbench.Utility.pick),
   ("tr", plain Testbench.Utility.exchange),
   ("od", plain Testbench.Utility.dump),
   ("ls", plainUtility 2 Testbench.Utility.list),
   ("mkdir", plain Testbench.Utility.makeDirs),
   ("rmdir", plain Testbench.Utility.removeDirs),
   ("rm", plain Testbench.Utility.remove),
   ("touch", plain Testbench.Utility.touch),
   ("cp", plain Testbench.Utility.copy),
   ("mv", plain Testbench.Utility.move),
   ("ln", plain Testbench.Utility.link),
   ("chmod", plain Testbench.Utility.changeMode),
   ("readlink", plain Testbench.Utility.readLinks),
   ("realpath", plain Testbench.Utility.resolvePaths),
   ("basename", plain Testbench.Utility.baseName),
   ("dirname", plain Testbench.Utility.dirName),
   ("seq", plain Testbench.Utility.sequence),
   ("sleep", plain Testbench.Utility.sleep),
   ("printenv", plainUtility 2 Testbench.Utility.printVariables),
   ("yes", plain Testbench.Utility.yes),
   ("id", plain (Testbench.Utility.tellUser false)),
   ("whoami", plain (Testbench.Utility.tellUser true)),
   ("uname", plain Testbench.Utility.tellSystem),
   ("tty", plainUtility 3 Testbench.Utility.tellTerminal),
   ("which", plain Testbench.Utility.findPrograms),
   ("expr", plainUtility 3 Testbench.Utility.expression),
   ("grep", plainUtility 2 (Testbench.Utility.search .basic)),
   ("egrep", plainUtility 2 (Testbench.Utility.search .extended)),
   ("fgrep", plainUtility 2 (Testbench.Utility.search .fixed)),
   ("sed", plainUtility 4 Testbench.Utility.edit),
   ("env", startingUtility Testbench.Utility.surround),
   ("xargs", startingUtility Testbench.Utility.applyAll),
   ("timeout", startingUtility Testbench.Utility.hurry),
   ("nohup", startingUtility (Testbench.Utility.launch Testbench.Utility.runFault [])),
   ("nice", startingUtility (Testbench.Utility.launch plainStartFault
     [⟨'n', "adjustment", .argument⟩]))]

/-- The names of all utilities. -/
def utilityNames : List String := utilities.map Prod.fst

/-- The utility of a name. -/
def utility? (name : String) : Option Utility := utilities.lookup name

end Shell

end Testbench
