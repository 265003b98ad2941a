import Testbench.CommandLine
import Testbench.Config.Source
import Testbench.Run

/-!
# Answers to command lines

What the program does on a command line: the exit code, the two texts it writes, and the files as
it leaves them (specification, §6 and §7).

- `CommandLine.helpText`, `CommandLine.versionText`: what is written where no run is asked for.
- `CommandLine.Surroundings`: what the program finds when it is started.
- `CommandLine.answer`: the answer to some arguments.
-/

namespace Testbench

namespace CommandLine

/-- The name of the program. -/
def programName : String := "grdb-test-runner"

/-- What is written for the version. -/
def versionText : String := programName ++ " 0.1.0\n"

/-- What is written for help. -/
def helpText : String :=
  "Run GRDB.swift tests with SwiftPM\n\n" ++
  "Usage: " ++ programName ++ " [OPTIONS]\n\n" ++
  "Options:\n" ++
  "      --package-only       Run only the Swift Package Manager tests\n" ++
  "      --coverage           Enable code coverage reporting\n" ++
  "      --report-path <DIR>  Directory for test reports [default: ./reports]\n" ++
  "      --skip-sqlite        Skip the SQLite configuration check\n" ++
  "      --filter <PATTERN>   Filter tests by name pattern\n" ++
  "      --clean              Clean the package and remove previous build and report output " ++
  "first\n" ++
  "      --verbose            Print the composed stage plan before running\n" ++
  "      --config <PATH>      Optional config file path (defaults to grdb-test-runner.toml or " ++
  "env override)\n" ++
  "  -h, --help               Print help\n" ++
  "  -V, --version            Print version\n"

/-- What is written for arguments that make no request. -/
def usageText (e : UsageError) : String :=
  "error: " ++ e.message ++ "\n\nUsage: " ++ programName ++ " [OPTIONS]\n\n" ++
  "For more information, try '--help'.\n"

/-- What the program finds when it is started. -/
structure Surroundings where
  /-- The variable that names a configuration. -/
  named : Config.Variable
  host : Host
  executor : Executor

/-- The exit code and the texts of an answer, and the files as they are left. -/
structure Answer where
  code : Nat
  stdout : String
  stderr : String
  tree : Tree

/-- The code of a run in which every stage succeeded. -/
def successCode : Nat := 0

/-- The code of a run that failed or ended early. -/
def failureCode : Nat := 1

/-- The code of arguments that make no request. -/
def usageCode : Nat := 2

/-- The answer that shows what a session has put out. -/
def Answer.ofSession (code : Nat) (s : Session) : Answer := ⟨code, s.transcript, "", s.tree⟩

/-- The session after a failure was reported. -/
def reportFailure (message : String) (s : Session) : Answer :=
  .ofSession failureCode (s.say .error message)

/-- The answer to a request for a run in the current directory. A toolchain that was turned away
has been reported already. -/
def answerRun (around : Surroundings) (o : Options) (asked : Option String) (t : Tree) : Answer :=
  let s : Session := { tree := t }
  match Config.load t asked around.named with
  | .error e => reportFailure e.message s
  | .ok config =>
    match Run.perform ⟨config, ".", around.host, around.executor⟩ o s with
    | (.ok outcome, s) => .ofSession (if outcome.exitSuccess then successCode else failureCode) s
    | (.error (.gate _), s) => .ofSession failureCode s
    | (.error e, s) => reportFailure e.message s

/-- The answer to some arguments. -/
def answer (around : Surroundings) (args : List String) (t : Tree) : Answer :=
  match read args with
  | .error e => ⟨usageCode, "", usageText e, t⟩
  | .ok .help => ⟨successCode, helpText, "", t⟩
  | .ok .version => ⟨successCode, versionText, "", t⟩
  | .ok (.run o asked) => answerRun around o asked t

end CommandLine

end Testbench
