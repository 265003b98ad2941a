import Testbench.Command
import Testbench.Config
import Testbench.Console

/-!
# Plans

What a run will do, as data: an ordered list of stages, each with the way it is settled
(specification, §4.6).

- `Options`: the switches of one run.
- `Stage`: a name, and a command to run, a check to make or a reason to skip it.
- `Plan.compose`: the stages of a run.
-/

namespace Testbench

/-- The switches of one run. -/
structure Options where
  /-- Only the tests of the package: no header check, no known issues. -/
  packageOnly : Bool := false
  /-- Coverage is measured. -/
  coverage : Bool := false
  /-- The report directory, relative to the root of the sources. -/
  reportPath : String := "./reports"
  /-- No header check. -/
  skipSqlite : Bool := false
  /-- Only tests that match the pattern. -/
  filter : Option String := none
  /-- Earlier output is removed first. -/
  clean : Bool := false
  /-- The plan is shown. -/
  verbose : Bool := false
  deriving DecidableEq, Repr

/-! ## Commands of the toolchain -/

/-- The command that runs the tests. -/
def Command.test (program : String) (coverage : Bool) (filter : Option String) : Command where
  program := program
  args := ["test", "--parallel"] ++ (if coverage then ["--enable-code-coverage"] else []) ++
    match filter with
    | some pattern => ["--filter", pattern]
    | none => []
  streamed := true

/-- The command that cleans the package. -/
def Command.clean (program : String) : Command where
  program := program
  args := ["package", "clean"]
  streamed := true

/-! ## Stages -/

/-- How a stage is settled. -/
inductive Stage.Action where
  /-- A command is run. -/
  | command (c : Command)
  /-- The header of the database library is looked for. -/
  | check (header : String)
  /-- Nothing is run. -/
  | skip (reason : String)
  deriving DecidableEq, Repr

/-- A stage and how it is settled. -/
structure Stage where
  name : String
  action : Stage.Action
  deriving DecidableEq, Repr

namespace Stage

/-- The stage is declared skipped. -/
def isSkip (s : Stage) : Bool :=
  match s.action with
  | .skip _ => true
  | _ => false

/-- The heading over a header check. -/
def checkTitle : String := "Checking SQLite Configuration"

/-- The stage as it is shown with a plan. -/
def description (s : Stage) : String :=
  "  - " ++ s.name ++ ": " ++
    match s.action with
    | .command c => "run `" ++ c.display ++ "`"
    | .check _ => "check (" ++ checkTitle ++ ")"
    | .skip reason => "skip (" ++ reason ++ ")"

/-- The stage that runs the tests. -/
def test (o : Options) (c : Config) : Stage :=
  ⟨c.toolchain.testStage, .command (.test c.toolchain.program o.coverage o.filter)⟩

/-- The stage that looks for the header. -/
def header (c : Config) : Stage := ⟨c.sqlite.stage, .check c.sqlite.header⟩

/-- The stage of a known issue. -/
def known (i : KnownIssue) : Stage := ⟨i.stage, .skip i.reason⟩

end Stage

/-- Stages in the order in which they are settled. -/
abbrev Plan := List Stage

namespace Plan

/-- The stages of a run: the tests, and on full runs the header check, unless it is to be left
out, and all known issues. -/
def compose (o : Options) (c : Config) : Plan :=
  Stage.test o c ::
    if o.packageOnly then []
    else (if o.skipSqlite then [] else [Stage.header c]) ++ c.knownIssues.entries.map Stage.known

/-- The lines that show a plan. -/
def lines (p : Plan) : List Line :=
  ⟨.step, "Stage plan (" ++ toString p.length ++ " stages, " ++
    toString (p.countP Stage.isSkip) ++ " skipped):"⟩ ::
  p.map fun s => ⟨.plain, s.description⟩

end Plan

end Testbench
