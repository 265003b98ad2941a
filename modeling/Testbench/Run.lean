import Testbench.Gate
import Testbench.Patch
import Testbench.Plan
import Testbench.Report.Directory

/-!
# Runs

One run: the toolchain is asked for its version, earlier output is removed if that is wanted, the
report directory is made, the sources are patched, the stages of the plan are settled one after
the other, and the reports are written. This is the pipeline of the specification (§4.7).

- `Host`: what a run learns of its host and its clock.
- `Run`: what is to be run, and where.
- `Run.settle`, `Run.settleAll`: one stage, and all stages of a plan.
- `Run.clean`: the removal of earlier output.
- `Run.perform`: the whole run.
-/

namespace Testbench

/-- What a run learns of its host and its clock. -/
structure Host where
  /-- The system, as patches name it. -/
  os : String
  /-- The platform, as reports name it. -/
  platform : String
  /-- When the reports are written. -/
  timestamp : String
  /-- How long each stage of the plan takes. -/
  elapsed : Nat → Duration

/-- What is to be run, and where. -/
structure Run where
  config : Config
  /-- The root of the sources. -/
  root : String
  host : Host
  executor : Executor

/-- Why a run ended early. -/
inductive RunError where
  /-- The toolchain was turned away. -/
  | gate (e : GateError)
  /-- The reports could not be kept. -/
  | report (e : ReportError)
  /-- The plan has two stages of one name. -/
  | results (e : RepeatedStage)
  deriving DecidableEq, Repr

/-- What is reported of a run that ended early. -/
def RunError.message : RunError → String
  | gate e => e.message
  | report e => e.message
  | results e => e.message

/-- What a run produced. -/
structure RunOutcome where
  toolchain : Version
  patch : Patch.Report
  results : ResultSet
  summary : Summary
  reports : Report.Paths

/-- Every stage that was not skipped succeeded. -/
def RunOutcome.exitSuccess (o : RunOutcome) : Bool := o.summary.overallSuccess

namespace Run

/-- A path below the root of the sources. -/
def resolve (r : Run) (path : String) : String := Path.join r.root path

/-- The gate of the run. -/
def gate (r : Run) : Gate :=
  ⟨r.config.toolchain.program, r.config.toolchain.banner, r.config.toolchain.minMajor,
    r.config.projectName⟩

/-! ## Stages -/

/-- The header of the database library is looked for. The stage passes either way. -/
def checkHeader (t : Tree) (root header : String) : List Line :=
  [⟨.step, "Using SQLite configuration from Package.swift..."⟩,
   if t.isFile (Path.join root header) then
     match Path.parent? header with
     | none => ⟨.success, "Found SQLite headers"⟩
     | some dir =>
       if dir = "" then ⟨.success, "Found SQLite headers"⟩
       else ⟨.success, "Found SQLite headers in " ++ dir ++ " directory"⟩
   else
     ⟨.warning,
      "SQLite headers not found in expected location, but will continue with SPM build"⟩]

/-- A command without a directory of its own runs at the root of the sources. -/
def atRoot (r : Run) (c : Command) : Command := { c with cwd := some (c.cwd.getD r.root) }

/-- The line that tells how the command of a stage ended. -/
def commandLine (name : String) (o : Outcome) (elapsed : Duration) : Line :=
  if o.success then ⟨.success, name ++ " passed in " ++ elapsed.label⟩
  else ⟨.error, name ++ " failed after " ++ elapsed.label ++ " (exit code " ++
    toString o.exitCode ++ ")"⟩

/-- One stage is settled; `elapsed` is how long it takes. -/
def settle (r : Run) (elapsed : Duration) (stage : Stage) (s : Session) : Verdict × Session :=
  match stage.action with
  | .command c =>
    let s := s.emit (Line.heading ("Running " ++ stage.name ++ " Tests"))
    let (outcome, s) := s.execute r.executor (r.atRoot c)
    (.ran outcome.success elapsed, s.emit [commandLine stage.name outcome elapsed])
  | .check header =>
    let s := s.emit (Line.heading Stage.checkTitle)
    (.ran true elapsed, s.emit (checkHeader s.tree r.root header))
  | .skip reason => (.skipped reason, s)

/-- The stages of a plan are settled one after the other, up to the first whose name has a result
already; `k` stages were settled before. -/
def settleFrom (r : Run) : (k : Nat) → Plan → ResultSet → Session →
    Except RepeatedStage ResultSet × Session
  | _, [], results, s => (.ok results, s)
  | k, stage :: plan, results, s =>
    let (verdict, s) := r.settle (r.host.elapsed k) stage s
    match results.record ⟨stage.name, verdict⟩ with
    | .ok results => settleFrom r (k + 1) plan results s
    | .error e => (.error e, s)

/-- The stages of a plan are settled one after the other. -/
def settleAll (r : Run) (plan : Plan) (s : Session) : Except RepeatedStage ResultSet × Session :=
  r.settleFrom 0 plan .empty s

/-! ## Removing earlier output -/

/-- What a path leads to is removed, if it leads anywhere; a failure is reported. -/
def removePath (path : String) (s : Session) : Session :=
  if s.tree.has path then
    let s := s.say .step ("Removing " ++ path ++ "...")
    match if s.tree.isDir path then s.tree.removeAll path else s.tree.removeFile path with
    | .ok t => s.withTree t
    | .error e => s.say .warning ("Failed to remove " ++ path ++ ": " ++ e.message)
  else s

/-- A directory is removed if it is empty. -/
def removeIfEmpty (dir : String) (s : Session) : Session :=
  match s.tree.removeDir dir with
  | .ok t => s.withTree t
  | .error _ => s

/-- What a run has put into a report directory is removed, and the directory too once it is
empty. A directory that holds the sources is left alone. -/
def removeReports (r : Run) (dir : String) (s : Session) : Session :=
  if s.tree.isDir dir then
    if s.tree.encloses dir r.root then
      s.say .warning ("Not removing " ++ dir ++ ": it contains the package sources")
    else
      -- what the run did not put there keeps the directory in place
      removeIfEmpty dir
        ((Report.generated.map (Path.join dir)).foldl (fun s path => removePath path s) s)
  else s

/-- The directory in which the toolchain builds. -/
def buildDir : String := ".build"

/-- The package is cleaned, and what earlier runs built and reported is removed. -/
def clean (r : Run) (dir : String) (s : Session) : Session :=
  let s := s.say .step ("Cleaning " ++ r.config.toolchain.program ++ " package...")
  let (_, s) := s.execute r.executor
    { Command.clean r.config.toolchain.program with cwd := some r.root }
  r.removeReports dir (removePath (r.resolve buildDir) s)

/-! ## The whole run -/

/-- The lines that close a run: one for each result, and the verdict. -/
def closing (results : ResultSet) : List Line :=
  Line.heading "Test Results" ++
  results.entries.map (fun e =>
    ⟨match e.verdict with
      | .skipped _ => .warning
      | .ran true _ => .success
      | .ran false _ => .error, e.line⟩) ++
  [if results.summary.overallSuccess then ⟨.success, "All tests passed!"⟩
   else ⟨.error, "Some tests failed. Check the reports directory for details."⟩]

/-- What reports say about the run besides its results. -/
def context (r : Run) (v : Version) : Report.Context :=
  ⟨r.config.projectName, r.host.timestamp, r.host.platform, v.number⟩

/-- The reports on settled stages are written and the results are shown. -/
def conclude (r : Run) (dir : String) (v : Version) (patch : Patch.Report) (results : ResultSet)
    (s : Session) : Except RunError RunOutcome × Session :=
  let s := s.say .step "Generating summary report..."
  match Report.write s.tree dir results r.config.knownIssues (r.context v) with
  | (.error e, t) => (.error (.report e), s.withTree t)
  | (.ok reports, t) =>
    (.ok ⟨v, patch, results, results.summary, reports⟩,
      ((s.withTree t).say .success "Summary report generated").emit (closing results))

/-- The sources are patched, the stages of the plan settled and the reports written. -/
def carryOut (r : Run) (o : Options) (dir : String) (v : Version) (s : Session) :
    Except RunError RunOutcome × Session :=
  let (patch, s) := Patch.Job.apply ⟨r.root, r.config.patches⟩ r.host.os s
  let plan := Plan.compose o r.config
  let s := if o.verbose then s.emit plan.lines else s
  match r.settleAll plan s with
  | (.error e, s) => (.error (.results e), s)
  | (.ok results, s) => r.conclude dir v patch results s

/-- The whole run. -/
def perform (r : Run) (o : Options) (s : Session) : Except RunError RunOutcome × Session :=
  let s := s.emit (Line.heading (r.config.projectName ++ " Test Runner"))
  let s := s.say .plain ("Running on " ++ r.host.platform)
  match r.gate.probe r.executor s with
  | (.error e, s) => (.error (.gate e), s)
  | (.ok v, s) =>
    let dir := r.resolve o.reportPath
    let s := if o.clean then r.clean dir s else s
    match Report.setup s.tree dir with
    | (.error e, t) => (.error (.report e), s.withTree t)
    | (.ok (), t) => r.carryOut o dir v (s.withTree t)

end Run

end Testbench
