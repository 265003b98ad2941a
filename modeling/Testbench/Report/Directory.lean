import Testbench.Report.Document
import Testbench.Tree.Operations

/-!
# The report directory

Where reports are kept: a directory with three subdirectories, and the two summaries in it
(specification, §4.5).

- `Report.generated`: the names of all that a run puts into the directory.
- `Report.setup`: the directory and its subdirectories are made.
- `Report.write`: the two summaries are written.
-/

namespace Testbench

/-- A report could not be kept at a path. -/
structure ReportError where
  path : String
  cause : FileError
  deriving DecidableEq, Repr

/-- What is reported of the error. -/
def ReportError.message (e : ReportError) : String :=
  "report io error at " ++ e.path ++ ": " ++ e.cause.message

namespace Report

/-- The subdirectories of a report directory. -/
def subdirs : List String := ["test-results", "coverage", "html"]

/-- The name of the structured summary. -/
def jsonName : String := "summary.json"

/-- The name of the text summary. -/
def textName : String := "summary.txt"

/-- The names of all that a run puts into a report directory. -/
def generated : List String := subdirs ++ [jsonName, textName]

/-- Where the reports of a run are. -/
structure Paths where
  root : String
  json : String
  text : String
  deriving DecidableEq, Repr

/-- The places of the reports in a directory. -/
def Paths.under (dir : String) : Paths := ⟨dir, Path.join dir jsonName, Path.join dir textName⟩

/-- Directories are made one after the other, up to the first that cannot be made. -/
def makeAll (t : Tree) : List String → Except ReportError Unit × Tree
  | [] => (.ok (), t)
  | dir :: dirs =>
    match t.makeDirs dir with
    | (.ok (), t) => makeAll t dirs
    | (.error e, t) => (.error ⟨dir, e⟩, t)

/-- The report directory and its subdirectories are made. -/
def setup (t : Tree) (dir : String) : Except ReportError Unit × Tree :=
  makeAll t (dir :: subdirs.map (Path.join dir))

/-- The two summaries are written, the structured one first. -/
def write (t : Tree) (dir : String) (results : ResultSet) (issues : KnownIssues) (c : Context) :
    Except ReportError Paths × Tree :=
  let paths := Paths.under dir
  match t.write paths.json (json results issues c).toUTF8 with
  | .error e => (.error ⟨paths.json, e⟩, t)
  | .ok t =>
    match t.write paths.text (text results c).toUTF8 with
    | .error e => (.error ⟨paths.text, e⟩, t)
    | .ok t => (.ok paths, t)

end Report

end Testbench
