import Testbench.KnownIssues
import Testbench.Stage.Summary

/-!
# The report for people

The text summary of a run, written line by line: the `summary.txt` of the specification (§4.5).

- `Report.Context`: what a report says about the run besides its results.
- `Report.lines`: the lines of the text summary.
- `Report.text`: the text summary.
-/

namespace Testbench

namespace Report

/-- What a report says about a run besides its results. -/
structure Context where
  project : String
  timestamp : String
  platform : String
  toolchainVersion : String
  deriving DecidableEq, Repr

/-- The verdict on a whole run. -/
def verdict (success : Bool) : String := if success then "SUCCESS" else "FAILURE"

/-- The title of the text summary. -/
def title (c : Context) : String := c.project ++ " Test Summary"

/-- The lines of the text summary. The title is underlined by one rule character for each of its
characters. -/
def lines (results : ResultSet) (c : Context) : List String :=
  let s := results.summary
  [title c, String.ofList (List.replicate (title c).length '='), "",
    "Date: " ++ c.timestamp, "Platform: " ++ c.platform,
    "Toolchain Version: " ++ c.toolchainVersion, "", "Results:", "--------"] ++
  results.entries.map (fun r => "- " ++ r.line) ++
  ["", "Summary:", "--------", "Total Tests: " ++ toString s.total,
    "Passed: " ++ toString s.successful, "Failed: " ++ toString s.failed,
    "Skipped: " ++ toString s.skipped, "Overall: " ++ verdict s.overallSuccess]

/-- The text summary: its lines, each with a line end. -/
def text (results : ResultSet) (c : Context) : String :=
  String.join ((lines results c).map (· ++ "\n"))

end Report

end Testbench
