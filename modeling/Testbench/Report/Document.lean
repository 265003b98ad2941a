import Testbench.Decimal.Shortest
import Testbench.Json.Printer
import Testbench.Report

/-!
# The report for programs

The structured summary of a run, a JSON document: the `summary.json` of the specification (§4.5).

- `Json.Numeral.ofDyadic`: a binary number in the fewest digits that read back.
- `StageResult.toJson`, `ResultSet.toJson`, `KnownIssues.toJson`: the parts of the document.
- `Report.document`: the document.
- `Report.json`: its text.
-/

namespace Testbench

/-! ## Numbers -/

namespace Json.Numeral

/-- The digits of a text of digits. -/
def digitsOf (s : List Char) : List (Fin 10) := s.map fun c => Fin.ofNat 10 (c.toNat - '0'.toNat)

/-- The number spelled by some digits. -/
def valueOf (s : List Char) : Nat := s.foldl (fun n c => 10 * n + (c.toNat - '0'.toNat)) 0

/-- A decimal as it is written. From `0.00001` up to sixteen places before the point it is
written out with at least one place after the point; outside that range one digit stands before
the point, and a power of ten follows. -/
def ofDecimal (d : Decimal) : Numeral :=
  let ds := digits d.coefficient
  let top := d.magnitude
  if d.coefficient = 0 then ⟨false, 0, [0], none⟩
  else if 0 ≤ d.exponent ∧ top < 16 then
    ⟨false, d.coefficient * Decimal.factor 10 d.exponent, [0], none⟩
  else if 0 ≤ top ∧ top < 16 then
    ⟨false, valueOf (ds.take (top + 1).toNat), digitsOf (ds.drop (top + 1).toNat), none⟩
  else if -5 ≤ top ∧ top < 0 then
    ⟨false, 0, digitsOf (List.replicate (-top - 1).toNat '0' ++ ds), none⟩
  else ⟨false, valueOf (ds.take 1), digitsOf (ds.drop 1), some top⟩

/-- A binary number in the fewest digits that read back. -/
def ofDyadic (x : Dyadic) : Numeral := ofDecimal x.shortest

end Json.Numeral

/-! ## The parts of the document -/

/-- The member of a result: whether it succeeded, how long it took if it ran, whether it was
skipped, and why if it was. -/
def StageResult.toJson (r : StageResult) : Json :=
  match r.verdict with
  | .ran success elapsed =>
    .object [("success", .bool success), ("duration", .number (.ofDyadic elapsed.toDyadic)),
      ("skipped", .bool false)]
  | .skipped reason =>
    .object [("success", .bool false), ("skipped", .bool true), ("reason", .string reason)]

/-- One member for each result, in their order. -/
def ResultSet.toJson (s : ResultSet) : Json :=
  .object (s.entries.map fun r => (r.name, r.toJson))

/-- One member for each declaration, in their order. -/
def KnownIssues.toJson (t : KnownIssues) : Json :=
  .object (t.entries.map fun i => (i.stage, .string i.reason))

/-! ## The document -/

namespace Report

/-- The structured summary of a run. -/
def document (results : ResultSet) (issues : KnownIssues) (c : Context) : Json :=
  let s := results.summary
  .object
    [("timestamp", .string c.timestamp), ("platform", .string c.platform),
     ("toolchain_version", .string c.toolchainVersion), ("tests", results.toJson),
     ("total_tests", .nat s.total), ("successful_tests", .nat s.successful),
     ("skipped_tests", .nat s.skipped), ("known_issues", issues.toJson),
     ("overall_success", .bool s.overallSuccess)]

/-- The text of the structured summary, with a line end behind it. -/
def json (results : ResultSet) (issues : KnownIssues) (c : Context) : String :=
  (document results issues c).pretty ++ "\n"

end Report

end Testbench
