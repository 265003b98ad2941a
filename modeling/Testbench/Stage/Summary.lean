import Testbench.Stage.ResultSet

/-!
# Summaries

The counts of a run and its verdict as a whole (specification, §3).

- `Summary`: how many results there are, how many passed, were skipped and failed, and whether
  the run succeeded. A skipped stage never makes a run fail.
- `Summary.add`: one more result counted.
- `ResultSet.summary`: the summary of a set.
-/

namespace Testbench

/-- The counts over some results. -/
structure Summary where
  total : Nat
  successful : Nat
  skipped : Nat
  failed : Nat
  overallSuccess : Bool
  deriving DecidableEq, Repr

namespace Summary

/-- The summary of no results: nothing failed. -/
def empty : Summary := ⟨0, 0, 0, 0, true⟩

/-- The summary with one more result counted. -/
def add (s : Summary) (r : StageResult) : Summary :=
  match r.verdict with
  | .skipped _ => { s with total := s.total + 1, skipped := s.skipped + 1 }
  | .ran true _ => { s with total := s.total + 1, successful := s.successful + 1 }
  | .ran false _ =>
    { s with total := s.total + 1, failed := s.failed + 1, overallSuccess := false }

/-- The summary of a list of results. -/
def ofList (results : List StageResult) : Summary := results.foldl add empty

end Summary

/-- The summary of a result set. -/
def ResultSet.summary (s : ResultSet) : Summary := Summary.ofList s.entries

end Testbench
