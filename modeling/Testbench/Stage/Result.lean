import Testbench.Duration

/-!
# Stage results

What became of one stage of a run (specification, §3).

- `Verdict`: a stage either ran, with success or without and for some time, or was skipped for a
  declared reason. A skipped stage has no duration and never counts as a success.
- `StageResult`: a verdict with the name of its stage.
- `StageResult.label`: the verdict as people read it, such as `PASSED (2.50s)`.
-/

namespace Testbench

/-- What became of a stage. -/
inductive Verdict where
  /-- The stage ran to its end. -/
  | ran (success : Bool) (elapsed : Duration)
  /-- The stage was declared skipped. -/
  | skipped (reason : String)
  deriving DecidableEq, Repr

/-- The verdict on a named stage. -/
structure StageResult where
  name : String
  verdict : Verdict
  deriving DecidableEq, Repr

namespace Verdict

/-- The stage ran and succeeded. -/
def isPassed : Verdict → Bool
  | ran success _ => success
  | skipped _ => false

/-- The stage ran and failed. -/
def isFailed : Verdict → Bool
  | ran success _ => !success
  | skipped _ => false

/-- The stage was declared skipped. -/
def isSkipped : Verdict → Bool
  | ran _ _ => false
  | skipped _ => true

/-- How long the stage ran, if it ran. -/
def elapsed? : Verdict → Option Duration
  | ran _ elapsed => some elapsed
  | skipped _ => none

/-- Why the stage was skipped, if it was. -/
def reason? : Verdict → Option String
  | ran _ _ => none
  | skipped reason => some reason

/-- The verdict as people read it. -/
def label : Verdict → String
  | ran true elapsed => "PASSED (" ++ elapsed.label ++ ")"
  | ran false elapsed => "FAILED (" ++ elapsed.label ++ ")"
  | skipped reason => "SKIPPED (" ++ reason ++ ")"

end Verdict

namespace StageResult

/-- The result of a stage that ran to its end. -/
def completed (name : String) (success : Bool) (elapsed : Duration) : StageResult :=
  ⟨name, .ran success elapsed⟩

/-- The result of a stage that was declared skipped. -/
def skipped (name reason : String) : StageResult := ⟨name, .skipped reason⟩

/-- The line that stands for the result in a report: its name and its label. -/
def line (r : StageResult) : String := r.name ++ ": " ++ r.verdict.label

end StageResult

end Testbench
