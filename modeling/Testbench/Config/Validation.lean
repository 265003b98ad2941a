import Testbench.Config
import Testbench.Path

/-!
# Valid configurations

A configuration has to keep some twenty rules, which are tried in a fixed order (specification, §8).

- `Config.fault?`: the first rule that a configuration breaks.
- `Config.validate`: the configuration is accepted if it breaks none.
-/

namespace Testbench

namespace Config

/-- The most octets in a path. -/
def pathLimit : Nat := 4096

/-- The most octets in a name of a path. -/
def segmentLimit : Nat := 255

/-- A name of the path is too long. -/
def hasLongSegment (path : String) : Bool :=
  (Path.segments path).any fun name => segmentLimit < name.utf8ByteSize

/-- The fault of a text that must not be blank. -/
def textFault? (field : Field) (value : String) : Option Fault :=
  if Text.isVoid value then some (.blank field) else none

/-- The fault of a path that must not be blank or too long. -/
def pathFault? (field : Field) (value : String) : Option Fault :=
  if Text.isVoid value then some (.blank field)
  else if pathLimit < value.utf8ByteSize then some (.pathTooLong field)
  else if hasLongSegment value then some (.segmentTooLong field)
  else none

/-- A known issue with the name of an executed stage is a fault. -/
def collision? (issues : KnownIssues) (stage : String) : Option Fault :=
  if (issues.reasonFor? stage).isSome then some (.collision stage) else none

/-- The rules in the order in which they are tried, each with its fault if it is broken. -/
def faults (c : Config) : List (Option Fault) :=
  [textFault? .projectName c.projectName,
   textFault? .program c.toolchain.program,
   textFault? .banner c.toolchain.banner,
   textFault? .testStage c.toolchain.testStage,
   if c.toolchain.minMajor = 0 then some .anyVersion else none,
   textFault? .targetOs c.patches.targetOs,
   pathFault? .patchesDir c.patches.patchesDir,
   pathFault? .testsDir c.patches.testsDir,
   pathFault? .supportDir c.patches.supportDir,
   pathFault? .graphicsTest c.patches.graphicsTest,
   pathFault? .labelSupport c.patches.labelSupport,
   pathFault? .snapshotTest c.patches.snapshotTest,
   textFault? .sqliteStage c.sqlite.stage,
   pathFault? .header c.sqlite.header,
   if c.toolchain.testStage = c.sqlite.stage then some .sameStages else none,
   collision? c.knownIssues c.toolchain.testStage,
   collision? c.knownIssues c.sqlite.stage]

/-- The first rule that the configuration breaks. -/
def fault? (c : Config) : Option Fault := c.faults.findSome? id

/-- The configuration, if it breaks no rule. -/
def validate (c : Config) : Except ConfigError Config :=
  match c.fault? with
  | some f => .error (.invalid f)
  | none => .ok c

theorem collision?_eq_none_iff {issues : KnownIssues} {stage : String} :
    collision? issues stage = none ↔ stage ∉ issues.entries.map (·.stage) := by
  rw [← KnownIssues.reasonFor?_eq_none_iff]
  unfold collision?
  split
  · next h => simp [Option.isSome_iff_ne_none.mp h]
  · next h => simpa using h

theorem fault?_eq_none_iff {c : Config} : c.fault? = none ↔ ∀ f ∈ c.faults, f = none := by
  simp [fault?, List.findSome?_eq_none_iff]

/-- A configuration is accepted when it breaks no rule, and is then kept as it is. -/
theorem validate_eq_ok_iff {c c' : Config} :
    c.validate = .ok c' ↔ (∀ f ∈ c.faults, f = none) ∧ c' = c := by
  rw [← fault?_eq_none_iff]
  unfold validate
  split
  · next f h => simp [h]
  · next h => simp [h, eq_comm]

end Config

end Testbench
