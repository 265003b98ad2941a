import Testbench.Config.Validation
import Testbench.Toml.Reader

/-!
# Configurations from text

A configuration is written in TOML. What is not mentioned keeps its standard value, and what is
not known is refused (specification, §8).

- `Config.fieldsOf`: the fields of a section, given by name or in their order.
- `Config.ofToml?`: the configuration that a document describes.
- `Config.parse`: the configuration that a text describes, if it is valid.
- `Config.parseBy`: the same, with the text read by any reader.
-/

namespace Testbench

namespace Config

/-- The fields of a section. A section is a table with no other keys than the names of its
fields, or an array of the first of its fields in their order; further items are ignored. -/
def fieldsOf? (names : List String) : Toml → Option Toml.Members
  | .table ms => if ms.all fun m => names.contains m.1 then some ms else none
  | .array items => some (names.zip items)
  | _ => none

/-- A text under a name, with the standard text where there is none. -/
def text? (ms : Toml.Members) (name standard : String) : Option String :=
  match ms.lookup name with
  | none => some standard
  | some (.string s) => some s
  | some _ => none

/-- A number of 32 bits under a name, with the standard number where there is none. -/
def number? (ms : Toml.Members) (name : String) (standard : Nat) : Option Nat :=
  match ms.lookup name with
  | none => some standard
  | some (.integer n) => if 0 ≤ n ∧ n < UInt32.size then some n.toNat else none
  | some _ => none

/-- A section under a name, with the standard section where there is none. -/
def section? {α : Type} (ms : Toml.Members) (name : String) (standard : α)
    (decode : Toml → Option α) : Option α :=
  match ms.lookup name with
  | none => some standard
  | some v => decode v

/-! ## Sections -/

/-- The section on the toolchain. -/
def toolchainOf? (v : Toml) : Option Toolchain := do
  let ms ← fieldsOf? ["program", "version_prefix", "min_major_version", "test_stage"] v
  let d := Toolchain.standard
  let program ← text? ms "program" d.program
  let banner ← text? ms "version_prefix" d.banner
  let minMajor ← number? ms "min_major_version" d.minMajor
  let testStage ← text? ms "test_stage" d.testStage
  return ⟨program, banner, minMajor, testStage⟩

/-- The section on patches. -/
def layoutOf? (v : Toml) : Option Patch.Layout := do
  let ms ← fieldsOf? ["target_os", "patches_dir", "tests_dir", "support_dir", "cgfloat_test",
    "dispatch_support", "snapshot_test"] v
  let d := Patch.Layout.standard
  let targetOs ← text? ms "target_os" d.targetOs
  let patchesDir ← text? ms "patches_dir" d.patchesDir
  let testsDir ← text? ms "tests_dir" d.testsDir
  let supportDir ← text? ms "support_dir" d.supportDir
  let graphicsTest ← text? ms "cgfloat_test" d.graphicsTest
  let labelSupport ← text? ms "dispatch_support" d.labelSupport
  let snapshotTest ← text? ms "snapshot_test" d.snapshotTest
  return ⟨targetOs, patchesDir, testsDir, supportDir, graphicsTest, labelSupport, snapshotTest⟩

/-- The section on the header check. -/
def headerCheckOf? (v : Toml) : Option HeaderCheck := do
  let ms ← fieldsOf? ["stage", "header"] v
  let d := HeaderCheck.standard
  let stage ← text? ms "stage" d.stage
  let header ← text? ms "header" d.header
  return ⟨stage, header⟩

/-- One known issue; both of its fields are needed. -/
def knownIssueOf? (v : Toml) : Option KnownIssue := do
  let ms ← fieldsOf? ["stage", "reason"] v
  match ms.lookup "stage", ms.lookup "reason" with
  | some (.string stage), some (.string reason) => return ⟨stage, reason⟩
  | _, _ => none

/-- The known issues, which have to form a table. -/
def knownIssuesOf? : Toml → Option KnownIssues
  | .array items => do
    let issues ← items.mapM knownIssueOf?
    (KnownIssues.ofList issues).toOption
  | _ => none

/-! ## Documents -/

/-- The configuration that a document describes. -/
def ofToml? (v : Toml) : Option Config := do
  let ms ← fieldsOf? ["project_name", "toolchain", "patches", "sqlite", "known_issues"] v
  let d := Config.standard
  let projectName ← text? ms "project_name" d.projectName
  let toolchain ← section? ms "toolchain" d.toolchain toolchainOf?
  let patches ← section? ms "patches" d.patches layoutOf?
  let sqlite ← section? ms "sqlite" d.sqlite headerCheckOf?
  let knownIssues ← section? ms "known_issues" d.knownIssues knownIssuesOf?
  return ⟨projectName, toolchain, patches, sqlite, knownIssues⟩

/-- The configuration that a text describes as a reader reads it, if it is valid. -/
def parseBy (reader : Toml.Reader) (text : String) : Except ConfigError Config :=
  match (reader.read text).bind ofToml? with
  | none => .error .malformed
  | some c => c.validate

/-- The configuration that a text describes, if it is valid. -/
def parse (text : String) : Except ConfigError Config := parseBy .direct text

end Config

end Testbench
