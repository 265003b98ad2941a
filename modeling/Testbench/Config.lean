import Testbench.KnownIssues
import Testbench.Patch.Layout

/-!
# Configurations

What a run is about: the project, its toolchain, the files to patch, the check on the database
header, and the stages that are known not to work (specification, §8). Where a field has another
name in a configuration file, its text says which.

- `Config`: a configuration, with its parts `Toolchain` and `HeaderCheck`.
- `Config.standard`: the configuration in use when there is no other.
- `ConfigError`: why a configuration is turned away.
-/

namespace Testbench

/-- How the toolchain is called, and what is asked of it. -/
structure Toolchain where
  program : String
  /-- The text in front of the version in its output, `version_prefix` in a file. -/
  banner : String
  /-- The least major version that will do, `min_major_version` in a file. -/
  minMajor : Nat
  /-- The name of the stage that runs the tests. -/
  testStage : String
  deriving DecidableEq, Repr

/-- The check that looks for the header of the database library. -/
structure HeaderCheck where
  /-- The name of the stage. -/
  stage : String
  /-- The header, relative to the root of the sources. -/
  header : String
  deriving DecidableEq, Repr

/-- A configuration. -/
structure Config where
  projectName : String
  toolchain : Toolchain
  patches : Patch.Layout
  sqlite : HeaderCheck
  knownIssues : KnownIssues
  deriving DecidableEq

/-- The toolchain in use when no other is configured. -/
def Toolchain.standard : Toolchain := ⟨"swift", "Swift version", 6, "SwiftPackageManager"⟩

/-- The header check in use when no other is configured. -/
def HeaderCheck.standard : HeaderCheck := ⟨"SQLiteConfiguration", "GRDBSQLite/sqlite3.h"⟩

/-- The configuration in use when there is no other. -/
def Config.standard : Config :=
  ⟨"GRDB.swift", .standard, .standard, .standard, .standard⟩

instance : Inhabited Config := ⟨Config.standard⟩

/-! ## Errors -/

/-- A field of a configuration that a rule is about. -/
inductive Config.Field where
  | projectName
  | program
  | banner
  | testStage
  | targetOs
  | patchesDir
  | testsDir
  | supportDir
  | graphicsTest
  | labelSupport
  | snapshotTest
  | sqliteStage
  | header
  deriving DecidableEq, Repr

/-- The name of the field as it is written in a configuration. -/
def Config.Field.name : Config.Field → String
  | projectName => "project_name"
  | program => "toolchain.program"
  | banner => "toolchain.version_prefix"
  | testStage => "toolchain.test_stage"
  | targetOs => "patches.target_os"
  | patchesDir => "patches.patches_dir"
  | testsDir => "patches.tests_dir"
  | supportDir => "patches.support_dir"
  | graphicsTest => "patches.cgfloat_test"
  | labelSupport => "patches.dispatch_support"
  | snapshotTest => "patches.snapshot_test"
  | sqliteStage => "sqlite.stage"
  | header => "sqlite.header"

/-- The rules that a configuration, its path or its file can break. -/
inductive Config.Fault where
  /-- The field is blank. -/
  | blank (field : Field)
  /-- The field is too long a path. -/
  | pathTooLong (field : Field)
  /-- A name in the field is too long. -/
  | segmentTooLong (field : Field)
  /-- Every version would do. -/
  | anyVersion
  /-- The two executed stages have one name. -/
  | sameStages
  /-- A known issue has the name of an executed stage. -/
  | collision (stage : String)
  /-- The path of the configuration is too long. -/
  | ownPathTooLong
  /-- A name in the path of the configuration is too long. -/
  | ownSegmentTooLong
  /-- The file is too large. -/
  | oversized
  /-- The file is no text. -/
  | notText
  deriving DecidableEq, Repr

/-- What is reported of a broken rule. -/
def Config.Fault.message : Config.Fault → String
  | blank field => field.name ++ " must be non-empty"
  | pathTooLong field => field.name ++ " exceeds max length"
  | segmentTooLong field => field.name ++ " path component too long"
  | anyVersion => "toolchain.min_major_version must be greater than zero"
  | sameStages => "toolchain.test_stage and sqlite.stage must differ"
  | collision stage => "known issue " ++ stage ++ " collides with an executed stage"
  | ownPathTooLong => "config path exceeds max length"
  | ownSegmentTooLong => "config path component too long"
  | oversized => "config file exceeds size limit"
  | notText => "config file must be utf-8"

/-- Why a configuration is turned away. -/
inductive ConfigError where
  /-- The file is not where it should be, or cannot be read. -/
  | unreadable (what : String)
  /-- The text is no configuration. -/
  | malformed
  /-- The configuration breaks a rule. -/
  | invalid (fault : Config.Fault)
  deriving DecidableEq, Repr

/-- What is reported of the error. -/
def ConfigError.message : ConfigError → String
  | unreadable what => "config io error: " ++ what
  | malformed => "config parse error"
  | invalid fault => "invalid config: " ++ fault.message

end Testbench
