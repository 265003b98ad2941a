/-!
# Where patches go

The section on patches of a configuration (specification, §4.2 and §8).

- `Patch.Layout`: the system that needs patches, and the files that take part, relative to the
  root of the sources.
-/

namespace Testbench

namespace Patch

/-- The system that needs patches and the files that take part. -/
structure Layout where
  /-- The system on which sources are patched. -/
  targetOs : String
  /-- The directory with the replacement files. -/
  patchesDir : String
  /-- The directory with the tests. -/
  testsDir : String
  /-- The directory with the support files, below the tests. -/
  supportDir : String
  /-- The file with the tests of graphics numbers, `cgfloat_test` in a file. -/
  graphicsTest : String
  /-- The support file with the wrapper for queue labels, `dispatch_support` in a file. -/
  labelSupport : String
  /-- The file with the snapshot tests. -/
  snapshotTest : String
  deriving DecidableEq, Repr

/-- The layout in use when no other is configured. -/
def Layout.standard : Layout where
  targetOs := "linux"
  patchesDir := "patches"
  testsDir := "Tests/GRDBTests"
  supportDir := "Support"
  graphicsTest := "CGFloatTests.swift"
  labelSupport := "DispatchQueueLabel.swift"
  snapshotTest := "DatabaseSnapshotTests.swift"

end Patch

end Testbench
