import Testbench.Text.Pattern

/-!
# Amendments to test sources

Two amendments make sources build where a framework is missing. Each looks for a marker first, so
that a source which it has amended is left alone. They are the rewrites of the specification (§4.2),
the one of the snapshot tests and the one of `CGFloatTests.swift`, and the marker is its sentinel.

- `Amendment.routeLabels`: calls that look up a queue label go through a wrapper, behind a guarded
  import.
- `Amendment.routeLabelsBy`: the same, with the calls found by a pattern.
- `Amendment.guardGraphics`: an import and the test class that needs it are put behind a guard.
-/

namespace Testbench

namespace Amendment

/-! ## Queue labels -/

/-- The call that looks up the label of the current queue. -/
def labelCall : List Char := "String(utf8String: __dispatch_queue_get_label(nil))".toList

/-- The call of the wrapper that takes its place. -/
def labelWrapper : List Char := "getQueueLabel(nil)".toList

/-- The line that opens the guarded import of queues. -/
def queueMarker : List Char := "#if canImport(Dispatch)".toList

/-- The guarded import of queues, with a blank line behind it. -/
def queueGuard : List Char := "#if canImport(Dispatch)\nimport Dispatch\n#endif\n\n".toList

/-- The source with all look-ups of queue labels sent through the wrapper and the guarded import
in front of it; `none` when the guard is there and no look-up is left. -/
def routeLabels (source : List Char) : Option (List Char) :=
  let guarded := Text.contains queueMarker source
  if guarded && !Text.contains labelCall source then none
  else
    let routed := Text.replaceAll labelCall labelWrapper source
    some (if guarded then routed else queueGuard ++ routed)

/-- The pattern by which the look-ups are found. -/
def labelPattern : List Char := "String\\(utf8String: __dispatch_queue_get_label\\(nil\\)\\)".toList

/-- As `routeLabels`, with the look-ups found by an engine; where the engine refuses the pattern,
its reason is the answer. -/
def routeLabelsBy (engine : Text.Engine) (source : List Char) :
    Except String (Option (List Char)) :=
  match engine.read labelPattern with
  | .error reason => .error reason
  | .ok call =>
    let guarded := Text.contains queueMarker source
    if guarded && !call.occursIn source then .ok none
    else
      let routed := call.replaceAll labelWrapper source
      .ok (some (if guarded then routed else queueGuard ++ routed))

/-! ## Graphics -/

/-- The line that opens a guard on graphics. -/
def graphicsMarker : List Char := "#if canImport(CoreGraphics)".toList

/-- The import of graphics. -/
def graphicsImport : List Char := "import CoreGraphics".toList

/-- The import of graphics behind a guard. -/
def guardedImport : List Char := "#if canImport(CoreGraphics)\nimport CoreGraphics\n#endif".toList

/-- The line that opens the class of graphics tests. -/
def classOpener : List Char := "class CGFloatTests: GRDBTestCase \x7b".toList

/-- The opening line behind a guard, with an empty class in its place where there are no
graphics. -/
def guardedOpener : List Char :=
  ("#if canImport(CoreGraphics)\nclass CGFloatTests: GRDBTestCase \x7b\n#else\n" ++
    "// CGFloat tests are skipped on Linux\nclass CGFloatTests \x7b\x7d\n#endif").toList

/-- The source with the import and the class opener behind guards; `none` when there is a guard
already, or nothing to guard. -/
def guardGraphics (source : List Char) : Option (List Char) :=
  if Text.contains graphicsMarker source then none
  else
    let guarded := Text.replaceAll classOpener guardedOpener
      (Text.replaceAll graphicsImport guardedImport source)
    if guarded = source then none else some guarded

end Amendment

end Testbench
