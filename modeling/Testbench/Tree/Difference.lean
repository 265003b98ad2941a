import Testbench.Tree

/-!
# Differences between trees

What has to be done to turn one tree into another one.

- `Tree.lost`: the places where nothing stands any more.
- `Tree.gained`: the places where something else stands now, those that lead to others first.
-/

namespace Testbench

namespace Tree

/-- The places of a tree where nothing stands in another one. -/
def lost (before after : Tree) : List Location :=
  (before.entries.map Prod.fst).filter fun l => (after.get? l).isNone

/-- The places of a tree where something else stood in another one, and what stands there now;
places that lead to others come first. -/
def gained (before after : Tree) : List (Location × Entry) :=
  (after.entries.filter fun (l, e) => before.get? l ≠ some e).mergeSort
    fun a b => a.1.length ≤ b.1.length

end Tree

end Testbench
