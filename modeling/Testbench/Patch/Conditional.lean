import Testbench.Text.Lines

/-!
# Sources under a condition

How a source reads on a system that lacks a framework, and whether its braces are well nested. This
is what an amendment is for (specification, §4.2); a run does not look at it.

- `Conditional.without`: the lines that are left where the condition of a guard is false.
- `Conditional.isBalanced`: every brace is closed, and none is closed before it is opened.
-/

namespace Testbench

namespace Conditional

/-- Where a line stands. -/
inductive Region where
  /-- Outside of all guards. -/
  | free
  /-- Behind a guard whose condition is false. -/
  | hidden
  /-- Behind the word that turns a guard around. -/
  | shown
  deriving DecidableEq, Repr

/-- The line that turns a guard around. -/
def elseLine : List Char := "#else".toList

/-- The line that ends a guard. -/
def endLine : List Char := "#endif".toList

/-- The lines that are left from some region on, where the condition of `guard` is false. The
lines of the guard itself are never left. -/
def withoutFrom (guard : List Char) : Region → List (List Char) → List (List Char)
  | _, [] => []
  | .free, l :: ls =>
    if l = guard then withoutFrom guard .hidden ls else l :: withoutFrom guard .free ls
  | .hidden, l :: ls =>
    if l = elseLine then withoutFrom guard .shown ls
    else if l = endLine then withoutFrom guard .free ls
    else withoutFrom guard .hidden ls
  | .shown, l :: ls =>
    if l = endLine then withoutFrom guard .free ls else l :: withoutFrom guard .shown ls

/-- The source as it reads where the condition of `guard` is false. -/
def without (guard source : List Char) : List Char :=
  Text.unlines (withoutFrom guard .free (Text.lines source))

/-- Behind `depth` open braces, every brace is closed and none before it is opened. -/
def isBalancedFrom : (depth : Nat) → List Char → Bool
  | depth, [] => depth == 0
  | depth, '\x7b' :: s => isBalancedFrom (depth + 1) s
  | 0, '\x7d' :: _ => false
  | depth + 1, '\x7d' :: s => isBalancedFrom depth s
  | depth, _ :: s => isBalancedFrom depth s

/-- Every brace is closed, and none is closed before it is opened. -/
def isBalanced (s : List Char) : Bool := isBalancedFrom 0 s

end Conditional

end Testbench
