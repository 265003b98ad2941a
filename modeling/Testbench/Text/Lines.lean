/-!
# Lines

A text as its lines, with line ends between them.

- `Text.lines`: what stands between the line ends; one line more than there are line ends.
- `Text.unlines`: lines put together again.
-/

namespace Testbench

namespace Text

/-- What stands between the line ends. -/
def lines (s : List Char) : List (List Char) := s.splitOn '\n'

/-- Lines with a line end between any two. -/
def unlines (ls : List (List Char)) : List Char := ['\n'].intercalate ls

/-- The lines of a text, put together again, are the text. -/
@[simp] theorem unlines_lines (s : List Char) : unlines (lines s) = s :=
  List.intercalate_splitOn '\n'

theorem lines_ne_nil (s : List Char) : lines s ≠ [] := List.splitOn_ne_nil '\n' s

end Text

end Testbench
