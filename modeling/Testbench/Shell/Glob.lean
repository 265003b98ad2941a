import Testbench.Shell.Pattern
import Testbench.Text.Octets
import Testbench.Tree.Walk

/-!
# Names of files by pattern

- `Shell.namesIn`: the names in a directory.
- `Shell.stands`: whether something stands at a path.
- `Shell.filesLike`: the paths that have the form of a pattern, in order.

Part of the host that `Executor.host` follows; no result on runs depends on it.
-/

namespace Testbench

namespace Shell

open Text

/-- The names in a directory in order, but for the two that stand for places already reached. -/
def namesIn (t : Tree) (l : Location) : List Row :=
  let names := (t.below l).filterMap fun
    | ([name], _) => some (toRow name)
    | _ => none
  names.mergeSort (· ≤ ·)

/-- The entry that stands under the last name of a path, be it a link. -/
def entryAt? (t : Tree) (path : Row) : Option Entry :=
  let path := ofRow path
  if Path.endsInSlash path then (t.entry? path).filter Entry.isDir
  else match t.parting path with
    | .ok (base, some name) => t.get? (base ++ [name])
    | .ok (base, none) => t.get? base
    | .error _ => none

/-- Something stands at the path, be it a link that leads nowhere. -/
def stands (t : Tree) (path : Row) : Bool := (entryAt? t path).isSome

/-- Characters cut at slashes. -/
def components (cs : List Cell) : List (List Cell) := cs.splitOnP fun c => c.1 = '/'

/-- The paths that continue one that was read already by parts that match patterns; `wild` after a
part that holds more than plain characters. -/
def pathsLike (t : Tree) : (wild : Bool) → (read : Row) → List (List Cell) → List Row
  | wild, read, [] => if wild && stands t read then [read] else []
  | wild, read, part :: parts =>
    let slash := if parts = [] then "" else "/"
    let ps := glyphs part
    if isWild ps then
      let l := t.find (if read = "" then "." else ofRow read)
      let names := match l with
        | .ok l => if (t.get? l).any Entry.isDir then [".", ".."] ++ namesIn t l else []
        | .error _ => []
      -- a name that begins with a point is only meant by a pattern that does
      let hidden := (part.head?.any fun c => c.1 = '.') ||
        (part.take 2).map Prod.fst = ['\\', '.']
      let hits := names.filter fun (n : String) =>
        (hidden || n.toList.head? ≠ some '.') && isMatch ps n.toList
      hits.flatMap fun n => pathsLike t true (read ++ n ++ slash) parts
    else
      let name := String.ofList ((resolve part).map Prod.fst)
      pathsLike t wild (read ++ name ++ slash) parts

/-- The paths that have the form of a pattern, in order. -/
def filesLike (t : Tree) (cs : List Cell) : List Row :=
  (pathsLike t false "" (components cs)).mergeSort (· ≤ ·)

end Shell

end Testbench
