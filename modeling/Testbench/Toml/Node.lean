import Testbench.Toml

/-!
# Tables under construction

A document builds its tables piece by piece, and says of each piece how it came about. Which
pieces may still be added to depends on that.

- `Toml.Origin`: how a table came about.
- `Toml.Node`: a finished value, a table, or an array of tables.
- `Toml.within`: a change at the end of a path, tables on the way made where they are missing.
- `Toml.addValue`, `Toml.openTable`, `Toml.openElement`: the three statements of a document.
- `Toml.Node.finish`: the value of a node.
-/

namespace Testbench

namespace Toml

/-- How a table came about. -/
inductive Origin where
  /-- It was on the way to a table with a header. -/
  | implied
  /-- It has a header. -/
  | header
  /-- It was on the way of a dotted key. -/
  | dotted
  deriving DecidableEq, Repr

/-- A part of a document under construction. -/
inductive Node where
  /-- A value that nothing can be added to. -/
  | value (v : Toml)
  | table (origin : Origin) (members : List (String × Node))
  /-- An array of tables, the last one first. -/
  | tables (elements : List (List (String × Node)))

/-- The members of a table under construction. -/
abbrev Nodes := List (String × Node)

/-- The members with the node of one key changed, or added behind the others; nothing if the
change is refused. -/
def alter (key : String) (change : Option Node → Option Node) : Nodes → Option Nodes
  | [] => (change none).map fun n => [(key, n)]
  | (k, n) :: rest =>
    if k = key then (change (some n)).map fun n => (k, n) :: rest
    else (alter key change rest).map ((k, n) :: ·)

/-- The members with those at the end of a path changed. Missing tables are made. The path of a
header may lead through any table and through the last element of an array of tables; the path
of a dotted key may not lead through a table that has a header. -/
def within (dotted : Bool) (change : Nodes → Option Nodes) : (path : List String) → Nodes →
    Option Nodes
  | [], ns => change ns
  | key :: path, ns =>
    alter key (fun
      | none => (within dotted change path []).map (.table (if dotted then .dotted else .implied))
      | some (.table origin ms) =>
        if dotted && origin = .header then none
        else (within dotted change path ms).map (.table origin)
      | some (.tables (last :: earlier)) =>
        if dotted then none
        else (within dotted change path last).map fun ms => .tables (ms :: earlier)
      | some _ => none) ns

/-- The members with a new value under a key that is not in use. -/
def addLeaf (key : String) (v : Toml) : Nodes → Option Nodes :=
  alter key fun
    | none => some (.value v)
    | some _ => none

/-- The document after a dotted key is given a value in the table of a header. -/
def addValue (headerPath keyPath : List String) (key : String) (v : Toml) (ns : Nodes) :
    Option Nodes :=
  within false (within true (addLeaf key v) keyPath) headerPath ns

/-- The document after the header of a table. A table on the way to others may still get its
header. -/
def openTable (path : List String) (key : String) (ns : Nodes) : Option Nodes :=
  within false
    (alter key fun
      | none => some (.table .header [])
      | some (.table .implied ms) => some (.table .header ms)
      | some _ => none) path ns

/-- The document after the header of one more element of an array of tables. -/
def openElement (path : List String) (key : String) (ns : Nodes) : Option Nodes :=
  within false
    (alter key fun
      | none => some (.tables [[]])
      | some (.tables elements) => some (.tables ([] :: elements))
      | some _ => none) path ns

/-! ## Finished values -/

mutual

/-- The value of a node. -/
def Node.finish : Node → Toml
  | .value v => v
  | .table _ ms => .table (finishMembers ms)
  | .tables es => .array (finishElements es).reverse

/-- The values of members. -/
def finishMembers : List (String × Node) → Members
  | [] => []
  | (key, n) :: rest => (key, n.finish) :: finishMembers rest

/-- The values of the elements of an array of tables. -/
def finishElements : List (List (String × Node)) → List Toml
  | [] => []
  | ms :: rest => .table (finishMembers ms) :: finishElements rest

end

end Toml

end Testbench
