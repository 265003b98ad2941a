import Testbench.Shell.Glob
import Testbench.Shell.State

/-!
# Conditions

What `test` decides: the form of texts, the order of numbers, and what stands at a path. A condition
is read and worked out at once, so that the first fault that is met is the one that is told.

- `Shell.integer?`: the integer that a text spells.
- `Shell.Operator`: what can be asked of one operand and of two.
- `Shell.State.holdsOne`, `Shell.State.holdsTwo`: the answers.
- `Shell.Asking`: reading through the arguments of a condition.
- `Shell.State.condition`: a whole condition.

Part of the host that `Executor.host` follows; no result on runs depends on it.
-/

namespace Testbench

namespace Shell

open Text

/-- The integer that a text spells, blanks around it left out; it has to fit into 64 bits. -/
def integer? (s : Row) : Option Int :=
  let (negative, ds) := match s.toList.dropWhile isSpace with
    | '-' :: ds => (true, ds)
    | '+' :: ds => (false, ds)
    | ds => (false, ds)
  match digitsAt 10 ds with
  | some (n, rest) =>
    let n : Int := if negative then -n else n
    if rest.all isSpace && clamp n = n then some n else none
  | none => none

/-- What is said of a text that spells no number. -/
def noNumber (s : Row) : String := "Illegal number: " ++ s

/-! ## Operators -/

/-- What an argument can mean besides itself. -/
inductive Operator where
  | one
  | two
  | negation
  | conjunction
  | alternative
  | opening
  | closing
  deriving DecidableEq, Repr

namespace Operator

/-- The operators on one operand. -/
def ones : List String :=
  ["-r", "-w", "-x", "-e", "-f", "-d", "-c", "-b", "-p", "-u", "-g", "-k", "-s", "-t", "-z", "-n",
   "-h", "-L", "-O", "-G", "-S"]

/-- The operators on two operands. -/
def twos : List String :=
  ["=", "!=", "<", ">", "-eq", "-ne", "-gt", "-ge", "-lt", "-le", "-nt", "-ot", "-ef"]

/-- The operator that a text spells. -/
def ofText? (s : String) : Option Operator :=
  if ones.contains s then some one
  else if twos.contains s then some two
  else if s = "!" then some negation
  else if s = "-a" then some conjunction
  else if s = "-o" then some alternative
  else if s = "(" then some opening
  else if s = ")" then some closing
  else none

end Operator

/-! ## Files -/

namespace State

/-- The entry that may be read, run, or written, if anyone may. -/
def mayRun (s : State) (path : Row) : Bool :=
  match s.tree.entry? (ofRow path) with
  | some .dir => true
  | some (.file _ executable) => executable
  | some (.utility _) => true
  | _ => false

/-- The place that a path leads to, and how long ago its entry was changed last, against others. -/
def age? (s : State) (path : Row) : Option Nat :=
  match s.tree.find (ofRow path) with
  | .ok l => s.files.entries.findIdx? (·.1 = l)
  | .error _ => none

/-- A condition on one operand. -/
def holdsOne (s : State) (op : String) (a : Row) : Except String Bool :=
  let path := ofRow a
  let entry := s.tree.entry? path
  if op = "-n" then .ok (a != "")
  else if op = "-z" then .ok (a == "")
  else if op = "-t" then
    match integer? a with
    | some _ => .ok false
    | none => .error (noNumber a)
  else if op = "-h" ∨ op = "-L" then
    .ok (match entryAt? s.tree a with
      | some (.link _) => true
      | _ => false)
  else if op = "-e" ∨ op = "-r" ∨ op = "-w" ∨ op = "-O" ∨ op = "-G" then .ok entry.isSome
  else if op = "-x" then .ok (s.mayRun a)
  else if op = "-f" then .ok (s.tree.isFile path)
  else if op = "-d" then .ok (s.tree.isDir path)
  else if op = "-c" then .ok (entry == some .sink || entry == some .full)
  else if op = "-s" then
    .ok (match entry with
      | some .dir => true
      | some (.file octets _) => octets.size != 0
      | some (.utility _) => true
      | _ => false)
  else .ok false

/-- The order of two integers that two texts spell. -/
def compare (order : Int → Int → Bool) (a b : Row) : Except String Bool :=
  match integer? a, integer? b with
  | none, _ => .error (noNumber a)
  | _, none => .error (noNumber b)
  | some m, some n => .ok (order m n)

/-- A condition on two operands. -/
def holdsTwo (s : State) (a : Row) (op : String) (b : Row) : Except String Bool :=
  if op = "=" then .ok (a == b)
  else if op = "!=" then .ok (a != b)
  else if op = "<" then .ok (decide (a < b))
  else if op = ">" then .ok (decide (b < a))
  else if op = "-eq" then compare (· == ·) a b
  else if op = "-ne" then compare (· != ·) a b
  else if op = "-lt" then compare (decide <| · < ·) a b
  else if op = "-le" then compare (decide <| · ≤ ·) a b
  else if op = "-gt" then compare (fun m n => decide (n < m)) a b
  else if op = "-ge" then compare (fun m n => decide (n ≤ m)) a b
  else
    let find := fun (p : Row) => s.tree.find (ofRow p)
    match op, find a, find b with
    | "-ef", .ok l, .ok m => .ok (l == m)
    | "-nt", .ok _, .ok _ => .ok (decide ((s.age? a).getD 0 < (s.age? b).getD 0))
    | "-ot", .ok _, .ok _ => .ok (decide ((s.age? b).getD 0 < (s.age? a).getD 0))
    | _, _, _ => .ok false

end State

/-! ## Conditions in full -/

/-- Reading through arguments, from the one that is being looked at on. -/
abbrev Asking := StateT (List Row) (Except String)

namespace Asking

/-- The operator that the argument in front is where it stands: an operator on one operand is one
only if an operand follows. -/
def operatorOf : List Row → Option Operator
  | [] => none
  | a :: rest =>
    match Operator.ofText? a, rest with
    | some .one, [] => none
    | some .one, b :: _ :: _ => if Operator.ofText? b = some .two then none else some .one
    | some .opening, [] => none
    | op, _ => op

/-- The arguments without the one in front. -/
def step : Asking Unit := modify (·.drop 1)

/-- A fault. -/
def fail {α : Type} (message : String) : Asking α := throw message

/-- What is said where an operand is missing. -/
def wanting {α : Type} (op : String) : Asking α := fail (op ++ ": argument expected")

/-- A condition that is not joined with others; `whole` reads one between parentheses. -/
def primary (s : State) (whole : Option Operator → Asking Bool) (t : Option Operator) :
    Asking Bool := do
  match t, ← get with
  | _, [] => return false
  | some .opening, _ =>
    step
    let t := operatorOf (← get)
    if t = some .closing then return false
    let holds ← whole t
    step
    if operatorOf (← get) ≠ some .closing then fail "closing paren expected"
    return holds
  | some .one, op :: _ =>
    step
    match ← get with
    | [] => wanting op
    | a :: _ => s.holdsOne op a
  | _, a :: rest =>
    if operatorOf rest = some .two then
      step
      step
      match rest with
      | op :: b :: _ => s.holdsTwo a op b
      | op :: _ => wanting op
      | [] => return false
    else return a ≠ ""

/-- A condition that may be negated; `fuel` bounds how often. -/
def negated (s : State) (whole : Option Operator → Asking Bool) :
    (fuel : Nat) → Option Operator → Asking Bool
  | 0, _ => return false
  | fuel + 1, t => do
    if t ≠ some .negation then primary s whole t
    else
      step
      return !(← negated s whole fuel (operatorOf (← get)))

/-- Conditions that are joined by an operator; `fuel` bounds their number. -/
def chain (joint : Operator) (join : Bool → Bool → Bool) (one : Option Operator → Asking Bool) :
    (fuel : Nat) → Option Operator → Asking Bool
  | 0, _ => return false
  | fuel + 1, t => do
    let holds ← one t
    let rest := (← get).drop 1
    if operatorOf rest = some joint then
      set (rest.drop 1)
      return join holds (← chain joint join one fuel (operatorOf (rest.drop 1)))
    else return holds

/-- Alternatives of conditions that hold together; `fuel` bounds how deep they are. -/
def whole (s : State) : (fuel : Nat) → Option Operator → Asking Bool
  | 0, _ => return false
  | fuel + 1, t => do
    let size := (← get).length + 1
    let both := chain .conjunction (· && ·) (negated s (whole s fuel) size) size
    chain .alternative (· || ·) both size t

end Asking

namespace State

/-- A condition that begins like an operand or an operator. -/
def conditionFrom (s : State) (t : Option Operator) (args : List Row) : Except String Bool := do
  let (holds, rest) ← (Asking.whole s (args.length + 1) t).run args
  match rest with
  | a :: _ :: _ => throw (if a = "" then "unexpected operator" else a ++ ": unexpected operator")
  | _ => return holds

/-- A whole condition; up to four arguments are taken apart by their number. -/
def condition (s : State) : List Row → Except String Bool
  | [] => .ok false
  | [a, op, b] =>
    if Operator.ofText? op = some .two then s.conditionFrom none [a, op, b]
    else if a = "(" ∧ b = ")" then s.conditionFrom (Asking.operatorOf [op]) [op]
    else if a = "!" then
      (s.conditionFrom (Asking.operatorOf [op, b]) [op, b]).map (!·)
    else s.conditionFrom (Asking.operatorOf [a, op, b]) [a, op, b]
  | "!" :: a :: op :: b :: [] => (condition s [a, op, b]).map (!·)
  | "(" :: a :: b :: ")" :: [] => s.conditionFrom (Asking.operatorOf [a, b]) [a, b]
  | args => s.conditionFrom (Asking.operatorOf args) args

end State

end Shell

end Testbench
