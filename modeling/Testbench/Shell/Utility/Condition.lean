import Testbench.Shell.Condition
import Testbench.Shell.Utility.Arguments

/-!
# Conditions of arguments

The utility that tells whether a condition holds. Up to four arguments are taken apart by their
number, more of them by operators.

- `Utility.Terms`: reading through the arguments, with all of them at hand.
- `Utility.Terms.byCount`: the condition of so many arguments.
- `Utility.Terms.term`: a condition that is not joined with others.
- `Utility.condition`: the utility, which also goes by the name `[`.

Part of the host that `Executor.host` follows; no result on runs depends on it.
-/

namespace Testbench

namespace Utility

open Shell Text

/-- Reading through arguments. -/
abbrev Terms := StateT (List Row) (Except String)

namespace Terms

/-- A fault. -/
def fail {α : Type} (message : String) : Terms α := throw message

/-- What is said where an argument is missing; the last one of all is given. -/
def beyond {α : Type} (last : Row) : Terms α := fail ("missing argument after " ++ inQuotes last)

/-- The argument in front. -/
def front? : Terms (Option Row) := return (← get).head?

/-- On to the next argument. -/
def step : Terms Unit := modify (·.drop 1)

/-- On to the next argument, of which there must be one. -/
def stepTo (last : Row) : Terms Unit := do
  step
  if (← get) = [] then beyond last

/-- Operators on two operands. -/
def twos : List Row :=
  ["=", "==", "!=", "-eq", "-ne", "-lt", "-le", "-gt", "-ge", "-nt", "-ot", "-ef"]

/-- Operators on one operand. -/
def ones : List Row := "erwxNOGfdsScbpLhugktnz".toList.map fun c => String.ofList ['-', c]

/-- The integer that an argument spells. -/
def integerAt (a : Row) : Except String Int :=
  let cs := a.toList.dropWhile isSpace
  let (negative, cs) := match cs with
    | '-' :: cs => (true, cs)
    | '+' :: cs => (false, cs)
    | cs => (false, cs)
  let ds := cs.takeWhile isAsciiDigit
  if ds = [] || !(cs.drop ds.length).all isSpace then .error ("invalid integer " ++ inQuotes a)
  else .ok (if negative then -(numberOfDigits ds : Int) else numberOfDigits ds)

/-- A condition on two operands. -/
def holdsTwo (s : State) (a op b : Row) : Except String Bool :=
  let integers (order : Int → Int → Bool) : Except String Bool := do
    let m ← integerAt a
    let n ← integerAt b
    return order m n
  match op with
  | "==" => .ok (a == b)
  | "-eq" => integers (· == ·)
  | "-ne" => integers (· != ·)
  | "-lt" => integers fun m n => decide (m < n)
  | "-le" => integers fun m n => decide (m ≤ n)
  | "-gt" => integers fun m n => decide (n < m)
  | "-ge" => integers fun m n => decide (n ≤ m)
  | op => s.holdsTwo a op b

/-- A condition on one operand in front. -/
def unary (s : State) (last : Row) : Terms Bool := do
  match ← get with
  | op :: rest =>
    if !ones.contains op then fail (inQuotes op ++ ": unary operator expected")
    else match rest with
      | [] => beyond last
      | a :: rest =>
        set rest
        if op = "-t" then
          let _ ← integerAt a
          return false
        else s.holdsOne op a
  | [] => beyond last

/-- A condition on two operands in front. -/
def binary (s : State) (last : Row) : Terms Bool := do
  match ← get with
  | "-l" :: a :: op :: b :: rest =>
    if twos.contains op then
      set rest
      holdsTwo s (toString a.length) op b
    else beyond last
  | a :: op :: "-l" :: b :: rest =>
    set rest
    holdsTwo s a op (toString b.length)
  | a :: op :: b :: rest =>
    set rest
    holdsTwo s a op b
  | _ => beyond last

/-- The argument in front counts as such. -/
def plain : Terms Bool := do
  let a ← front?
  step
  return a.any (· ≠ "")

/-- The argument has the form of an operator on one operand. -/
def isSwitch (a : Row) : Bool := a.length = 2 && a.toList.head? = some '-'

/-- The condition of two arguments. -/
def ofTwo (s : State) (last : Row) : Terms Bool := do
  match ← get with
  | a :: _ =>
    if a = "!" then
      step
      return !(← plain)
    else if isSwitch a then unary s last
    else beyond last
  | [] => beyond last

/-- The condition of three arguments; `whole` reads one that is joined. -/
def ofThree (s : State) (last : Row) (whole : Terms Bool) : Terms Bool := do
  match ← get with
  | a :: op :: b :: _ =>
    if twos.contains op then binary s last
    else if a = "!" then
      step
      return !(← ofTwo s last)
    else if a = "(" && b = ")" then
      step
      let holds ← plain
      step
      return holds
    else if op = "-a" ∨ op = "-o" then whole
    else fail (inQuotes op ++ ": binary operator expected")
  | _ => beyond last

/-- The condition of so many arguments in front. -/
def byCount (s : State) (last : Row) (whole : Terms Bool) (count : Nat) : Terms Bool := do
  match count, ← get with
  | 1, _ => plain
  | 2, _ => ofTwo s last
  | 3, _ => ofThree s last whole
  | 4, args =>
    if args.head? = some "!" then
      step
      return !(← ofThree s last whole)
    else if args.head? = some "(" && args[3]? = some ")" then
      step
      let holds ← ofTwo s last
      step
      return holds
    else whole
  | _, _ => whole

/-- How many arguments stand in front of a closing parenthesis; all of them if that is far away. -/
def countInside (args : List Row) : Nat :=
  let front := (args.drop 1).takeWhile (· ≠ ")")
  if front.length + 1 < 5 then min args.length (front.length + 1) else args.length

/-- A condition that is not joined with others; `fuel` bounds how deep it is. -/
def term (s : State) (last : Row) (whole : Terms Bool) : (fuel : Nat) → Terms Bool
  | 0 => beyond last
  | fuel + 1 => do
    match ← get with
    | [] => beyond last
    | "!" :: _ =>
      stepTo last
      return !(← term s last whole fuel)
    | "(" :: _ =>
      stepTo last
      let holds ← byCount s last whole (countInside (← get))
      match ← front? with
      | none => fail "')' expected"
      | some a =>
        if a ≠ ")" then fail ("')' expected, found " ++ inQuotes a)
        else
          step
          return holds
    | a :: rest =>
      let isLength := a = "-l" && 3 ≤ rest.length && (rest[1]?).any twos.contains
      let isBinary := 2 ≤ rest.length && (rest[0]?).any twos.contains
      if isLength || isBinary then binary s last
      else if isSwitch a then unary s last
      else plain

/-- Conditions that are joined by an operator; `fuel` bounds their number. -/
def joined (op : Row) (join : Bool → Bool → Bool) (one : Terms Bool) : (fuel : Nat) → Terms Bool
  | 0 => one
  | fuel + 1 => do
    let holds ← one
    if (← front?) = some op then
      step
      return join holds (← joined op join one fuel)
    else return holds

/-- Alternatives of conditions that hold together; `fuel` bounds how deep they are. -/
def whole (s : State) (last : Row) (size : Nat) : (fuel : Nat) → Terms Bool
  | 0 => beyond last
  | fuel + 1 => do
    if (← get) = [] then beyond last
    else
      let one := term s last (whole s last size fuel) size
      joined "-o" (· || ·) (joined "-a" (· && ·) one size) size

end Terms

/-- The condition that arguments make. -/
def conditionOf (s : State) (args : List Row) : Except String Bool :=
  if args = [] then .ok false
  else
    let last := args.getLast?.getD ""
    let size := args.length + 1
    match (Terms.byCount s last (Terms.whole s last size size) args.length).run args with
    | .error e => .error e
    | .ok (_, extra :: _) => .error ("extra argument " ++ inQuotes extra)
    | .ok (holds, []) => .ok holds

/-- A condition, between brackets if the utility is called so. -/
def condition (bracket : Bool) (args : List Row) (s : State) : State :=
  if bracket && args.getLast? ≠ some "]" then (report s "missing ']'").withStatus 2
  else
    match conditionOf s (if bracket then args.dropLast else args) with
    | .ok holds => s.withStatus (if holds then 0 else 1)
    | .error e => (report s e).withStatus 2

end Utility

end Testbench
