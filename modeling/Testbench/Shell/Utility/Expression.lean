import Testbench.Shell.Utility.Arguments
import Testbench.Shell.Utility.Regex.Reader

/-!
# Expressions of arguments

The utility that works out an expression each part of which is an argument of its own: integers of
any size, comparisons, and texts searched.

- `Utility.ExprFault`: why there is no value.
- `Utility.ExprRank`: how closely operators bind.
- `Utility.exprValue`: the value of the arguments in front.
- `Utility.expression`: the utility.

Part of the host that `Executor.host` follows; no result on runs depends on it.
-/

namespace Testbench

namespace Utility

open Shell Text

/-- Why an expression has no value. -/
inductive ExprFault where
  | missingAfter (arg : Row)
  | unexpected (arg : Row)
  | unexpectedClose
  | unclosedAfter (arg : Row)
  | unclosedBefore (arg : Row)
  | noInteger
  | zeroDivisor
  | badRegex (message : String)
  deriving Repr

/-- What is said of it. -/
def ExprFault.message : ExprFault → String
  | missingAfter a => "syntax error: missing argument after " ++ inQuotes a
  | unexpected a => "syntax error: unexpected argument " ++ inQuotes a
  | unexpectedClose => "syntax error: unexpected ')'"
  | unclosedAfter a => "syntax error: expecting ')' after " ++ inQuotes a
  | unclosedBefore a => "syntax error: expecting ')' instead of " ++ inQuotes a
  | noInteger => "non-integer argument"
  | zeroDivisor => "division by zero"
  | badRegex m => m

/-- How closely operators bind, the loosest first. -/
inductive ExprRank where
  | either
  | both
  | comparison
  | sum
  | product
  | search
  deriving DecidableEq, Repr

namespace ExprRank

/-- The operators of a rank. -/
def operators : ExprRank → List Row
  | either => ["|"]
  | both => ["&"]
  | comparison => ["<", "<=", "=", "==", "!=", ">=", ">"]
  | sum => ["+", "-"]
  | product => ["*", "/", "%"]
  | search => [":"]

/-- The next closer rank. -/
def next? : ExprRank → Option ExprRank
  | either => some both
  | both => some comparison
  | comparison => some sum
  | sum => some product
  | product => some search
  | search => none

end ExprRank

/-! ## Values -/

/-- The integer that a row spells. -/
def integerOf? (r : Row) : Option Int :=
  match r.toList with
  | '-' :: cs => (natural? (String.ofList cs)).map fun n => -(n : Int)
  | _ => (natural? r).map Int.ofNat

/-- The value is empty or zero. -/
def isNull (r : Row) : Bool :=
  r = "" || (integerOf? r) = some 0

/-- The truth of a comparison as a value. -/
def truthRow (b : Bool) : Row := if b then "1" else "0"

/-- Two values compared, as integers if both are. -/
def comparedBy (op : Row) (a b : Row) : Bool :=
  let (less, same) := match integerOf? a, integerOf? b with
    | some m, some n => (decide (m < n), decide (m = n))
    | _, _ => (decide (a < b), decide (a = b))
  match op with
  | "<" => less
  | "<=" => less || same
  | "!=" => !same
  | ">=" => !less
  | ">" => !less && !same
  | _ => same

/-- What a form of texts finds at the start of a value: its first numbered part if it has one, else
how many characters it holds. -/
def searched (a pattern : Row) : Except ExprFault Row :=
  match Regex.ofText ⟨false, false⟩ pattern with
  | .error e => .error (.badRegex e)
  | .ok (r, groups) =>
    let text := a.toList.toArray
    match (Regex.ends text r ⟨0, []⟩).head? with
    | none => .ok (if groups = 0 then "0" else "")
    | some q =>
      if groups = 0 then .ok (toString q.place)
      else match q.groups.lookup 1 with
        | some (i, j) => .ok (String.ofList (text.extract i j).toList)
        | none => .ok ""

/-- Two values joined by an operator. -/
def combined (op : Row) (a b : Row) : Except ExprFault Row :=
  let integers : Except ExprFault (Int × Int) := match integerOf? a, integerOf? b with
    | some m, some n => .ok (m, n)
    | _, _ => .error .noInteger
  match op with
  | "|" => .ok (if !isNull a then a else if !isNull b then b else "0")
  | "&" => .ok (if isNull a || isNull b then "0" else a)
  | ":" => searched a b
  | "+" => integers.map fun (m, n) => toString (m + n)
  | "-" => integers.map fun (m, n) => toString (m - n)
  | "*" => integers.map fun (m, n) => toString (m * n)
  | "/" => integers.bind fun (m, n) =>
      if n = 0 then .error .zeroDivisor else .ok (toString (Int.tdiv m n))
  | "%" => integers.bind fun (m, n) =>
      if n = 0 then .error .zeroDivisor else .ok (toString (Int.tmod m n))
  | op => .ok (truthRow (comparedBy op a b))

/-- A part of a text, from a character on and of a length, both as they are spelled. -/
def partOf (text first length : Row) : Row :=
  match integerOf? first, integerOf? length with
  | some i, some n =>
    if i ≤ 0 || n ≤ 0 then ""
    else String.ofList ((text.toList.drop (i.toNat - 1)).take n.toNat)
  | _, _ => ""

/-! ## Reading -/

/-- The argument in front of what is left. -/
def beforeRest (all rest : List Row) : Row := (all[all.length - rest.length - 1]?).getD ""

mutual

/-- The value of the arguments in front, and what is left; `live` unless the value does not count.
`fuel` bounds the depth and the number of operators. -/
def exprValue (all : List Row) : (fuel : Nat) → (live : Bool) → Option ExprRank → List Row →
    Except ExprFault (Row × List Row)
  | 0, _, _, rest => .error (.missingAfter (beforeRest all rest))
  | fuel + 1, live, some rank, rest =>
    match exprValue all fuel live rank.next? rest with
    | .error e => .error e
    | .ok (a, rest) => exprMore all fuel live rank a rest
  | fuel + 1, live, none, rest =>
    match rest with
    | [] => .error (.missingAfter (beforeRest all rest))
    | word :: rest =>
      let operand := fun (rest : List Row) => exprValue all fuel live none rest
      if word = "+" then
        match rest with
        | [] => .error (.missingAfter "+")
        | a :: rest => .ok (a, rest)
      else if word = "length" then
        (operand rest).map fun (a, rest) => (toString a.length, rest)
      else if word = "match" then
        match operand rest with
        | .error e => .error e
        | .ok (a, rest) =>
          match operand rest with
          | .error e => .error e
          | .ok (b, rest) => if live then (searched a b).map (·, rest) else .ok (a, rest)
      else if word = "index" then
        match operand rest with
        | .error e => .error e
        | .ok (a, rest) =>
          (operand rest).map fun (b, rest) =>
            let i := a.toList.findIdx? b.toList.contains
            (toString (i.elim 0 (· + 1)), rest)
      else if word = "substr" then
        match operand rest with
        | .error e => .error e
        | .ok (a, rest) =>
          match operand rest with
          | .error e => .error e
          | .ok (b, rest) => (operand rest).map fun (c, rest) => (partOf a b c, rest)
      else if word = "(" then
        match exprValue all fuel live (some .either) rest with
        | .error e => .error e
        | .ok (a, ")" :: rest) => .ok (a, rest)
        | .ok (_, []) => .error (.unclosedAfter (beforeRest all []))
        | .ok (_, b :: _) => .error (.unclosedBefore b)
      else if word = ")" then .error .unexpectedClose
      else .ok (word, rest)

/-- The value of the operators of one rank that follow a value. -/
def exprMore (all : List Row) : (fuel : Nat) → (live : Bool) → ExprRank → Row → List Row →
    Except ExprFault (Row × List Row)
  | 0, _, _, a, rest => .ok (a, rest)
  | fuel + 1, live, rank, a, rest =>
    match rest with
    | [] => .ok (a, [])
    | op :: rest' =>
      if !rank.operators.contains op then .ok (a, rest)
      else
        let liveRight := live && (op ≠ "|" || isNull a) && (op ≠ "&" || !isNull a)
        match exprValue all fuel liveRight rank.next? rest' with
        | .error e => .error e
        | .ok (b, rest) =>
          match if live then combined op a b else .ok a with
          | .error e => .error e
          | .ok a => exprMore all fuel live rank a rest

end

/-- The value of an expression. -/
def expression (args : List Row) (s : State) : State :=
  match if args.head? = some "--" then args.drop 1 else args with
  | [] => refuse s 2 "missing operand"
  | args =>
    match exprValue args (16 * (args.length + 2)) true (some .either) args with
    | .error e => (report s e.message).withStatus 2
    | .ok (_, b :: _) => (report s (ExprFault.unexpected b).message).withStatus 2
    | .ok (a, []) => (s.print (a ++ "\n")).withStatus (if isNull a then 1 else 0)

end Utility

end Testbench
