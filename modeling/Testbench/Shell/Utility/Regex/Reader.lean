import Testbench.Text.DecimalDigit
import Testbench.Shell.Utility.Regex

/-!
# Regular expressions read

Regular expressions are written in two ways: in basic ones brackets, braces and bars work behind a
backslash, in extended ones without it.

- `Utility.Regex.Dialect`: which of the two, and what is refused.
- `Utility.Regex.Mark`: a part of the text of an expression.
- `Utility.Regex.marks`: the parts of a text.
- `Utility.Regex.ofText`: the expression that a text spells.

Part of the host that `Executor.host` follows; no result on runs depends on it.
-/

namespace Testbench

namespace Utility

open Shell Text

namespace Regex

/-- How expressions are written. -/
structure Dialect where
  extended : Bool
  /-- What makes no sense is refused, not taken as it stands. -/
  strict : Bool
  deriving DecidableEq, Repr

/-- A part of the text of an expression. -/
inductive Mark where
  | piece (r : Regex)
  | opening
  | closing
  | bar
  | count (least : Nat) (most : Option Nat)
  deriving Repr

/-! ## Sets -/

/-- What is wrong with a set. -/
def openSet : String := "Unmatched [, [^, [:, [., or [="

/-- The text up to a sign of two characters, and what follows it. -/
def upTo (a b : Char) : List Char → Option (List Char × List Char)
  | [] => none
  | c :: cs =>
    match cs with
    | d :: rest =>
      if c = a ∧ d = b then some ([], rest) else (upTo a b cs).map fun (front, rest) => (c :: front, rest)
    | [] => none

/-- A single character of a set, and what follows it. -/
def element (cs : List Char) : Except String (Char × List Char) :=
  let named := fun (k : Char) (rest : List Char) =>
    match upTo k ']' rest with
    | some ([c], rest) => .ok (c, rest)
    | some _ => .error "Invalid collation character"
    | none => .error openSet
  match cs with
  | '[' :: '.' :: rest => named '.' rest
  | '[' :: '=' :: rest => named '=' rest
  | c :: rest => .ok (c, rest)
  | [] => .error openSet

/-- The members of a set up to its closing bracket, and what follows; `fuel` bounds their number.
The first one may be a closing bracket. -/
def members : (fuel : Nat) → (first : Bool) → List Char → Except String (List Member × List Char)
  | 0, _, _ => .error openSet
  | _ + 1, _, [] => .error openSet
  | fuel + 1, first, c :: cs =>
    if c = ']' && !first then .ok ([], cs)
    else match c, cs with
      | '[', ':' :: rest =>
        match upTo ':' ']' rest with
        | none => .error openSet
        | some (name, rest) =>
          if (classes.lookup (String.ofList name)).isNone then .error "Invalid character class name"
          else (members fuel false rest).map fun (ms, rest) =>
            (.kind (String.ofList name) :: ms, rest)
      | _, _ =>
        match element (c :: cs) with
        | .error e => .error e
        | .ok (low, rest) =>
          match rest with
          | '-' :: d :: after =>
            if d = ']' then
              (members fuel false rest).map fun (ms, rest) => (.range low low :: ms, rest)
            else match element (d :: after) with
              | .error e => .error e
              | .ok (high, rest) =>
                if high < low then .error "Invalid range end"
                else (members fuel false rest).map fun (ms, rest) => (.range low high :: ms, rest)
          | _ => (members fuel false rest).map fun (ms, rest) => (.range low low :: ms, rest)

/-- The set behind an opening bracket, and what follows its closing one. -/
def setAt (cs : List Char) : Except String (Regex × List Char) :=
  match cs with
  | '^' :: cs => (members (cs.length + 1) true cs).map fun (ms, rest) => (among ms false, rest)
  | cs => (members (cs.length + 1) true cs).map fun (ms, rest) => (among ms true, rest)

/-! ## Marks -/

/-- The largest count. -/
def countLimit : Nat := 32767

/-- The count between braces, and what follows them; the text starts behind the opening one. -/
def countAt (x : Dialect) (cs : List Char) : Except String (Mark × List Char) :=
  let number := fun (cs : List Char) =>
    let ds := cs.takeWhile Text.isAsciiDigit
    (if ds = [] then none else some (Text.numberOfDigits ds), cs.drop ds.length)
  let (least, rest) := number cs
  let (most, rest) : Option (Option Nat) × List Char := match rest with
    | ',' :: rest =>
      let (most, rest) := number rest
      (some most, rest)
    | rest => (none, rest)
  let close := if x.extended then ['\x7d'] else ['\\', '\x7d']
  let close? := rest.take close.length = close
  if !close? then
    .error (if rest = [] then "Unmatched \\\x7b" else "Invalid content of \\\x7b\\\x7d")
  else if least.isNone && most.isNone then .error "Invalid content of \\\x7b\\\x7d"
  else
    let low := least.getD 0
    let high := match most with
      | some m => m
      | none => some low
    if high.any (· < low) then .error "Invalid content of \\\x7b\\\x7d"
    else if countLimit < low || high.any (countLimit < ·) then .error "Regular expression too big"
    else .ok (.count low high, rest.drop close.length)

/-- What a letter behind a backslash stands for. -/
def letterPiece? (c : Char) : Option Regex :=
  let word : List Member := [.kind "alnum", .range '_' '_']
  match c with
  | 'w' => some (among word true)
  | 'W' => some (among word false)
  | 's' => some (among [.kind "space"] true)
  | 'S' => some (among [.kind "space"] false)
  | 'b' => some (here .wordEdge)
  | 'B' => some (here .noWordEdge)
  | '<' => some (here .wordStart)
  | '>' => some (here .wordEnd)
  | '\x60' => some (here .textStart)
  | '\'' => some (here .textEnd)
  | _ => none

/-- The parts of a text; `fuel` bounds their number. `fresh` at the start of an expression or of a
branch of one, `anchored` right behind an anchor there. -/
def marksFrom (x : Dialect) : (fuel : Nat) → (fresh : Bool) → (depth : Nat) → List Char →
    Except String (List Mark)
  | 0, _, _, _ => .ok []
  | _ + 1, _, _, [] => .ok []
  | fuel + 1, fresh, depth, c :: cs =>
    let more := fun (m : Mark) (fresh : Bool) (depth : Nat) (cs : List Char) =>
      (marksFrom x fuel fresh depth cs).map (m :: ·)
    let sign : Option (Char × List Char) :=
      if x.extended then (if "()|\x7b+?".toList.contains c then some (c, cs) else none)
      else match c, cs with
        | '\\', d :: cs => if "()|\x7b+?".toList.contains d then some (d, cs) else none
        | _, _ => none
    match sign with
    | some ('(', cs) => more .opening true (depth + 1) cs
    | some (')', cs) =>
      if depth = 0 then
        if x.extended && !x.strict then more (.piece (one ')')) false 0 cs
        else .error "Unmatched ) or \\)"
      else more .closing false (depth - 1) cs
    | some ('|', cs) => more .bar true depth cs
    | some ('\x7b', cs) =>
      if fresh then
        if x.strict || !x.extended then .error "Invalid preceding regular expression"
        else more (.piece (one '\x7b')) false depth cs
      else match countAt x cs with
        | .ok (m, rest) => more m false depth rest
        | .error e =>
          let isCount := cs.any fun c => Text.isAsciiDigit c || c = ','
          if x.extended && !x.strict && !(isCount && cs.contains '\x7d') then
            more (.piece (one '\x7b')) false depth cs
          else .error e
    | some (k, rest) =>
      if fresh then
        if x.extended then
          if x.strict then .error "Invalid preceding regular expression"
          else marksFrom x fuel true depth rest
        else more (.piece (one k)) false depth rest
      else more (if k = '+' then .count 1 none else .count 0 (some 1)) false depth rest
    | none =>
      match c, cs with
      | '\\', [] => .error "Trailing backslash"
      | '\\', d :: rest =>
        match letterPiece? d with
        | some r => more (.piece r) false depth rest
        | none =>
          if '1' ≤ d && d ≤ '9' then more (.piece (again (d.toNat - 48))) false depth rest
          else more (.piece (one d)) false depth rest
      | '[', cs =>
        match setAt cs with
        | .ok (r, rest) => more (.piece r) false depth rest
        | .error e => .error e
      | '.', cs => more (.piece anyOne) false depth cs
      | '*', cs =>
        if fresh then
          if !x.extended then more (.piece (one '*')) false depth cs
          else if x.strict then .error "Invalid preceding regular expression"
          else marksFrom x fuel true depth cs
        else more (.count 0 none) false depth cs
      | '^', cs =>
        if x.extended || fresh then more (.piece (here .textStart)) true depth cs
        else more (.piece (one '^')) false depth cs
      | '$', cs =>
        if x.extended || cs = [] || cs.take 2 = ['\\', ')'] || cs.take 2 = ['\\', '|'] then
          more (.piece (here .textEnd)) false depth cs
        else more (.piece (one '$')) false depth cs
      | c, cs => more (.piece (one c)) false depth cs

/-- The parts of a text. -/
def marks (x : Dialect) (text : List Char) : Except String (List Mark) :=
  marksFrom x (text.length + 1) true 0 text

/-! ## Expressions -/

/-- What has been read of a branch, of the branches in front of it, and of all that stands around
them. -/
structure Frame where
  number : Nat
  branches : Option Regex := none
  branch : Regex := void
  /-- The last part of the branch, which may still be counted. -/
  last : Option Regex := none

namespace Frame

/-- The branch with its last part. -/
def closed (f : Frame) : Regex :=
  match f.branch, f.last with
  | b, none => b
  | void, some r => r
  | b, some r => both b r

/-- All branches. -/
def whole (f : Frame) : Regex :=
  match f.branches with
  | none => f.closed
  | some r => either r f.closed

/-- One more part of the branch. -/
def add (f : Frame) (r : Regex) : Frame := { f with branch := f.closed, last := some r }

end Frame

/-- One more part of an expression: the frames from the innermost on, and how many numbered parts
were begun. -/
def advance : List Frame × Nat → Mark → List Frame × Nat
  | (f :: fs, n), .piece r => (f.add r :: fs, n)
  | (fs, n), .opening => (⟨n + 1, none, void, none⟩ :: fs, n + 1)
  | (f :: g :: fs, n), .closing => (g.add (group f.number f.whole) :: fs, n)
  | (f :: fs, n), .bar => ({ f with branches := some f.whole, branch := void, last := none } :: fs, n)
  | (f :: fs, n), .count least most =>
    ({ f with last := f.last.map fun r => times r least most } :: fs, n)
  | x, _ => x

/-- The largest number of a part that is referred to. -/
def largest : Regex → Nat
  | again n => n
  | both a b => max (largest a) (largest b)
  | either a b => max (largest a) (largest b)
  | group _ a => largest a
  | times a _ _ => largest a
  | _ => 0

/-- The expression that a text spells, and how many numbered parts it has. -/
def ofText (x : Dialect) (text : Row) : Except String (Regex × Nat) :=
  match marks x text.toList with
  | .error e => .error e
  | .ok ms =>
    match ms.foldl advance ([⟨0, none, void, none⟩], 0) with
    | ([f], n) =>
      if n < largest f.whole then .error "Invalid back reference" else .ok (f.whole, n)
    | _ => .error "Unmatched ( or \\("

end Regex

end Utility

end Testbench
