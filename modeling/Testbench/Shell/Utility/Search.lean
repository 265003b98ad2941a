import Testbench.Shell.Utility.Files
import Testbench.Shell.Utility.Lines
import Testbench.Shell.Utility.Regex.Reader

/-!
# Lines searched for

The utility that puts out the lines in which some form of text occurs.

- `Utility.Search`: what is searched for, and what is put out of it.
- `Utility.Search.pattern`: the expression that the arguments ask for.
- `Utility.Search.pick`: the lines of one file that are put out.
- `Utility.search`: the utility.

Part of the host that `Executor.host` follows; no result on runs depends on it.
-/

namespace Testbench

namespace Utility

open Shell Text

/-- How patterns are written. -/
inductive Writing where
  | basic
  | extended
  /-- Patterns stand for themselves. -/
  | fixed
  deriving DecidableEq, Repr

/-- What is searched for, and what is put out of it. -/
structure Search where
  regex : Regex
  args : Arguments
  /-- Lines are put out under the name of their file. -/
  titled : Bool
  /-- How many lines in front of a line, and behind it, are put out with it. -/
  before : Nat
  after : Nat
  /-- So many lines of a file count. -/
  limit : Option Nat

namespace Search

/-- The pattern of one line. -/
def onePattern (w : Writing) (text : Row) : Except String Regex :=
  match w with
  | .fixed => .ok (text.toList.foldr (fun c r => .both (.one c) r) .void)
  | .basic => (Regex.ofText ⟨false, false⟩ text).map Prod.fst
  | .extended => (Regex.ofText ⟨true, false⟩ text).map Prod.fst

/-- The expression that the patterns make, any of which may occur. -/
def pattern (w : Writing) (a : Arguments) (texts : List Row) : Except String Regex := do
  let ps ← texts.mapM (onePattern w)
  let r := match ps with
    | [] => .among [] true
    | p :: ps => ps.foldl .either p
  let r := if a.has 'i' || a.has 'y' then r.folded else r
  return if a.has 'x' then .both (.here .textStart) (.both r (.here .textEnd))
    else if a.has 'w' then .both (.here .clearBefore) (.both r (.here .clearAfter))
    else r

/-- The texts of a form in a line, one behind the other; `fuel` bounds how many. -/
def parts (r : Regex) (text : Array Char) : (fuel place : Nat) → List (Nat × Nat)
  | 0, _ => []
  | fuel + 1, place =>
    if text.size < place then []
    else match r.find? text place with
      | none => []
      | some m =>
        if m.stop = m.start then parts r text fuel (m.stop + 1)
        else (m.start, m.stop) :: parts r text fuel m.stop

/-- A line of a file: its number, where it begins, its text, and whether it is one of those that are
searched for. -/
structure Line where
  number : Nat
  offset : Nat
  text : Row
  chosen : Bool

/-- The lines of a file, up to the last one that counts. -/
def lines (x : Search) (all : List Row) : List Line :=
  let step := fun (acc : List Line × Nat × Nat × Nat) (l : Row) =>
    let (done, number, offset, found) := acc
    if x.limit.any (· ≤ found) then (⟨number, offset, bareLine l, false⟩ :: done, number + 1, offset + l.length, found)
    else
      let text := bareLine l
      let hit := (x.regex.find? text.toList.toArray 0).isSome != x.args.has 'v'
      (⟨number, offset, text, hit⟩ :: done, number + 1, offset + l.length,
        if hit then found + 1 else found)
  (all.foldl step ([], 1, 0, 0)).1.reverse

/-- What stands in front of a line. -/
def head (x : Search) (name : Row) (mark : String) (l : Line) (offset : Nat) : Row :=
  (if x.titled then name ++ mark else "") ++
    (if x.args.has 'n' then toString l.number ++ mark else "") ++
    (if x.args.has 'b' then toString (l.offset + offset) ++ mark else "")

/-- A line as it is put out. -/
def shown (x : Search) (name : Row) (l : Line) : Row :=
  if x.args.has 'o' then
    if x.args.has 'v' then ""
    else
      let text := l.text.toList.toArray
      String.join ((parts x.regex text (text.size + 1) 0).map fun (i, j) =>
        head x name ":" l i ++ String.ofList (text.extract i j).toList ++ "\n")
  else head x name ":" l 0 ++ l.text ++ "\n"

/-- The lines that are put out, with those around them. -/
def withContext (x : Search) (name : Row) (ls : List Line) : List Row :=
  let hits := (ls.filter (·.chosen)).map (·.number)
  let isNear := fun (l : Line) => hits.any fun h => h ≤ l.number + x.before && l.number ≤ h + x.after
  let near := ls.filter isNear
  let step := fun (acc : List Row × Option Nat) (l : Line) =>
    let (done, last) := acc
    let gap := last.any (· + 1 < l.number)
    let done := if gap then "--\n" :: done else done
    let text :=
      if l.chosen then shown x name l
      else if x.args.has 'o' then "" else head x name "-" l 0 ++ l.text ++ "\n"
    (text :: done, some l.number)
  (near.foldl step ([], none)).1.reverse

/-- One file is searched: whether something was found, and what is put out. -/
def pick (x : Search) (isFirst : Bool) (name content : Row) (s : State) : Bool × State :=
  let a := x.args
  let ls := lines x (linesOf content)
  let count := (ls.filter (·.chosen)).length
  let found := count ≠ 0
  let title := if x.titled then name ++ ":" else ""
  let s :=
    if a.has 'q' then s
    else if a.has 'l' then (if found then s.print (name ++ "\n") else s)
    else if a.has 'L' then (if found then s else s.print (name ++ "\n"))
    else if a.has 'c' then s.print (title ++ toString count ++ "\n")
    else if content.toList.contains '\x00' && !a.has 'a' && found then
      report s (name ++ ": binary file matches")
    else if x.before = 0 && x.after = 0 then
      s.print (String.join ((ls.filter (·.chosen)).map (shown x name)))
    else
      let rows := withContext x name ls
      s.print (String.join (if isFirst || rows = [] then rows else "--\n" :: rows))
  (found, s)

end Search

/-- What is said of arguments that make no sense. -/
def searchUsage (s : State) : State :=
  { (s.put 2 ("Usage: " ++ s.self ++ " [OPTION]... PATTERNS [FILE]...\nTry '" ++ s.self ++
      " --help' for more information.\n")) with status := 2 }

/-- The flags of the utility. -/
def searchFlags : List Flag :=
  [⟨'E', "extended-regexp", .nothing⟩, ⟨'F', "fixed-strings", .nothing⟩,
   ⟨'G', "basic-regexp", .nothing⟩, ⟨'P', "perl-regexp", .nothing⟩, ⟨'i', "ignore-case", .nothing⟩,
   ⟨'y', "", .nothing⟩, ⟨'v', "invert-match", .nothing⟩, ⟨'c', "count", .nothing⟩,
   ⟨'l', "files-with-matches", .nothing⟩, ⟨'L', "files-without-match", .nothing⟩,
   ⟨'n', "line-number", .nothing⟩, ⟨'H', "with-filename", .nothing⟩, ⟨'h', "no-filename", .nothing⟩,
   ⟨'o', "only-matching", .nothing⟩, ⟨'q', "quiet", .nothing⟩, ⟨'q', "silent", .nothing⟩,
   ⟨'s', "no-messages", .nothing⟩, ⟨'w', "word-regexp", .nothing⟩, ⟨'x', "line-regexp", .nothing⟩,
   ⟨'r', "recursive", .nothing⟩, ⟨'R', "dereference-recursive", .nothing⟩,
   ⟨'b', "byte-offset", .nothing⟩, ⟨'a', "text", .nothing⟩, ⟨'e', "regexp", .argument⟩,
   ⟨'f', "file", .argument⟩, ⟨'m', "max-count", .argument⟩, ⟨'A', "after-context", .argument⟩,
   ⟨'B', "before-context", .argument⟩, ⟨'C', "context", .argument⟩,
   ⟨'\x01', "color", .attached⟩, ⟨'\x01', "colour", .attached⟩,
   ⟨'\x02', "line-buffered", .nothing⟩] ++ flags "IUTZu0123456789"

/-- The files below a directory, each with its path. -/
def filesBelow (t : Tree) (path : Row) (l : Location) : List Row :=
  let found := (t.below l).filterMap fun (rest, e) =>
    match e with
    | .file _ _ => some (within path (toRow ("/".intercalate rest)))
    | _ => none
  found.mergeSort fun x y => x ≤ y

/-- Lines are searched for with the arguments that were chosen. -/
def searchWith (w : Writing) (a : Arguments) (s : State) : State :=
  let s := s.withStatus 0
  let given := (a.chosen.filter (·.1 = 'e')).filterMap Prod.snd
  let files := (a.chosen.filter (·.1 = 'f')).filterMap Prod.snd
  let w : Writing := match a.last? "EFG" with
    | some 'E' => .extended
    | some 'F' => .fixed
    | some 'G' => .basic
    | _ => w
  let fromFiles : Except String (List Row × State) := files.foldlM (fun (acc : List Row × State) f =>
    match contents acc.2 f with
    | .ok (r, s) => .ok (acc.1 ++ bareLines r, s)
    | .error e => .error (f ++ ": " ++ e.reason)) ([], s)
  match fromFiles with
  | .error e => (report s e).withStatus 2
  | .ok (more, s) =>
    let isGiven := given ≠ [] || files ≠ []
    match isGiven, a.operands with
    | false, [] => searchUsage s
    | _, operands =>
      let texts := if isGiven then given.flatMap (·.splitOn "\n") ++ more
        else (operands.head?.getD "").splitOn "\n"
      let names := if isGiven then operands else operands.drop 1
      let digits := String.ofList ((a.chosen.map Prod.fst).filter Char.isDigit)
      let context : Char → Except Row Nat := fun c =>
        match a.value? c, a.value? 'C' with
        | some v, _ => (natural? v).elim (.error v) .ok
        | none, some v => (natural? v).elim (.error v) .ok
        | none, none => .ok ((natural? digits).getD 0)
      match context 'A', context 'B', (a.value? 'm').map natural? with
      | .error v, _, _ => (report s (v ++ ": invalid context length argument")).withStatus 2
      | _, .error v, _ => (report s (v ++ ": invalid context length argument")).withStatus 2
      | _, _, some none => (report s "invalid max count").withStatus 2
      | .ok after, .ok before, limit =>
        match Search.pattern w a texts with
        | .error e => (report s e).withStatus 2
        | .ok regex =>
          let deep := a.has 'r' || a.has 'R'
          let expand := fun (n : Row) =>
            match s.tree.find (ofRow n) with
            | .ok l => if deep && (s.tree.get? l).any Entry.isDir then filesBelow s.tree n l else [n]
            | .error _ => [n]
          let names' := match names, deep with
            | [], true => (filesBelow s.tree "" s.here)
            | [], false => ["-"]
            | ns, _ => ns.flatMap expand
          let titled := match a.last? "Hh" with
            | some 'H' => true
            | some _ => false
            | none => deep || 1 < names.length
          let x : Search := ⟨regex, a, titled, before, after, limit.bind id⟩
          let (found, bad, _, s) := names'.foldl (fun (acc : Bool × Bool × Bool × State) n =>
            let (found, bad, isFirst, s) := acc
            if a.has 'q' && found then acc
            else match contents s n with
              | .ok (r, s) =>
                let (hit, s) := Search.pick x isFirst (if n = "-" then "(standard input)" else n) r s
                (found || hit, bad, isFirst && !hit, s)
              | .error e =>
                (found, true, isFirst, if a.has 's' then s else report s (n ++ ": " ++ e.reason)))
            (false, false, true, s)
          s.withStatus (if found && (a.has 'q' || !bad) then 0 else if bad then 2 else 1)

/-- Lines are searched for. -/
def search (w : Writing) (args : List Row) (s : State) : State :=
  match Arguments.read searchFlags args with
  | .error e => searchUsage (report s e)
  | .ok a => searchWith w a s

end Utility

end Testbench
