import Testbench.Shell.Builtin.Variables
import Testbench.Shell.Launch

/-!
# Commands on the surroundings of a shell

- `Shell.State.changeDir`, `Shell.State.tellDir`: `cd` and `pwd`.
- `Shell.State.setMask`: `umask`.
- `Shell.State.limit`, `Shell.State.times`: `ulimit` and `times`, which have nothing to tell here.

Part of the host that `Executor.host` follows; no result on runs depends on it.
-/

namespace Testbench

namespace Shell

open Text

/-- A path as the shell keeps it: names without points, and two points lead back. -/
def tidy (base path : Row) : Row :=
  let absolute := Path.isAbsolute path
  let front := if absolute then [] else Path.names base
  let whole := if absolute then path else base
  let double := (whole.take 2).toString = "//" && (whole.take 3).toString ≠ "///"
  let step := fun (done : List Row) (n : Row) =>
    if n = "." then done else if n = ".." then done.drop 1 else n :: done
  let names := ((Path.names path).foldl step front.reverse).reverse
  (if double then "//" else "/") ++ "/".intercalate names

/-- The path of a place. -/
def pathOfPlace (l : Location) : Row := toRow ("/" ++ "/".intercalate l)

namespace State

/-! ## Directories -/

/-- The last choice between the path as it was walked and the real one. -/
def isPhysical (chosen : List Choice) : Bool := (chosen.getLast?.map Prod.fst) = some 'P'

/-- The shell goes to the directory that a path leads to, if there is one. -/
def enter (s : State) (physical : Bool) (path : Row) : Option State :=
  let tidied := tidy s.directory path
  let path := if physical then path else tidied
  match s.tree.find (ofRow path) with
  | .error _ => none
  | .ok l =>
    if !(s.tree.get? l).any Entry.isDir then none
    else
      let directory := if physical then pathOfPlace l else tidied
      let export' := fun (v : Variable) => { v with exported := true }
      let s := (s.set "OLDPWD" s.directory).alter "OLDPWD" export'
      let s := (s.set "PWD" directory).alter "PWD" export'
      some { s with here := l, directory }

/-- The directories in which one is looked for by its name. -/
def directoryPath (s : State) (target : Row) : List Row :=
  let names := (Path.pieces target.toList).head?
  let isPlain := !Path.isAbsolute target && names ≠ some ['.'] && names ≠ some ['.', '.']
  match s.get? "CDPATH" with
  | some path => if isPlain then Launch.directories path else []
  | none => []

/-- The shell goes to another directory. -/
def changeDir (args : List Row) (s : State) : State :=
  match choices "LP" "" args with
  | .error e => s.fail e
  | .ok (chosen, operands) =>
    let (target, told) := match operands with
      | [] => ((s.get? "HOME").getD "", false)
      | "-" :: _ => ((s.get? "OLDPWD").getD "", true)
      | a :: _ => (a, false)
    let target := if target = "" then "." else target
    let physical := isPhysical chosen
    let hit := (s.directoryPath target).findSome? fun dir =>
      let path := Launch.pathIn dir target
      if s.tree.isDir (ofRow path) then (s.enter physical path).map fun s => (s, dir != "")
      else none
    match hit.or ((s.enter physical target).map fun s => (s, false)) with
    | some (s, found) =>
      let s := if told || found then s.print (s.directory ++ "\n") else s
      s.conclude 0
    | none => s.fail ("can't cd to " ++ target)

/-- The current directory is told. -/
def tellDir (args : List Row) (s : State) : State :=
  match choices "LP" "" args with
  | .error e => s.fail e
  | .ok (chosen, _) =>
    let dir := if isPhysical chosen then pathOfPlace s.here else s.directory
    (s.print (dir ++ "\n")).withStatus 0

/-! ## Modes of new files -/

/-- The letters of three bits. -/
def bitLetters (bits : Nat) : String :=
  (if 4 ≤ bits then "r" else "") ++ (if 2 ≤ bits % 4 then "w" else "") ++
    (if bits % 2 = 1 then "x" else "")

/-- A number in base eight with zeros in front. -/
def octal (digits n : Nat) : String :=
  let ds := Nat.toDigits 8 n
  String.ofList (List.replicate (digits - ds.length) '0' ++ ds)

/-- The bits that a clause of letters leaves or takes: who, how, and what. -/
def clause (allowed : Nat) (text : List Char) : Option Nat :=
  let isWho := fun c => "ugoa".toList.contains c
  let who := text.takeWhile isWho
  let groups := [(64, 'u'), (8, 'g'), (1, 'o')].filterMap fun (unit, c) =>
    if who = [] || who.contains 'a' || who.contains c then some unit else none
  match text.dropWhile isWho with
  | how :: what =>
    if !"+-=".toList.contains how || !what.all (fun c => "rwxXst".toList.contains c) then none
    else
      let bits := (if what.contains 'r' then 4 else 0) + (if what.contains 'w' then 2 else 0) +
        (if what.contains 'x' then 1 else 0)
      some (groups.foldl (fun allowed unit =>
        let old := allowed / unit % 8
        let new := if how = '+' then old ||| bits else if how = '-' then old &&& (7 - bits) else bits
        allowed - old * unit + new * unit) allowed)
  | [] => none

/-- The bits that new files lack are told or set. -/
def setMask (args : List Row) (s : State) : State :=
  match choices "S" "" args with
  | .error e => s.fail e
  | .ok (chosen, []) =>
    let allowed := 511 - s.mask % 512
    let symbolic := "u=" ++ bitLetters (allowed / 64) ++ ",g=" ++ bitLetters (allowed / 8 % 8) ++
      ",o=" ++ bitLetters (allowed % 8)
    (s.print ((if chosen = [] then octal 4 s.mask else symbolic) ++ "\n")).withStatus 0
  | .ok (_, a :: _) =>
    if a.toList.head?.any Char.isDigit then
      if a.toList.all fun c => '0' ≤ c && c ≤ '7' then
        let n := a.toList.foldl (fun n c => 8 * n + digitValue c) 0
        { s with mask := n % 512, status := 0 }
      else s.fail (noNumber a)
    else
      let clauses := (a.splitOn ",").map String.toList
      match clauses.foldlM clause (511 - s.mask % 512) with
      | some allowed => { s with mask := 511 - allowed, status := 0 }
      | none => s.fail ("Illegal mode: " ++ a)

/-! ## Limits -/

/-- The limits of a program are told; they cannot be changed. -/
def limit (args : List Row) (s : State) : State :=
  match choices "HSatfdscmlpnvwr" "" args with
  | .error e => s.fail e
  | .ok (chosen, []) =>
    let kind := ((chosen.map Prod.fst).filter fun c => c ≠ 'H' && c ≠ 'S').getLast?
    let value := if kind = some 'c' then "0" else if kind = some 's' then "8192" else "unlimited"
    (s.print (value ++ "\n")).withStatus 0
  | .ok (_, a :: _) =>
    if a = "unlimited" || (natural? a).isSome then s.withStatus 0 else s.fail "bad number"

/-- The time that programs have taken. -/
def times (s : State) : State :=
  let line := "0m0.000000s 0m0.000000s\n"
  (s.print (line ++ line)).withStatus 0

end State

end Shell

end Testbench
