import Testbench.Shell.Builtin.Variables
import Testbench.Shell.Launch

/-!
# Commands on names of commands

- `Shell.builtins`: the commands of the shell itself.
- `Shell.Sense`, `Shell.State.senseOf`: what a name stands for.
- `Shell.State.setAliases`, `Shell.State.dropAliases`: `alias` and `unalias`.
- `Shell.State.describe`, `Shell.State.track`: `type`, `command` and `hash`.

Part of the host that `Executor.host` follows; no result on runs depends on it.
-/

namespace Testbench

namespace Shell

open Text

/-- The commands of the shell itself that functions can take the place of. -/
def plainBuiltins : List String :=
  ["[", "alias", "bg", "cd", "chdir", "command", "echo", "false", "fg", "getopts", "hash", "jobs",
   "kill", "printf", "pwd", "read", "test", "true", "type", "ulimit", "umask", "unalias", "wait"]

/-- What a name stands for. -/
inductive Sense where
  | body (b : Body)
  | builtin
  /-- A program, at a path. -/
  | program (path : Row)
  | unknown (e : FileError)

namespace State

/-- The search path of the shell; where there is none, only the current directory is searched. -/
def searchPath (s : State) : Row := (s.get? "PATH").getD ""

/-- Where the program of a bare name stands in some directories; `e` if it stands in none. -/
def locate (s : State) (name : Row) : (e : FileError) → List Row → Except FileError Row
  | e, [] => .error e
  | e, dir :: dirs =>
    let path := Launch.pathIn dir name
    match s.tree.find (ofRow path) with
    | .error .missing => locate s name e dirs
    | .error .notDirectory => locate s name e dirs
    | .error e => locate s name e dirs
    | .ok l =>
      match s.tree.get? l with
      | some (.file _ true) => .ok path
      | some (.utility _) => .ok path
      | _ => locate s name .denied dirs

/-- What a name stands for; `bodies` only count where they are asked for. -/
def senseOf (s : State) (bodies : Bool) (path : Row) (name : Row) : Sense :=
  match if bodies then s.bodies.find? (·.name = name) else none with
  | some b => .body b
  | none =>
    if specialBuiltins.contains name || plainBuiltins.contains name then .builtin
    else if name.toList.contains '/' then .program name
    else match s.locate name .missing (Launch.directories path) with
      | .ok path => .program path
      | .error e => .unknown e

/-- What is said of a program that cannot be run. -/
def execFault (e : FileError) : String :=
  if e = .missing ∨ e = .notDirectory then "not found" else e.reason

/-- A program has been searched for. -/
def remember (s : State) (name path : Row) : State :=
  if name.toList.contains '/' || s.tracked.any (·.1 = name) then s
  else { s with tracked := s.tracked ++ [(name, path)] }

/-! ## Aliases -/

/-- An alias as it is listed. -/
def aliasLine (name text : String) : Row := name ++ "=" ++ quoted text ++ "\n"

/-- Aliases are set and listed. -/
def setAliases (args : List Row) (s : State) : State :=
  if args = [] then
    (s.print (String.join ((inRows 39 s.aliases).map fun (n, t) => aliasLine n t))).withStatus 0
  else
    let (s, status) := args.foldl (fun (s, status) a =>
      let first := (a.take 1).toString
      match definition (a.drop 1).toString with
      | (rest, some text) =>
        let name := first ++ rest
        let aliases :=
          if s.aliases.any (·.1 = name) then
            s.aliases.map fun e => if e.1 = name then (name, text) else e
          else s.aliases ++ [(name, text)]
        ({ s with aliases }, status)
      | (_, none) =>
        match s.aliases.lookup a with
        | some text => (s.print (aliasLine a text), status)
        | none => (s.put 2 ("alias: " ++ a ++ " not found\n"), 1)) (s, 0)
    s.withStatus status

/-- Aliases go. -/
def dropAliases (args : List Row) (s : State) : State :=
  match choices "a" "" args with
  | .error e => s.fail e
  | .ok (_ :: _, _) => { s with aliases := [], status := 0 }
  | .ok ([], names) =>
    let (s, status) := names.foldl (fun (s, status) a =>
      if s.aliases.any (·.1 = a) then ({ s with aliases := s.aliases.filter (·.1 ≠ a) }, status)
      else (s.put 2 ("unalias: " ++ a ++ " not found\n"), 1)) (s, 0)
    s.withStatus status

/-! ## What names stand for -/

/-- It is told what a name stands for, in full or in short; the search path may be another one. -/
def describe (s : State) (full : Bool) (path? : Option Row) (name : Row) : State :=
  let tell := fun (s : State) (long short : String) =>
    (s.print ((if full then name ++ long else short) ++ "\n")).withStatus 0
  if reserved.contains name then tell s " is a shell keyword" name
  else match s.aliases.lookup name with
    | some text =>
      if full then tell s (" is an alias for " ++ text) ""
      else (s.print ("alias " ++ aliasLine name text)).withStatus 0
    | none =>
      let known := if path?.isNone then s.tracked.lookup name else none
      match s.senseOf true (path?.getD s.searchPath) name with
      | .body _ => tell s " is a shell function" name
      | .builtin =>
        tell s (if specialBuiltins.contains name then " is a special shell builtin"
          else " is a shell builtin") name
      | .program path =>
        if name.toList.contains '/' && !s.tree.has (ofRow name) then
          (if full then s.print (name ++ ": not found\n") else s).withStatus 127
        else
          let known := known.map fun p => " is a tracked alias for " ++ p
          tell (if path?.isNone then s.remember name path else s)
            (known.getD (" is " ++ path)) path
      | .unknown _ => (if full then s.print (name ++ ": not found\n") else s).withStatus 127

/-- It is told in full what some names stand for. -/
def describeAll (args : List Row) (s : State) : State :=
  let (s, status) := args.foldl (fun (s, status) name =>
    let s := s.describe true none name
    (s, status ||| s.status)) (s, 0)
  s.withStatus status

/-- What the command does that runs others, when it is not to run any. -/
def describeCommand (args : List Row) (s : State) : State :=
  match choices "pvV" "" args with
  | .error e => s.fail e
  | .ok (chosen, name :: _) =>
    let has := fun c => chosen.any (·.1 = c)
    if has 'v' || has 'V' then
      s.describe (has 'V') (if has 'p' then some standardSearchPath else none) name
    else s.withStatus 0
  | .ok _ => s.withStatus 0

/-- Programs are searched for, and those that were found are listed or forgotten. -/
def track (args : List Row) (s : State) : State :=
  match choices "r" "" args with
  | .error e => s.fail e
  | .ok (_ :: _, _) => { s with tracked := [], status := 0 }
  | .ok ([], []) =>
    (s.print (String.join ((inRows 31 s.tracked).map fun e => e.2 ++ "\n"))).withStatus 0
  | .ok ([], names) =>
    let (s, status) := names.foldl (fun (s, status) name =>
      match s.senseOf true s.searchPath name with
      | .program path => (s.remember name path, status)
      | .unknown e => (s.complain (name ++ ": " ++ execFault e), 1)
      | _ => (s, status)) (s, 0)
    s.withStatus status

end State

end Shell

end Testbench
