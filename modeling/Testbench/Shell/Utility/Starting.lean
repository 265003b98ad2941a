import Testbench.Shell.Utility.Lines
import Testbench.Shell.Utility.Names

/-!
# Utilities that start programs

- `Utility.surround`: a program started with other variables, or all variables listed.
- `Utility.applyAll`: a program started for what stands in the input.
- `Utility.hurry`: a program that is ended when its time is over.
- `Utility.findPrograms`: the paths at which programs stand.
- `Utility.launch`: a program started as it is.

Part of the host that `Executor.host` follows; no result on runs depends on it.
-/

namespace Testbench

namespace Utility

open Shell Text

/-- The program of a name in a state, or why there is none. -/
def lookUp (s : State) (name : Row) (args : List Row) : Except FileError Launch :=
  Launch.find s.tree true ((s.get? "PATH").getD standardSearchPath) name args

/-- The status of a program that cannot be started. -/
def statusOf (e : FileError) : Nat := if e = .missing then 127 else 126

/-- A program takes the place of the utility; what is said if it cannot is given. -/
def handOver (start : Starter) (fault : Row → FileError → String) (name : Row) (args : List Row)
    (s : State) : State :=
  match lookUp s name args with
  | .ok _ => start name args s
  | .error e => (report s (fault name e)).withStatus (statusOf e)

/-! ## Variables -/

/-- The words of a text that is split at blanks; quotes keep blanks together, and a backslash takes
the meaning of the next character. `quote` is the quote that is open, `word` what has been read of a
word. -/
def wordsFrom : (quote : Option Char) → (word : Option (List Char)) → List Char → List Row
  | _, word, [] => (word.map fun w => String.ofList w.reverse).toList
  | some q, word, c :: cs =>
    if c = q then wordsFrom none (some (word.getD [])) cs
    else wordsFrom (some q) (some (c :: word.getD [])) cs
  | none, word, '\\' :: c :: cs =>
    let d := if c = 'n' then '\n' else if c = 't' then '\t' else if c = '_' then ' ' else c
    wordsFrom none (some (d :: word.getD [])) cs
  | none, word, c :: cs =>
    if isSpace c then (word.map fun w => String.ofList w.reverse).toList ++ wordsFrom none none cs
    else if c = '\'' ∨ c = '"' then wordsFrom (some c) (some (word.getD [])) cs
    else wordsFrom none (some (c :: word.getD [])) cs

/-- Arguments in which the text of the flag that splits is split. -/
def splitArgs : List Row → List Row
  | [] => []
  | a :: rest =>
    match a.toList with
    | '-' :: 'S' :: [] =>
      match rest with
      | text :: rest => wordsFrom none none text.toList ++ rest
      | [] => [a]
    | '-' :: 'S' :: text => wordsFrom none none text ++ rest
    | '-' :: 'v' :: 'S' :: text => wordsFrom none none text ++ rest
    | _ =>
      let marked := "--split-string="
      if a.startsWith marked then
        wordsFrom none none (a.toList.drop marked.length) ++ rest
      else a :: rest

/-- A program started with other variables, or all variables listed. -/
def surround (start : Starter) (args : List Row) (s : State) : State :=
  let all : List Flag :=
    [⟨'i', "ignore-environment", .nothing⟩, ⟨'0', "null", .nothing⟩, ⟨'u', "unset", .argument⟩,
     ⟨'C', "chdir", .argument⟩, ⟨'v', "debug", .nothing⟩, ⟨'S', "split-string", .argument⟩,
     ⟨'\x01', "block-signal", .attached⟩, ⟨'\x02', "default-signal", .attached⟩,
     ⟨'\x03', "ignore-signal", .attached⟩]
  match Arguments.readStrict all (splitArgs args) with
  | .error e => refuse s 125 e
  | .ok a =>
    let (bare, operands) := match a.operands with
      | "-" :: rest => (true, rest)
      | ops => (false, ops)
    let s := if a.has 'i' || bare then { s with memory := [] } else s
    let gone := (a.chosen.filter (·.1 = 'u')).filterMap Prod.snd
    match gone.find? fun n => n = "" || n.toList.contains '=' with
    | some n => (report s ("cannot unset " ++ inQuotes n ++ ": Invalid argument")).withStatus 125
    | none =>
      let s := { s with memory := s.memory.filter fun v => !gone.contains v.1 }
      let settings := operands.takeWhile fun o => o.toList.contains '='
      let s := settings.foldl (fun s o =>
        let name := String.ofList (o.toList.takeWhile (· ≠ '='))
        let value := (o.drop (name.length + 1)).toString
        s.alter name fun _ => ⟨some value, true, false⟩) s
      match operands.drop settings.length with
      | [] =>
        if (a.value? 'C').isSome then refuse s 125 "must specify command with --chdir (-C)"
        else
          let tail := if a.has '0' then "\x00" else "\n"
          (s.print (String.join (s.inherited.map fun (n, v) => n ++ "=" ++ v ++ tail))).withStatus 0
      | name :: rest =>
        if a.has '0' then refuse s 125 "cannot specify --null (-0) with command"
        else
          let moved : Except String State := match a.value? 'C' with
            | none => .ok s
            | some dir =>
              match s.tree.find (ofRow dir) with
              | .error e => .error (inQuotes dir ++ ": " ++ e.reason)
              | .ok l =>
                if s.tree.isDir (ofRow dir) then .ok { s with here := l }
                else .error (inQuotes dir ++ ": Not a directory")
          match moved with
          | .error e => (report s ("cannot change directory to " ++ e)).withStatus 125
          | .ok s =>
            match lookUp s name rest with
            | .ok _ => start name rest s
            | .error e =>
              let s := report s (inQuotes name ++ ": " ++ e.reason)
              let isLine := e = .missing && name.toList.any fun c => c = ' ' || c = '\t'
              let s := if isLine then report s "use -[v]S to pass options in shebang lines" else s
              s.withStatus (statusOf e)

/-! ## Programs looked for -/

/-- A regular file that may be run stands at the end of a path. -/
def isProgram (s : State) (path : Row) : Bool :=
  match s.tree.entry? (ofRow path) with
  | some (.file _ true) => true
  | some (.utility _) => true
  | _ => false

/-- The paths at which programs stand; all of them if asked for. -/
def findPrograms (args : List Row) (s : State) : State :=
  match Arguments.readStrict (flags "as") args with
  | .error e =>
    let letter := ((e.splitOn "'")[1]?).getD ""
    let s := s.put 2 ("Illegal option -" ++ letter ++ "\n")
    (s.print ("Usage: /usr/bin/which [-as] args\n")).withStatus 2
  | .ok a =>
    let dirs := (((s.get? "PATH").getD "").splitOn ":").map fun d => if d = "" then "." else d
    let step := fun (acc : State × Nat) (name : Row) =>
      let paths := if name.toList.contains '/' then [name] else dirs.map (Launch.pathIn · name)
      let found := paths.filter (isProgram acc.1)
      let shown := if a.has 'a' then found else found.take 1
      let s := if a.has 's' then acc.1
        else acc.1.print (String.join (shown.map (· ++ "\n")))
      (s, if found = [] then 1 else acc.2)
    let (s, status) := a.operands.foldl step (s, if a.operands = [] then 1 else 0)
    s.withStatus status

/-! ## Programs as they are -/

/-- A program is started in a process of its own and waited for. -/
def runApart (start : Starter) (name : Row) (args : List Row) (s : State) : State × Ending :=
  let inner := (start name args s.child).takeSignals
  (s.rejoin inner.toWorld, inner.ending)

/-- What is said of a program that cannot be started. -/
def runFault (name : Row) (e : FileError) : String :=
  "failed to run command " ++ inQuotes name ++ ": " ++ e.reason

/-- A program started as it is. -/
def launch (fault : Row → FileError → String) (all : List Flag) (start : Starter) (args : List Row)
    (s : State) : State :=
  match Arguments.readStrict all args with
  | .error e => refuse s 125 e
  | .ok a =>
    match a.operands with
    | [] =>
      if s.self.endsWith "nice" && a.chosen = [] then (s.print "0\n").withStatus 0
      else refuse s 125 "missing operand"
    | name :: rest => handOver start fault name rest s

/-- A program that is ended by a signal when its time is over. -/
def hurry (start : Starter) (args : List Row) (s : State) : State :=
  let all : List Flag :=
    [⟨'s', "signal", .argument⟩, ⟨'k', "kill-after", .argument⟩, ⟨'v', "verbose", .nothing⟩,
     ⟨'\x01', "preserve-status", .nothing⟩, ⟨'\x02', "foreground", .nothing⟩]
  match Arguments.readStrict all args with
  | .error e => refuse s 125 e
  | .ok a =>
    match a.operands with
    | limit :: name :: rest =>
      match timeOf? limit, lookUp s name rest with
      | none, _ => refuse s 125 ("invalid time interval " ++ inQuotes limit)
      | _, .error e => (report s (runFault name e)).withStatus (statusOf e)
      | some limit, .ok _ =>
        let signal := ((a.value? 's').bind signalNamed?).getD 15
        let due : Sent := ⟨s.nextProcess, signal, s.clock + limit⟩
        let (s, e) := runApart start name rest
          (if limit = 0 then s else { s with raised := s.raised ++ [due] })
        let isLate := e = .killed signal && !s.raised.contains due
        let s := { s with raised := s.raised.filter (· ≠ due) }
        s.withStatus (if isLate && !a.has '\x01' then 124 else e.status)
    | _ => (s.put 2 ("Try '" ++ s.self ++ " --help' for more information.\n")).withStatus 125

/-! ## Arguments from the input -/

/-- The items of a text, each cut at its end; quotes keep blanks together. -/
def itemsOf (a : Arguments) (text : Row) : List Row :=
  let cutAt := fun (c : Char) =>
    let parts := text.splitOn c.toString
    if parts.getLast? = some "" then parts.dropLast else parts
  if a.has '0' then cutAt '\x00'
  else match a.value? 'd' with
    | some d => cutAt (((resolvedText d).toList.head?).getD '\n')
    | none =>
      if a.has 'I' then
        ((bareLines text).map fun l => String.ofList (l.toList.dropWhile isSpace)).filter (· ≠ "")
      else wordsFrom none none text.toList
where
  /-- A mark with its escape resolved. -/
  resolvedText (d : Row) : Row := (resolved d).1

/-- The quote that is open at the end of a line. -/
def openQuote : (quote : Option Char) → List Char → Option Char
  | quote, [] => quote
  | some q, c :: cs => if c = '\n' then some q else openQuote (if c = q then none else some q) cs
  | none, '\\' :: _ :: cs => openQuote none cs
  | none, c :: cs => openQuote (if c = '\'' ∨ c = '"' then some c else none) cs

/-- A row with all occurrences of a mark replaced. -/
def replacedBy (mark new : Row) (r : Row) : Row :=
  if mark = "" then r else new.intercalate (r.splitOn mark)

/-- Rows in groups of a size; `fuel` bounds their number. -/
def inGroups (size : Nat) : (fuel : Nat) → List Row → List (List Row)
  | 0, _ => []
  | fuel + 1, rs =>
    if rs = [] then [] else rs.take size :: inGroups size fuel (rs.drop size)

/-- A program started for what stands in the input. -/
def applyAll (start : Starter) (args : List Row) (s : State) : State :=
  let all : List Flag :=
    [⟨'0', "null", .nothing⟩, ⟨'n', "max-args", .argument⟩, ⟨'L', "max-lines", .argument⟩,
     ⟨'I', "replace", .argument⟩, ⟨'r', "no-run-if-empty", .nothing⟩, ⟨'t', "verbose", .nothing⟩,
     ⟨'d', "delimiter", .argument⟩, ⟨'P', "max-procs", .argument⟩, ⟨'s', "max-chars", .argument⟩,
     ⟨'x', "exit", .nothing⟩, ⟨'a', "arg-file", .argument⟩, ⟨'E', "", .argument⟩]
  match Arguments.readStrict all args with
  | .error e => refuse s 1 e
  | .ok a =>
    match contents s ((a.value? 'a').getD "-") with
    | .error e => (report s (((a.value? 'a').getD "-") ++ ": " ++ e.reason)).withStatus 1
    | .ok (text, s) =>
      let isPlain := !a.has '0' && !a.has 'd'
      match if isPlain then openQuote none text.toList else none with
      | some q =>
        (report s ("unmatched " ++ (if q = '"' then "double" else "single") ++
          " quote; by default quotes are special to xargs unless you use the -0 option")).withStatus 1
      | none =>
      let (name, front) := match a.operands with
        | [] => ("echo", [])
        | name :: front => (name, front)
      let calls : List (List Row) := match a.value? 'I', a.value? 'L' with
        | some mark, _ =>
          (itemsOf a text).map fun item => front.map (replacedBy mark item)
        | none, some n =>
          let lines := (bareLines text).filter (· ≠ "")
          let groups := inGroups (max 1 ((natural? n).getD 1)) (lines.length + 1) lines
          groups.map fun ls => front ++ ls.flatMap fun l => wordsFrom none none l.toList
        | none, none =>
          let items := itemsOf a text
          let size := max 1 (((a.value? 'n').bind natural?).getD 5000)
          if items = [] then (if a.has 'r' then [] else [front])
          else (inGroups size (items.length + 1) items).map (front ++ ·)
      let step := fun (acc : State × Nat × Bool) (rest : List Row) =>
        let (s, status, goesOn) := acc
        if !goesOn then acc
        else
          let shown := " ".intercalate ((name :: rest).map named)
          let s := if a.has 't' then s.put 2 (shown ++ "\n") else s
          match lookUp s name rest with
          | .error e => (report s (name ++ ": " ++ e.reason), statusOf e, false)
          | .ok _ =>
            match runApart start name rest s with
            | (s, .exited 0) => (s, status, true)
            | (s, .exited 255) =>
              (report s (name ++ ": exited with status 255; aborting"), 124, false)
            | (s, .exited _) => (s, 123, true)
            | (s, .killed n) =>
              (report s (name ++ ": terminated by signal " ++ toString n), 125, false)
      let (s, status, _) := calls.foldl step (s, 0, true)
      s.withStatus status

end Utility

end Testbench
