import Testbench.Shell.Utility.Edit.Reader
import Testbench.Shell.Utility.Files

/-!
# Files edited

The utility that edits lines by steps given as arguments.

- `Utility.EditScript`: the texts of steps that the arguments hold.
- `Utility.edit`: the utility.

Part of the host that `Executor.host` follows; no result on runs depends on it.
-/

namespace Testbench

namespace Utility

open Shell Text

/-- A text of steps: an argument of some number, or a file. -/
structure EditScript where
  name : Row
  text : Row
  deriving DecidableEq, Repr

/-- The flags of the utility. -/
def editFlags : List Flag :=
  [⟨'n', "quiet", .nothing⟩, ⟨'n', "silent", .nothing⟩, ⟨'e', "expression", .argument⟩,
   ⟨'f', "file", .argument⟩, ⟨'E', "regexp-extended", .nothing⟩, ⟨'r', "", .nothing⟩,
   ⟨'i', "in-place", .attached⟩, ⟨'s', "separate", .nothing⟩, ⟨'u', "unbuffered", .nothing⟩,
   ⟨'z', "null-data", .nothing⟩, ⟨'l', "line-length", .argument⟩, ⟨'\x01', "posix", .nothing⟩,
   ⟨'\x02', "debug", .nothing⟩, ⟨'\x03', "sandbox", .nothing⟩]

/-- The files that steps write to. -/
def writtenFiles (es : List Edit) : List Row :=
  (es.filterMap fun e => match e.verb with
    | .writeFile f => some f
    | .substitute _ _ _ _ _ file => file
    | _ => none).eraseDups

/-- The desk on which some lines are edited. -/
def deskFor (s : State) (es : List Edit) (silent : Bool) (ls : List Row) : Desk :=
  { steps := es.toArray, silent, rest := ls
    files := (writtenFiles es).map (·, "")
    fetch := fun path => ((contents s path).toOption).map Prod.fst }

/-- The files that were written to are put in place. -/
def storeFiles (files : List (Row × Row)) (s : State) : State :=
  files.foldl (fun s (path, text) =>
    if path = "/dev/stdout" then s
    else if path = "/dev/stderr" then s.put 2 text
    else match s.tree.write (ofRow path) (bytesOfRow text) with
      | .ok t => withFiles s t
      | .error e => (report s ("couldn't open file " ++ path ++ ": " ++ e.reason)).withStatus 4) s

/-- The lines of all files are edited as one text. -/
def editAll (es : List Edit) (silent : Bool) (names : List Row) (s : State) : State :=
  let (r, s) := names.foldl (fun ((r, s) : Row × State) n =>
    match contents s n with
    | .ok (t, s) =>
      -- the last line of a file that is followed by another one gets an end
      let r := if r = "" || r.toList.getLast? = some '\n' then r else r ++ "\n"
      (r ++ t, s)
    | .error e =>
      let s := if e = .isDirectory then report s ("couldn't read " ++ n ++ ": " ++ e.reason)
        else report s ("can't read " ++ n ++ ": " ++ e.reason)
      (r, s.withStatus 2)) ("", s)
  let ls := linesOf r
  let d := Desk.cycles (2 * r.length + 2) true (deskFor s es silent ls)
  let s := storeFiles d.files (s.print (String.join d.out.reverse))
  match d.code with
  | some c => s.withStatus c
  | none => s

/-- Each file is edited on its own and takes the edited lines; what it held before is kept under a
longer name if one is asked for. -/
def editInPlace (es : List Edit) (silent : Bool) (suffix : Row) (names : List Row) (s : State) :
    State :=
  (names.foldl (fun ((s, goesOn) : State × Bool) n =>
    if !goesOn then (s, false)
    else match entryAt? s.tree n, contents s n with
      | some (.file old _), .ok (t, s) =>
        let d := Desk.cycles (2 * t.length + 2) true (deskFor s es silent (linesOf t))
        let s := storeFiles d.files s
        let backup := if suffix.toList.contains '*' then
            String.join (suffix.toList.map fun c => if c = '*' then lastName n else String.ofList [c])
          else lastName n ++ suffix
        let front := frontOf n
        let s :=
          if suffix = "" then s
          else match s.tree.write (ofRow (if front = "." then backup else within front backup)) old with
            | .ok t => withFiles s t
            | .error _ => s
        -- lines that were not taken any more stay
        let left := if d.code.isSome then String.join d.rest else ""
        let text := String.join d.out.reverse ++ left
        let s := match s.tree.write (ofRow n) (bytesOfRow text) with
          | .ok t => withFiles s t
          | .error _ => s
        match d.code with
        | some c => (s.withStatus c, false)
        | none => (s, true)
      | _, .error e =>
        if e = .isDirectory then
          ((report s ("couldn't edit " ++ n ++ ": not a regular file")).withStatus 4, true)
        else ((report s ("can't read " ++ n ++ ": " ++ e.reason)).withStatus 2, true)
      | _, _ => ((report s ("couldn't edit " ++ n ++ ": not a regular file")).withStatus 4, true))
    (s, true)).1

/-- The texts of steps that the arguments hold, and the operands that are left. -/
def editScripts (a : Arguments) (s : State) : Except String (List EditScript × List Row) :=
  let given := a.chosen.filter fun c => c.1 = 'e' || c.1 = 'f'
  if given = [] then
    match a.operands with
    | [] => .error ""
    | text :: names => .ok ([⟨"-e expression #1", text⟩], names)
  else
    let step : List EditScript × Nat → Char × Option Row → Except String (List EditScript × Nat) :=
        fun acc c =>
      let v := c.2.getD ""
      if c.1 = 'e' then
        .ok (acc.1 ++ [⟨"-e expression #" ++ toString (acc.2 + 1), v⟩], acc.2 + 1)
      else match contents s v with
        | .ok (text, _) => .ok (acc.1 ++ [⟨"file " ++ v, text⟩], acc.2)
        | .error e => .error ("couldn't open file " ++ v ++ ": " ++ e.reason)
    (given.foldlM step ([], 0)).map fun (scripts, _) => (scripts, a.operands)

/-- The text in which a place in all texts lies, and the place in it. -/
def scriptAt (reached : Nat) : List EditScript → String × Nat
  | [] => ("", 0)
  | [x] => (x.name, reached)
  | x :: xs =>
    if reached ≤ x.text.length then (x.name, reached)
    else scriptAt (reached - x.text.length - 1) xs

/-- What is said of a fault in texts of steps that stand one behind the other. -/
def editFaultText (scripts : List EditScript) (whole : Row) (f : EditFault) : String :=
  match f.rest with
  | none => f.message
  | some rest =>
    let (name, read) := scriptAt (whole.length - rest.length) scripts
    let read := if f.message = "unmatched \x60\x7b'" then 0 else read
    name ++ ", char " ++ toString read ++ ": " ++ f.message

/-- Lines are edited. -/
def edit (args : List Row) (s : State) : State :=
  match Arguments.read editFlags args with
  | .error e => (report s e).withStatus 1
  | .ok a =>
    let s := s.withStatus 0
    match editScripts a s with
    | .error "" => (s.put 2 ("Usage: " ++ s.self ++
        " [OPTION]... \x7bscript-only-if-no-other-script\x7d [input-file]...\n\n")).withStatus 1
    | .error e => (report s e).withStatus 1
    | .ok (scripts, names) =>
      let whole := "\n".intercalate (scripts.map (·.text))
      let quiet := a.has 'n' || (whole.take 3).toString = "#n\n" || whole = "#n"
      match editsOf (a.has 'E' || a.has 'r') whole with
      | .error f => (report s (editFaultText scripts whole f)).withStatus 1
      | .ok es =>
        if a.has 'i' then editInPlace es quiet ((a.value? 'i').getD "") names s
        else if a.has 's' then
          (if names = [] then ["-"] else names).foldl (fun s n => editAll es quiet [n] s) s
        else editAll es quiet (if names = [] then ["-"] else names) s

end Utility

end Testbench
