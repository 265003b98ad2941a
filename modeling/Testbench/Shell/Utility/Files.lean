import Testbench.Shell.Utility.Arguments
import Testbench.Shell.Utility.Names

/-!
# Utilities on files

- `Utility.list`: what stands in directories.
- `Utility.makeDirs`, `Utility.removeDirs`, `Utility.remove`, `Utility.touch`: places made and
  removed.
- `Utility.copy`, `Utility.move`, `Utility.link`: files at other places.
- `Utility.changeMode`, `Utility.readLinks`, `Utility.resolvePaths`: modes, and where links lead.

Part of the host that `Executor.host` follows; no result on runs depends on it.
-/

namespace Testbench

namespace Utility

open Shell Text

/-- The state with other files. -/
def withFiles (s : State) (t : Tree) : State := { s with files := t }

/-- The place of an entry that is not followed if it is a link. -/
def placeOf (t : Tree) (path : Row) : Except FileError Location :=
  let path := ofRow path
  if Path.endsInSlash path then t.find path
  else match t.parting path with
    | .error e => .error e
    | .ok (base, none) => .ok base
    | .ok (base, some n) => if (t.get? (base ++ [n])).isSome then .ok (base ++ [n]) else .error .missing

/-- The path of a name in a directory. -/
def within (dir name : Row) : Row :=
  if dir = "" || dir.toList.getLast? = some '/' then dir ++ name else dir ++ "/" ++ name

/-! ## Directories listed -/

/-- A name with a mark of what it stands for. -/
def marked (a : Arguments) (t : Tree) (l : Location) (name : Row) : Row :=
  let mark := match t.get? l with
    | some .dir => if a.has 'F' || a.has 'p' then "/" else ""
    | some (.link _) => if a.has 'F' then "@" else ""
    | some (.file _ true) => if a.has 'F' then "*" else ""
    | some (.utility _) => if a.has 'F' then "*" else ""
    | _ => ""
  name ++ mark

/-- The size of what stands at a place. -/
def sizeAt (t : Tree) (l : Location) : Nat :=
  match t.get? l with
  | some (.file octets _) => octets.size
  | some (.link target) => target.utf8ByteSize
  | some .dir => 4096
  | _ => 0

/-- Names in the order that was asked for; each with its place. -/
def ordered (a : Arguments) (t : Tree) (names : List (Row × Location)) : List (Row × Location) :=
  let byName := names.mergeSort fun x y => x.1 ≤ y.1
  let age := fun (l : Location) => (t.entries.findIdx? (·.1 = l)).getD t.entries.length
  let sorted := match a.last? "tSU" with
    | some 't' => byName.mergeSort fun x y => age x.2 ≤ age y.2
    | some 'S' => byName.mergeSort fun x y => sizeAt t y.2 ≤ sizeAt t x.2
    | _ => byName
  if a.has 'r' then sorted.reverse else sorted

/-- The names in a directory that are listed. -/
def listed (a : Arguments) (t : Tree) (l : Location) : List (Row × Location) :=
  let all := (namesIn t l).map fun n => (n, l ++ [ofRow n])
  let all := if a.has 'a' || a.has 'A' then all else all.filter (·.1.toList.head? ≠ some '.')
  let own := if a.last? "aA" = some 'a' then [(".", l), ("..", l.dropLast)] else []
  ordered a t (own ++ all)

/-- A directory and, if asked for, those below it; `fuel` bounds how deep. -/
def listing (a : Arguments) (t : Tree) : (fuel : Nat) → (title : Bool) → Row → Location → List Row
  | 0, _, _, _ => []
  | fuel + 1, title, path, l =>
    let names := listed a t l
    let body := String.join (names.map fun (n, l) => marked a t l n ++ "\n")
    let here := (if title then path ++ ":\n" else "") ++ body
    let below := if a.has 'R' then
        (names.filter fun (n, l) => n ≠ "." && n ≠ ".." && (t.get? l).any Entry.isDir).flatMap
          fun (n, l) => listing a t fuel true (within path n) l
      else []
    here :: below

/-- What stands in directories. -/
def list : List Row → State → State :=
  taking (flags "aA1dRrtSUFpCxmlhisnogGkqbNQZcufvBL" ++ valued "wIT" ++
      [⟨'a', "all", .nothing⟩, ⟨'A', "almost-all", .nothing⟩, ⟨'d', "directory", .nothing⟩,
       ⟨'R', "recursive", .nothing⟩, ⟨'r', "reverse", .nothing⟩, ⟨'F', "classify", .attached⟩,
       ⟨'\x01', "color", .attached⟩, ⟨'\x02', "group-directories-first", .nothing⟩]) 2 fun a s =>
    let t := s.tree
    let names := if a.operands = [] then ["."] else a.operands
    let follows := !(a.has 'd' || a.has 'F' || a.has 'l')
    let found := names.map fun n =>
      let place : Except FileError Location := match t.find (ofRow n) with
        | .ok l => if follows && (t.get? l).any Entry.isDir then .ok l else placeOf t n
        | .error e => (placeOf t n).mapError fun _ => e
      (n, place)
    let s := found.foldl (fun s (n, place) =>
      match place with
      | .error e =>
        (report s ("cannot access " ++ inQuotes n ++ ": " ++ e.reason)).withStatus 2
      | .ok _ => s) s
    let good := found.filterMap fun (n, place) => place.toOption.map (n, ·)
    let isListed := fun (e : Row × Location) => !a.has 'd' && (t.get? e.2).any Entry.isDir
    let files := ordered a t (good.filter (!isListed ·))
    let dirs := ordered a t (good.filter isListed)
    let title := a.has 'R' || 1 < names.length
    let front := String.join (files.map fun (n, l) => marked a t l n ++ "\n")
    let parts := (if files = [] then [] else [front]) ++
      dirs.flatMap fun (n, l) => listing a t 100 title n l
    s.print ("\n".intercalate parts)

/-! ## Places made -/

/-- Directories made. -/
def makeDirs : List Row → State → State :=
  taking [⟨'p', "parents", .nothing⟩, ⟨'v', "verbose", .nothing⟩, ⟨'m', "mode", .argument⟩] 1
    fun a s =>
      if a.operands = [] then refuse s 1 "missing operand"
      else
        let one := fun (s : State) (path : Row) =>
          match s.tree.makeDir (ofRow path) with
          | .ok t =>
            let s := withFiles s t
            if a.has 'v' then s.print (s.self ++ ": created directory " ++ inQuotes path ++ "\n") else s
          | .error e => flaw s ("cannot create directory " ++ inQuotes path ++ ": " ++ e.reason)
        a.operands.foldl (fun s path =>
          if !a.has 'p' then one s path
          else
            let absolute := Path.isAbsolute path
            let names := Path.names path
            let fronts := (List.range names.length).map fun i =>
              (if absolute then "/" else "") ++ "/".intercalate (names.take (i + 1))
            (fronts.foldl (fun ((s, goesOn) : State × Bool) p =>
              if !goesOn then (s, false)
              else if s.tree.isDir (ofRow p) then (s, true)
              else if s.tree.has (ofRow p) && p.length < (withoutSlashes path).length then
                (flaw s ("cannot create directory " ++ inQuotes p ++ ": Not a directory"), false)
              else
                let before := s.status
                let s := one (s.withStatus 0) p
                (s.withStatus (max before s.status), s.status = 0)) (s, true)).1) s

/-- Files made, or as if written to just now. -/
def touch : List Row → State → State :=
  taking (flags "cafmh" ++ valued "drt" ++ [⟨'c', "no-create", .nothing⟩, ⟨'d', "date", .argument⟩,
      ⟨'r', "reference", .argument⟩]) 1 fun a s =>
    if a.operands = [] then refuse s 1 "missing file operand"
    else a.operands.foldl (fun s path =>
      let t := s.tree
      match t.find (ofRow path) with
      | .ok l =>
        match t.get? l with
        | some e => if l = [] then s else withFiles s (t.set l e)
        | none => s
      | .error e =>
        if a.has 'c' && e = .missing then s
        else if Path.endsInSlash path then
          flaw s ("setting times of " ++ inQuotes path ++ ": " ++ e.reason)
        else match t.write (ofRow path) .empty with
          | .ok t => withFiles s t
          | .error e => flaw s ("cannot touch " ++ inQuotes path ++ ": " ++ e.reason)) s

/-! ## Places removed -/

/-- Directories that hold nothing removed. -/
def removeDirs : List Row → State → State :=
  taking [⟨'p', "parents", .nothing⟩, ⟨'v', "verbose", .nothing⟩,
      ⟨'\x01', "ignore-fail-on-non-empty", .nothing⟩] 1 fun a s =>
    if a.operands = [] then refuse s 1 "missing operand"
    else a.operands.foldl (fun s path =>
      let names := Path.names path
      let paths :=
        if a.has 'p' then
          path :: (List.range (names.length - 1)).map fun i =>
            (if Path.isAbsolute path then "/" else "") ++
              "/".intercalate (names.take (names.length - 1 - i))
        else [path]
      (paths.foldl (fun ((s, goesOn) : State × Bool) p =>
        if !goesOn then (s, false)
        else
          let s := if a.has 'v' then s.print (s.self ++ ": removing directory, " ++ inQuotes p ++ "\n")
            else s
          match s.tree.removeDir (ofRow p) with
          | .ok t => (withFiles s t, true)
          | .error e =>
            if a.has '\x01' && e = .notEmpty then (s, false)
            else (flaw s ("failed to remove " ++
              (if p = path then "" else "directory ") ++ inQuotes p ++ ": " ++ e.reason), false))
        (s, true)).1) s

/-- What is told of places that were removed: a directory after all that it held. -/
def removalLines (t : Tree) (path : Row) (l : Location) : List Row :=
  let below := (t.below l).map fun (rest, e) => (rest, e.isDir)
  let lines := below.map fun (rest, isDir) =>
    (rest, "removed " ++ (if isDir then "directory " else "") ++
      inQuotes (within path (toRow ("/".intercalate rest))) ++ "\n")
  let deep := (lines.mergeSort fun x y => y.1.length ≤ x.1.length).map Prod.snd
  deep ++ ["removed " ++ (if (t.get? l).any Entry.isDir then "directory " else "") ++
    inQuotes path ++ "\n"]

/-- Files removed, and directories with all that they hold. -/
def remove : List Row → State → State :=
  taking (flags "fiIrRdv" ++ [⟨'f', "force", .nothing⟩, ⟨'r', "recursive", .nothing⟩,
      ⟨'d', "dir", .nothing⟩, ⟨'v', "verbose", .nothing⟩, ⟨'\x01', "preserve-root", .attached⟩,
      ⟨'\x02', "no-preserve-root", .nothing⟩]) 1 fun a s =>
    let deep := a.has 'r' || a.has 'R'
    let forced := a.last? "fi" = some 'f'
    if a.operands = [] then (if forced then s else refuse s 1 "missing operand")
    else a.operands.foldl (fun s path =>
      let t := s.tree
      let name := lastName path
      let fault := fun (e : FileError) =>
        flaw s ("cannot remove " ++ inQuotes path ++ ": " ++ e.reason)
      if deep && withoutSlashes path = "/" then
        let s := report s "it is dangerous to operate recursively on '/'"
        flaw s "use --no-preserve-root to override this failsafe"
      else match placeOf t path with
      | .error e =>
        if forced && (e = .missing || e = .notDirectory) then s else fault e
      | .ok l =>
        match t.get? l with
        | none => s
        | some .dir =>
          if (deep || a.has 'd') && (name = "." || name = "..") then
            flaw s ("refusing to remove '.' or '..' directory: skipping " ++ inQuotes path)
          else if deep || (a.has 'd' && t.isBare l) then
            if l.isPrefixOf s.here && l = [] then s
            else
              let s := if a.has 'v' then s.print (String.join (removalLines t path l)) else s
              withFiles s (t.prune l)
          else fault (if a.has 'd' then .notEmpty else .isDirectory)
        | some e =>
          if Path.endsInSlash path then fault .notDirectory
          else if a.last? "fi" = some 'i' then
            let kind := match e with
              | .file octets _ => if octets.size = 0 then "regular empty file" else "regular file"
              | .link _ => "symbolic link"
              | _ => "file"
            s.put 2 (s.self ++ ": remove " ++ kind ++ " " ++ inQuotes path ++ "? ")
          else
            let s := if a.has 'v' then s.print ("removed " ++ inQuotes path ++ "\n") else s
            withFiles s (t.prune l)) s

/-! ## Files at other places -/

/-- Where each of some files goes: into a directory under its own last name, or to one place. -/
def targets (a : Arguments) (s : State) (what : String) :
    Except State (List (Row × Row) × State) :=
  let into := fun (dir : Row) (files : List Row) => files.map fun f => (f, within dir (lastName f))
  match a.value? 't', a.operands with
  | some _, [] => .error (refuse s 1 "missing file operand")
  | some dir, files =>
    if s.tree.isDir (ofRow dir) then .ok (into dir files, s)
    else .error (flaw s ("target directory " ++ inQuotes dir ++ ": " ++
      (if s.tree.has (ofRow dir) then "Not a directory" else "No such file or directory")))
  | none, [] => .error (refuse s 1 "missing file operand")
  | none, [one] =>
    .error (refuse s 1 ("missing destination file operand after " ++ inQuotes one))
  | none, operands =>
    let last := operands.getLast?.getD ""
    let files := operands.dropLast
    let isDir := s.tree.isDir (ofRow last)
    if a.has 'T' then
      match files with
      | [f] => .ok ([(f, last)], s)
      | _ => .error (refuse s 1 ("extra operand " ++ inQuotes ((operands[2]?).getD "")))
    else if isDir then .ok (into last files, s)
    else match files with
      | [f] =>
        if Path.endsInSlash last && !(what = "mv" && s.tree.isDir (ofRow f)) &&
            !(what = "cp" && s.tree.isDir (ofRow f)) then
          let reason := if s.tree.has (ofRow (withoutSlashes last)) then "Not a directory"
            else if what = "cp" then "Not a directory" else "Not a directory"
          if what = "cp" then
            .error (flaw s ("cannot create regular file " ++ inQuotes last ++ ": " ++ reason))
          else if what = "mv" then
            .error (flaw s ("cannot move " ++ inQuotes f ++ " to " ++ inQuotes last ++ ": " ++ reason))
          else .ok ([(f, last)], s)
        else .ok ([(f, last)], s)
      | _ =>
        .error (flaw s ("target " ++ inQuotes last ++ ": " ++
          (if s.tree.has (ofRow last) then "Not a directory" else "No such file or directory")))

/-- The entries of a place and all below it put at another one. -/
def graft (t : Tree) (source target : Location) : Tree :=
  let own := (t.get? source).toList.map fun e => (target, e)
  let below := (t.below source).map fun (rest, e) => (target ++ rest, e)
  (own ++ below.reverse).foldl (fun t (l, e) =>
    match e, t.get? l with
    | .dir, some .dir => t
    | .file octets _, some (.file _ executable) => t.set l (.file octets executable)
    | e, _ => t.set l e) t

/-- Where a new entry goes: a place in a directory, which may hold something already. -/
def siteOf (t : Tree) (path : Row) : Except FileError Location :=
  match t.parting (ofRow path) with
  | .error e => .error e
  | .ok (base, some n) => .ok (base ++ [n])
  | .ok (base, none) => .ok base

/-- Files copied. -/
def copy : List Row → State → State :=
  taking (flags "rRafpnvTdiuLPxHlbs" ++ valued "tS" ++ [⟨'r', "recursive", .nothing⟩,
      ⟨'a', "archive", .nothing⟩, ⟨'f', "force", .nothing⟩, ⟨'n', "no-clobber", .nothing⟩,
      ⟨'v', "verbose", .nothing⟩, ⟨'T', "no-target-directory", .nothing⟩,
      ⟨'t', "target-directory", .argument⟩, ⟨'p', "preserve", .attached⟩,
      ⟨'\x01', "parents", .nothing⟩]) 1 fun a s =>
    let s := if a.has 'n' then
        report s ("warning: behavior of -n is non-portable and may change in future; " ++
          "use --update=none instead")
      else s
    match targets a s "cp" with
    | .error s => s
    | .ok (pairs, s) => pairs.foldl (fun s (source, target) =>
      let t := s.tree
      let deep := a.has 'r' || a.has 'R' || a.has 'a'
      let place := if deep && !a.has 'L' then placeOf t source else t.find (ofRow source)
      let told := fun (s : State) =>
        if a.has 'v' then s.print (inQuotes source ++ " -> " ++ inQuotes target ++ "\n") else s
      match place with
      | .error e => flaw s ("cannot stat " ++ inQuotes source ++ ": " ++ e.reason)
      | .ok l =>
        match t.get? l, t.find (ofRow target) with
        | some .dir, existing =>
          if !deep then flaw s ("-r not specified; omitting directory " ++ inQuotes source)
          else match existing, siteOf t (withoutSlashes target) with
            | .ok m, site =>
              if !(t.get? m).any Entry.isDir then
                flaw s ("cannot overwrite non-directory " ++ inQuotes target ++ " with directory " ++
                  inQuotes source)
              else if l.isPrefixOf m then
                flaw s ("cannot copy a directory, " ++ inQuotes source ++ ", into itself, " ++
                  inQuotes target)
              else told (withFiles s (graft t l (site.toOption.getD m)))
            | .error _, .ok m =>
              if l.isPrefixOf m then
                flaw s ("cannot copy a directory, " ++ inQuotes source ++ ", into itself, " ++
                  inQuotes target)
              else told (withFiles s (graft t l m))
            | .error _, .error e =>
              flaw s ("cannot create directory " ++ inQuotes target ++ ": " ++ e.reason)
        | some e, .ok m =>
          if l = m then flaw s (inQuotes source ++ " and " ++ inQuotes target ++ " are the same file")
          else if (t.get? m).any Entry.isDir then
            flaw s ("cannot overwrite directory " ++ inQuotes target ++ " with non-directory " ++
              inQuotes source)
          else if a.has 'n' then s
          else
            match e, t.get? m with
            | .file octets _, some (.file _ executable) =>
              told (withFiles s (t.set m (.file octets executable)))
            | _, some .sink => told s
            | e, _ => told (withFiles s (t.set m e))
        | some _, .error .notDirectory =>
          flaw s ("cannot stat " ++ inQuotes target ++ ": Not a directory")
        | some e, .error _ =>
          match t.writable (ofRow target) with
          | .error err => flaw s ("cannot create regular file " ++ inQuotes target ++ ": " ++ err.reason)
          | .ok _ =>
            match siteOf t target with
            | .ok m => told (withFiles s (t.set m (match e with
                | .utility name => .utility name
                | e => e)))
            | .error err =>
              flaw s ("cannot create regular file " ++ inQuotes target ++ ": " ++ err.reason)
        | none, _ => s) s

/-- Files moved. -/
def move : List Row → State → State :=
  taking (flags "fnvTiub" ++ valued "tS" ++ [⟨'f', "force", .nothing⟩, ⟨'n', "no-clobber", .nothing⟩,
      ⟨'v', "verbose", .nothing⟩, ⟨'T', "no-target-directory", .nothing⟩,
      ⟨'t', "target-directory", .argument⟩]) 1 fun a s =>
    match targets a s "mv" with
    | .error s => s
    | .ok (pairs, s) => pairs.foldl (fun s (source, target) =>
      let t := s.tree
      let told := fun (s : State) =>
        if a.has 'v' then s.print ("renamed " ++ inQuotes source ++ " -> " ++ inQuotes target ++ "\n")
        else s
      match placeOf t source with
      | .error e => flaw s ("cannot stat " ++ inQuotes source ++ ": " ++ e.reason)
      | .ok l =>
        match siteOf t (withoutSlashes target) with
        | .error e =>
          flaw s ("cannot move " ++ inQuotes source ++ " to " ++ inQuotes target ++ ": " ++ e.reason)
        | .ok m =>
          let moved := fun (t : Tree) => told (withFiles s ((graft (t.prune m) l m).prune l))
          match t.get? l, t.get? m with
          | some .dir, some .dir =>
            if l = m then
              flaw s (inQuotes source ++ " and " ++ inQuotes target ++ " are the same file")
            else if l.isPrefixOf m then
              flaw s ("cannot move " ++ inQuotes source ++ " to a subdirectory of itself, " ++
                inQuotes target)
            else if t.isBare m then moved t
            else flaw s ("cannot overwrite " ++ inQuotes target ++ ": Directory not empty")
          | some .dir, some _ =>
            flaw s ("cannot overwrite non-directory " ++ inQuotes target ++ " with directory " ++
              inQuotes source)
          | some .dir, none =>
            if l.isPrefixOf m then
              flaw s ("cannot move " ++ inQuotes source ++ " to a subdirectory of itself, " ++
                inQuotes target)
            else moved t
          | some _, some .dir =>
            flaw s ("cannot overwrite directory " ++ inQuotes target ++ " with non-directory " ++
              inQuotes source)
          | some _, some _ =>
            if l = m then
              flaw s (inQuotes source ++ " and " ++ inQuotes target ++ " are the same file")
            else if a.has 'n' then flaw s ("not replacing " ++ inQuotes target)
            else moved t
          | some _, none => moved t
          | none, _ => s) s

/-- Links made. -/
def link : List Row → State → State :=
  taking (flags "sfnvTirLP" ++ valued "t" ++ [⟨'s', "symbolic", .nothing⟩, ⟨'f', "force", .nothing⟩,
      ⟨'n', "no-dereference", .nothing⟩, ⟨'v', "verbose", .nothing⟩]) 1 fun a s =>
    let kind := if a.has 's' then "symbolic link" else "hard link"
    let pairs : Except State (List (Row × Row) × State) := match a.operands with
      | [one] => .ok ([(one, within "." (lastName one))], s)
      | _ =>
        let isLink := a.has 'n' && (a.operands.getLast?.any fun p =>
          match entryAt? s.tree p with
          | some (.link _) => true
          | _ => false)
        targets (if isLink then { a with chosen := ('T', none) :: a.chosen } else a) s "ln"
    match pairs with
    | .error s => s
    | .ok (pairs, s) => pairs.foldl (fun s (source, target) =>
      let t := s.tree
      let told := fun (s : State) =>
        if a.has 'v' then
          s.print (inQuotes target ++ (if a.has 's' then " -> " else " => ") ++ inQuotes source ++ "\n")
        else s
      let put := fun (e : Entry) =>
        match siteOf t target with
        | .error err => flaw s ("failed to create " ++ kind ++ " " ++ inQuotes target ++ ": " ++ err.reason)
        | .ok m =>
          match t.get? m with
          | none => told (withFiles s (t.set m e))
          | some old =>
            if a.has 'f' && !old.isDir then told (withFiles s (t.set m e))
            else flaw s ("failed to create " ++ kind ++ " " ++ inQuotes target ++ ": File exists")
      if a.has 's' then
        if source = "" then
          flaw s ("failed to create symbolic link " ++ inQuotes target ++ ": No such file or directory")
        else put (.link (ofRow source))
      else match placeOf t source with
        | .error e => flaw s ("failed to access " ++ inQuotes source ++ ": " ++ e.reason)
        | .ok l =>
          match t.get? l with
          | some .dir => flaw s (named source ++ ": hard link not allowed for directory")
          | some e => put e
          | none => s) s

/-! ## Modes and links -/

/-- Whether a file may be run after a mode is set, given whether it may before; nothing if the text
is no mode. -/
def modeOf? (text : Row) (executable : Bool) : Option Bool :=
  if text ≠ "" && text.toList.all (fun c => '0' ≤ c && c ≤ '7') then
    let n := text.toList.foldl (fun n c => 8 * n + digitValue c) 0
    if n < 4096 then some (n % 2 = 1 || n / 8 % 2 = 1 || n / 64 % 2 = 1) else none
  else (text.splitOn ",").foldlM (fun executable part =>
    let isWho := fun c => "ugoa".toList.contains c
    match part.toList.dropWhile isWho with
    | how :: what =>
      if !"+-=".toList.contains how || !what.all (fun c => "rwxXst".toList.contains c) then none
      else
        let runs := what.contains 'x' || (what.contains 'X' && executable)
        some (if how = '+' then executable || runs
          else if how = '-' then executable && !runs
          else runs)
    | [] => none) executable

/-- Modes changed. -/
def changeMode (args : List Row) (s : State) : State :=
  -- a mode may begin with a hyphen
  let isMode := fun (a : Row) =>
    match a.toList with
    | '-' :: c :: cs => (c :: cs).all "rwxXst".toList.contains
    | _ => false
  let args := match args.findIdx? isMode with
    | some i => args.take i ++ ["--"] ++ args.drop i
    | none => args
  taking (flags "Rvcf" ++ [⟨'R', "recursive", .nothing⟩, ⟨'v', "verbose", .nothing⟩,
      ⟨'f', "silent", .nothing⟩]) 1 (fun a s =>
    match a.operands with
    | [] => refuse s 1 "missing operand"
    | [mode] => refuse s 1 ("missing operand after " ++ inQuotes mode)
    | mode :: paths =>
      if (modeOf? mode false).isNone then refuse s 1 ("invalid mode: " ++ inQuotes mode)
      else paths.foldl (fun s path =>
        let t := s.tree
        match t.find (ofRow path) with
        | .error e => flaw s ("cannot access " ++ inQuotes path ++ ": " ++ e.reason)
        | .ok l =>
          let places := l :: (if a.has 'R' then (t.below l).map fun e => l ++ e.1 else [])
          withFiles s (places.foldl (fun t l =>
            match t.get? l with
            | some (.file octets executable) =>
              let executable := (modeOf? mode executable).getD executable
              { t with entries := t.entries.map fun e =>
                  if e.1 = l then (l, .file octets executable) else e }
            | _ => t) t)) s) args s

/-- The real path of what a path leads to; the last name may be missing if `lenient`, and any if
`free`. -/
def realPath (t : Tree) (lenient free : Bool) (path : Row) : Except FileError Row :=
  match t.find (ofRow path) with
  | .ok l => .ok (pathOfPlace l)
  | .error e =>
    match t.writable (withoutSlashes (ofRow path)) with
    | .ok (.vacant l) => if lenient || free then .ok (pathOfPlace l) else .error e
    | _ => if free && path ≠ "" then .ok (tidy (pathOfPlace t.here) path) else .error e

/-- What links hold. -/
def readLinks : List Row → State → State :=
  taking (flags "femnqsvz" ++ [⟨'f', "canonicalize", .nothing⟩, ⟨'n', "no-newline", .nothing⟩,
      ⟨'e', "canonicalize-existing", .nothing⟩, ⟨'m', "canonicalize-missing", .nothing⟩]) 1
    fun a s =>
      if a.operands = [] then refuse s 1 "missing operand"
      else
        let tail := if a.has 'n' && a.operands.length = 1 then "" else "\n"
        a.operands.foldl (fun s path =>
          match a.last? "fem" with
          | some c =>
            match realPath s.tree (c = 'f') (c = 'm') path with
            | .ok p => s.print (p ++ tail)
            | .error _ => s.withStatus 1
          | none =>
            match entryAt? s.tree path with
            | some (.link target) => s.print (toRow target ++ tail)
            | _ => s.withStatus 1) s

/-- Real paths. -/
def resolvePaths : List Row → State → State :=
  taking (flags "emLPqsz" ++ [⟨'e', "canonicalize-existing", .nothing⟩,
      ⟨'m', "canonicalize-missing", .nothing⟩, ⟨'s', "no-symlinks", .nothing⟩]) 1 fun a s =>
    if a.operands = [] then refuse s 1 "missing operand"
    else a.operands.foldl (fun s path =>
      match realPath s.tree (!a.has 'e') (a.has 'm') path with
      | .ok p => s.print (p ++ "\n")
      | .error e => if a.has 'q' then s.withStatus 1 else flaw s (plain path ++ ": " ++ e.reason)) s
where
  /-- A path as it is told. -/
  plain (path : Row) : Row := if path = "" then "''" else named path

end Utility

end Testbench
