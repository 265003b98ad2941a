import Testbench.Shell.Utility.Arguments

/-!
# Utilities on lines

- `Utility.overInputs`: a step for every file that a utility reads.
- `Utility.concatenate`, `Utility.reverseLines`, `Utility.numberLines`: all that files hold, its
  lines in reverse order, and its lines with numbers.
- `Utility.front`, `Utility.back`: the first and the last lines.
- `Utility.count`: how many lines, words and characters there are.
- `Utility.split`: what is put out and into files at once.
- `Utility.paste`, `Utility.fold`: lines put side by side, and cut.

Part of the host that `Executor.host` follows; no result on runs depends on it.
-/

namespace Testbench

namespace Utility

open Shell Text

/-! ## Inputs -/

/-- A step for every file that is read, the input if none is named. What is said of a file that
cannot be read is given. -/
def overInputs (names : List Row) (fault : Row → FileError → String)
    (step : Row → Row → State → State) (s : State) : State :=
  (if names = [] then ["-"] else names).foldl (fun s name =>
    match contents s name with
    | .ok (r, s) => step name r s
    | .error e => flaw s (fault name e)) s

/-- What most utilities say of a file that cannot be read. -/
def plainFault (name : Row) (e : FileError) : String := named name ++ ": " ++ e.reason

/-- All that the files hold, one after the other. -/
def gathered (names : List Row) (fault : Row → FileError → String) (s : State) : Row × State :=
  (if names = [] then ["-"] else names).foldl (fun (done, s) name =>
    match contents s name with
    | .ok (r, s) => (done ++ r, s)
    | .error e => (done, flaw s (fault name e))) ("", s)

/-- The natural number that an argument spells. -/
def number? (a : Row) : Option Nat := natural? a

/-! ## All lines -/

/-- An octet as it is shown where not all octets can be. -/
def shownOctet (tabs : Bool) (c : Char) : List Char :=
  let low := fun (n : Nat) =>
    if n < 0x20 then ['^', Char.ofNat (n + 64)] else if n = 0x7F then "^?".toList else [Char.ofNat n]
  if c = '\t' then (if tabs then "^I".toList else [c])
  else if c = '\n' then [c]
  else if c.toNat < 0x80 then low c.toNat
  else "M-".toList ++ low (c.toNat - 0x80)

/-- A line as it is shown, without its end. -/
def shownLine (tabs hidden : Bool) (l : Row) : Row :=
  if hidden then String.ofList (l.toList.flatMap (shownOctet tabs))
  else if tabs then String.ofList (l.toList.flatMap fun c => if c = '\t' then "^I".toList else [c])
  else l

/-- A number brought to a width by blanks. -/
def padded (width : Nat) (text : String) : String :=
  String.ofList (List.replicate (width - text.length) ' ') ++ text

/-- What is added to lines: numbers and marks. -/
structure CatState where
  rows : List Row := []
  number : Nat := 1
  blank : Bool := false
  /-- The last line had no end. -/
  open' : Bool := false

/-- All that files hold. -/
def concatenate : List Row → State → State :=
  taking [⟨'A', "show-all", .nothing⟩, ⟨'b', "number-nonblank", .nothing⟩, ⟨'e', "", .nothing⟩,
      ⟨'E', "show-ends", .nothing⟩, ⟨'n', "number", .nothing⟩, ⟨'s', "squeeze-blank", .nothing⟩,
      ⟨'t', "", .nothing⟩, ⟨'T', "show-tabs", .nothing⟩, ⟨'u', "", .nothing⟩,
      ⟨'v', "show-nonprinting", .nothing⟩] 1 fun a s =>
    let tabs := a.has 'A' || a.has 't' || a.has 'T'
    let hidden := a.has 'A' || a.has 'e' || a.has 't' || a.has 'v'
    let ends := a.has 'A' || a.has 'e' || a.has 'E'
    let isPlain := !(a.has 'A' || a.has 'b' || a.has 'e' || a.has 'E' || a.has 'n' || a.has 's' ||
      a.has 't' || a.has 'T' || a.has 'v')
    if isPlain then
      overInputs a.operands plainFault (fun _ r s => s.print r) s
    else
      let (r, s) := gathered a.operands plainFault s
      let step := fun (k : CatState) (l : Row) =>
        let body := bareLine l
        let blank := body = "" && l ≠ ""
        if a.has 's' && blank && k.blank then k
        else
          let counted := a.has 'b' && !blank || (a.has 'n' && !a.has 'b')
          let front := if counted then padded 6 (toString k.number) ++ "\t" else ""
          let tail := if body.length < l.length then (if ends then "$\n" else "\n") else ""
          { k with
            rows := (front ++ shownLine tabs hidden body ++ tail) :: k.rows, blank
            number := if counted then k.number + 1 else k.number }
      s.print (String.join ((linesOf r).foldl step {}).rows.reverse)

/-- Lines in reverse order, or the characters of each. -/
def reverseLines (within : Bool) : List Row → State → State :=
  taking [] 1 fun a s =>
    if within then
      overInputs a.operands (fun n e => "cannot open " ++ n ++ ": " ++ e.reason) (fun _ r s =>
        s.print (String.join ((linesOf r).map fun l =>
          let body := bareLine l
          String.ofList (toRow (String.ofList (ofRow body).toList.reverse)).toList ++
            (l.drop body.length).toString))) s
    else
      overInputs a.operands (fun n e =>
        if e = .isDirectory then named n ++ ": read error: " ++ e.reason
        else "failed to open " ++ inQuotes n ++ " for reading: " ++ e.reason) (fun _ r s =>
        s.print (String.join (linesOf r).reverse)) s

/-- Lines with numbers in front of those that hold something. -/
def numberLines : List Row → State → State :=
  taking [⟨'b', "body-numbering", .argument⟩, ⟨'w', "number-width", .argument⟩,
      ⟨'s', "number-separator", .argument⟩, ⟨'v', "starting-line-number", .argument⟩,
      ⟨'i', "line-increment", .argument⟩, ⟨'n', "number-format", .argument⟩] 1 fun a s =>
    let (r, s) := gathered a.operands plainFault s
    let all := a.value? 'b' = some "a"
    let none' := a.value? 'b' = some "n"
    let width := ((a.value? 'w').bind number?).getD 6
    let gap := (a.value? 's').getD "\t"
    let start := ((a.value? 'v').bind number?).getD 1
    let step' := ((a.value? 'i').bind number?).getD 1
    let form := fun (n : Nat) =>
      let text := toString n
      match a.value? 'n' with
      | some "ln" => text ++ String.ofList (List.replicate (width - text.length) ' ')
      | some "rz" => String.ofList (List.replicate (width - text.length) '0') ++ text
      | _ => padded width text
    let step := fun (k : List Row × Nat) (l : Row) =>
      let body := bareLine l
      if none' || (body = "" && !all) then
        ((String.ofList (List.replicate (width + gap.length) ' ') ++ body ++ "\n") :: k.1, k.2)
      else ((form k.2 ++ gap ++ body ++ "\n") :: k.1, k.2 + step')
    s.print (String.join ((linesOf r).foldl step ([], start)).1.reverse)

/-! ## First and last lines -/

/-- A count with a unit behind it. -/
def amount? (a : Row) : Option Nat :=
  let digits := a.toList.takeWhile isAsciiDigit
  let n := numberOfDigits digits
  if digits = [] then none
  else
    let unit := String.ofList (a.toList.drop digits.length)
    let units : List (String × Nat) :=
      [("", 1), ("b", 512), ("K", 1024), ("k", 1024), ("KiB", 1024), ("kB", 1000), ("KB", 1000),
       ("M", 1048576), ("MiB", 1048576), ("MB", 1000000), ("G", 1073741824), ("GB", 1000000000)]
    (units.lookup unit).map (n * ·)

/-- How much of a file is put out. -/
structure Extent where
  octets : Bool := false
  /-- The sign in front of the count. -/
  sign : Option Char := none
  count : Nat := 10
  deriving DecidableEq, Repr

/-- The extent that an argument spells. -/
def Extent.ofRow? (octets : Bool) (a : Row) : Option Extent :=
  match a.toList with
  | '-' :: cs => (amount? (String.ofList cs)).map fun n => ⟨octets, some '-', n⟩
  | '+' :: cs => (amount? (String.ofList cs)).map fun n => ⟨octets, some '+', n⟩
  | _ => (amount? a).map fun n => ⟨octets, none, n⟩

/-- The first argument in the short form of a count, as two arguments. -/
def longForm : List Row → List Row
  | a :: rest =>
    match a.toList with
    | '-' :: c :: cs =>
      if isAsciiDigit c then
        let digits := (c :: cs).takeWhile isAsciiDigit
        let unit := cs.drop (digits.length - 1)
        if unit = ['c'] then "-c" :: String.ofList digits :: rest
        else if unit = [] then "-n" :: String.ofList digits :: rest
        else a :: rest
      else a :: rest
    | _ => a :: rest
  | [] => []

/-- The pieces that are counted: lines with their ends, or octets. -/
def piecesOf (octets : Bool) (r : Row) : List Row :=
  if octets then r.toList.map Char.toString else linesOf r

/-- The flags of the utilities that put out one end of files. -/
def endFlags : List Flag :=
  [⟨'n', "lines", .argument⟩, ⟨'c', "bytes", .argument⟩, ⟨'q', "quiet", .nothing⟩,
   ⟨'q', "silent", .nothing⟩, ⟨'v', "verbose", .nothing⟩, ⟨'z', "zero-terminated", .nothing⟩]

/-- One end of each file; `cut` takes it from the pieces. -/
def ends (flags : List Flag) (cut : Extent → List Row → List Row) (sparing : Extent → Bool)
    (args : List Row) : State → State :=
  taking flags 1 (fun a s =>
    let chosen := (a.chosen.filter fun c => c.1 = 'n' || c.1 = 'c').getLast?
    let extent : Except Row Extent := match chosen with
      | some (c, some v) =>
        match Extent.ofRow? (c = 'c') v with
        | some e => .ok e
        | none => .error v
      | _ => .ok {}
    match extent with
    | .error v =>
      flaw s ("invalid number of " ++ (if chosen.any (·.1 = 'c') then "bytes" else "lines") ++ ": " ++
        inQuotes v)
    | .ok e =>
      let names := if a.operands = [] then ["-"] else a.operands
      let titled := a.last? "qv" = some 'v' || (1 < names.length && a.last? "qv" ≠ some 'q')
      let title := fun (first : Bool) (name : Row) =>
        if !titled then ""
        else (if first then "" else "\n") ++ "==> " ++
          (if name = "-" then "standard input" else name) ++ " <==\n"
      let fault := fun (s : State) (name : Row) (err : FileError) =>
        if err = .isDirectory then ("error reading " ++ inQuotes name ++ ": " ++ err.reason, s)
        else ("cannot open " ++ inQuotes name ++ " for reading: " ++ err.reason, s)
      (names.foldl (fun ((first, s) : Bool × State) name =>
        -- lines are taken from an input that can be moved back one by one
        let isShared := name = "-" && !e.octets && sparing e &&
          ((s.channel? 0).bind s.toWorld.offset?).isSome
        if isShared then
          let take := (List.range e.count).foldl (fun ((r, s) : Row × State) _ =>
            match s.readLine 0 with
            | .ok (l, s) => (r ++ l, s)
            | .error _ => (r, s)) ("", s.print (title first name))
          (false, take.2.print take.1)
        else match contents s name with
          | .ok (r, s) =>
            (false, (s.print (title first name)).print (String.join (cut e (piecesOf e.octets r))))
          | .error err =>
            let shown := if err = .isDirectory then s.print (title first name) else s
            let (message, s) := fault shown name err
            (if err = .isDirectory then false else first, flaw s message))
        (true, s)).2)
    (longForm args)

/-- The first lines of files. -/
def front (args : List Row) : State → State :=
  ends endFlags (fun e ps =>
    if e.sign = some '-' then ps.take (ps.length - e.count) else ps.take e.count)
    (fun e => e.sign ≠ some '-') args

/-- The last lines of files. -/
def back (args : List Row) : State → State :=
  let args := match args with
    | a :: rest =>
      match a.toList with
      | '+' :: c :: cs =>
        if (c :: cs).all isAsciiDigit then "-n" :: a :: rest else a :: rest
      | _ => a :: rest
    | [] => []
  ends (endFlags ++ [⟨'f', "follow", .attached⟩]) (fun e ps =>
    if e.sign = some '+' then ps.drop (e.count - 1) else ps.drop (ps.length - e.count))
    (fun _ => false) args

/-! ## Counting -/

/-- How many of everything a row holds. -/
structure Counts where
  lines : Nat := 0
  words : Nat := 0
  chars : Nat := 0
  octets : Nat := 0
  widest : Nat := 0
  deriving DecidableEq, Repr

/-- The counts of a row. -/
def Counts.ofRow (r : Row) : Counts :=
  let cs := r.toList
  let step := fun ((n, inside) : Nat × Bool) (c : Char) =>
    if isSpace c then (n, false) else (if inside then n else n + 1, true)
  let widthOf := fun (l : Row) =>
    (bareLine l).toList.foldl (fun n c =>
      if c = '\t' then (n / 8 + 1) * 8 else if isShown c then n + 1 else n) 0
  { lines := cs.countP (· = '\n')
    words := (cs.foldl step (0, false)).1
    chars := cs.length
    octets := cs.length
    widest := ((linesOf r).map widthOf).foldl max 0 }

/-- The counts of two rows together. -/
def Counts.add (a b : Counts) : Counts :=
  ⟨a.lines + b.lines, a.words + b.words, a.chars + b.chars, a.octets + b.octets,
    max a.widest b.widest⟩

/-- The size of a regular file by name, as far as it is known before reading. -/
def sizeOf? (s : State) (name : Row) : Option (Option Nat) :=
  let entry :=
    if name = "-" then
      match (s.channel? 0).bind fun n => s.channels.lookup n with
      | some (.file place _ _ _ _ seen) => some (Entry.file (s.octetsAt place seen) false)
      | _ => some .sink
    else s.tree.entry? (ofRow name)
  match entry with
  | some (.file octets _) => some (some octets.size)
  | some _ => some none
  | none => none

/-- How many lines, words and characters files hold. -/
def count : List Row → State → State :=
  taking [⟨'c', "bytes", .nothing⟩, ⟨'m', "chars", .nothing⟩, ⟨'l', "lines", .nothing⟩,
      ⟨'w', "words", .nothing⟩, ⟨'L', "max-line-length", .nothing⟩] 1 fun a s =>
    let chosen := if a.chosen = [] then "lwc".toList else a.chosen.map Prod.fst
    let columns := "lwmcL".toList.filter chosen.contains
    let names := if a.operands = [] then ["-"] else a.operands
    let sizes := names.map (sizeOf? s)
    let known := (sizes.filterMap id).filterMap id
    let least := if (sizes.filterMap id).any Option.isNone then 7 else 1
    let width :=
      if names.length = 1 && columns.length = 1 then 1
      else max least (toString (known.foldl (· + ·) 0)).length
    let line := fun (k : Counts) (name : Option Row) =>
      let value := fun c =>
        if c = 'l' then k.lines else if c = 'w' then k.words else if c = 'm' then k.chars
        else if c = 'c' then k.octets else k.widest
      " ".intercalate (columns.map fun c => padded width (toString (value c))) ++
        (match name with
          | some n => " " ++ n
          | none => "") ++ "\n"
    let shown := fun (name : Row) => if a.operands = [] then none else some name
    let (total, s) := names.foldl (fun ((total, s) : Counts × State) name =>
      match contents s name with
      | .ok (r, s) =>
        let k := Counts.ofRow r
        (total.add k, s.print (line k (shown name)))
      | .error e =>
        let s := flaw s (plainFault name e)
        (total, if e = .isDirectory then s.print (line {} (shown name)) else s)) ({}, s)
    if 1 < names.length then s.print (line total (some "total")) else s

/-! ## Several places at once -/

/-- The input is put out, and into files. -/
def split : List Row → State → State :=
  taking [⟨'a', "append", .nothing⟩, ⟨'i', "ignore-interrupts", .nothing⟩] 1 fun a s =>
    match s.readAll 0 with
    | .error e => flaw s ("read error: " ++ e.reason)
    | .ok (r, s) =>
      let o : Opening :=
        { readable := false, writable := true, create := true
          truncate := !a.has 'a', append := a.has 'a' }
      let s := s.print r
      a.operands.foldl (fun s name =>
        match s.openPath o name with
        | .error e => flaw s (named name ++ ": " ++ e.reason)
        | .ok (n, s) =>
          match s.toWorld.write n r with
          | .ok w => { s with toWorld := w }
          | .error e => flaw s (named name ++ ": " ++ e.reason)) s

/-- Lines of files side by side. -/
def paste : List Row → State → State :=
  taking [⟨'d', "delimiters", .argument⟩, ⟨'s', "serial", .nothing⟩] 1 fun a s =>
    let gaps := match (a.value? 'd').map fun d => (resolved d).1.toList with
      | some [] => [""]
      | some cs => cs.map fun c => if c = '\x00' then "" else c.toString
      | none => ["\t"]
    let join := fun (ls : List Row) =>
      String.join (ls.mapIdx fun i l =>
        (if i = 0 then "" else (gaps[(i - 1) % gaps.length]?).getD "") ++ l) ++ "\n"
    let names := if a.operands = [] then ["-"] else a.operands
    let (files, s) := names.foldl (fun ((files, s) : List (List Row) × State) name =>
      match contents s name with
      | .ok (r, s) => (files ++ [bareLines r], s)
      | .error e => (files, flaw s (plainFault name e))) ([], s)
    if a.has 's' then s.print (String.join (files.map join))
    else
      -- a file that is named several times as the input is read line by line in turn
      let inputs := (names.filter (· = "-")).length
      let files := if inputs < 2 then files else
        let shared := ((names.zip files).find? (·.1 = "-")).map Prod.snd |>.getD []
        let places := (names.zipIdx.filter (·.1 = "-")).map Prod.snd
        files.mapIdx fun i f =>
          match places.findIdx? (· = i) with
          | some k => (shared.zipIdx.filter fun l => l.2 % inputs = k).map Prod.fst
          | none => f
      let height := (files.map List.length).foldl max 0
      s.print (String.join ((List.range height).map fun i =>
        join (files.map fun f => (f[i]?).getD "")))

/-- Lines cut at some width, at blanks if that is asked for; `fuel` bounds the length. -/
def folded (width : Nat) (atBlanks : Bool) : (fuel : Nat) → List Char → List (List Char)
  | 0, cs => [cs]
  | fuel + 1, cs =>
    if cs.length ≤ width then [cs]
    else
      let piece := cs.take width
      let kept := (piece.reverse.dropWhile fun c => c ≠ ' ' && c ≠ '\t').reverse
      let piece := if atBlanks && kept ≠ [] then kept else piece
      piece :: folded width atBlanks fuel (cs.drop piece.length)

/-- Lines cut at some width. -/
def fold : List Row → State → State :=
  taking [⟨'w', "width", .argument⟩, ⟨'s', "spaces", .nothing⟩, ⟨'b', "bytes", .nothing⟩] 1
    fun a s =>
      let width := (a.value? 'w').elim (some 80) number?
      if width = none then
        flaw s ("invalid number of columns: " ++ inQuotes ((a.value? 'w').getD ""))
      else if width = some 0 then
        flaw s ("invalid number of columns: " ++ inQuotes ((a.value? 'w').getD "") ++
          ": Numerical result out of range")
      else
      let width := width.getD 80
      overInputs a.operands plainFault (fun _ r s =>
        s.print (String.join ((linesOf r).map fun l =>
          let body := bareLine l
          "\n".intercalate ((folded width (a.has 's') (body.length + 1) body.toList).map
            String.ofList) ++ (l.drop body.length).toString))) s

end Utility

end Testbench
