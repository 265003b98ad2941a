import Testbench.Shell.Utility.Lines
import Testbench.Shell.Utility.Regex

/-!
# Edits

Lines are edited one after the other by a list of steps. Each line stands in a place of its own, the
pattern; a second place holds what is kept from line to line.

- `Utility.Address`, `Utility.Selection`: which lines a step is for.
- `Utility.Verb`, `Utility.Edit`: what a step does, and a step.
- `Utility.Desk`: what is known while lines are edited.
- `Utility.Desk.obey`: one step done.
- `Utility.Desk.cycles`: all lines edited.

Part of the host that `Executor.host` follows; no result on runs depends on it.
-/

namespace Testbench

namespace Utility

open Shell Text

/-! ## Steps -/

/-- A line, or some of them. -/
inductive Address where
  | line (n : Nat)
  | last
  /-- A first line, and those at equal distances behind it. -/
  | every (first step : Nat)
  /-- Lines in which an expression occurs, or the expression that was used last. -/
  | holds (r : Option Regex)
  deriving Repr

/-- Where a range of lines ends. -/
inductive RangeEnd where
  | place (a : Address)
  /-- So many lines behind the first one. -/
  | behind (n : Nat)
  /-- The next line with a multiple of the number. -/
  | multiple (n : Nat)
  deriving Repr

/-- The lines that a step is for. -/
inductive Selection where
  | all
  | one (a : Address)
  | range (a : Address) (stop : RangeEnd)
  deriving Repr

/-- A part of what is put in the place of a text that was found. -/
inductive Part where
  | text (r : Row)
  | group (n : Nat)
  /-- The case of what follows: a letter that names it. -/
  | casing (c : Char)
  deriving Repr

/-- What a step does. -/
inductive Verb where
  /-- The steps up to a number are done only for lines that were selected. -/
  | block (stop : Nat)
  | nothing
  | substitute (r : Option Regex) (parts : List Part) (nth : Nat) (all : Bool) (print : Bool)
      (file : Option Row)
  | delete
  | deleteFirst
  | print
  | printFirst
  | next
  | nextAppend
  | hold (append : Bool)
  | fetch (append : Bool)
  | swap
  | exchange (pairs : List (Char × Char))
  | append (text : Row)
  | insert (text : Row)
  | change (text : Row)
  | quit (code : Nat) (silent : Bool)
  | number
  | list (width : Nat)
  /-- On with another step if something was replaced, if nothing was, or in any case. -/
  | jump (replaced : Option Bool) (target : Nat)
  | readFile (path : Row)
  | writeFile (path : Row)
  | clear
  deriving Repr

/-- A step. -/
structure Edit where
  selection : Selection := .all
  negated : Bool := false
  verb : Verb
  deriving Repr

/-! ## Replacement -/

/-- What has been put together of a replacement: the text, the case of all that follows, and that of
the next character. -/
structure Draft where
  done : List Char := []
  mode : Char := 'E'
  once : Char := 'E'

namespace Draft

/-- A character in a case. -/
def cased (mode : Char) (c : Char) : Char :=
  if mode = 'U' ∨ mode = 'u' then c.toUpper
  else if mode = 'L' ∨ mode = 'l' then c.toLower
  else c

/-- One more character. -/
def push (d : Draft) (c : Char) : Draft :=
  let c := cased d.mode c
  { d with done := (if d.once = 'E' then c else cased d.once c) :: d.done, once := 'E' }

/-- One more part. -/
def add (text : Array Char) (m : Regex.Found) (d : Draft) : Part → Draft
  | .text r => r.toList.foldl push d
  | .group 0 => (text.extract m.start m.stop).foldl push d
  | .group n =>
    match m.groups.lookup n with
    | some (i, j) => (text.extract i j).foldl push d
    | none => d
  | .casing c =>
    if c = 'u' ∨ c = 'l' then { d with once := c } else { d with mode := c, once := 'E' }

end Draft

/-- A text with what was found in it replaced, from the occurrence of some number on, and whether
there was one; `fuel` bounds the occurrences. -/
def substitutedFrom (r : Regex) (parts : List Part) (nth : Nat) (all : Bool) (text : Array Char) :
    (fuel count place : Nat) → (last : Option Nat) → (done : List Char) → List Char × Bool
  | 0, _, _, _, done => (done, false)
  | fuel + 1, count, place, last, done =>
    let rest := (text.extract place text.size).foldl (fun d c => c :: d) done
    if text.size < place then (done, false)
    else match r.find? text place with
      | none => (rest, false)
      | some m =>
        let done := (text.extract place m.start).foldl (fun d c => c :: d) done
        -- an empty text right behind the last one does not count
        let isStale := m.start = m.stop && last = some m.start
        let step := if m.start = m.stop then 1 else 0
        let skipped := (text.extract m.start (m.start + step)).toList
        if isStale then
          substitutedFrom r parts nth all text fuel count (m.start + 1) none (skipped ++ done)
        else
          let isCounted := count + 1 = nth || (nth < count + 1 && all)
          let new :=
            if isCounted then (parts.foldl (Draft.add text m) { done }).done
            else (text.extract m.start m.stop).foldl (fun d c => c :: d) done
          if isCounted && !all then
            ((text.extract m.stop text.size).foldl (fun d c => c :: d) new, true)
          else
            let (done, hit) := substitutedFrom r parts nth all text fuel (count + 1) (m.stop + step)
              (some m.stop) (skipped ++ new)
            (done, hit || isCounted)

/-- A row with what was found in it replaced, if anything was. -/
def substituted (r : Regex) (parts : List Part) (nth : Nat) (all : Bool) (row : Row) : Option Row :=
  let text := row.toList.toArray
  let (done, hit) := substitutedFrom r parts nth all text (2 * text.size + 3) 0 0 none []
  if hit then some (String.ofList done.reverse) else none

/-! ## The desk -/

/-- What is known while lines are edited. -/
structure Desk where
  steps : Array Edit
  silent : Bool
  pattern : Row := ""
  held : Row := ""
  /-- The number of the line, and the lines that follow. -/
  number : Nat := 0
  rest : List Row
  /-- The line had an end. -/
  ended : Bool := true
  /-- What was put out, the latest first, and whether a line end is still owed. -/
  out : List Row := []
  owed : Bool := false
  /-- What is put out behind the line. -/
  later : List Row := []
  /-- What goes to files. -/
  files : List (Row × Row) := []
  /-- The steps whose range has begun, each with the line that ends it. -/
  active : List (Nat × Option Nat) := []
  replaced : Bool := false
  lastRegex : Option Regex := none
  /-- The status with which all ends. -/
  code : Option Nat := none
  /-- Reads a file. -/
  fetch : Row → Option Row

namespace Desk

/-- Something is put out. -/
def emit (d : Desk) (r : Row) : Desk :=
  if r = "" then d
  else { d with out := r :: (if d.owed then "\n" :: d.out else d.out), owed := false }

/-- A text is put out as a line. -/
def emitLine (d : Desk) (r : Row) : Desk :=
  if d.ended then d.emit (r ++ "\n")
  else { d with out := r :: (if d.owed then "\n" :: d.out else d.out), owed := true }

/-- Something goes to a file. -/
def toFile (d : Desk) (path r : Row) : Desk :=
  if path = "/dev/stdout" then d.emit r
  else { d with files := d.files.map fun (p, t) => if p = path then (p, t ++ r) else (p, t) }

/-- The line is the last one. -/
def isLast (d : Desk) : Bool := d.rest = []

/-- The next line is taken, if there is one. -/
def advance (d : Desk) (join : Bool) : Option Desk :=
  match d.rest with
  | [] => none
  | l :: rest =>
    let text := bareLine l
    some { d with
      pattern := if join then d.pattern ++ "\n" ++ text else text
      number := d.number + 1, rest, ended := text.length < l.length }

/-- What stands behind a line is put out. -/
def flush (d : Desk) : Desk := d.later.foldl emit { d with later := [] }

/-- The end of a round: the line is put out, and what stands behind it. -/
def conclude (d : Desk) : Desk := (if d.silent then d else d.emitLine d.pattern).flush

/-- The line is one that the address names; the expression that was used is kept. -/
def suits (d : Desk) : Address → Bool × Desk
  | .line n => (d.number = n, d)
  | .last => (d.isLast, d)
  | .every first step =>
    (if step = 0 then d.number = first else first ≤ d.number && (d.number - first) % step = 0, d)
  | .holds r =>
    match r.orElse fun _ => d.lastRegex with
    | none => (false, d)
    | some r => ((r.find? d.pattern.toList.toArray 0).isSome, { d with lastRegex := some r })

/-- The line is one that a step is for. The range of a step begins with the first line that its
address names, and ends with a line behind it, or with the same line if that is numbered and not
behind it. -/
def selects (d : Desk) (index : Nat) (s : Selection) : Bool × Desk :=
  match s with
  | .all => (true, d)
  | .one a => d.suits a
  | .range a stop =>
    match d.active.lookup index with
    | none =>
      match d.suits a with
      | (false, d) => (false, d)
      | (true, d) =>
        let last : Option Nat := match stop with
          | .place (.line n) => some n
          | .behind n => some (d.number + n)
          | .multiple n => some (if n = 0 then d.number else (d.number + n - 1) / n * n)
          | .place _ => none
        if last.any (· ≤ d.number) then (true, d)
        else (true, { d with active := (index, last) :: d.active })
    | some last =>
      let close := fun (d : Desk) => { d with active := d.active.filter (·.1 ≠ index) }
      match last, stop with
      | some n, _ => (d.number ≤ n, if n ≤ d.number then close d else d)
      | none, .place a =>
        match d.suits a with
        | (true, d) => (true, close d)
        | (false, d) => (true, d)
      | none, _ => (true, d)

/-- The range of a step goes on behind the line. -/
def goesOn (d : Desk) (index : Nat) : Bool := (d.active.lookup index).isSome

/-- A row as it is shown where its characters are told apart, cut into lines of a width. -/
def shownApart (width : Nat) (r : Row) : Row :=
  let piece := fun (c : Char) =>
    if c = '\\' then "\\\\".toList else if isShown c then [c] else hiddenOctet c
  let step := fun (acc : List Char × Nat) (c : Char) =>
    let p := piece c
    if 1 < width && width - 1 < acc.2 + p.length then
      (p.reverse ++ '\n' :: '\\' :: acc.1, p.length)
    else (p.reverse ++ acc.1, acc.2 + p.length)
  String.ofList (r.toList.foldl step ([], 0)).1.reverse ++ "$\n"

/-- What follows a step: the step with some number, the end of the round, a new round on what is
left, or the end of all. -/
inductive Onward where
  | step (n : Nat)
  | conclude
  | discard
  | again
  | stop (silent : Bool)

/-- One step is done for a line that it is for. -/
def obey (d : Desk) (index : Nat) (e : Edit) : Desk × Onward :=
  let on := Onward.step (index + 1)
  match e.verb with
  | .block _ => (d, on)
  | .nothing => (d, on)
  | .substitute r parts nth all print file =>
    match r.orElse fun _ => d.lastRegex with
    | none => (d, on)
    | some r =>
      let d := { d with lastRegex := some r }
      match substituted r parts nth all d.pattern with
      | none => (d, on)
      | some p =>
        let d := { d with pattern := p, replaced := true }
        let d := if print then d.emitLine p else d
        (match file with
          | some f => d.toFile f (p ++ "\n")
          | none => d, on)
  | .delete => (d, .discard)
  | .deleteFirst =>
    match d.pattern.splitOn "\n" with
    | _ :: b :: rest => ({ d with pattern := "\n".intercalate (b :: rest) }, .again)
    | _ => (d, .discard)
  | .print => (d.emitLine d.pattern, on)
  | .printFirst => (d.emit (((d.pattern.splitOn "\n").head?.getD "") ++ "\n"), on)
  | .next =>
    if d.isLast then (d, .stop false)
    else
      let d := if d.silent then d else d.emitLine d.pattern
      ((d.flush.advance false).getD d, on)
  | .nextAppend =>
    if d.isLast then (d, .stop false) else ((d.flush.advance true).getD d, on)
  | .hold append =>
    ({ d with held := if append then d.held ++ "\n" ++ d.pattern else d.pattern }, on)
  | .fetch append =>
    ({ d with pattern := if append then d.pattern ++ "\n" ++ d.held else d.held }, on)
  | .swap => ({ d with pattern := d.held, held := d.pattern }, on)
  | .exchange pairs =>
    ({ d with pattern := d.pattern.map fun c => (pairs.lookup c).getD c }, on)
  | .append text => ({ d with later := d.later ++ [text] }, on)
  | .insert text => (d.emit text, on)
  | .change text =>
    let isRange := match e.selection with
      | .range _ _ => !e.negated
      | _ => false
    (if isRange && d.goesOn index then d else d.emit text, .discard)
  | .quit code silent => ({ d with code := some code }, .stop silent)
  | .number => (d.emit (toString d.number ++ "\n"), on)
  | .list width => (d.emit (shownApart width d.pattern), on)
  | .jump wanted target =>
    match wanted with
    | none => (d, .step target)
    | some w =>
      let isDone := d.replaced = w
      ({ d with replaced := false }, if isDone then .step target else on)
  | .readFile path =>
    ({ d with later := d.later ++ (d.fetch path).toList }, on)
  | .writeFile path => (d.toFile path (d.pattern ++ "\n"), on)
  | .clear => ({ d with pattern := "" }, on)

/-- All steps for a line, from one of them on; `fuel` bounds how many. -/
def round : (fuel : Nat) → (index : Nat) → Desk → Desk × Onward
  | 0, _, d => (d, .stop true)
  | fuel + 1, index, d =>
    match d.steps[index]? with
    | none => (d, .conclude)
    | some e =>
      let (chosen, d) := d.selects index e.selection
      if chosen != e.negated then
        match d.obey index e with
        | (d, .step n) => round fuel n d
        | r => r
      else match e.verb with
        | .block stop => round fuel stop d
        | _ => round fuel (index + 1) d

/-- So many steps are done for a line at most. -/
def stepLimit : Nat := 1000000

/-- All lines; `fuel` bounds the rounds. `fresh` where the next line is to be taken. -/
def cycles : (fuel : Nat) → (fresh : Bool) → Desk → Desk
  | 0, _, d => d
  | fuel + 1, fresh, d =>
    match if fresh then d.advance false else some d with
    | none => d
    | some d =>
      let d := if fresh then { d with replaced := false } else d
      match round stepLimit 0 d with
      | (d, .conclude) => cycles fuel true d.conclude
      | (d, .step _) => cycles fuel true d.conclude
      | (d, .discard) => cycles fuel true d.flush
      | (d, .again) => cycles fuel false d.flush
      | (d, .stop silent) => if silent then d.flush else d.conclude

end Desk

end Utility

end Testbench
