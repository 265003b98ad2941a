import Testbench.Shell.Choices
import Testbench.Shell.Condition
import Testbench.Shell.Field
import Testbench.Shell.Quoting
import Testbench.Shell.State

/-!
# Commands on variables and parameters

- `Shell.State.mark`: `export` and `readonly`.
- `Shell.State.hide`, `Shell.State.uncover`: variables of a function, and what they hid.
- `Shell.State.unsetAll`, `Shell.State.shift`, `Shell.State.setAll`: `unset`, `shift` and `set`.
- `Shell.State.nextOption`: `getopts`.
- `Shell.State.readFields`: `read`.

Part of the host that `Executor.host` follows; no result on runs depends on it.
-/

namespace Testbench

namespace Shell

open Text

/-- The number that an argument spells. -/
def count? (arg : Row) : Option Nat :=
  match integer? arg with
  | some n => if 0 ≤ n ∧ n < 2147483648 then some n.toNat else none
  | none => none

/-- The name in front of an argument, and the value behind an equals sign if there is one. -/
def definition (arg : Row) : String × Option Row :=
  let name := arg.toList.takeWhile (· ≠ '=')
  match arg.toList.drop name.length with
  | _ :: value => (String.ofList name, some (String.ofList value))
  | [] => (String.ofList name, none)

namespace State

/-- What is said of a name that no variable can have. -/
def badName (name : String) : String := name ++ ": bad variable name"

/-- The state with a variable set if its name is one. -/
def setNamed (s : State) (name : String) (value : Row) : State :=
  if isName name then s.set name value else s.fail (badName name)

/-- Steps for some arguments, up to the first fault. -/
def forEach {α : Type} (s : State) (as : List α) (step : State → α → State) : State :=
  as.foldl (fun s a => if s.isRunning then step s a else s) s

/-! ## Listing -/

/-- The variables with a property, sorted by name, each behind a word. -/
def listing (s : State) (front : String) (isListed : Variable → Bool) : Row :=
  let all := (s.memory.filter fun e => isListed e.2).mergeSort fun a b => a.1 ≤ b.1
  String.join (all.map fun (n, v) =>
    front ++ n ++ (match v.value with
      | some r => "=" ++ quoted r
      | none => "") ++ "\n")

/-! ## Marks -/

/-- An argument of `export` or `readonly`: a name, and a value if one is given. -/
def markOne (change : Variable → Variable) (s : State) (arg : Row) : State :=
  let (name, value) := definition arg
  if !isName name then s.fail (badName name)
  else match value with
    | some r =>
      match s.assign false name r with
      | .ok s => s.alter name change
      | .error e => s.fail e
    | none => s.alter name change

/-- The variables that are named get a mark; without names, those that have it are listed. -/
def mark (title : String) (has : Variable → Bool) (change : Variable → Variable)
    (args : List Row) (s : State) : State :=
  match choices "p" "" args with
  | .error e => s.fail e
  | .ok ([], arg :: args) => (s.forEach (arg :: args) (markOne change)).conclude 0
  | .ok _ => (s.print (s.listing (title ++ " ") has)).withStatus 0

/-- Variables that programs inherit from here on. -/
def exportAll : List Row → State → State :=
  mark "export" (·.exported) fun v => { v with exported := true }

/-- Variables that keep their values from here on. -/
def protectAll : List Row → State → State :=
  mark "readonly" (·.readOnly) fun v => { v with readOnly := true }

/-! ## Variables of functions -/

/-- What is hidden is put down in the innermost function. -/
def putDown (s : State) (name : String) (old : Option Variable) : State :=
  match s.hidden with
  | frame :: frames => { s with hidden := ((name, old) :: frame) :: frames }
  | [] => s

/-- A variable is hidden by one of the same value, or by another one. -/
def hide (exported : Bool) (s : State) (arg : Row) : State :=
  if arg = "-" then s.putDown "-" (some ⟨some (String.ofList s.switches), false, false⟩)
  else
    let (name, value) := definition arg
    let old := s.memory.lookup name
    match value with
    | some r =>
      match s.assign exported name r with
      | .ok s => s.putDown name old
      | .error e => s.fail e
    | none =>
      if !isName name then s.fail (badName name)
      else (s.alter name fun v => { v with exported := v.exported || exported }).putDown name old

/-- Variables of a function. -/
def localAll (args : List Row) (s : State) : State :=
  if s.hidden = [] then s.fail "not in a function"
  else
    (s.forEach args (hide false)).conclude 0

/-- What the innermost function hid is there again. -/
def uncover (s : State) : State :=
  match s.hidden with
  | [] => s
  | frame :: frames =>
    frame.foldl (fun s (name, old) =>
      match old with
      | some v =>
        if name = "-" then { s with switches := (v.value.getD "").toList }
        else s.note name v.value |>.alter name fun _ => v
      | none =>
        note name none { s with memory := s.memory.filter (·.1 ≠ name) })
      { s with hidden := frames }

/-! ## Parameters and switches -/

/-- Variables or bodies go. -/
def unsetAll (args : List Row) (s : State) : State :=
  match choices "vf" "" args with
  | .error e => s.fail e
  | .ok (chosen, names) =>
    let s := s.forEach names fun s name =>
      if (chosen.getLast?.map Prod.fst) = some 'f' then
        { s with bodies := s.bodies.filter (·.name ≠ name) }
      else if !isName name then s.fail (badName (definition name).1)
      else match s.unset name with
        | .ok s => s.note name none
        | .error e => s.fail e
    s.conclude 0

/-- The first parameters go. -/
def shift (args : List Row) (s : State) : State :=
  match (args.head?.map fun a => (a, count? a)) with
  | some (a, none) => s.fail (noNumber a)
  | r =>
    let n := (r.bind Prod.snd).getD 1
    if s.args.length < n then s.fail "can't shift that many"
    else { s with args := s.args.drop n, status := 0, optionIndex := 1, optionOffset := none }

/-- The switches by letter and by name; some have only a name. The letters of those that are set
are told in reverse order. -/
def switchNames : List (Option Char × String) :=
  [(some 'e', "errexit"), (some 'f', "noglob"), (some 'I', "ignoreeof"), (some 'i', "interactive"),
   (some 'm', "monitor"), (some 'n', "noexec"), (some 's', "stdin"), (some 'x', "xtrace"),
   (some 'v', "verbose"), (some 'V', "vi"), (some 'E', "emacs"), (some 'C', "noclobber"),
   (some 'a', "allexport"), (some 'b', "notify"), (some 'u', "nounset"), (some 'p', "privileged"),
   (none, "nolog"), (none, "debug")]

/-- A switch by its letter is set or not. -/
def switch (s : State) (on : Bool) (c : Char) : State :=
  let letters := (switchNames.filterMap Prod.fst).reverse
  if letters.contains c then
    { s with switches := letters.filter fun d => if d = c then on else s.switches.contains d }
  else s.fail ("Illegal option -" ++ c.toString)

/-- All switches by name with what they are, or as the commands that make them so. -/
def switchTable (asText : Bool) (isOn : Option Char × String → Bool) : Row :=
  let line := fun (e : Option Char × String) =>
    if asText then
      let gap := String.ofList (List.replicate (16 - e.2.length) ' ')
      e.2 ++ gap ++ (if isOn e then "on" else "off") ++ "\n"
    else "set " ++ (if isOn e then "-o " else "+o ") ++ e.2 ++ "\n"
  (if asText then "Current option settings\n" else "") ++ String.join (switchNames.map line)

/-- Jobs are not controlled where there is no terminal. -/
def dropControl (s : State) : State :=
  if s.has 'm' then (s.complain "can't access tty; job control turned off").switch false 'm' else s

/-- A switch by its name is set or not; without a name, all of them are listed. -/
def switchNamed (s : State) (on : Bool) : Option Row → State
  | some name =>
    match switchNames.find? (·.2 = name) with
    | some (some c, _) => s.switch on c
    | some (none, _) => s
    | none => s.fail ("Illegal option -o " ++ name)
  | none => s.print (switchTable on fun e => e.1.any s.has)

/-- The switches that the letters of one argument name, and the arguments left. -/
def switchLetters (on : Bool) : List Char → List Row → State → State × List Row
  | [], args, s => (s, args)
  | c :: cs, args, s =>
    if !s.isRunning then (s, args)
    else if c = 'o' then
      switchLetters on cs (args.drop 1) (s.switchNamed on args.head?)
    else switchLetters on cs args (s.switch on c)

/-- The switches in front of the parameters, and the parameters if there are any; `fuel` bounds
their number. -/
def switchAll : (fuel : Nat) → List Row → State → State × Option (List Row)
  | 0, _, s => (s, none)
  | _ + 1, [], s => (s, none)
  | fuel + 1, a :: args, s =>
    let rest := if args = [] then none else some args
    match a.toList with
    | ['-'] => ((s.switch false 'x').switch false 'v', rest)
    | ['-', '-'] => (s, some args)
    | '-' :: cs =>
      let (s, args) := switchLetters true cs args s
      switchAll fuel args s
    | '+' :: cs =>
      let (s, args) := switchLetters false cs args s
      switchAll fuel args s
    | _ => (s, some (a :: args))

/-- Switches and parameters are set; without arguments, all variables are listed. -/
def setAll (args : List Row) (s : State) : State :=
  if args = [] then (s.print (s.listing "" (·.value.isSome))).withStatus 0
  else
    let (s, params) := switchAll (args.length + 1) args s
    if !s.isRunning then s
    else match s.dropControl, params with
      | s, some args => { s with args, status := 0, optionIndex := 1, optionOffset := none }
      | s, none => s.withStatus 0

/-! ## Options of scripts -/

/-- What the reading of one option comes to: the letter, the index of the next argument, the place
in the one before it, the argument of the option if it is to be set or unset, and whether the
options have come to an end. -/
structure OptionRead where
  letter : Char
  index : Nat
  offset : Option Nat
  /-- What the variable for arguments of options becomes; nothing changes if there is nothing. -/
  argument : Option (Option Row) := none
  complaint : String := ""
  done : Bool := false

/-- What stands behind the letter of an option: nothing if there is no such letter, otherwise
whether it takes an argument. Colons are no letters. -/
def takesArgument? (c : Char) : List Char → Option Bool
  | [] => none
  | d :: rest =>
    let valued := rest.head? = some ':'
    if d = c then some valued
    else match rest with
      | ':' :: rest => takesArgument? c rest
      | rest => takesArgument? c rest

/-- One option is read from some arguments. -/
def readOption (letters : Row) (args : List Row) (index : Nat) (offset : Option Nat) : OptionRead :=
  let letters := letters.toList
  let quiet := letters.head? = some ':'
  let current := if index ≤ 1 then none else args[index - 2]?
  let left := match current, offset with
    | some a, some n => a.toList.drop n
    | _, _ => []
  -- the characters of the option, and the index of the argument behind it
  let (cs, index, ended) :=
    if left ≠ [] then (left, index, false)
    else match args[index - 1]? with
      | some a =>
        match a.toList with
        | ['-', '-'] => ([], index + 1, true)
        | '-' :: c :: cs => (c :: cs, index + 1, false)
        | _ => ([], index, true)
      | none => ([], index, true)
  let place := fun (rest : List Char) =>
    (args[index - 2]?).map fun a => a.length - rest.length
  match cs with
  | [] => { letter := '?', index, offset := none, done := ended }
  | c :: rest =>
    match takesArgument? c letters with
    | none =>
      { letter := '?', index, offset := place rest
        argument := some (if quiet then some c.toString else none)
        complaint := if quiet then "" else "Illegal option -" ++ c.toString ++ "\n" }
    | some false => { letter := c, index, offset := place rest, argument := some (some "") }
    | some true =>
      if rest ≠ [] then
        { letter := c, index, offset := none, argument := some (some (String.ofList rest)) }
      else match args[index - 1]? with
        | some a => { letter := c, index := index + 1, offset := none, argument := some (some a) }
        | none =>
          { letter := if quiet then ':' else '?', index, offset := none
            argument := some (if quiet then some c.toString else none)
            complaint := if quiet then "" else "No arg for -" ++ c.toString ++ " option\n" }

/-- The next option of a script is read into a variable. -/
def nextOption (args : List Row) (s : State) : State :=
  match args with
  | letters :: name :: rest =>
    let all := if rest = [] then s.args else rest
    let (index, offset) :=
      if all.length + 1 < s.optionIndex then (1, none) else (s.optionIndex, s.optionOffset)
    let r := readOption letters all index offset
    let s := s.put 2 r.complaint
    let s := match r.argument with
      | some (some value) => s.set "OPTARG" value
      | some none => s.orFail (s.unset "OPTARG")
      | none => s
    if !s.isRunning then s
    else
      let s := s.set "OPTIND" (toString r.index)
      if !s.isRunning then s
      else
        let s := { s with optionIndex := r.index, optionOffset := r.offset }
        let s := s.setNamed name r.letter.toString
        if s.isRunning then
          { s with
            optionIndex := r.index, optionOffset := r.offset, status := if r.done then 1 else 0 }
        else s
  | _ => s.fail "Usage: getopts optstring var [arg...]"

/-! ## Input -/

/-- A line that is being cut into a limited number of fields. -/
structure LineCut where
  /-- The fields, the last one first. -/
  done : List Row := []
  /-- The field that is being read, the last character first. -/
  current : List Char := []
  blank : Bool := false
  /-- How many fields may still begin. -/
  left : Nat
  /-- So many characters of the last field stay. -/
  kept : Option Nat := none

namespace LineCut

/-- One character of the line. Quoted ones part nothing; a quoted NUL stands for nothing at all. -/
def step (parting : List Char) (k : LineCut) (cell : Cell) : LineCut :=
  let (c, isQuoted) := cell
  let add := fun (k : LineCut) => { k with current := c :: k.current, blank := false }
  if isQuoted then
    if c = '\x00' then { k with blank := false } else add k
  else
    let isParting := parting.contains c
    let isBlank := isParting && Cutting.usual.contains c
    if k.left = 0 then
      if isBlank then
        { k with current := c :: k.current, kept := k.kept.or (some k.current.length) }
      else add { k with kept := if isParting && k.blank then k.kept else none }
    else if k.blank then
      if isBlank then { k with current := [] }
      else if isParting then { k with current := [], blank := false }
      else add { k with current := [] }
    else if isParting then
      if k.current = [] && isBlank then { k with blank := false }
      else if k.left = 1 then
        { k with left := 0, kept := some k.current.length, current := c :: k.current
                 blank := isBlank }
      else
        { k with done := String.ofList k.current.reverse :: k.done, current := [], blank := isBlank
                 left := k.left - 1 }
    else add k

/-- The fields of a line, no more than `limit`. -/
def fields (parting : List Char) (limit : Nat) (line : List Cell) : List Row :=
  let k := line.foldl (step parting) { left := limit }
  let last := k.current.reverse
  let last := match k.kept with
    | some n => last.take n
    | none => last
  (if last = [] then k.done else String.ofList last :: k.done).reverse

end LineCut

/-- A line of input without its end, whether it had one, and what it costs; a backslash quotes the
next character and joins lines, unless `raw`; `fuel` bounds the lines. -/
def inputLine (raw : Bool) : (fuel : Nat) → List Cell → State → List Cell × Bool × State
  | 0, read, s => (read, false, s)
  | fuel + 1, read, s =>
    match s.readLine 0 with
    | .error _ => (read, false, s)
    | .ok (line, s) =>
      let (cells, open', ended) := cellsOf line.toList
      if open' then inputLine raw fuel (read ++ cells ++ [('\x00', true)]) s
      else (read ++ cells, ended, s)
where
  /-- The characters of a line, whether it goes on, and whether it has an end. -/
  cellsOf : List Char → List Cell × Bool × Bool
    | [] => ([], false, false)
    | ['\n'] => ([], false, true)
    | '\\' :: '\n' :: [] => if raw then ([('\\', false)], false, true) else ([], true, false)
    | '\\' :: c :: cs =>
      if raw then
        let (cells, r) := cellsOf (c :: cs)
        (('\\', false) :: cells, r)
      else
        let (cells, r) := cellsOf cs
        (if c = '\x00' then cells else (c, true) :: cells, r)
    | ['\\'] => (if raw then [('\\', false)] else [], false, false)
    | c :: cs =>
      let (cells, r) := cellsOf cs
      (if c = '\x00' then cells else (c, false) :: cells, r)

/-- A line of input is read into variables. -/
def readFields (args : List Row) (s : State) : State :=
  match choices "r" "p" args with
  | .error e => s.fail e
  | .ok (_, []) => s.fail "arg count"
  | .ok (chosen, names) =>
    let (line, ended, s) := inputLine (chosen.any (·.1 = 'r')) 1000000 [] s
    let parting := match s.get? "IFS" with
      | some v => v.toList
      | none => Cutting.usual
    let values := LineCut.fields parting names.length line
    let s := s.forEach (names.zip (values ++ List.replicate (names.length - values.length) ""))
      fun s (name, value) => s.setNamed (definition name).1 value
    s.conclude (if ended then 0 else 1)

end State

end Shell

end Testbench
