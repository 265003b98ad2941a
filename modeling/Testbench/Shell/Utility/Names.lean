import Testbench.Shell.Utility.Arguments

/-!
# Utilities on names and numbers

- `Utility.baseName`, `Utility.dirName`: the last name of a path, and what stands in front of it.
- `Utility.sequence`: numbers at equal distances.
- `Utility.sleep`: time that passes.
- `Utility.printVariables`, `Utility.printDir`: variables, and the current directory.
- `Utility.yes`, `Utility.tellUser`, `Utility.tellSystem`: lines without end, and who and where one
  is.

Part of the host that `Executor.host` follows; no result on runs depends on it.
-/

namespace Testbench

namespace Utility

open Shell Text

/-! ## Parts of paths -/

/-- A path without the slashes behind it; of slashes alone one is left. -/
def withoutSlashes (path : Row) : Row :=
  let cs := (path.toList.reverse.dropWhile (· = '/')).reverse
  if cs = [] && path ≠ "" then "/" else String.ofList cs

/-- The last name of a path. -/
def lastName (path : Row) : Row :=
  let path := withoutSlashes path
  if path = "/" then "/"
  else String.ofList (path.toList.reverse.takeWhile (· ≠ '/')).reverse

/-- What stands in front of the last name of a path. -/
def frontOf (path : Row) : Row :=
  let path := withoutSlashes path
  if path = "/" then "/"
  else match path.toList.reverse.dropWhile (· ≠ '/') with
    | [] => "."
    | rest => withoutSlashes (String.ofList rest.reverse)

/-- A name without some ending, unless nothing else is left. -/
def withoutEnding (name ending : Row) : Row :=
  if ending ≠ "" && name ≠ ending && ending.toList.isSuffixOf name.toList then
    (name.dropEnd ending.length).toString
  else name

/-- The last names of paths. -/
def baseName : List Row → State → State :=
  taking (flags "az" ++ [⟨'a', "multiple", .nothing⟩, ⟨'s', "suffix", .argument⟩,
      ⟨'z', "zero", .nothing⟩]) 1 fun a s =>
    let tail := if a.has 'z' then "\x00" else "\n"
    if a.has 'a' || a.has 's' then
      let ending := (a.value? 's').getD ""
      if a.operands = [] then refuse s 1 "missing operand"
      else s.print (String.join (a.operands.map fun p => withoutEnding (lastName p) ending ++ tail))
    else match a.operands with
      | [] => refuse s 1 "missing operand"
      | [p] => s.print (lastName p ++ tail)
      | [p, ending] => s.print (withoutEnding (lastName p) ending ++ tail)
      | _ :: _ :: extra :: _ => refuse s 1 ("extra operand " ++ inQuotes extra)

/-- What stands in front of the last names of paths. -/
def dirName : List Row → State → State :=
  taking [⟨'z', "zero", .nothing⟩] 1 fun a s =>
    let tail := if a.has 'z' then "\x00" else "\n"
    if a.operands = [] then refuse s 1 "missing operand"
    else s.print (String.join (a.operands.map fun p => frontOf p ++ tail))

/-! ## Numbers -/

/-- A decimal number: an integer, and how many of its digits stand behind the point. -/
structure Decimals where
  value : Int
  places : Nat
  deriving DecidableEq, Repr

namespace Decimals

/-- The decimal number that an argument spells. -/
def ofRow? (a : Row) : Option Decimals :=
  let (negative, cs) := match a.toList.dropWhile isSpace with
    | '-' :: cs => (true, cs)
    | '+' :: cs => (false, cs)
    | cs => (false, cs)
  let hex := cs.drop 2
  if (cs.take 2).map Char.toLower = ['0', 'x'] && hex ≠ [] && hex.all isHexDigit then
    let n : Int := hex.foldl (fun n c => 16 * n + (digit? 16 c).getD 0) 0
    some ⟨if negative then -n else n, 0⟩
  else match Quantity.mantissa? 10 Quantity.tenfold? cs with
  | some (n, places, rest) =>
    let (e, rest) := Quantity.exponent 'e' 'E' rest
    if rest ≠ [] || 400 < e.natAbs then none
    else
      let shift := e - (places : Int)
      let n := n * Decimal.factor 10 shift
      let n : Int := if negative then -n else n
      some ⟨n, (-shift).toNat⟩
  | none => none

/-- The number with more places. -/
def widen (d : Decimals) (places : Nat) : Int := d.value * Decimal.factor 10 (places - d.places : Nat)

/-- The text of an integer of which so many digits stand behind the point, brought to a width by
zeros. -/
def text (places width : Nat) (n : Int) : String :=
  let ds := Nat.toDigits 10 n.natAbs
  let ds := List.replicate (places + 1 - ds.length) '0' ++ ds
  let whole := ds.take (ds.length - places)
  let part := ds.drop (ds.length - places)
  let body := if places = 0 then whole else whole ++ '.' :: part
  let sign := if n < 0 then ['-'] else []
  String.ofList (sign ++ List.replicate (width - sign.length - body.length) '0' ++ body)

end Decimals

/-- Numbers from a first one on, no further than a last one; `fuel` bounds how many. -/
def numbersFrom (step last : Int) : (fuel : Nat) → Int → List Int
  | 0, _ => []
  | fuel + 1, n =>
    if (0 < step ∧ last < n) ∨ (step < 0 ∧ n < last) then []
    else n :: numbersFrom step last fuel (n + step)

/-- The flags of numbers in front of the operands, which may begin with a hyphen. -/
def splitNumbers : List Row → List Row × List Row
  | [] => ([], [])
  | a :: rest =>
    match a.toList with
    | '-' :: c :: _ =>
      if c.isDigit || c = '.' then ([], a :: rest)
      else if a = "-s" ∨ a = "-f" then
        let (fs, ops) := splitNumbers (rest.drop 1)
        (a :: rest.take 1 ++ fs, ops)
      else if a = "--" then ([], rest)
      else
        let (fs, ops) := splitNumbers rest
        (a :: fs, ops)
    | _ => ([], a :: rest)
termination_by args => args.length
decreasing_by all_goals simp; try omega

/-- How numbers are laid out by a format, which holds one slot. -/
def numberForm (format : Row) : Except String (Row → Row) :=
  let (front, rest) := part format.toList
  match rest with
  | [] => .error ("format " ++ inQuotes format ++ " has no % directive")
  | _ :: rest =>
    let at' := slotAt rest
    let slot := at'.flags.foldl Slot.withFlag {}
    let slot := { slot with width := numberOfDigits (at'.width.getD []) }
    let slot := match at'.precision with
      | some (some ds) => { slot with precision := some (numberOfDigits ds) }
      | _ => slot
    match at'.rest with
    | [] => .error ("format " ++ inQuotes format ++ " ends in %")
    | kind :: rest =>
      if !"aAeEfFgG".toList.contains kind then
        .error ("format " ++ inQuotes format ++ " has unknown %" ++ kind.toString ++ " directive")
      else match part rest with
        | (back, []) =>
          .ok fun n =>
            let (negative, q) := (floatOf .extended n).1
            String.ofList front ++ slot.float .extended kind negative q ++ String.ofList back
        | _ => .error ("format " ++ inQuotes format ++ " has too many % directives")
where
  /-- The text in front of a slot, and the slot with what follows. -/
  part (cs : List Char) : List Char × List Char :=
    let isText := fun c => c ≠ '%'
    let front := cs.takeWhile isText
    match cs.dropWhile isText with
    | '%' :: '%' :: rest => (front ++ '%' :: rest.takeWhile isText, rest.dropWhile isText)
    | rest => (front, rest)

/-- Numbers at equal distances. -/
def sequence (args : List Row) (s : State) : State :=
  let (front, operands) := splitNumbers args
  taking [⟨'w', "equal-width", .nothing⟩, ⟨'s', "separator", .argument⟩, ⟨'f', "format", .argument⟩]
    1 (fun a s =>
    let parsed := operands.map fun o => (o, Decimals.ofRow? o)
    match operands, parsed.find? (·.2.isNone) with
    | [], _ => refuse s 1 "missing operand"
    | _ :: _ :: _ :: extra :: _, _ => refuse s 1 ("extra operand " ++ inQuotes extra)
    | _, some (bad, _) => refuse s 1 ("invalid floating point argument: " ++ inQuotes bad)
    | _, none =>
      let one : Decimals := ⟨1, 0⟩
      let (first, step, last) := match parsed.filterMap Prod.snd with
        | [last] => (one, one, last)
        | [first, last] => (first, one, last)
        | [first, step, last] => (first, step, last)
        | _ => (one, one, one)
      if step.value = 0 then
        refuse s 1 ("invalid Zero increment value: " ++ inQuotes (operands[1]?.getD ""))
      else
        let shown := max first.places step.places
        let places := max shown last.places
        let unit : Int := Decimal.factor 10 (places - shown : Nat)
        let ns := numbersFrom (step.widen places) (last.widen places) 1000000 (first.widen places)
        let width :=
          if a.has 'w' then
            let ends := [first.widen places, last.widen places]
            (ends.map fun n => (Decimals.text shown 0 (n / unit)).length).foldl max 0
          else 0
        let gap := (a.value? 's').getD "\n"
        let plain := fun (n : Int) => Decimals.text shown width (n / unit)
        match (a.value? 'f').map numberForm with
        | some (.error e) => refuse s 1 e
        | some (.ok form) =>
          if ns = [] then s else s.print (gap.intercalate (ns.map fun n => form (plain n)) ++ "\n")
        | none => if ns = [] then s else s.print (gap.intercalate (ns.map plain) ++ "\n"))
    front s

/-! ## Time -/

/-- The time that an argument spells, in millionths of a second. -/
def timeOf? (a : Row) : Option Nat :=
  let (text, unit) := match a.toList.getLast? with
    | some 's' => ((a.dropEnd 1).toString, 1)
    | some 'm' => ((a.dropEnd 1).toString, 60)
    | some 'h' => ((a.dropEnd 1).toString, 3600)
    | some 'd' => ((a.dropEnd 1).toString, 86400)
    | _ => (a, 1)
  match Decimals.ofRow? text with
  | some d =>
    if d.value < 0 then none
    else some (d.value.toNat * unit * 1000000 / Decimal.factor 10 d.places)
  | none => if text = "infinity" ∨ text = "inf" then some 1000000000000 else none

/-- Time passes. -/
def sleep : List Row → State → State :=
  taking [] 1 fun a s =>
    let times := a.operands.map fun o => (o, timeOf? o)
    let bad := times.filter (·.2.isNone)
    if a.operands = [] then refuse s 1 "missing operand"
    else if bad ≠ [] then
      let s := bad.foldl (fun s b => report s ("invalid time interval " ++ inQuotes b.1)) s
      (s.put 2 ("Try '" ++ s.self ++ " --help' for more information.\n")).withStatus 1
    else { s with clock := s.clock + (times.filterMap Prod.snd).foldl (· + ·) 0 }

/-! ## Surroundings -/

/-- The values of variables, or all variables. -/
def printVariables : List Row → State → State :=
  taking [⟨'0', "null", .nothing⟩] 2 fun a s =>
    let tail := if a.has '0' then "\x00" else "\n"
    let all := s.inherited
    if a.operands = [] then s.print (String.join (all.map fun (n, v) => n ++ "=" ++ v ++ tail))
    else
      let found := a.operands.map fun n => all.lookup n
      (s.print (String.join (found.map fun v => match v with
        | some v => v ++ tail
        | none => ""))).withStatus (if found.all Option.isSome then 0 else 1)

/-- The current directory. -/
def printDir : List Row → State → State :=
  taking [⟨'L', "logical", .nothing⟩, ⟨'P', "physical", .nothing⟩] 1 fun a s =>
    let logical := (s.get? "PWD").filter fun p =>
      a.last? "LP" = some 'L' && Path.isAbsolute p && (s.tree.find (ofRow p)).toOption = some s.here
    let s := if a.operands = [] then s else report s "ignoring non-option arguments"
    s.print (logical.getD (pathOfPlace s.here) ++ "\n")

/-- A line again and again, until nobody reads it any more. -/
def yes : List Row → State → State :=
  taking [] 1 fun a s =>
    let line := (if a.operands = [] then "y" else " ".intercalate a.operands) ++ "\n"
    let s := s.print (String.join (List.replicate (400000 / line.length + 1) line))
    if s.muted then s else { s with flow := .killed 13 }

/-- Who one is. -/
def tellUser (isName : Bool) : List Row → State → State :=
  taking (flags "ugnGrz" ++ [⟨'u', "user", .nothing⟩, ⟨'g', "group", .nothing⟩,
      ⟨'n', "name", .nothing⟩, ⟨'G', "groups", .nothing⟩]) 1 fun a s =>
    if isName then
      match a.operands with
      | [] => s.print "root\n"
      | extra :: _ => refuse s 1 ("extra operand " ++ inQuotes extra)
    else if a.operands.any fun o => o ≠ "root" && o ≠ "0" then
      a.operands.foldl (fun s o =>
        if o = "root" || o = "0" then s else flaw s (inQuotes o ++ ": no such user")) s
    else if a.has 'u' || a.has 'g' || a.has 'G' then
      s.print (if a.has 'n' then "root\n" else "0\n")
    else if a.has 'z' then flaw s "option --zero not permitted in default format"
    else if a.has 'n' || a.has 'r' then
      flaw s "printing only names or real IDs requires -u, -g, or -G"
    else s.print "uid=0(root) gid=0(root) groups=0(root)\n"

/-- Whether the input comes from a terminal, which it never does. -/
def tellTerminal : List Row → State → State :=
  taking [⟨'s', "silent", .nothing⟩, ⟨'s', "quiet", .nothing⟩] 2 fun a s =>
    match a.operands with
    | [] => (if a.has 's' then s else s.print "not a tty\n").withStatus 1
    | extra :: _ => refuse s 2 ("extra operand " ++ inQuotes extra)

/-- Where one is. -/
def tellSystem : List Row → State → State :=
  taking ([⟨'s', "kernel-name", .nothing⟩, ⟨'m', "machine", .nothing⟩,
      ⟨'o', "operating-system", .nothing⟩] ++ flags "pi") 1 fun a s =>
    let parts := (if a.has 's' || a.chosen = [] then ["Linux"] else []) ++
      (if a.has 'm' then ["x86_64"] else []) ++ (if a.has 'p' then ["x86_64"] else []) ++
      (if a.has 'i' then ["x86_64"] else []) ++ (if a.has 'o' then ["GNU/Linux"] else [])
    match a.operands with
    | [] => s.print (" ".intercalate parts ++ "\n")
    | extra :: _ => refuse s 1 ("extra operand " ++ inQuotes extra)

end Utility

end Testbench
