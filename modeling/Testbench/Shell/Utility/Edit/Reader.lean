import Testbench.Shell.Utility.Edit
import Testbench.Shell.Utility.Regex.Reader

/-!
# Edits read

Steps are named by single letters; in front of them stand the lines that they are for, behind them
what belongs to them.

- `Utility.EditFault`: why a text spells no steps, and how much of it was read.
- `Utility.readAddress`, `Utility.readSelection`: the lines that a step is for.
- `Utility.readVerb`: what a step does.
- `Utility.editsOf`: the steps that a text spells.

Part of the host that `Executor.host` follows; no result on runs depends on it.
-/

namespace Testbench

namespace Utility

open Shell Text

/-- Why a text spells no steps, and what is left of it; nothing where the place does not count. -/
structure EditFault where
  message : String
  rest : Option (List Char)
  deriving Repr

/-- What is read of a text, with what follows. -/
abbrev Reading (α : Type) := Except EditFault (α × List Char)

/-- A fault in front of what is left. -/
def faultAt {α : Type} (message : String) (rest : List Char) : Except EditFault α :=
  .error ⟨message, some rest⟩

/-- A text without the blanks in front of it. -/
def skipBlanks (cs : List Char) : List Char := cs.dropWhile fun c => isSpace c && c ≠ '\n'

/-- A number in front of a text, and what follows. -/
def numberAt (cs : List Char) : Nat × List Char :=
  let ds := cs.takeWhile Text.isAsciiDigit
  (Text.numberOfDigits ds, cs.drop ds.length)

/-! ## Texts between marks -/

/-- A text up to a mark, or where it broke off. A mark behind a backslash stands for itself. -/
def delimited (mark : Char) (isRegex : Bool) : List Char → List Char × Option (List Char)
  | [] => ([], none)
  | '\n' :: cs => ('\n' :: cs, none)
  | '\\' :: c :: cs =>
    if c = mark && mark ≠ '\\' then
      let (front, rest) := delimited mark isRegex cs
      if rest.isNone then (front, none)
      else (if !isRegex && c = '&' then '\\' :: c :: front else c :: front, rest)
    else
      let (front, rest) := delimited mark isRegex cs
      if rest.isNone then (front, none)
      else if c = 'n' && isRegex then ('\n' :: front, rest)
      else if c = '\n' then (if isRegex then '\n' :: front else '\\' :: '\n' :: front, rest)
      else ('\\' :: c :: front, rest)
  | c :: cs =>
    if c = mark then ([], some cs)
    else
      let (front, rest) := delimited mark isRegex cs
      if rest.isNone then (front, none) else (c :: front, rest)

/-- The octet of an escape that is the same in all texts, and what follows; the text starts behind
the backslash. -/
def commonEscape? : List Char → Option (Char × List Char)
  | 'a' :: cs => some ('\x07', cs)
  | 'f' :: cs => some ('\x0c', cs)
  | 't' :: cs => some ('\t', cs)
  | 'v' :: cs => some ('\x0b', cs)
  | 'r' :: cs => some ('\r', cs)
  | 'x' :: cs => number 16 2 cs
  | 'o' :: cs => number 8 3 cs
  | 'd' :: cs => number 10 3 cs
  | _ => none
where
  /-- The octet of some digits. -/
  number (base limit : Nat) (cs : List Char) : Option (Char × List Char) :=
    let ds := (cs.takeWhile fun c => (digit? base c).isSome).take limit
    if ds = [] then none
    else
      let n := ds.foldl (fun n c => base * n + (digit? base c).getD 0) 0
      some (Char.ofNat (n % 256), cs.drop ds.length)

/-- An expression in which the common escapes are resolved; `fuel` bounds its length. -/
def plainRegex : (fuel : Nat) → List Char → List Char
  | 0, cs => cs
  | _ + 1, [] => []
  | fuel + 1, '\\' :: cs =>
    match commonEscape? cs with
    | some (c, rest) =>
      (if ".*[]^$\\/+?()\x7b\x7d|".toList.contains c then ['\\', c] else [c]) ++ plainRegex fuel rest
    | none =>
      match cs with
      | c :: rest => '\\' :: c :: plainRegex fuel rest
      | [] => ['\\']
  | fuel + 1, c :: cs => c :: plainRegex fuel cs

/-- The expression of a text with flags behind it; none for the one that was used last. -/
def regexOf (extended : Bool) (text : List Char) (fold lines : Bool) (rest : List Char) :
    Except EditFault (Option (Regex × Nat)) :=
  if text = [] then .ok none
  else match Regex.ofText ⟨extended, extended⟩ (String.ofList (plainRegex (text.length + 1) text)) with
    | .error e => faultAt e rest
    | .ok (r, n) =>
      let r := if fold then r.folded else r
      .ok (some (if lines then r.byLine else r, n))

/-! ## Lines -/

/-- The flags behind an expression of an address: whether case counts not, and whether lines
do. -/
def addressFlags : List Char → Bool × Bool × List Char
  | 'I' :: cs =>
    let (_, m, rest) := addressFlags cs
    (true, m, rest)
  | 'M' :: cs =>
    let (i, _, rest) := addressFlags cs
    (i, true, rest)
  | cs => (false, false, cs)

/-- An address in front of a text, if there is one. -/
def readAddress (extended : Bool) (cs : List Char) : Reading (Option Address) :=
  let regex : Char → List Char → Except EditFault (Option Address × List Char) := fun mark cs =>
    match delimited mark true cs with
    | (rest, none) => faultAt "unterminated address regex" (rest.dropWhile (· ≠ '\n'))
    | (text, some rest) => do
      let (fold, lines, rest) := addressFlags rest
      let r ← regexOf extended text fold lines rest
      return (some (.holds (r.map Prod.fst)), rest)
  match cs with
  | '/' :: cs => regex '/' cs
  | '\\' :: mark :: cs => regex mark cs
  | '$' :: cs => .ok (some .last, cs)
  | c :: _ =>
    if Text.isAsciiDigit c then
      let (n, rest) := numberAt cs
      match skipBlanks rest with
      | '~' :: more =>
        let (step, rest) := numberAt (skipBlanks more)
        .ok (some (.every n step), rest)
      | _ => .ok (some (.line n), rest)
    else .ok (none, cs)
  | [] => .ok (none, cs)

/-- The lines that a step is for, and whether it is for all others. -/
def readSelection (extended : Bool) (cs : List Char) :
    Except EditFault ((Selection × Bool) × List Char) := do
  let (first, rest) ← readAddress extended cs
  let (selection, rest) : Selection × List Char ← match first, skipBlanks rest with
    | none, ',' :: rest => faultAt "unexpected \x60,'" rest
    | none, rest => pure (.all, rest)
    | some a, ',' :: rest =>
      match skipBlanks rest with
      | '+' :: rest =>
        let (n, rest) := numberAt rest
        pure (.range a (.behind n), rest)
      | '~' :: rest =>
        let (n, rest) := numberAt rest
        pure (.range a (.multiple n), rest)
      | rest =>
        let (stop, rest') ← readAddress extended rest
        match stop with
        | none => faultAt "unexpected \x60,'" (rest.drop 1)
        | some b => pure (.range a (.place b), rest')
    | some a, rest => pure (.one a, rest)
  match selection with
  | .one (.line 0) => faultAt "invalid usage of line address 0" (rest.drop 1)
  | _ =>
    let rest := skipBlanks rest
    let rest' := rest.dropWhile fun c => c = '!' || (isSpace c && c ≠ '\n')
    return ((selection, rest.head? = some '!'), if rest.head? = some '!' then rest' else rest)

/-! ## What belongs to steps -/

/-- The end of a step: what follows it. -/
def endOfStep (fault : String) (cs : List Char) : Except EditFault (List Char) :=
  match skipBlanks cs with
  | [] => .ok []
  | '\n' :: rest => .ok rest
  | ';' :: rest => .ok rest
  | '\x7d' :: rest => .ok ('\x7d' :: rest)
  | '#' :: rest => .ok ('#' :: rest)
  | _ :: rest => faultAt fault rest

/-- A step that nothing belongs to. -/
def alone (v : Verb) (cs : List Char) : Reading Verb :=
  (endOfStep "extra characters after command" cs).map (v, ·)

/-- The parts of a replacement; `fuel` bounds its length. -/
def partsOf : (fuel : Nat) → List Char → List Part
  | 0, _ => []
  | _ + 1, [] => []
  | fuel + 1, '&' :: cs => .group 0 :: partsOf fuel cs
  | fuel + 1, '\\' :: cs =>
    match commonEscape? cs with
    | some (c, rest) => .text (String.ofList [c]) :: partsOf fuel rest
    | none =>
      match cs with
      | [] => [.text "\\"]
      | c :: rest =>
        if Text.isAsciiDigit c then .group (c.toNat - 48) :: partsOf fuel rest
        else if "ULEul".toList.contains c then .casing c :: partsOf fuel rest
        else if c = 'n' then .text "\n" :: partsOf fuel rest
        else .text (String.ofList [c]) :: partsOf fuel rest
  | fuel + 1, c :: cs => .text (String.ofList [c]) :: partsOf fuel cs

/-- The flags of a replacement. -/
structure SubFlags where
  all : Bool := false
  print : Bool := false
  fold : Bool := false
  lines : Bool := false
  nth : Option Nat := none
  file : Option Row := none

/-- The flags of a replacement, and what follows its step; `fuel` bounds their number. -/
def subFlags : (fuel : Nat) → SubFlags → List Char → Reading SubFlags
  | 0, f, cs => .ok (f, cs)
  | _ + 1, f, [] => .ok (f, [])
  | fuel + 1, f, c :: cs =>
    if c = 'g' then
      if f.all then faultAt "multiple \x60g' options to \x60s' command" cs
      else subFlags fuel { f with all := true } cs
    else if c = 'p' then
      if f.print then faultAt "multiple \x60p' options to \x60s' command" cs
      else subFlags fuel { f with print := true } cs
    else if c = 'i' ∨ c = 'I' then subFlags fuel { f with fold := true } cs
    else if c = 'm' ∨ c = 'M' then subFlags fuel { f with lines := true } cs
    else if c = 'e' then subFlags fuel f cs
    else if Text.isAsciiDigit c then
      if f.nth.isSome then faultAt "multiple number options to \x60s' command" cs
      else
        let (n, rest) := numberAt (c :: cs)
        if n = 0 then faultAt "number option to \x60s' command may not be zero" rest
        else subFlags fuel { f with nth := some n } rest
    else if c = 'w' then
      let name := (skipBlanks cs).takeWhile (· ≠ '\n')
      if name = [] then faultAt "missing filename in r/R/w/W commands" cs
      else .ok ({ f with file := some (String.ofList name) }, (skipBlanks cs).drop (name.length + 1))
    else if c = '\x7d' ∨ c = '#' then .ok (f, c :: cs)
    else if c = '\n' ∨ c = ';' then .ok (f, cs)
    else if isSpace c then subFlags fuel f cs
    else faultAt "unknown option to \x60s'" cs

/-- A replacement; the text starts behind its letter. -/
def readSubstitute (extended : Bool) (cs : List Char) : Except EditFault (Verb × List Char) :=
  let broken : List Char → Except EditFault (Verb × List Char) := fun rest =>
    faultAt "unterminated \x60s' command" (rest.dropWhile (· ≠ '\n'))
  match cs with
  | [] => broken []
  | mark :: cs =>
    match delimited mark true cs with
    | (rest, none) => broken rest
    | (pattern, some rest) =>
      match delimited mark false rest with
      | (rest, none) => broken rest
      | (new, some rest) => do
        let (f, rest) ← subFlags (rest.length + 1) {} rest
        let r ← regexOf extended pattern f.fold f.lines rest
        let parts := partsOf (new.length + 1) new
        let most := parts.foldl (fun n p => match p with
          | .group k => max n k
          | _ => n) 0
        match r with
        | some (_, n) =>
          if n < most then
            faultAt ("invalid reference \\" ++ toString most ++ " on \x60s' command's RHS") rest
          else pure ()
        | none => pure ()
        return (.substitute (r.map Prod.fst) parts (f.nth.getD 1) f.all f.print f.file, rest)

/-- The characters of a text in which backslashes are resolved. -/
def exchangeChars : List Char → List Char
  | '\\' :: 'n' :: cs => '\n' :: exchangeChars cs
  | '\\' :: '\\' :: cs => '\\' :: exchangeChars cs
  | '\\' :: 't' :: cs => '\t' :: exchangeChars cs
  | '\\' :: 'r' :: cs => '\r' :: exchangeChars cs
  | '\\' :: '\n' :: cs => '\n' :: exchangeChars cs
  | c :: cs => c :: exchangeChars cs
  | [] => []

/-- An exchange of characters; the text starts behind its letter. -/
def readExchange (cs : List Char) : Reading Verb :=
  let broken : List Char → Except EditFault (Verb × List Char) := fun rest =>
    faultAt "unterminated \x60y' command" (rest.dropWhile (· ≠ '\n'))
  match cs with
  | [] => broken []
  | mark :: cs =>
    match delimited mark false cs with
    | (rest, none) => broken rest
    | (a, some rest) =>
      match delimited mark false rest with
      | (rest, none) => broken rest
      | (b, some rest) =>
        let a := exchangeChars a
        let b := exchangeChars b
        if a.length ≠ b.length then
          faultAt "strings for \x60y' command are different lengths" rest
        else alone (.exchange (a.zip b)) rest

/-- A text of lines up to one that no backslash ends; backslashes are resolved. -/
def linesOfText : List Char → List Char × List Char
  | [] => ([], [])
  | '\n' :: cs => ([], cs)
  | '\\' :: [] => ([], [])
  | '\\' :: c :: cs =>
    let (front, rest) := linesOfText cs
    (c :: front, rest)
  | c :: cs =>
    let (front, rest) := linesOfText cs
    (c :: front, rest)

/-- The text that belongs to a step; the text starts behind its letter. -/
def readText (cs : List Char) : Reading Row :=
  let finish := fun (cs : List Char) =>
    let (text, rest) := linesOfText cs
    (.ok (String.ofList text ++ "\n", rest) : Reading Row)
  match skipBlanks cs with
  | [] => faultAt "expected \\ after \x60a', \x60c' or \x60i'" []
  | '\\' :: cs =>
    match skipBlanks cs with
    | '\n' :: cs => if cs = [] then faultAt "incomplete command" [] else finish cs
    | [] => faultAt "incomplete command" []
    | cs => finish cs
  | '\n' :: rest => faultAt "expected \\ after \x60a', \x60c' or \x60i'" rest
  | cs => finish cs

/-- The name of a file up to the end of the line. -/
def readName (cs : List Char) : Reading Row :=
  let cs := skipBlanks cs
  let name := cs.takeWhile (· ≠ '\n')
  if name = [] then faultAt "missing filename in r/R/w/W commands" cs
  else .ok (String.ofList name, cs.drop (name.length + 1))

/-! ## Steps -/

/-- A step as it was read: jumps go to labels, blocks have no end yet. -/
inductive Raw where
  | step (e : Edit)
  | opening (selection : Selection) (negated : Bool)
  | closing
  | label (name : Row)
  | jump (selection : Selection) (negated : Bool) (replaced : Option Bool) (target : Row)

/-- A label up to a blank or a semicolon, and what follows. -/
def readLabel (cs : List Char) : Row × List Char :=
  let cs := skipBlanks cs
  let name := cs.takeWhile fun c => !isSpace c && c ≠ ';'
  (String.ofList name, cs.drop name.length)

/-- What a step does whose letter is read already. -/
def readVerb (extended : Bool) (c : Char) (cs : List Char) : Reading Verb :=
  match c with
  | 's' => readSubstitute extended cs
  | 'y' => readExchange cs
  | 'd' => alone .delete cs
  | 'D' => alone .deleteFirst cs
  | 'p' => alone .print cs
  | 'P' => alone .printFirst cs
  | 'n' => alone .next cs
  | 'N' => alone .nextAppend cs
  | 'h' => alone (.hold false) cs
  | 'H' => alone (.hold true) cs
  | 'g' => alone (.fetch false) cs
  | 'G' => alone (.fetch true) cs
  | 'x' => alone .swap cs
  | 'z' => alone .clear cs
  | '=' => alone .number cs
  | 'F' => alone (.insert "-\n") cs
  | 'a' => (readText cs).map fun (t, rest) => (.append t, rest)
  | 'i' => (readText cs).map fun (t, rest) => (.insert t, rest)
  | 'c' => (readText cs).map fun (t, rest) => (.change t, rest)
  | 'r' => (readName cs).map fun (t, rest) => (.readFile t, rest)
  | 'w' => (readName cs).map fun (t, rest) => (.writeFile t, rest)
  | 'l' =>
    let (n, rest) := numberAt (skipBlanks cs)
    let isGiven := (skipBlanks cs).head?.any Text.isAsciiDigit
    alone (.list (if isGiven then n else 70)) rest
  | 'q' =>
    let (n, rest) := numberAt (skipBlanks cs)
    alone (.quit n false) rest
  | 'Q' =>
    let (n, rest) := numberAt (skipBlanks cs)
    alone (.quit n true) rest
  | c => faultAt ("unknown command: \x60" ++ c.toString ++ "'") cs

/-- The steps of a text; `fuel` bounds its length. -/
def readSteps (extended : Bool) : (fuel : Nat) → (depth : Nat) → List Char →
    Except EditFault (List Raw)
  | 0, _, _ => .ok []
  | fuel + 1, depth, cs =>
    let cs := cs.dropWhile fun c => isSpace c || c = ';'
    match cs with
    | [] => if depth = 0 then .ok [] else .error ⟨"unmatched \x60\x7b'", some []⟩
    | '#' :: cs => readSteps extended fuel depth (cs.dropWhile (· ≠ '\n'))
    | _ => do
      let ((selection, negated), rest) ← readSelection extended cs
      let two := match selection with
        | .range _ _ => true
        | _ => false
      let isAll := match selection with
        | .all => true
        | _ => false
      match rest with
      | [] => faultAt "missing command" []
      | '\n' :: rest => faultAt "missing command" rest
      | '#' :: rest => faultAt "comments don't accept any addresses" rest
      | ':' :: rest =>
        if !isAll then faultAt ": doesn't want any addresses" rest
        else
          let (name, rest) := readLabel rest
          if name = "" then faultAt "\":\" lacks a label" rest
          else (readSteps extended fuel depth rest).map (.label name :: ·)
      | '\x7b' :: rest =>
        (readSteps extended fuel (depth + 1) rest).map (.opening selection negated :: ·)
      | '\x7d' :: rest =>
        if depth = 0 then faultAt "unexpected \x60\x7d'" rest
        else if !isAll then faultAt "\x7d doesn't want any addresses" rest
        else
          let rest ← endOfStep "extra characters after command" rest
          (readSteps extended fuel (depth - 1) rest).map (.closing :: ·)
      | c :: rest =>
        if two && (c = 'q' || c = 'Q') then faultAt "command only uses one address" rest
        else if c = 'b' ∨ c = 't' ∨ c = 'T' then
          let (name, rest) := readLabel rest
          -- a closing brace may stand behind a label at once
          let cut := name.toList.takeWhile (· ≠ '\x7d')
          let rest := name.toList.drop cut.length ++ rest
          let rest ← endOfStep "extra characters after command" rest
          let wanted : Option Bool := if c = 'b' then none else some (c = 't')
          (readSteps extended fuel depth rest).map
            (.jump selection negated wanted (String.ofList cut) :: ·)
        else
          let (verb, rest) ← readVerb extended c rest
          (readSteps extended fuel depth rest).map (.step ⟨selection, negated, verb⟩ :: ·)

/-- The number of the step behind the block that begins in front of some steps. -/
def blockEnd : (depth index : Nat) → List Raw → Nat
  | _, index, [] => index
  | depth, index, r :: rs =>
    match r with
    | .opening _ _ => blockEnd (depth + 1) (index + 1) rs
    | .closing => if depth = 0 then index + 1 else blockEnd (depth - 1) (index + 1) rs
    | _ => blockEnd depth (index + 1) rs

/-- The steps with the ends of blocks and the numbers of labels in place. -/
def settle (all : List Raw) : (index : Nat) → List Raw → Except EditFault (List Edit)
  | _, [] => .ok []
  | index, r :: rs => do
    let e : Edit ← match r with
      | .step e => pure e
      | .opening selection negated =>
        pure ⟨selection, negated, .block (blockEnd 0 (index + 1) rs)⟩
      | .closing => pure ⟨.all, false, .nothing⟩
      | .label _ => pure ⟨.all, false, .nothing⟩
      | .jump selection negated wanted target =>
        let isTarget := fun (r : Raw) => match r with
          | .label n => n = target
          | _ => false
        if target = "" then pure ⟨selection, negated, .jump wanted all.length⟩
        else match all.findIdx? isTarget with
          | some i => pure ⟨selection, negated, .jump wanted i⟩
          | none => .error ⟨"can't find label for jump to \x60" ++ target ++ "'", none⟩
    return e :: (← settle all (index + 1) rs)

/-- The steps that a text spells. -/
def editsOf (extended : Bool) (text : Row) : Except EditFault (List Edit) := do
  let raw ← readSteps extended (2 * text.length + 2) 0 text.toList
  settle raw 0 raw

end Utility

end Testbench
