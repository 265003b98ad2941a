import Testbench.Shell.Descriptor
import Testbench.Shell.Program

/-!
# Arguments of utilities

Utilities take letters behind one hyphen and words behind two, in any order with their operands.

- `Utility.Flag`: a letter, a word of the same meaning, and whether an argument belongs to it.
- `Utility.Arguments`: what was chosen, and the operands.
- `Utility.Arguments.read`: arguments taken apart.
- `Utility.report`, `Utility.refuse`: what a utility says of a fault.
- `Utility.settled`: the end of a utility.

Part of the host that `Executor.host` follows; no result on runs depends on it.
-/

namespace Testbench

namespace Utility

open Shell Text

/-- Whether an argument belongs to a flag. -/
inductive Takes where
  | nothing
  | argument
  /-- Only one that stands in the same word. -/
  | attached
  deriving DecidableEq, Repr

/-- A letter, and a word of the same meaning. A flag without a letter has a letter that no argument
can hold. -/
structure Flag where
  letter : Char
  word : String := ""
  takes : Takes := .nothing
  deriving DecidableEq, Repr

/-- Flags for letters alone that take nothing. -/
def flags (letters : String) : List Flag := letters.toList.map fun c => { letter := c }

/-- Flags for letters alone that take an argument. -/
def valued (letters : String) : List Flag :=
  letters.toList.map fun c => { letter := c, takes := .argument }

/-- What was chosen, in order, and the operands. -/
structure Arguments where
  chosen : List (Char × Option Row) := []
  operands : List Row := []
  deriving Repr

namespace Arguments

/-- A letter was chosen. -/
def has (a : Arguments) (c : Char) : Bool := a.chosen.any (·.1 = c)

/-- The argument that belongs to the last choice of a letter. -/
def value? (a : Arguments) (c : Char) : Option Row :=
  ((a.chosen.filter (·.1 = c)).getLast?).bind Prod.snd

/-- The last of some letters that was chosen. -/
def last? (a : Arguments) (letters : String) : Option Char :=
  ((a.chosen.map Prod.fst).filter letters.toList.contains).getLast?

/-- One more choice. -/
def choose (a : Arguments) (c : Char) (v : Option Row) : Arguments :=
  { a with chosen := a.chosen ++ [(c, v)] }

/-- The flag of a word, which may be shortened as long as it stands for one flag only. -/
def flagOfWord (all : List Flag) (word : Row) : Except String Flag :=
  match all.find? (·.word = word) with
  | some f => .ok f
  | none =>
    match all.filter fun f => f.word ≠ "" && (f.word.take word.length).toString = word with
    | [] => .error ("unrecognized option '--" ++ word ++ "'")
    | [f] => .ok f
    | f :: fs =>
      if fs.all (·.letter = f.letter) then .ok f
      else
        .error ("option '--" ++ word ++ "' is ambiguous; possibilities:" ++
          String.join ((f :: fs).map fun g => " '--" ++ g.word ++ "'"))

/-- The letters of one argument, given the arguments behind it. -/
def readLetters (all : List Flag) : List Char → List Row → Arguments →
    Except String (Arguments × List Row)
  | [], rest, a => .ok (a, rest)
  | c :: cs, rest, a =>
    match all.find? (·.letter = c) with
    | none => .error ("invalid option -- '" ++ c.toString ++ "'")
    | some f =>
      match f.takes, cs, rest with
      | .nothing, _, _ => readLetters all cs rest (a.choose c none)
      | .attached, [], _ => .ok (a.choose c none, rest)
      | .argument, [], [] => .error ("option requires an argument -- '" ++ c.toString ++ "'")
      | .argument, [], v :: rest => .ok (a.choose c (some v), rest)
      | _, cs, _ => .ok (a.choose c (some (String.ofList cs)), rest)

/-- A word, given the arguments behind it. -/
def readWord (all : List Flag) (text : List Char) (rest : List Row) (a : Arguments) :
    Except String (Arguments × List Row) := do
  let word := String.ofList (text.takeWhile (· ≠ '='))
  let f ← flagOfWord all word
  match f.takes, text.drop word.length, rest with
  | .nothing, [], _ => return (a.choose f.letter none, rest)
  | .nothing, _, _ => throw ("option '--" ++ f.word ++ "' doesn't allow an argument")
  | _, _ :: v, _ => return (a.choose f.letter (some (String.ofList v)), rest)
  | .attached, [], _ => return (a.choose f.letter none, rest)
  | .argument, [], v :: rest => return (a.choose f.letter (some v), rest)
  | .argument, [], [] => throw ("option '--" ++ f.word ++ "' requires an argument")

/-- Arguments taken apart; `fuel` bounds their number. Operands end the flags if `strict`. -/
def readWithin (all : List Flag) (strict : Bool) : (fuel : Nat) → List Row → Arguments →
    Except String Arguments
  | 0, _, a => .ok a
  | _ + 1, [], a => .ok a
  | fuel + 1, arg :: rest, a =>
    match arg.toList with
    | ['-', '-'] => .ok { a with operands := a.operands ++ rest }
    | '-' :: '-' :: text =>
      match readWord all text rest a with
      | .error e => .error e
      | .ok (a, rest) => readWithin all strict fuel rest a
    | '-' :: c :: cs =>
      match readLetters all (c :: cs) rest a with
      | .error e => .error e
      | .ok (a, rest) => readWithin all strict fuel rest a
    | _ =>
      if strict then .ok { a with operands := a.operands ++ arg :: rest }
      else readWithin all strict fuel rest { a with operands := a.operands ++ [arg] }

/-- Arguments taken apart. -/
def read (all : List Flag) (args : List Row) : Except String Arguments :=
  readWithin all false (args.length + 1) args {}

/-- Arguments taken apart, where the first operand ends the flags. -/
def readStrict (all : List Flag) (args : List Row) : Except String Arguments :=
  readWithin all true (args.length + 1) args {}

end Arguments

/-! ## What utilities say -/

/-- A fault is told under the name of the utility. -/
def report (s : State) (message : String) : State := s.put 2 (s.self ++ ": " ++ message ++ "\n")

/-- A fault that the utility goes on after, but ends with a status. -/
def flaw (s : State) (message : String) : State := (report s message).withStatus 1

/-- Arguments that make no sense; help is offered. -/
def refuse (s : State) (status : Nat) (message : String) : State :=
  { (report s message).put 2 ("Try '" ++ s.self ++ " --help' for more information.\n") with
    status }

/-- A utility that takes its arguments apart; `status` is that of a fault in them. -/
def taking (all : List Flag) (status : Nat) (body : Arguments → State → State) (args : List Row)
    (s : State) : State :=
  match Arguments.read all args with
  | .error e => refuse s status e
  | .ok a => body a (s.withStatus 0)

/-- The end of a utility: output that was lost is told, and gives a status of its own. -/
def settled (status : Nat) (s : State) : State :=
  if s.muted then
    match s.tryPut 1 "\n" with
    | .error e => (report s ("write error: " ++ e.reason)).withStatus status
    | .ok _ => s
  else s

/-! ## Names in quotes -/

/-- A character that needs no quotes in a name. -/
def isTame (c : Char) : Bool :=
  c.isAlphanum || "%+,-./:@]_".toList.contains c

/-- A character that may stand in a name that is shown. -/
def isShown (c : Char) : Bool := 0x20 ≤ c.toNat && c.toNat < 0x7F

/-- An octet that is not shown, as three digits or by its letter. -/
def hiddenOctet (c : Char) : List Char :=
  match escapes.find? fun e => e.2 = c && e.1 ≠ '\\' with
  | some (letter, _) => ['\\', letter]
  | none => '\\' :: (State.octal 3 c.toNat).toList

/-- Characters between single quotes; those that are not shown stand in quotes of their own, in
which the text is if `apart`. -/
def quotedFrom : (apart : Bool) → List Char → List Char
  | _, [] => []
  | apart, c :: cs =>
    if !isShown c then
      (if apart then [] else "'$'".toList) ++ hiddenOctet c ++ quotedFrom true cs
    else if c = '\'' then "'\\''".toList ++ quotedFrom false cs
    else (if apart then "''".toList else []) ++ c :: quotedFrom false cs

/-- A name in quotes. -/
def inQuotes (name : Row) : Row :=
  let cs := name.toList
  if cs.contains '\'' && cs.all fun c => isTame c || c = ' ' || c = '\'' then "\"" ++ name ++ "\""
  else String.ofList ('\'' :: quotedFrom false cs ++ ['\''])

/-- A name in quotes where it needs them. -/
def named (name : Row) : Row :=
  let cs := name.toList
  let isFirst := fun c => c = '#' || c = '~'
  let wild := match cs with
    | c :: rest => (isFirst c) || !rest.all (fun c => isTame c || isFirst c || c = '\x7b' || c = '\x7d')
        || !(isTame c || (rest ≠ [] && (c = '\x7b' || c = '\x7d')))
    | [] => true
  if wild then inQuotes name else name

/-! ## Input -/

/-- All that a file holds; a hyphen stands for the input. -/
def contents (s : State) (path : Row) : Except FileError (Row × State) :=
  if path = "-" then s.readAll 0
  else do
    let (n, s) ← s.openPath { readable := true, writable := false } path
    let (r, w) ← s.toWorld.readAll n
    return (r, { s with toWorld := w })

/-- The lines of a row, each with its end if it has one. -/
def linesOf (r : Row) : List Row :=
  let cut := fun (acc : List (List Char) × List Char) (c : Char) =>
    if c = '\n' then ((c :: acc.2) :: acc.1, []) else (acc.1, c :: acc.2)
  let (done, current) := r.toList.foldl cut ([], [])
  let done := if current = [] then done else current :: done
  done.foldl (fun ls l => String.ofList l.reverse :: ls) []

/-- A line without its end. -/
def bareLine (l : Row) : Row :=
  if l.toList.getLast? = some '\n' then (l.dropEnd 1).toString else l

/-- The lines of a row without their ends. -/
def bareLines (r : Row) : List Row := (linesOf r).map bareLine

/-- Lines with an end each. -/
def joinLines (ls : List Row) : Row := String.join (ls.map (· ++ "\n"))

end Utility

end Testbench
