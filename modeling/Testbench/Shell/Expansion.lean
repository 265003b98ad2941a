import Testbench.Shell.Field
import Testbench.Shell.Glob
import Testbench.Shell.State

/-!
# Expansion of words

What a word stands for: values are put in, output of commands and sums as well; then the word is
cut into fields, and patterns are replaced by the names of files.

- `Shell.Capture`: how the output of commands is got, given from outside.
- `Shell.State.expand`: a word as parts that may be cut.
- `Shell.State.arguments`: the fields of some words.
- `Shell.State.textOf`, `Shell.State.patternOf`: a word that is not cut.

Part of the host that `Executor.host` follows; no result on runs depends on it.
-/

namespace Testbench

namespace Shell

open Text

/-- How the output of a command is got. -/
abbrev Capture := Option Command → State → Row × State

/-- How a word is expanded. -/
structure Setting where
  /-- It stands in quotes. -/
  quoted : Bool := false
  /-- It will be cut into fields. -/
  full : Bool := false
  /-- A tilde in front stands for a home directory. -/
  tilde : Bool := false
  /-- So does one behind a colon. -/
  assigning : Bool := false
  /-- Texts in it are cut like values. -/
  word : Bool := false
  deriving DecidableEq, Repr

namespace State

/-! ## Values -/

/-- The characters that part fields. -/
def parting (s : State) : List Char :=
  match s.get? "IFS" with
  | some v => v.toList
  | none => Cutting.usual

/-- The home directory of a user, or the one of the caller. -/
def home? (s : State) (user : String) : Option Row :=
  if user = "" then s.get? "HOME"
  else
    [("root", "/root"), ("daemon", "/usr/sbin"), ("bin", "/bin"), ("sys", "/dev"),
     ("nobody", "/nonexistent")].lookup user

/-- What a tilde in front of a text stands for, and what follows; `last` where nothing follows the
text. -/
def tilde? (s : State) (assigning last : Bool) (text : List Char) :
    Option (Row × List Char) :=
  match text with
  | '~' :: rest =>
    let isPart := fun c => c ≠ '/' && !(assigning && c = ':')
    let user := rest.takeWhile isPart
    let behind := rest.dropWhile isPart
    if behind = [] && !last then none
    else (s.home? (String.ofList user)).map (·, behind)
  | _ => none

/-- A text with what its tildes stand for; `front` where one may stand in front. The texts of home
directories are quoted. -/
def tildes (s : State) (assigning last quoted : Bool) : (fuel : Nat) → (front : Bool) →
    List Char → List Spot
  | 0, _, text => text.map (.cell · quoted)
  | fuel + 1, front, text =>
    match if front then s.tilde? assigning last text else none with
    | some (home, rest) =>
      Spot.ofText true home ++ tildes s assigning last quoted fuel false rest
    | none =>
      match text with
      | [] => []
      | c :: rest => .cell c quoted :: tildes s assigning last quoted fuel (assigning && c = ':') rest

/-- All parameters, with a character between them where they are not parted otherwise. -/
def allParameters (s : State) (setting : Setting) (each : Bool) : List Spot :=
  let gap :=
    if each && setting.quoted && setting.full then some '\x00'
    else match s.parting with
      | c :: _ => some c
      | [] => if setting.full && !setting.quoted then some '\x00' else none
  let text := gap.toList.map fun c => Spot.cell c setting.quoted
  text.intercalate (s.args.map (Spot.ofText setting.quoted))

/-- The value of a parameter as spots, if it has one. -/
def valueSpots? (s : State) (setting : Setting) (name : String) : Option (List Spot) :=
  if name = "@" ∨ name = "*" then some (s.allParameters setting (name = "@"))
  else (s.parameter? name).map (Spot.ofText setting.quoted)

/-- What of a value is left when one of its ends is cut off that matches a pattern. -/
def cutOff (atEnd longest : Bool) (ps : List Glyph) (value : List Spot) : List Spot :=
  let size := value.length
  let sizes := if longest then (List.range (size + 1)).reverse else List.range (size + 1)
  let text := fun (spots : List Spot) => (Spot.text spots).toList
  let hit := sizes.find? fun n =>
    isMatch ps (text (if atEnd then value.drop (size - n) else value.take n))
  match hit with
  | some n => if atEnd then value.take (size - n) else value.drop n
  | none => value

/-- How a variable is read and changed by a sum. -/
def sumMemory : Memory State where
  get s name :=
    match s.get? name with
    | none => .ok 0
    | some value =>
      let cs := value.toList.dropWhile isSpace
      let (negative, ds) := match cs with
        | '-' :: ds => (true, ds)
        | '+' :: ds => (false, ds)
        | ds => (false, ds)
      match numberAt ds with
      | some (n, rest) =>
        let n : Int := if negative then -n else n
        if rest.all isSpace && clamp n = n then .ok n else .error ("Illegal number: " ++ value)
      | none => if cs = [] then .ok 0 else .error ("Illegal number: " ++ value)
  set s name n := s.assign false name (toString n)

/-! ## Words -/

/-- A span that is cut at blanks unless it is quoted. -/
def spanOf (quoted : Bool) (spots : List Spot) : Span :=
  ⟨spots, if quoted then .nowhere else .atBlanks⟩

/-- What is said of a parameter without a value. -/
def missing (name : String) (orEmpty : Bool) : String :=
  name ++ ": parameter not set" ++ if orEmpty then " or null" else ""

/-- The value of a parameter as a part of a word. -/
def valueSpan (s : State) (setting : Setting) (name : String) (spots : List Spot) : List Span :=
  if setting.quoted then
    [⟨spots, if name = "@" && setting.full && s.args ≠ [] then .atGaps else .nowhere⟩]
  else [⟨spots, .atBlanks⟩]

/-- The use of a value in a word; `inner` expands the word that belongs to it. -/
def expandValue (inner : Setting → State → List Span × State) (setting : Setting) (name : String)
    (use : Use) (isBare : Bool) (s : State) : List Span × State :=
  let whole := fun (s : State) => match s.valueSpots? setting name with
    | some v => (s.valueSpan setting name v, s)
    | none => ([], s)
  let value := s.valueSpots? setting name
  let present := fun (orEmpty : Bool) => value.any fun v => !(orEmpty && v = [])
  let inWord : Setting := { setting with tilde := true, word := true }
  let alone : Setting := { tilde := true }
  let unset := value.isNone && s.has 'u'
  match use with
  | .unknown => ([], s.fail "Bad substitution")
  | .fallback e => if present e then whole s else inner inWord s
  | .instead e => if present e then inner inWord s else ([], s)
  | .assign e =>
    if present e then whole s
    else
      let (spans, s) := inner alone s
      if !s.isRunning then ([], s)
      else if !isName name then ([], s.fail (name ++ ": bad variable name"))
      else
        let s := s.set name (textOfSpans spans)
        if s.isRunning then
          match s.valueSpots? setting name with
          | some v => (s.valueSpan setting name v, s)
          | none => ([], s)
        else ([], s)
  | .require e =>
    if present e then whole s
    else
      let (spans, s) := inner alone s
      if !s.isRunning then ([], s)
      else if isBare then ([], s.fail (missing name e))
      else ([], s.fail (name ++ ": " ++ textOfSpans spans))
  | .plain => if unset then ([], s.fail (missing name false)) else whole s
  | .length =>
    if unset then ([], s.fail (missing name false))
    else
      let n : Nat := (value.getD []).length
      ([spanOf setting.quoted (Spot.ofText setting.quoted (toString n))], s)
  | .cut atEnd longest =>
    match value with
    | none => if unset then ([], s.fail (missing name false)) else ([], s)
    | some v =>
      let (spans, s) := inner alone s
      if s.isRunning then
        (s.valueSpan setting name (cutOff atEnd longest (glyphs (cellsOfSpans spans)) v), s)
      else ([], s)

/-- The value of a sum, whose text was expanded. -/
def expandSum (quoted : Bool) (spans : List Span) (s : State) : List Span × State :=
  match evaluate sumMemory (textOfSpans spans) s with
  | .error message => ([], s.fail message)
  | .ok (n, s) => ([spanOf quoted (Spot.ofText quoted (toString n))], s)

/-- What a command has put out, without the line ends behind it. -/
def expandOutput (quoted : Bool) (text : Row) : List Span :=
  let text := text.toList.filter (· ≠ '\x00')
  let text := (text.reverse.dropWhile (· = '\n')).reverse
  [spanOf quoted (text.map (Spot.cell · quoted))]

/-- A text in a word; `last` where nothing follows it. -/
def expandText (setting : Setting) (quoted front last : Bool) (text : List Char) (s : State) :
    Span :=
  let front := front && setting.tilde && !quoted
  let spots :=
    if quoted || !(front || setting.assigning) then text.map (Spot.cell · quoted)
    else s.tildes setting.assigning last quoted (text.length + 1) front text
  ⟨spots, if setting.word && !quoted then .atBlanks else .nowhere⟩

/-- Some pieces of a word. `inner` where they stand in quotes, and `front` where a tilde may stand
in front. -/
def expandPieces (x : Capture) (setting : Setting) : (inner front : Bool) → List Piece → State →
    List Span × State
  | _, _, [], s => ([], s)
  | inner, front, piece :: pieces, s =>
    let quoted := setting.quoted || inner
    let inside := { setting with quoted, tilde := false, word := false }
    -- the spans of the piece, and what holds behind it
    let (spans, toggled, front, s) : List Span × Bool × Bool × State :=
      match piece with
      | .plain text =>
        let cs := text.toList
        ([s.expandText setting quoted front pieces.isEmpty cs], false,
          setting.assigning && cs.getLast? = some ':', s)
      | .escaped c => ([⟨[.cell c true], .nowhere⟩], false, false, s)
      | .quote => ([⟨[.mark], .nowhere⟩], true, false, s)
      | .parameters =>
        let inside := { inside with quoted := true }
        (s.valueSpan inside "@" (s.allParameters inside true), false, false, s)
      | .value name use word =>
        let (spans, s) := s.expandValue (fun st s => expandPieces x st false true word s) inside
          name use word.isEmpty
        (spans, false, false, s)
      | .output body =>
        let (text, s) := x body s
        (expandOutput quoted text, false, false, s)
      | .sum expression =>
        let (spans, s) := expandPieces x {} false false expression s
        if s.isRunning then
          let (spans, s) := s.expandSum quoted spans
          (spans, false, false, s)
        else ([], false, false, s)
    if s.isRunning then
      let (more, s) := expandPieces x setting (inner != toggled) front pieces s
      (spans ++ more, s)
    else ([], s)

/-- A word as parts that may be cut. -/
def expand (s : State) (x : Capture) (setting : Setting) (w : Word) : List Span × State :=
  expandPieces x setting false true w s

/-! ## Results -/

/-- A field, or the files that it is a pattern of. -/
def filesOf (s : State) (field : List Spot) : List Row :=
  let cells := Spot.cells field
  let plain := [String.ofList (cells.map Prod.fst)]
  if s.has 'f' || !cells.any (fun c => "*?[".toList.contains c.1) then plain
  else match filesLike s.tree cells with
    | [] => plain
    | paths => paths

/-- The fields of a word. -/
def fieldsOf (s : State) (x : Capture) (w : Word) : List Row × State :=
  let (spans, s) := s.expand x { full := true, tilde := true } w
  if s.isRunning then ((fields s.parting spans).flatMap s.filesOf, s) else ([], s)

/-- The fields of some words, one word after the other. -/
def arguments (s : State) (x : Capture) (ws : List Word) : List Row × State :=
  ws.foldl (fun (done, s) w =>
    if s.isRunning then
      let (more, s) := s.fieldsOf x w
      (done ++ more, s)
    else (done, s)) ([], s)

/-- The text of a word that is not cut. -/
def textOf (s : State) (x : Capture) (setting : Setting) (w : Word) : Row × State :=
  let (spans, s) := s.expand x setting w
  (textOfSpans spans, s)

/-- The pattern that a word stands for. -/
def patternOf (s : State) (x : Capture) (w : Word) : List Glyph × State :=
  let (spans, s) := s.expand x { tilde := true } w
  (glyphs (cellsOfSpans spans), s)

end State

end Shell

end Testbench
