import Testbench.Shell.Choices
import Testbench.Shell.Slot
import Testbench.Shell.State

/-!
# Printing

What the two printing commands of the shell put out.

- `Shell.escapeAt`: the octet that an escape names.
- `Shell.unescape`: a text with its escapes resolved.
- `Shell.echo`: arguments in one line.
- `Shell.State.printf`: arguments laid out by a format, which is used again while arguments are
  left.

Part of the host that `Executor.host` follows; no result on runs depends on it.
-/

namespace Testbench

namespace Shell

open Text

/-- An octal digit. -/
def isOctal (c : Char) : Bool := '0' ≤ c && c ≤ '7'

/-- The value of octal digits, in one octet. -/
def octalValue (ds : List Char) : Char :=
  Char.ofNat ((ds.foldl (fun n c => 8 * n + digitValue c) 0) % 256)

/-- Letters behind a backslash, and the octets that they name. -/
def escapes : List (Char × Char) :=
  [('a', '\x07'), ('b', '\x08'), ('f', '\x0c'), ('n', '\n'), ('r', '\x0d'), ('t', '\t'),
   ('v', '\x0b'), ('\\', '\\')]

/-- The octet that an escape names, and what follows it; the text starts behind the backslash. A
backslash in front of anything else stands for itself. -/
def escapeAt : List Char → Char × List Char
  | [] => ('\\', [])
  | c :: s =>
    match escapes.lookup c with
    | some o => (o, s)
    | none =>
      if isOctal c then
        let ds := ((c :: s).takeWhile isOctal).take 3
        (octalValue ds, (c :: s).drop ds.length)
      else if c = 'e' then ('\x1b', s)
      else ('\\', c :: s)

/-- A text with escapes resolved, and whether an escape ended all output. An octal number may have
a further zero in front. -/
def unescape : (fuel : Nat) → List Char → List Char × Bool
  | 0, _ => ([], false)
  | _ + 1, [] => ([], false)
  | fuel + 1, c :: s =>
    if c = '\\' then
      match s with
      | 'c' :: _ => ([], true)
      | s =>
        let s := match s with
          | '0' :: d :: rest => if isOctal d then d :: rest else s
          | s => s
        let (o, rest) := escapeAt s
        let (os, stop) := unescape fuel rest
        (o :: os, stop)
    else
      let (os, stop) := unescape fuel s
      (c :: os, stop)

/-- A row with escapes resolved, and whether an escape ended all output. -/
def resolved (r : Row) : Row × Bool :=
  if r.toList.contains '\\' then
    let (os, stop) := unescape (r.length + 1) r.toList
    (String.ofList os, stop)
  else (r, false)

/-- The arguments with blanks between them and a line end behind them; a first argument `-n`
leaves the line end out. -/
def echo (args : List Row) : Row :=
  let (args, tail) := match args with
    | "-n" :: rest => (rest, "")
    | args => (args, "\n")
  match resolved (" ".intercalate args) with
  | (r, true) => r
  | (r, false) => r ++ tail

/-! ## Arguments laid out by a format -/

/-- A slot that was read behind a percent sign: what was read, and how width and precision are
given, which may be by arguments. -/
structure SlotAt where
  text : List Char
  flags : List Char
  /-- The digits of the width, or nothing if an argument gives it. -/
  width : Option (List Char)
  precision : Option (Option (List Char))
  rest : List Char

/-- The slot behind a percent sign, up to its letter. -/
def slotAt (s : List Char) : SlotAt :=
  let isFlag := fun c => c == '-' || c == '0' || c == '+' || c == ' ' || c == '#'
  let flags := s.takeWhile isFlag
  let behind := s.dropWhile isFlag
  let (width, behind) := match behind with
    | '*' :: rest => (none, rest)
    | rest => (some (rest.takeWhile isAsciiDigit), rest.dropWhile isAsciiDigit)
  let (precision, behind) := match behind with
    | '.' :: '*' :: rest => (some none, rest)
    | '.' :: rest => (some (some (rest.takeWhile isAsciiDigit)), rest.dropWhile isAsciiDigit)
    | rest => (none, rest)
  ⟨s.take (s.length - behind.length), flags, width, precision, behind⟩

/-- Output that is being laid out: what is left to lay out, and what was said of it. -/
structure Layout where
  args : List Row
  /-- The rows put out so far, the last one first. -/
  rows : List Row := []
  state : State
  /-- Nothing more is put out. -/
  ended : Bool := false
  /-- An argument was no number. -/
  flawed : Bool := false

namespace Layout

/-- One more row. -/
def put (y : Layout) (r : Row) : Layout := { y with rows := r :: y.rows }

/-- The next argument, the empty one if there is none. -/
def next (y : Layout) : Option Row × Layout := (y.args.head?, { y with args := y.args.drop 1 })

/-- What is said of an argument. -/
def note (y : Layout) (arg : Row) : Option Flaw → Layout
  | none => y
  | some f =>
    let words := match f with
      | .noNumber => "expected numeric value"
      | .leftover => "not completely converted"
      | .outside => "Numerical result out of range"
    { y with state := y.state.complain (arg ++ ": " ++ words), flawed := true }

/-- The next argument as a number; `0` if there is none. -/
def number {α : Type} (y : Layout) (read : Row → α × Option Flaw) : α × Layout :=
  match y.next with
  | (some arg, y) =>
    let (n, flaw) := read arg
    (n, y.note arg flaw)
  | (none, y) => ((read "0").1, y)

/-- The slot, with its width and precision. -/
def slot (y : Layout) (at' : SlotAt) : Slot × Layout :=
  let slot := at'.flags.foldl Slot.withFlag {}
  let (slot, y) := match at'.width with
    | some ds => ({ slot with width := numberOfDigits ds }, y)
    | none =>
      let (n, y) := y.number signedOf
      (slot.withWidth n, y)
  match at'.precision with
  | none => (slot, y)
  | some (some ds) => ({ slot with precision := some (numberOfDigits ds) }, y)
  | some none =>
    let (n, y) := y.number signedOf
    (slot.withPrecision n, y)

/-- A fault of the format ends all output. -/
def broken (y : Layout) (message : String) : Layout :=
  { y with state := (y.state.print (String.join y.rows.reverse)).fail message, rows := []
           ended := true }

/-- A slot is filled; its letter and the slot as it stands in the format are given. -/
def fill (y : Layout) (slot : Slot) (kind : Char) (whole : String) : Layout :=
  if kind = 's' then
    let (arg, y) := y.next
    y.put (slot.text (arg.getD ""))
  else if kind = 'b' then
    let (arg, y) := y.next
    let (r, stop) := resolved (arg.getD "")
    { y.put (slot.text r) with ended := stop }
  else if kind = 'c' then
    let (arg, y) := y.next
    let arg := arg.getD ""
    y.put (slot.char (if arg = "" then "\x00" else arg))
  else if kind = 'd' ∨ kind = 'i' then
    let (n, y) := y.number signedOf
    y.put (slot.integer n)
  else if "ouxX".toList.contains kind then
    let (n, y) := y.number unsignedOf
    y.put (slot.natural kind n)
  else if "eEfFgGaA".toList.contains kind then
    let ((negative, q), y) := y.number (floatOf .double)
    y.put (slot.float .double kind negative q)
  else y.broken (whole ++ ": invalid directive")

/-- One use of a format; `fuel` bounds its length. -/
def use : (fuel : Nat) → List Char → Layout → Layout
  | 0, _, y => y
  | _ + 1, [], y => y
  | fuel + 1, '\\' :: s, y =>
    let (o, s) := escapeAt s
    use fuel s (y.put o.toString)
  | fuel + 1, '%' :: '%' :: s, y => use fuel s (y.put "%")
  | fuel + 1, '%' :: s, y =>
    let at' := slotAt s
    let (slot, y) := y.slot at'
    match at'.rest with
    | [] => y.broken "missing format character"
    | kind :: rest =>
      let y := y.fill slot kind (String.ofList ('%' :: at'.text ++ [kind]))
      if y.ended then y else use fuel rest y
  | fuel + 1, s, y =>
    let isText := fun c => c ≠ '\\' && c ≠ '%'
    use fuel (s.dropWhile isText) (y.put (String.ofList (s.takeWhile isText)))

/-- A format is used again while arguments are left and it takes some. -/
def useAll (format : List Char) : (fuel : Nat) → Layout → Layout
  | 0, y => y
  | fuel + 1, y =>
    let y' := use (format.length + 1) format y
    if y'.ended || y'.args = [] || y'.args.length = y.args.length then y'
    else useAll format fuel y'

end Layout

namespace State

/-- The state after arguments were laid out by a format. -/
def printf (s : State) (args : List Row) : State :=
  match choices "" "" args with
  | .error e => s.fail e
  | .ok (_, []) => s.fail "usage: printf format [arg ...]"
  | .ok (_, format :: rest) =>
    let y := Layout.useAll format.toList (rest.length + 1) { args := rest, state := s }
    let s := y.state.print (String.join y.rows.reverse)
    if y.state.isRunning then s.withStatus (if y.flawed then 1 else 0) else s

end State

end Shell

end Testbench
