import Testbench.Shell.Utility.Arguments

/-!
# Utilities that print their arguments

- `Utility.echo`: `echo`, which resolves escapes only if asked to.
- `Utility.printf`: `printf`, which knows more escapes and wider numbers than the shell.

Part of the host that `Executor.host` follows; no result on runs depends on it.
-/

namespace Testbench

namespace Utility

open Shell Text

/-! ## Escapes -/

/-- The octet of up to so many digits of a base in front of a text, and what follows. -/
def octetAt? (base limit : Nat) (s : List Char) : Option (Char × List Char) :=
  let ds := (s.takeWhile fun c => (digit? base c).isSome).take limit
  if ds = [] then none
  else
    let n := ds.foldl (fun n c => base * n + (digit? base c).getD 0) 0
    some (Char.ofNat (n % 256), s.drop ds.length)

/-- The octet that an escape names, and what follows it; the text starts behind the backslash.
`zeroed` where an octal number may have a further zero in front. -/
def octetOfEscape (zeroed : Bool) : List Char → List Char × List Char
  | 'e' :: s => (['\x1b'], s)
  | '"' :: s => (['"'], s)
  | 'x' :: s =>
    match octetAt? 16 2 s with
    | some (c, s) => ([c], s)
    | none => (['\\', 'x'], s)
  | 'u' :: s => numbered 'u' 4 s
  | 'U' :: s => numbered 'U' 8 s
  | '0' :: s =>
    match octetAt? 8 (if zeroed then 3 else 2) s with
    | some (c, s) => ([c], s)
    | none => (['\x00'], s)
  | s =>
    let (c, s) := escapeAt s
    ([c], s)
where
  /-- A character by its number: one that is no octet of its own is told by its number again. -/
  numbered (letter : Char) (count : Nat) (s : List Char) : List Char × List Char :=
    let ds := (s.take count).takeWhile isHexDigit
    if ds.length < count then (['\\', letter], s)
    else
      let n := ds.foldl (fun n c => 16 * n + (digit? 16 c).getD 0) 0
      let upper := (Nat.toDigits 16 n).map Char.toUpper
      let size := if n < 0x10000 then 4 else 8
      ('\\' :: (if size = 4 then 'u' else 'U') ::
        List.replicate (size - upper.length) '0' ++ upper, s.drop count)

/-- A text with escapes resolved, and whether an escape ended all output; `fuel` bounds its
length. -/
def resolvedFrom (zeroed : Bool) : (fuel : Nat) → List Char → List Char × Bool
  | 0, _ => ([], false)
  | _ + 1, [] => ([], false)
  | _ + 1, '\\' :: 'c' :: _ => ([], true)
  | fuel + 1, '\\' :: s =>
    let (cs, s) := octetOfEscape zeroed s
    let (more, stop) := resolvedFrom zeroed fuel s
    (cs ++ more, stop)
  | fuel + 1, c :: s =>
    let (more, stop) := resolvedFrom zeroed fuel s
    (c :: more, stop)

/-- A row with escapes resolved, and whether an escape ended all output. -/
def resolvedRow (r : Row) : Row × Bool :=
  let (cs, stop) := resolvedFrom true (r.length + 1) r.toList
  (String.ofList cs, stop)

/-! ## Arguments in one line -/

/-- The letters that choose how arguments are printed. -/
def echoLetters? (a : Row) : Option (List Char) :=
  match a.toList with
  | '-' :: c :: cs => if (c :: cs).all "neE".toList.contains then some (c :: cs) else none
  | _ => none

/-- The arguments with blanks between them and a line end behind them. -/
def echo (args : List Row) (s : State) : State :=
  let letters := (args.map echoLetters?).takeWhile Option.isSome
  let chosen := (letters.filterMap id).flatten
  let operands := args.drop letters.length
  let tail := if chosen.contains 'n' then "" else "\n"
  let text := " ".intercalate operands
  if (chosen.filter (· ≠ 'n')).getLast? = some 'e' then
    match resolvedRow text with
    | (r, true) => s.print r
    | (r, false) => s.print (r ++ tail)
  else s.print (text ++ tail)

/-! ## Arguments laid out by a format -/

/-- Output that is being laid out. -/
structure Laid where
  args : List Row
  /-- The rows put out so far, the last one first. -/
  rows : List Row := []
  state : State
  ended : Bool := false

namespace Laid

/-- One more row. -/
def put (y : Laid) (r : Row) : Laid := { y with rows := r :: y.rows }

/-- The next argument. -/
def next (y : Laid) : Option Row × Laid := (y.args.head?, { y with args := y.args.drop 1 })

/-- What is said of an argument that is no number. -/
def note (y : Laid) (arg : Row) : Option Flaw → Laid
  | none => y
  | some f =>
    let words := match f with
      | .noNumber => "expected a numeric value"
      | .leftover => "value not completely converted"
      | .outside => "Numerical result out of range"
    { y with state := flaw y.state (inQuotes arg ++ ": " ++ words) }

/-- The next argument as a number; `0` if there is none. -/
def number {α : Type} (y : Laid) (read : Row → α × Option Flaw) : α × Laid :=
  match y.next with
  | (some arg, y) =>
    let (n, f) := read arg
    let f := if arg = "" then none else f
    let y := match quoted? arg, arg.toList.drop 2 with
      | some _, [] => y
      | some _, rest =>
        { y with state := report y.state ("warning: " ++ String.ofList rest ++
            ": character(s) following character constant have been ignored") }
      | none, _ => y.note arg f
    (n, y)
  | (none, y) => ((read "0").1, y)

/-- The slot, with its width and precision. -/
def slot (y : Laid) (at' : SlotAt) : Slot × Laid :=
  let slot := at'.flags.foldl Slot.withFlag {}
  let (slot, y) := match at'.width with
    | some ds => ({ slot with width := numberOfDigits ds }, y)
    | none =>
      let (n, y) := y.number signedOf
      (slot.withWidth n, y)
  match at'.precision with
  | none => (slot, y)
  | some (some ds) => ({ slot with precision := some (numberOfDigits ds) }, y)
  | some none =>
    let (n, y) := y.number signedOf
    (slot.withPrecision n, y)

/-- A fault of the format ends all output. -/
def broken (y : Laid) (message : String) : Laid :=
  { y with
    state := flaw (y.state.print (String.join y.rows.reverse)) message, rows := [], ended := true }

/-- A slot is filled; its letter and the slot as it stands in the format are given. -/
def fill (y : Laid) (slot : Slot) (kind : Char) (whole : String) : Laid :=
  if kind = 's' then
    let (arg, y) := y.next
    y.put (slot.text (arg.getD ""))
  else if kind = 'b' then
    let (arg, y) := y.next
    let (r, stop) := resolvedRow (arg.getD "")
    { y.put (slot.text r) with ended := stop }
  else if kind = 'q' then
    let (arg, y) := y.next
    y.put (slot.text (named (arg.getD "")))
  else if kind = 'c' then
    let (arg, y) := y.next
    match arg with
    | some a => y.put (slot.char (if a = "" then "\x00" else a))
    | none => y.put (slot.text "")
  else if kind = 'd' ∨ kind = 'i' then
    let (n, y) := y.number signedOf
    y.put (slot.integer n)
  else if "ouxX".toList.contains kind then
    let (n, y) := y.number unsignedOf
    y.put (slot.natural kind n)
  else if "eEfFgGaA".toList.contains kind then
    let ((negative, q), y) := y.number (floatOf .extended)
    y.put (slot.float .extended kind negative q)
  else y.broken (whole ++ ": invalid conversion specification")

/-- One use of a format; `fuel` bounds its length. -/
def use : (fuel : Nat) → List Char → Laid → Laid
  | 0, _, y => y
  | _ + 1, [], y => y
  | _ + 1, '\\' :: 'c' :: _, y => { y with ended := true }
  | fuel + 1, '\\' :: s, y =>
    let (cs, s) := match octetAt? 8 3 s with
      | some (c, s) => ([c], s)
      | none => octetOfEscape false s
    use fuel s (y.put (String.ofList cs))
  | fuel + 1, '%' :: '%' :: s, y => use fuel s (y.put "%")
  | fuel + 1, '%' :: s, y =>
    let at' := slotAt s
    let (slot, y) := y.slot at'
    let sizes := at'.rest.takeWhile "lLhjtz".toList.contains
    let whole := fun (kinds : List Char) => String.ofList ('%' :: at'.text ++ sizes ++ kinds)
    match at'.rest.drop sizes.length with
    | [] => y.broken (whole [] ++ ": invalid conversion specification")
    | kind :: rest =>
      let y := y.fill slot kind (whole [kind])
      if y.ended then y else use fuel rest y
  | fuel + 1, s, y =>
    let isText := fun c => c ≠ '\\' && c ≠ '%'
    use fuel (s.dropWhile isText) (y.put (String.ofList (s.takeWhile isText)))

/-- A format is used again while arguments are left and it takes some. -/
def useAll (format : List Char) : (fuel : Nat) → Laid → Laid
  | 0, y => y
  | fuel + 1, y =>
    let y' := use (format.length + 1) format y
    if y'.ended || y'.args = [] then y'
    else if y'.args.length = y.args.length then
      { y' with state := report y'.state ("warning: ignoring excess arguments, starting with " ++
          inQuotes (y'.args.head?.getD "")) }
    else useAll format fuel y'

end Laid

/-- Arguments laid out by a format. -/
def printf (args : List Row) (s : State) : State :=
  match (if args.head? = some "--" then args.drop 1 else args) with
  | [] => refuse s 1 "missing operand"
  | format :: rest =>
    let y := Laid.useAll format.toList (rest.length + 1)
      { args := rest, state := s.withStatus 0 }
    y.state.print (String.join y.rows.reverse)

end Utility

end Testbench
