import Testbench.Shell.Token
import Testbench.Text.Search

/-!
# Spelling of words

How the shell reads a word character by character. Quotes, braces and sums can stand in one
another, and each of them reads characters in its own way; so what is read is kept together with
the constructs that are still open.

- `Shell.Mode`, `Shell.Layer`: how characters are read.
- `Shell.Spelling`: what was read of a word so far.
- `Shell.Spelling.dollar`, `Shell.Spelling.backquote`: values, sums and output of commands.
- `Shell.Spelling.run`: the characters of a word one by one.
- `Shell.readWord`: a word or the front of a redirection.
- `Shell.readDocument`: the text of a document that stands in the script.

How commands are read that stand in a word is given from outside, so that only the reader of
commands recurs.

Part of the host that `Executor.host` follows; no result on runs depends on it.
-/

namespace Testbench

namespace Shell

/-- How commands that stand in a word are read. -/
abbrev NestedReader := Cursor → Except SyntaxError (Option Command × Cursor)

/-- How characters are read. -/
inductive Mode where
  | base
  /-- Between double quotes. -/
  | double
  /-- Between single quotes. -/
  | single
  /-- In an integer expression. -/
  | sum
  deriving DecidableEq, Repr

/-- One layer of reading: the mode, and what is open in it. -/
structure Layer where
  mode : Mode
  /-- A backslash only escapes what it has to. -/
  sparing : Bool := false
  /-- Within quotes that stand in braces that stand in quotes. -/
  inner : Bool := false
  /-- The layer ends with its braces. -/
  passing : Bool := false
  braces : Nat := 0
  quotedBraces : Nat := 0
  parens : Nat := 0
  deriving DecidableEq, Repr

/-- A construct that is open: a value and its use, or a sum, and the pieces in front of it. -/
structure Frame where
  opening : Option (String × Use)
  before : List Piece

/-- What was read of a word so far. Pieces and characters come in reverse order. -/
structure Spelling where
  cursor : Cursor
  top : Layer
  below : List Layer := []
  frames : List Frame := []
  pieces : List Piece := []
  text : List Char := []
  quoted : Bool := false

namespace Spelling

/-! ## What is put into the word -/

/-- One more character. -/
def put (sp : Spelling) (c : Char) : Spelling := { sp with text := c :: sp.text }

/-- The pieces with the last text among them. -/
def flush (sp : Spelling) : Spelling :=
  if sp.text = [] then sp
  else { sp with pieces := .plain (String.ofList sp.text.reverse) :: sp.pieces, text := [] }

/-- One more piece. -/
def add (sp : Spelling) (p : Piece) : Spelling :=
  let sp := sp.flush
  { sp with pieces := p :: sp.pieces }

/-- One more character that stands for itself. -/
def escape (sp : Spelling) (c : Char) : Spelling := sp.add (.escaped c)

/-- A construct is opened. -/
def enter (sp : Spelling) (opening : Option (String × Use)) : Spelling :=
  let sp := sp.flush
  { sp with frames := ⟨opening, sp.pieces⟩ :: sp.frames, pieces := [] }

/-- The construct that was opened last is closed. -/
def leave (sp : Spelling) : Spelling :=
  let sp := sp.flush
  match sp.frames with
  | [] => sp
  | f :: frames =>
    let piece := match f.opening with
      | some (name, use) => Piece.value name use sp.pieces.reverse
      | none => .sum sp.pieces.reverse
    { sp with frames, pieces := piece :: f.before }

/-- One more layer. -/
def push (sp : Spelling) (l : Layer) : Spelling := { sp with top := l, below := sp.top :: sp.below }

/-- The layer below. -/
def pop (sp : Spelling) : Spelling :=
  match sp.below with
  | [] => sp
  | l :: below => { sp with top := l, below }

/-- The top layer changed. -/
def within (sp : Spelling) (f : Layer → Layer) : Spelling := { sp with top := f sp.top }

/-- The next character as the mode reads it. -/
def advance (sp : Spelling) : Option Char × Spelling :=
  let (c, cursor) :=
    if sp.top.mode = .single then sp.cursor.next else sp.cursor.nextJoined
  (c, { sp with cursor })

/-! ## Values -/

/-- Characters as long as they have a property, from one that was read already; and the first one
that has it not. -/
def takeRun (p : Char → Bool) : (fuel : Nat) → (read : List Char) → Option Char → Cursor →
    String × Option Char × Cursor
  | fuel + 1, read, some c, cursor =>
    if p c then
      let (d, cursor) := cursor.nextJoined
      takeRun p fuel (c :: read) d cursor
    else (String.ofList read.reverse, some c, cursor)
  | _, read, c, cursor => (String.ofList read.reverse, c, cursor)

/-- How a value is written: without braces, with braces, or with braces and the sign of the
length. -/
inductive Form where
  | bare
  | braced
  | counted
  deriving DecidableEq, Repr

/-- The name of a parameter, from its first character on; none if there is no name. Behind it
stands the first character after the name. -/
def readName (form : Form) (c : Option Char) (cursor : Cursor) :
    Option String × Form × Option Char × Cursor :=
  let plain := fun (form : Form) (c : Char) (cursor : Cursor) =>
    let isPart := if isNameStart c then isNameChar else Char.isDigit
    if !isNameStart c && form = .bare then
      let (d, cursor) := cursor.nextJoined
      (some c.toString, form, d, cursor)
    else
      let (name, d, cursor) := takeRun isPart (cursor.rest.length + 2) [] (some c) cursor
      (some name, form, d, cursor)
  let special := fun (form : Form) (c d : Option Char) (cursor : Cursor) =>
    match c with
    | some c =>
      if isSpecial c then (some c.toString, form, d, cursor) else (none, form, d, cursor)
    | none => (none, form, d, cursor)
  match c with
  | some '\x7d' => (none, form, c, cursor)
  | none => (none, form, c, cursor)
  | some c =>
    if isNameStart c || c.isDigit then plain form c cursor
    else
      let (d, after) := cursor.nextJoined
      if form = .braced && c = '#' then
        match d with
        | some a =>
          if isNameChar a then plain .counted a after
          else
            -- the sign of the length, if one more parameter stands in the braces
            let (e, later) := after.nextJoined
            if a = '\x7d' || e ≠ some '\x7d' then
              special .braced (some '#') d (later.unread e)
            else special .counted d e later
        | none => special .braced (some '#') d after
      else special form (some c) d after

/-- The use of a value in braces, from the first character behind the name on; whether the value is
complete already, and whether its word is read as if no quotes stood around it. -/
def readUse (c : Option Char) (cursor : Cursor) : Use × Bool × Bool × Cursor :=
  let (orEmpty, c, cursor) := match c with
    | some ':' =>
      let (d, cursor) := cursor.nextJoined
      (true, d, cursor)
    | c => (false, c, cursor)
  match c with
  | some '\x7d' => (.plain, !orEmpty, false, cursor)
  | some '-' => (.fallback orEmpty, false, false, cursor)
  | some '+' => (.instead orEmpty, false, false, cursor)
  | some '?' => (.require orEmpty, false, false, cursor)
  | some '=' => (.assign orEmpty, false, false, cursor)
  | some c =>
    if (c = '%' || c = '#') && !orEmpty then
      let (d, after) := cursor.nextJoined
      let longest := d = some c
      (.cut (c = '%') longest, false, true, if longest then after else after.unread d)
    else (.unknown, false, false, cursor)
  | none => (.unknown, false, false, cursor)

/-- A value opens its braces. -/
def openValue (sp : Spelling) (name : String) (use : Use) (unquoted : Bool) : Spelling :=
  let mode :=
    if unquoted then .base else if sp.top.mode = .sum then Mode.double else sp.top.mode
  let sp :=
    if mode ≠ sp.top.mode || sp.top.inner then
      sp.push { mode, sparing := mode ≠ .base, passing := true }
    else sp
  let count := fun (l : Layer) =>
    { l with
      braces := l.braces + 1
      quotedBraces := if l.sparing then l.quotedBraces + 1 else l.quotedBraces }
  (sp.enter (some (name, use))).within count

/-- A value, from the first character behind the dollar sign on. -/
def value (sp : Spelling) (c : Char) : Spelling :=
  let (form, c, cursor) := match c with
    | '\x7b' =>
      let (d, cursor) := sp.cursor.nextJoined
      (Form.braced, d, cursor)
    | c => (.bare, some c, sp.cursor)
  match readName form c cursor with
  | (none, _, c, cursor) => { sp with cursor := cursor.unread c }.openValue "" .unknown false
  | (some name, form, c, cursor) =>
    match form with
    | .bare => { sp with cursor := cursor.unread c }.add (.value name .plain [])
    | .counted =>
      let use := if c = some '\x7d' then Use.length else .unknown
      { sp with cursor := cursor.unread c }.openValue name use false
    | .braced =>
      let (use, complete, unquoted, cursor) := readUse c cursor
      let sp := { sp with cursor }
      if complete then sp.add (.value name use []) else sp.openValue name use unquoted

/-! ## Output of commands -/

/-- Documents that nothing follows are empty. -/
def settle (cursor : Cursor) : Cursor :=
  { cursor with
    awaited := []
    documents := cursor.awaited.map (fun a => (a.number, ⟨a.expanded, []⟩)) ++ cursor.documents }

/-- Commands in parentheses; the opening one was read. -/
def parenthesized (nested : NestedReader) (sp : Spelling) : Except SyntaxError Spelling := do
  let (body, cursor) ← nested { sp.cursor with awaited := [], back := none }
  match cursor.back with
  | some .closing =>
    let cursor := { settle cursor with awaited := sp.cursor.awaited, back := none }
    return { sp with cursor }.add (.output body)
  | t =>
    throw (cursor.fault ((t.getD .finish).title ++ " unexpected (expecting \")\")"))

/-- The text between backquotes, backslashes resolved that stand in front of what they have to
escape. -/
def backquoted (sparing : Bool) : (fuel : Nat) → (read : List Char) → Cursor →
    Except SyntaxError (List Char × Cursor)
  | 0, _, cursor => .error (cursor.fault "EOF in backquote substitution")
  | fuel + 1, read, cursor =>
    match cursor.nextJoined with
    | (none, cursor) => .error (cursor.fault "EOF in backquote substitution")
    | (some '\x60', cursor) => .ok (read.reverse, cursor)
    | (some '\\', cursor) =>
      match cursor.next with
      | (none, cursor) => .error (cursor.fault "EOF in backquote substitution")
      | (some c, cursor) =>
        let escapes := c = '\\' || c = '\x60' || c = '$' || (sparing && c = '"')
        backquoted sparing fuel (c :: if escapes then read else '\\' :: read) cursor
    | (some '\n', cursor) => backquoted sparing fuel ('\n' :: read) cursor.nextLine
    | (some c, cursor) => backquoted sparing fuel (c :: read) cursor

/-- Commands between backquotes; the opening one was read. -/
def backquote (nested : NestedReader) (sp : Spelling) : Except SyntaxError Spelling := do
  let (text, cursor) ← backquoted sp.top.sparing (sp.cursor.rest.length + 1) [] sp.cursor
  let (body, inner) ←
    nested { cursor with rest := text, line := 1, awaited := [], back := none, openAliases := [] }
  let inner := settle inner
  let cursor :=
    { cursor with
      word := inner.word
      documents := inner.documents
      nextDocument := inner.nextDocument }
  return { sp with cursor }.add (.output body)

/-- What a dollar sign begins; `asMark` where it stands for itself. -/
def dollar (nested : NestedReader) (asMark : Bool) (sp : Spelling) :
    Except SyntaxError Spelling :=
  match sp.cursor.nextJoined with
  | (none, cursor) => .ok { sp.put '$' with cursor }
  | (some c, cursor) =>
    if asMark || !(c = '(' || c = '\x7b' || isNameStart c || isSpecial c) then
      .ok { sp.put '$' with cursor := cursor.unread (some c) }
    else if c = '(' then
      match cursor.nextJoined with
      | (some '(', cursor) =>
        .ok ({ sp with cursor }.enter none |>.push { mode := .sum, sparing := true })
      | (d, cursor) => { sp with cursor := cursor.unread d }.parenthesized nested
    else .ok ({ sp with cursor }.value c)

/-! ## Characters -/

/-- Characters that stand for themselves between quotes and mean more elsewhere. -/
def isLoaded (c : Char) : Bool := "!*?[=~:/-]".toList.contains c

/-- A character that ends a word outside of quotes and braces. -/
def isBreak (c : Char) : Bool := "<>();&| \t".toList.contains c

/-- What a backslash and the character behind it stand for; `inDocument` where no quotes are. -/
def backslash (inDocument : Bool) (sp : Spelling) : Spelling :=
  match sp.cursor.next with
  | (none, cursor) => { sp with cursor }.escape '\\'
  | (some c, cursor) =>
    let sp := { sp with cursor, quoted := true }
    let open' := sp.top.braces ≠ 0
    let kept := sp.top.sparing && c ≠ '\\' && c ≠ '\x60' && c ≠ '$' &&
      (c ≠ '"' || (inDocument && !open')) && (c ≠ '\x7d' || !open')
    (if kept then sp.escape '\\' else sp).escape c

/-- A mark where quotes begin or end. Quotes around nothing but all parameters are one piece. -/
def quoteMark (inDocument : Bool) (sp : Spelling) : Spelling :=
  let isQuote := fun (p : Piece) => p matches .quote
  let sp := sp.flush
  if inDocument then sp
  else match sp.pieces with
    | .value "@" .plain [] :: .quote :: before =>
      if before.countP isQuote % 2 = 0 then { sp with pieces := .parameters :: before }
      else sp.add .quote
    | _ => sp.add .quote

/-- A double quote that begins or ends quotes. -/
def doubleMark (inDocument : Bool) (sp : Spelling) : Spelling :=
  (if sp.top.braces ≠ 0 then sp.within fun l => { l with inner := !l.inner } else sp).quoteMark
    inDocument

/-- A quote that ends quotes. -/
def endQuote (inDocument : Bool) (c : Char) (sp : Spelling) : Spelling :=
  if inDocument && sp.top.braces = 0 then sp.put c
  else
    let sp :=
      if sp.top.quotedBraces = 0 then sp.within fun l => { l with mode := .base, sparing := false }
      else sp
    let sp := { sp with quoted := true }
    if c = '"' then sp.doubleMark inDocument else sp.quoteMark inDocument

/-- A closing brace. -/
def closeBrace (sp : Spelling) : Spelling :=
  if sp.top.inner || sp.top.braces = 0 then sp.put '\x7d'
  else
    let last := sp.top.braces = 1
    let sp := sp.within fun l => { l with braces := l.braces - 1 }
    (if last && sp.top.passing then sp.pop
     else sp.within fun l => { l with quotedBraces := l.quotedBraces - 1 }).leave

/-- A closing parenthesis in a sum. -/
def closeParen (sp : Spelling) : Spelling :=
  if sp.top.parens ≠ 0 then (sp.put ')').within fun l => { l with parens := l.parens - 1 }
  else match sp.cursor.nextJoined with
    | (some ')', cursor) => { sp with cursor }.pop.leave
    | (c, cursor) => { sp with cursor := cursor.unread c }.put ')'

/-- One character; `none` if the word ends in front of it. -/
def step (nested : NestedReader) (inDocument asMark : Bool) (c : Char) (sp : Spelling) :
    Option (Except SyntaxError Spelling) :=
  let ok := fun (sp : Spelling) => some (.ok sp)
  match sp.top.mode with
  | .single =>
    if c = '\'' then ok (sp.endQuote inDocument c)
    else if isLoaded c && !inDocument then ok (sp.escape c)
    else ok (sp.put c)
  | mode =>
    if c = '\\' then ok (sp.backslash inDocument)
    else if c = '$' then some (sp.dollar nested asMark)
    else if c = '\x7d' then ok sp.closeBrace
    else if c = '\x60' then
      if asMark then ok { sp.put c with quoted := true } else some (sp.backquote nested)
    else if mode = .base then
      if c = '\'' then ok ((sp.within fun l => { l with mode := .single }).quoteMark inDocument)
      else if c = '"' then
        ok ((sp.within fun l => { l with mode := .double, sparing := true }).doubleMark inDocument)
      else if isBreak c && sp.top.braces = 0 then none
      else ok (sp.put c)
    else if mode = .double then
      if c = '"' then ok (sp.endQuote inDocument c)
      else if isLoaded c then ok (sp.escape c)
      else ok (sp.put c)
    else if c = '(' then ok ((sp.put c).within fun l => { l with parens := l.parens + 1 })
    else if c = ')' then ok sp.closeParen
    else ok (sp.put c)

/-- The first character of a line, unless a document ends there. -/
def startLine (document : Option Awaited) (c : Option Char) (sp : Spelling) :
    Option Char × Spelling :=
  match document with
  | none => (c, sp)
  | some d =>
    let line := c.toList ++ sp.cursor.rest
    let line := if d.stripped then line.dropWhile (· == '\t') else line
    let goOn := ({ sp.cursor with rest := line } : Cursor).next
    match Text.after? d.mark.toList line with
    | some [] => (none, { sp with cursor := { sp.cursor with rest := [] } })
    | some ('\n' :: rest) =>
      (none, { sp with cursor := { sp.cursor with rest }.nextLine })
    | _ => (goOn.1, { sp with cursor := goOn.2 })

/-- The characters of a word from one that was read already, up to the one that ends the word. -/
def run (nested : NestedReader) (document : Option Awaited) (asMark : Bool) :
    (fuel : Nat) → Option Char → Spelling → Except SyntaxError (Option Char × Spelling)
  | 0, c, sp => .ok (c, sp)
  | _ + 1, none, sp => .ok (none, sp)
  | fuel + 1, some '\n', sp =>
    if sp.top.mode = .base && sp.top.braces = 0 then .ok (some '\n', sp)
    else
      let sp := sp.put '\n'
      let (c, cursor) := sp.cursor.nextLine.next
      let (c, sp) := { sp with cursor }.startLine document c
      run nested document asMark fuel c sp
  | fuel + 1, some c, sp =>
    match sp.step nested document.isSome asMark c with
    | none => .ok (some c, sp)
    | some (.error e) => .error e
    | some (.ok sp) =>
      let (c, sp) := sp.advance
      run nested document asMark fuel c sp

/-- What is left open at the end of a word is a fault. -/
def closed (inDocument : Bool) (sp : Spelling) : Except SyntaxError Spelling :=
  if sp.top.mode = .sum then .error (sp.cursor.fault "Missing '))'")
  else if sp.top.mode ≠ .base && !inDocument then
    .error (sp.cursor.fault "Unterminated quoted string")
  else if sp.top.braces ≠ 0 then .error (sp.cursor.fault "Missing '\x7d'")
  else .ok sp.flush

end Spelling

/-- The front of a redirection, from its sign on. -/
def readArrow (descriptor : Option Nat) (c : Char) (cursor : Cursor) : Arrow × Cursor :=
  if c = '>' then
    let n := descriptor.getD 1
    match cursor.nextJoined with
    | (some '>', cursor) => (.file n .append, cursor)
    | (some '|', cursor) => (.file n .force, cursor)
    | (some '&', cursor) => (.copy n, cursor)
    | (c, cursor) => (.file n .write, cursor.unread c)
  else
    let n := descriptor.getD 0
    match cursor.nextJoined with
    | (some '<', cursor) =>
      match cursor.nextJoined with
      | (some '-', cursor) => (.document n true, cursor)
      | (c, cursor) => (.document n false, cursor.unread c)
    | (some '&', cursor) => (.copy n, cursor)
    | (some '>', cursor) => (.file n .readWrite, cursor)
    | (c, cursor) => (.file n .read, cursor.unread c)

/-- A word, or the front of a redirection, from its first character on. `asMark` for the word that
ends a document. -/
def readWord (nested : NestedReader) (asMark : Bool) (c : Char) (cursor : Cursor) :
    Except SyntaxError (Token × Cursor) := do
  let start : Spelling := { cursor, top := { mode := .base } }
  let (c, sp) ← Spelling.run nested none asMark (cursor.rest.length + 2) (some c) start
  let sp ← sp.closed false
  let plain := fun (descriptor : Option Nat) =>
    match c with
    | some c =>
      if (c = '<' || c = '>') && !sp.quoted then some (readArrow descriptor c sp.cursor) else none
    | none => none
  let arrow := match sp.pieces with
    | [] => plain none
    | [.plain s] =>
      match s.toList with
      | [d] => if d.isDigit then plain (some (d.toNat - '0'.toNat)) else none
      | _ => none
    | _ => none
  match arrow with
  | some (a, cursor) => return (.arrow a, cursor)
  | none =>
    let w := sp.pieces.reverse
    return (.word w sp.quoted, { sp.cursor.unread c with word := w })

/-- The text of a document. -/
def readDocument (nested : NestedReader) (d : Awaited) (cursor : Cursor) :
    Except SyntaxError Cursor := do
  let (c, after) := if d.expanded then cursor.nextJoined else cursor.next
  let mode : Mode := if d.expanded then .double else .single
  let start : Spelling := { cursor := after, top := { mode, sparing := d.expanded } }
  let (c, sp) := start.startLine (some d) c
  let (_, sp) ← Spelling.run nested (some d) false (cursor.rest.length + 2) c sp
  let sp ← sp.closed true
  let text := sp.pieces.reverse
  return { sp.cursor with
    word := text
    documents := (d.number, ⟨d.expanded, text⟩) :: sp.cursor.documents }

end Shell

end Testbench
