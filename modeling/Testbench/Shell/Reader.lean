import Testbench.Shell.Spelling

/-!
# Reading scripts

A script is read one complete command at a time, as a shell does that runs each one before it
looks at the next.

- `Shell.Reading`: reading that goes on from a place in a script, or finds a fault there.
- `Shell.Reading.token`: the next token; aliases are replaced, and reserved words are told apart
  from others where that is asked for.
- `Shell.Reading.simple`, `Shell.Reading.compound`, `Shell.Reading.pipeline`,
  `Shell.Reading.andOr`, `Shell.Reading.list`: the levels of the grammar, each given the one below.
- `Shell.readList`: lists of commands; only this reader recurs.
- `Shell.Cursor.command`: the next complete command.

Part of the host that `Executor.host` follows; no result on runs depends on it.
-/

namespace Testbench

namespace Shell

/-- Reading from a place in a script. -/
abbrev Reading := StateT Cursor (Except SyntaxError)

/-- What a token may be besides a word or an operator. -/
structure Wants where
  /-- Line ends in front of it are passed over. -/
  newlines : Bool := false
  keywords : Bool := false
  aliases : Bool := false
  /-- The word ends a document. -/
  mark : Bool := false
  deriving DecidableEq, Repr

/-- What may stand at the front of a command. -/
def Wants.front : Wants := { keywords := true, aliases := true }

/-- What may stand at the front of a command on a line further down. -/
def Wants.fresh : Wants := { newlines := true, keywords := true, aliases := true }

/-- How far a list of commands goes. -/
inductive Extent where
  /-- To the end of a line. -/
  | line
  /-- To a token that ends lists; there is at least one command. -/
  | body
  /-- To a token that ends lists; there may be no command. -/
  | inner
  deriving DecidableEq, Repr

namespace Reading

/-! ## Tokens -/

/-- A fault at the place. -/
def fail {α : Type} (message : String) : Reading α := do
  throw ((← get).fault message)

/-- A token that stands where it may not; `wanted` could stand there. -/
def unexpected {α : Type} (t : Token) (wanted : Option String) : Reading α :=
  fail (t.title ++ " unexpected" ++ match wanted with
    | some w => " (expecting " ++ w ++ ")"
    | none => "")

/-- The token is to be read again. -/
def back (t : Token) : Reading Unit := modify fun c => { c with back := some t }

/-- A text without the blanks and comments in front. -/
def skipBlanks : (fuel : Nat) → Cursor → Cursor
  | 0, c => c
  | fuel + 1, c =>
    match c.nextJoined with
    | (some a, after) =>
      if a = ' ' || a = '\t' then skipBlanks fuel after
      else if a = '#' then { after with rest := after.rest.dropWhile (· ≠ '\n') }
      else after.unread (some a)
    | (none, after) => after

/-- Aliases whose text was read are closed; whether one of them asks for another alias. -/
def closeAliases : Reading Bool := modifyGet fun c =>
  let isDone := fun (a : OpenAlias) => c.rest.length ≤ a.left
  if c.openAliases = [] then (false, c)
  else
    ((c.openAliases.filter isDone).any (·.endsInBlank),
      { c with openAliases := c.openAliases.filter (!isDone ·) })

/-- An operator of one or two characters, from its first one on. -/
def operator (c : Char) : Reading (Option Token) := do
  let doubled := fun (one two : Token) => do
    let (d, cursor) := (← get).nextJoined
    if d = some c then
      set cursor
      return some two
    else
      set (cursor.unread d)
      return some one
  if c = '&' then doubled .ampersand .both
  else if c = '|' then doubled .bar .either
  else if c = ';' then doubled .semicolon .endArm
  else if c = '(' then return some .opening
  else if c = ')' then return some .closing
  else return none

/-- The next token as it stands in the text, and whether an alias asks for another one. -/
def rawToken (x : NestedReader) (asMark : Bool) : Reading (Token × Bool) := do
  modify fun c => skipBlanks (c.rest.length + 1) c
  let again ← closeAliases
  match (← get).next with
  | (none, _) => return (.finish, again)
  | (some '\n', cursor) =>
    set cursor.nextLine
    return (.newline, again)
  | (some c, cursor) =>
    set cursor
    match ← operator c with
    | some t => return (t, again)
    | none =>
      let (t, cursor) ← readWord x asMark c (← get)
      set cursor
      return (t, again)

/-- The documents that the line asked for are read. -/
def documents (x : NestedReader) : Reading Unit := do
  let c ← get
  if c.awaited ≠ [] then
    let c' ← c.awaited.foldlM (fun c d => readDocument x d c) { c with awaited := [] }
    set c'

/-- The text of an alias takes the place of its name. -/
def openAlias (name text : String) : Reading Unit := modify fun c =>
  if text = "" then c
  else
    let last := text.toList.getLast?
    { c with
      rest := text.toList ++ c.rest
      openAliases :=
        ⟨name, c.rest.length, last = some ' ' || last = some '\t'⟩ :: c.openAliases }

/-- The text of an alias that is not open. -/
def alias? (name : String) : Reading (Option String) := do
  let c ← get
  if c.openAliases.any (·.name = name) then return none else return c.aliases.lookup name

/-- The next token; `fuel` bounds the line ends that are passed over and the aliases. -/
def tokenWithin (x : NestedReader) : (fuel : Nat) → Wants → Reading Token
  | 0, _ => fail "alias without end"
  | fuel + 1, w => do
    let c ← get
    let (t, again) ← match c.back with
      | some t =>
        set { c with back := none }
        pure (t, false)
      | none => rawToken x w.mark
    let w := { w with aliases := w.aliases || again }
    match t with
    | .newline =>
      if w.newlines then
        documents x
        tokenWithin x fuel w
      else return t
    | .word word false =>
      match word.text? with
      | none => return t
      | some s =>
        if w.keywords && reserved.contains s then return .keyword s
        else if w.aliases then
          match ← alias? s with
          | none => return t
          | some text =>
            openAlias s text
            tokenWithin x fuel w
        else return t
    | t => return t

/-- The next token. -/
def token (x : NestedReader) (w : Wants) : Reading Token := do
  let c ← get
  tokenWithin x (c.rest.length + c.aliases.length + 1000) w

/-- The next token has to be the reserved word. -/
def keyword (x : NestedReader) (w : Wants) (k : String) : Reading Unit := do
  let t ← token x w
  match t with
  | .keyword k' => if k' = k then return () else unexpected t (some ("\"" ++ k ++ "\""))
  | t => unexpected t (some ("\"" ++ k ++ "\""))

/-! ## Simple commands -/

/-- The text of a word without its quotes. -/
def bare (w : Word) : String :=
  String.join (w.map fun
    | .plain s => s
    | .escaped c => c.toString
    | _ => "")

/-- The word behind the front of a redirection. -/
def redirection (x : NestedReader) (a : Arrow) : Reading Redirection := do
  let isDocument := match a with
    | .document _ _ => true
    | _ => false
  let t ← token x { mark := isDocument }
  match t with
  | .word w quoted =>
    match a with
    | .file n way => return .file n way w
    | .copy n =>
      match w.text? with
      | some "-" => return .copy n none
      | some s =>
        match s.toList with
        | [d] => if d.isDigit then return .copy n (some (d.toNat - '0'.toNat))
        | _ => pure ()
        return .copyNamed n w
      | none => return .copyNamed n w
    | .document n stripped =>
      modifyGet fun c =>
        let d : Awaited := ⟨c.nextDocument, bare w, !quoted, stripped⟩
        (.document n d.number,
          { c with awaited := c.awaited ++ [d], nextDocument := d.number + 1 })
  | t => unexpected t none

/-- What was read of a simple command, in reverse order. -/
structure Draft where
  assignments : List (String × Word) := []
  words : List Word := []
  redirections : List Redirection := []

/-- A simple command, or a name for a body; `command` reads the body. -/
def simpleWithin (x : NestedReader) (command : Wants → Reading Command) (line : Nat) :
    (fuel : Nat) → Draft → Reading Command
  | 0, _ => fail "command without end"
  | fuel + 1, d => do
    let t ← token x { aliases := d.words = [] }
    match t with
    | .word w _ =>
      match if d.words = [] then w.assigned? else none with
      | some a => simpleWithin x command line fuel { d with assignments := a :: d.assignments }
      | none => simpleWithin x command line fuel { d with words := w :: d.words }
    | .arrow a =>
      let r ← redirection x a
      simpleWithin x command line fuel { d with redirections := r :: d.redirections }
    | .opening =>
      match d with
      | ⟨[], [w], []⟩ =>
        match ← token x {} with
        | .closing => pure ()
        | t => unexpected t (some "\")\"")
        match w.text? with
        | some name =>
          if !isName name || specialBuiltins.contains name then fail "Bad function name"
          let line := (← get).line
          return .define line name (← command .fresh)
        | none => fail "Bad function name"
      | d =>
        back t
        return .simple line d.assignments.reverse d.words.reverse d.redirections.reverse
    | t =>
      back t
      return .simple line d.assignments.reverse d.words.reverse d.redirections.reverse

/-- A simple command, or a name for a body. -/
def simple (x : NestedReader) (command : Wants → Reading Command) (line : Nat) :
    Reading Command := do
  simpleWithin x command line ((← get).rest.length + 1000) {}

/-! ## Compound commands -/

/-- A body, which holds a command. Where the text ends instead, what has to stand behind the body is
missing as well, and that is the fault. -/
def body (list : Extent → Reading (Option Command)) : Reading Command := do
  return (← list .body).getD default

/-- The parts behind the first test of a choice. -/
def branches (x : NestedReader) (list : Extent → Reading (Option Command)) (test : Command) :
    (fuel : Nat) → Reading Command
  | 0 => fail "choice without end"
  | fuel + 1 => do
    keyword x {} "then"
    let yes ← body list
    let t ← token x {}
    match t with
    | .keyword "elif" =>
      let next ← body list
      return .cond test yes (some (← branches x list next fuel))
    | .keyword "else" => return .cond test yes (some (← body list))
    | t =>
      back t
      return .cond test yes none

/-- Words up to a token that is none, and that token. -/
def words (x : NestedReader) : (fuel : Nat) → (read : List Word) → Reading (List Word × Token)
  | 0, _ => fail "words without end"
  | fuel + 1, read => do
    match ← token x {} with
    | .word w _ => words x fuel (w :: read)
    | t => return (read.reverse, t)

/-- The words of an arm, from the first one on; the last word that was read counts. -/
def patterns (x : NestedReader) : (fuel : Nat) → (read : List Word) → Reading (List Word)
  | 0, _ => fail "patterns without end"
  | fuel + 1, read => do
    let read := (← get).word :: read
    match ← token x {} with
    | .bar =>
      discard (token x {})
      patterns x fuel read
    | .closing => return read.reverse
    | t => unexpected t (some "\")\"")

/-- The arms of a case up to its end. -/
def arms (x : NestedReader) (list : Extent → Reading (Option Command)) :
    (fuel : Nat) → (read : List Arm) → Reading (List Arm)
  | 0, _ => fail "case without end"
  | fuel + 1, read => do
    let w : Wants := { newlines := true, keywords := true }
    match ← token x w with
    | .keyword "esac" => return read.reverse
    | t =>
      if t matches .opening then discard (token x {})
      let ps ← patterns x fuel []
      let arm : Arm := (ps, ← list .inner)
      match ← token x w with
      | .keyword "esac" => return (arm :: read).reverse
      | .endArm => arms x list fuel (arm :: read)
      | t => unexpected t (some "\";;\"")

/-- A loop over fields; its first word was read. -/
def forLoop (x : NestedReader) (list : Extent → Reading (Option Command)) (line : Nat) :
    Reading Command := do
  let name ← match ← token x {} with
    | .word w false =>
      match w.text? with
      | some name => if isName name then pure name else fail "Bad for loop variable"
      | none => fail "Bad for loop variable"
    | _ => fail "Bad for loop variable"
  let fields ← match ← token x .fresh with
    | .keyword "in" =>
      match ← words x ((← get).rest.length + 1000) [] with
      | (ws, .newline) => pure ws
      | (ws, .semicolon) => pure ws
      | (_, t) => unexpected t none
    | t =>
      if !t matches .semicolon then back t
      pure [[.parameters]]
  keyword x .fresh "do"
  let inside ← body list
  return .each line name fields inside

/-- A case; its first word was read. -/
def caseOf (x : NestedReader) (list : Extent → Reading (Option Command)) (line : Nat) :
    Reading Command := do
  match ← token x {} with
  | .word subject _ =>
    keyword x .fresh "in"
    return .case line subject (← arms x list ((← get).rest.length + 1000) [])
  | t => unexpected t (some "word")

/-- A compound command from its first token on; nothing if none begins with it. -/
def compound (x : NestedReader) (list : Extent → Reading (Option Command)) (line : Nat)
    (t : Token) : Reading (Option Command) := do
  match t with
  | .keyword "if" =>
    let test ← body list
    let c ← branches x list test ((← get).rest.length + 1000)
    keyword x {} "fi"
    return some c
  | .keyword "while" =>
    let test ← body list
    keyword x {} "do"
    let inside ← body list
    keyword x {} "done"
    return some (.loop false test inside)
  | .keyword "until" =>
    let test ← body list
    keyword x {} "do"
    let inside ← body list
    keyword x {} "done"
    return some (.loop true test inside)
  | .keyword "for" =>
    let c ← forLoop x list line
    keyword x {} "done"
    return some c
  | .keyword "case" => return some (← caseOf x list line)
  | .opening =>
    let inside ← body list
    match ← token x {} with
    | .closing => return some (.subshell line inside [])
    | t => unexpected t (some "\")\"")
  | .keyword "\x7b" =>
    let inside ← body list
    keyword x {} "\x7d"
    return some inside
  | _ => return none

/-- The redirections behind a compound command. -/
def redirections (x : NestedReader) : (fuel : Nat) → Wants → Reading (List Redirection)
  | 0, _ => fail "redirections without end"
  | fuel + 1, w => do
    match ← token x w with
    | .arrow a =>
      let r ← redirection x a
      return r :: (← redirections x fuel {})
    | t =>
      back t
      return []

/-- A command; `again` reads the body of a name. -/
def command (x : NestedReader) (list : Extent → Reading (Option Command))
    (again : Wants → Reading Command) (w : Wants) : Reading Command := do
  let line := (← get).line
  let t ← token x w
  match ← compound x list line t with
  | some c =>
    match c, ← redirections x ((← get).rest.length + 1000) .front with
    | c, [] => return c
    | .subshell line inside _, rs => return .subshell line inside rs
    | c, rs => return .redirected line c rs
  | none =>
    match t with
    | .word _ _ => pure ()
    | .arrow _ => pure ()
    | t => unexpected t none
    back t
    simple x again line

/-! ## Pipelines and lists -/

/-- The commands of a pipeline behind the first one. -/
def piped (x : NestedReader) (command : Wants → Reading Command) :
    (fuel : Nat) → Reading (List Command)
  | 0 => fail "pipeline without end"
  | fuel + 1 => do
    match ← token x {} with
    | .bar =>
      let c ← command .fresh
      return c :: (← piped x command fuel)
    | t =>
      back t
      return []

/-- A pipeline, which may be negated. -/
def pipeline (x : NestedReader) (command : Wants → Reading Command) (w : Wants) :
    Reading Command := do
  let t ← token x w
  let negated := t matches .keyword "!"
  if !negated then back t
  let first ← command (if negated then .front else {})
  let c := match ← piped x command ((← get).rest.length + 1000) with
    | [] => first
    | more => .pipeline (first :: more) true
  return if negated then .not c else c

/-- Pipelines that depend on the one before them. -/
def andOrFrom (x : NestedReader) (pipeline : Wants → Reading Command) :
    (fuel : Nat) → Command → Reading Command
  | 0, _ => fail "list without end"
  | fuel + 1, c => do
    match ← token x {} with
    | .both => andOrFrom x pipeline fuel (.both c (← pipeline .fresh))
    | .either => andOrFrom x pipeline fuel (.either c (← pipeline .fresh))
    | t =>
      back t
      return c

/-- Pipelines, each of which may depend on the one before. -/
def andOr (x : NestedReader) (pipeline : Wants → Reading Command) : Reading Command := do
  let c ← pipeline {}
  andOrFrom x pipeline ((← get).rest.length + 1000) c

/-- The command in a shell of its own that is not waited for. -/
def unawaited (line : Nat) : Command → Command
  | .pipeline commands _ => .pipeline commands false
  | .redirected line c rs => .background line c rs
  | c => .background line c []

/-- One command and then another one. -/
def joined : Option Command → Command → Command
  | none, c => c
  | some a, c => .next a c

/-- A list of commands behind those read so far. -/
def listFrom (x : NestedReader) (andOr : Reading Command) (e : Extent) :
    (fuel : Nat) → Option Command → Reading (Option Command)
  | 0, _ => fail "list without end"
  | fuel + 1, read => do
    let t ← token x { Wants.front with newlines := e ≠ .line }
    match t with
    | .newline =>
      documents x
      return read
    | .finish =>
      documents x
      back t
      return read
    | t =>
      back t
      if (e = .inner || (e = .body && read.isSome)) && t.endsList then return read
      let line := (← get).line
      let c ← andOr
      let t ← token x {}
      let c := if t matches .ampersand then unawaited line c else c
      let read := some (joined read c)
      match t with
      | .finish =>
        documents x
        back t
        return read
      | .newline =>
        back t
        listFrom x andOr e fuel read
      | .ampersand => listFrom x andOr e fuel read
      | .semicolon => listFrom x andOr e fuel read
      | t =>
        if e = .line then unexpected t none
        back t
        return read

end Reading

/-! ## Scripts -/

/-- How deep commands may stand in one another. -/
def depthLimit : Nat := 10000

mutual

/-- A list of commands; `depth` bounds how deep commands stand in one another. -/
def readList : (depth : Nat) → Extent → Reading (Option Command)
  | 0, _ => Reading.fail "commands too deep"
  | depth + 1, e => fun cursor =>
    let x := readList depth .inner
    let pipeline := Reading.pipeline x (readCommand depth)
    Reading.listFrom x (Reading.andOr x pipeline) e (cursor.rest.length + 1000) none cursor

/-- A command; `depth` bounds how deep commands stand in one another. -/
def readCommand : (depth : Nat) → Wants → Reading Command
  | 0, _ => Reading.fail "commands too deep"
  | depth + 1, w => fun cursor =>
    let x := readList depth .inner
    Reading.command x (readList depth) (readCommand depth) w cursor

end

/-- The next complete command, nothing if the line holds none, and the place behind it. -/
def Cursor.command (c : Cursor) : Except SyntaxError (Option Command × Cursor) :=
  readList depthLimit .line { c with back := none, awaited := [] }

/-- The text was read to its end. -/
def Cursor.atEnd (c : Cursor) : Bool := c.back matches some .finish

end Shell

end Testbench
