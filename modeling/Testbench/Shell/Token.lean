import Testbench.Shell.Script

/-!
# Tokens of the shell's language

- `Shell.reserved`, `Shell.specialBuiltins`: names with a meaning of their own.
- `Shell.Token`: what a script is read as.
- `Shell.SyntaxError`: a line, and what is wrong there.
- `Shell.Cursor`: a place in a script, with all that reading on depends on.

Part of the host that `Executor.host` follows; no result on runs depends on it.
-/

namespace Testbench

namespace Shell

/-- The words with a meaning of their own at the front of a command. -/
def reserved : List String :=
  ["!", "case", "do", "done", "elif", "else", "esac", "fi", "for", "if", "in", "then", "until",
   "while", "\x7b", "\x7d"]

/-- The reserved words that end a list of commands. -/
def closers : List String := ["do", "done", "elif", "else", "esac", "fi", "then", "\x7d"]

/-- The builtin commands whose names no function may have. -/
def specialBuiltins : List String :=
  [".", ":", "break", "continue", "eval", "exec", "exit", "export", "local", "readonly", "return",
   "set", "shift", "times", "trap", "unset"]

/-- What a redirection begins with; what stands behind it follows as a word. -/
inductive Arrow where
  | file (descriptor : Nat) (way : Way)
  /-- The same as under another descriptor. -/
  | copy (descriptor : Nat)
  /-- A document in the script; `stripped` without the tabs in front of its lines. -/
  | document (descriptor : Nat) (stripped : Bool)
  deriving DecidableEq, Repr

/-- A token. -/
inductive Token where
  | finish
  | newline
  | semicolon
  | ampersand
  | both
  | either
  | bar
  | opening
  | closing
  | endArm
  | arrow (a : Arrow)
  /-- A word, and whether anything in it is quoted. -/
  | word (w : Word) (quoted : Bool)
  /-- A reserved word. -/
  | keyword (k : String)
  deriving Inhabited

namespace Token

/-- What a token is called where it is not expected. -/
def title : Token → String
  | finish => "end of file"
  | newline => "newline"
  | semicolon => "\";\""
  | ampersand => "\"&\""
  | both => "\"&&\""
  | either => "\"||\""
  | bar => "\"|\""
  | opening => "\"(\""
  | closing => "\")\""
  | endArm => "\";;\""
  | arrow _ => "redirection"
  | word _ _ => "word"
  | keyword k => "\"" ++ k ++ "\""

/-- The token ends a list of commands. -/
def endsList : Token → Bool
  | finish => true
  | closing => true
  | endArm => true
  | keyword k => closers.contains k
  | _ => false

end Token

/-- A line of a script, and what is wrong there. -/
structure SyntaxError where
  line : Nat
  message : String
  deriving DecidableEq, Repr

/-- A document that is still to be read: its number, the line that ends it, and whether values are
put in and tabs left out. -/
structure Awaited where
  number : Nat
  mark : String
  expanded : Bool
  stripped : Bool
  deriving DecidableEq, Repr

/-- An alias whose text is being read until so many characters are left. -/
structure OpenAlias where
  name : String
  left : Nat
  /-- The word behind the text may be an alias, too. -/
  endsInBlank : Bool
  deriving DecidableEq, Repr

/-- A place in a script. -/
structure Cursor where
  /-- What is left to read. -/
  rest : List Char
  /-- The number of the line. -/
  line : Nat := 1
  /-- A token that was read, and is to be read again. -/
  back : Option Token := none
  /-- The word that was read last. -/
  word : Word := []
  aliases : List (String × String) := []
  openAliases : List OpenAlias := []
  /-- Documents whose text follows the line. -/
  awaited : List Awaited := []
  /-- The documents read so far, by number. -/
  documents : List (Nat × Document) := []
  /-- The number of the next document. -/
  nextDocument : Nat := 0
  deriving Inhabited

namespace Cursor

/-- The next character, read as it stands. -/
def next (c : Cursor) : Option Char × Cursor :=
  match c.rest with
  | [] => (none, c)
  | a :: rest => (some a, { c with rest })

/-- A text without the joined line ends in front, and how many there were. -/
def joined : (lines : Nat) → List Char → Nat × List Char
  | lines, '\\' :: '\n' :: rest => joined (lines + 1) rest
  | lines, rest => (lines, rest)

/-- The next character; a backslash at the end of a line joins it to the next one. -/
def nextJoined (c : Cursor) : Option Char × Cursor :=
  let (line, rest) := joined c.line c.rest
  next { c with line, rest }

/-- The place where the character is still to be read. -/
def unread (c : Cursor) (a : Option Char) : Cursor := { c with rest := a.toList ++ c.rest }

/-- The place on the next line. -/
def nextLine (c : Cursor) : Cursor := { c with line := c.line + 1 }

/-- What is wrong at the place. -/
def fault (c : Cursor) (message : String) : SyntaxError := ⟨c.line, message⟩

end Cursor

/-! ## Names -/

/-- A character that names begin with. -/
def isNameStart (c : Char) : Bool := c.isAlpha || c == '_'

/-- A character of a name. -/
def isNameChar (c : Char) : Bool := c.isAlphanum || c == '_'

/-- A parameter that is named by a single character. -/
def isSpecial (c : Char) : Bool := "#?$!-*@0123456789".toList.contains c

/-- The text is a name. -/
def isName (s : String) : Bool := s.toList.head?.any isNameStart && s.toList.all isNameChar

/-- The name and the value that a word assigns, as the shell reads it. -/
def Word.assigned? : Word → Option (String × Word)
  | .plain s :: rest =>
    let name := s.toList.takeWhile isNameChar
    match s.toList.drop name.length with
    | '=' :: value =>
      if isName (String.ofList name) then
        some (String.ofList name,
          if value = [] then rest else .plain (String.ofList value) :: rest)
      else none
    | _ => none
  | _ => none

end Shell

end Testbench
