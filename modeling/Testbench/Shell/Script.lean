/-!
# Shell scripts

The language of the shell: words, redirections, and commands that are joined in many ways. All
texts in it are rows of octets.

- `Shell.Piece`, `Shell.Word`: a word is made of text, values, output of commands, and sums.
- `Shell.Redirection`: where a command reads and writes.
- `Shell.Command`: commands, and how they are joined.

Part of the host that `Executor.host` follows; no result on runs depends on it.
-/

namespace Testbench

namespace Shell

/-- What is done with the value of a parameter. -/
inductive Use where
  | plain
  | length
  /-- The word stands for a value that is missing. -/
  | fallback (orEmpty : Bool)
  /-- The word stands for a value that is missing, and is kept. -/
  | assign (orEmpty : Bool)
  /-- The shell gives up where a value is missing. -/
  | require (orEmpty : Bool)
  /-- The word stands for a value that is there. -/
  | instead (orEmpty : Bool)
  /-- What matches the word is cut off at one end. -/
  | cut (atEnd longest : Bool)
  /-- No use that the shell knows. -/
  | unknown
  deriving DecidableEq, Repr

/-- How a file is opened. -/
inductive Way where
  | read
  | write
  /-- For writing, even where files are protected. -/
  | force
  | append
  | readWrite
  deriving DecidableEq, Repr

mutual

/-- A piece of a word. -/
inductive Piece where
  | plain (text : String)
  /-- A character that stands for itself. -/
  | escaped (c : Char)
  /-- A quote: from here on text is quoted if it was not, and the other way round. -/
  | quote
  | value (name : String) (use : Use) (word : List Piece)
  /-- All parameters in quotes of their own, where they stay apart. -/
  | parameters
  /-- What a command prints. -/
  | output (body : Option Command)
  /-- The value of an integer expression. -/
  | sum (expression : List Piece)

/-- Where a command reads or writes under a descriptor. -/
inductive Redirection where
  | file (descriptor : Nat) (way : Way) (path : List Piece)
  /-- The same as under another descriptor, or nothing. -/
  | copy (descriptor : Nat) (source : Option Nat)
  /-- The same as under the descriptor that a word spells. -/
  | copyNamed (descriptor : Nat) (source : List Piece)
  /-- The text of a document that stands in the script. -/
  | document (descriptor number : Nat)

/-- A command, and how commands are joined. The numbers are those of lines. -/
inductive Command where
  /-- Assignments, a command with its arguments, and redirections. -/
  | simple (line : Nat) (assignments : List (String × List Piece)) (words : List (List Piece))
      (redirections : List Redirection)
  /-- A command with redirections behind it. -/
  | redirected (line : Nat) (body : Command) (redirections : List Redirection)
  /-- A command in a shell of its own. -/
  | subshell (line : Nat) (body : Command) (redirections : List Redirection)
  /-- A command in a shell of its own that is not waited for. -/
  | background (line : Nat) (body : Command) (redirections : List Redirection)
  /-- What each command prints is what the next one reads. -/
  | pipeline (commands : List Command) (awaited : Bool)
  | next (first second : Command)
  /-- The second command if the first succeeds. -/
  | both (first second : Command)
  /-- The second command if the first fails. -/
  | either (first second : Command)
  | not (body : Command)
  | cond (test yes : Command) (no : Option Command)
  /-- A body as long as a test succeeds, or fails if `inverted`. -/
  | loop (inverted : Bool) (test body : Command)
  /-- A body for each of some fields. -/
  | each (line : Nat) (name : String) (fields : List (List Piece)) (body : Command)
  | case (line : Nat) (subject : List Piece) (arms : List (List (List Piece) × Option Command))
  /-- A name for a body. -/
  | define (line : Nat) (name : String) (body : Command)

end

/-- A word. -/
abbrev Word := List Piece

instance : Inhabited Piece := ⟨.quote⟩

instance : Inhabited Redirection := ⟨.copy 0 none⟩

instance : Inhabited Command := ⟨.simple 0 [] [] []⟩

/-- The words of an arm of a case, and its body. -/
abbrev Arm := List Word × Option Command

/-- The text of a word that is nothing but text. -/
def Word.text? : Word → Option String
  | [.plain s] => some s
  | _ => none

/-- A text in a script that commands read. -/
structure Document where
  /-- Values and output are put into the text. -/
  expanded : Bool
  text : Word

end Shell

end Testbench
