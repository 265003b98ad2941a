/-!
# Console lines

Everything that a run tells its user is a line with a tag (specification, §4.8).

- `Tag`: the kind of a line; every kind has its mark.
- `Line`: a tag and a message.
- `Line.heading`: the three lines of a heading between rules.
-/

namespace Testbench

/-- The kind of a console line. -/
inductive Tag where
  /-- A step is announced. -/
  | step
  /-- Something went well. -/
  | success
  /-- Something failed. -/
  | error
  /-- A problem that does not stop the run. -/
  | warning
  /-- Text without a mark. -/
  | plain
  deriving DecidableEq, Repr

/-- What is printed before a message of this kind. -/
def Tag.mark : Tag → String
  | step => "📋 "
  | success => "✅ "
  | error => "❌ "
  | warning => "⚠️  "
  | plain => ""

/-- A message of some kind. -/
structure Line where
  tag : Tag
  message : String
  deriving DecidableEq, Repr

namespace Line

/-- The line as it is printed, without its line end. -/
def text (l : Line) : String := l.tag.mark ++ l.message

/-- The rule above and below a heading. -/
def rule : String := String.ofList (List.replicate 80 '=')

/-- A heading between two rules, with a blank line before and after it. -/
def heading (title : String) : List Line :=
  [⟨.plain, "\n" ++ rule⟩, ⟨.plain, "== " ++ title⟩, ⟨.plain, rule ++ "\n"⟩]

end Line

end Testbench
