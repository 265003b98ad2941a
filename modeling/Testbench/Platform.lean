import Testbench.Text.Blank

/-!
# Platforms

How the host is named in reports (specification, §4.5).

- `Platform.systemName`: the usual name of an operating system.
- `Platform.descriptor`: the system, its release where that is known, and the architecture.
-/

namespace Testbench

namespace Platform

/-- The usual name of an operating system, whose own name is used where there is no other. -/
def systemName (os : String) : String :=
  if os = "linux" then "Linux"
  else if os = "macos" then "Darwin"
  else if os = "windows" then "Windows"
  else os

/-- The release that a text tells, if it tells one. -/
def release? (text : String) : Option String :=
  if Text.trim text = "" then none else some (Text.trim text)

/-- The system, its release where that is known, and the architecture, with dashes between. -/
def descriptor (os : String) (release : Option String) (arch : String) : String :=
  "-".intercalate (systemName os :: (release.bind release?).toList ++ [arch])

end Platform

end Testbench
