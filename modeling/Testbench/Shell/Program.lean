import Testbench.Shell.Builtin

/-!
# Programs that run other programs

What a program starts with, and what utilities are.

- `Shell.State.forProgram`: the state of a program that takes the place of another one.
- `Shell.State.forShell`: the state of a shell before it reads its script.
- `Shell.Starter`, `Shell.Utility`: programs that may start others.

Part of the host that `Executor.host` follows; no result on runs depends on it.
-/

namespace Testbench

namespace Shell

open Text

/-- The names under which shells are installed. -/
def shells : List String := ["sh", "dash", "bash"]

/-- How a program starts another one in its own place, which goes by a name and has arguments. -/
abbrev Starter := Row → List Row → State → State

/-- A program of the host: what it does with its arguments. -/
abbrev Utility := Starter → List Row → State → State

namespace State

/-- The state of a program that takes the place of another one: the variables are those it inherits,
in their order. -/
def forProgram (s : State) (env : List (String × Row)) (called : Row) (args : List Row) : State :=
  { toWorld := s.toWorld
    process := s.process
    rootProcess := s.process
    ancestors := s.ancestors
    here := s.here
    directory := pathOfPlace s.here
    descriptors := s.descriptors
    memory := env.map fun (n, v) => (n, ⟨some v, true, false⟩)
    self := called
    args
    traps := s.traps.filter (·.2 = "")
    mask := s.mask }

/-- The variables that a program inherits, in the order in which it got them. -/
def inherited (s : State) : List (String × Row) :=
  s.memory.filterMap fun (n, v) => if v.exported then v.value.map (n, ·) else none

/-- The state of a shell before it reads its script: variables that it knows by itself, and those
that it inherits. -/
def forShell (s : State) : State :=
  let own : List (String × Row) :=
    [("IFS", " \t\n"), ("OPTIND", "1"), ("PATH", standardSearchPath),
     ("PPID", toString (s.ancestors.head?.getD 1)), ("PS1", "# "), ("PS2", "> "), ("PS4", "+ ")]
  let env := s.inherited.filter (isName ·.1)
  let blank := { s with memory := own.map fun (n, v) => (n, ⟨some v, false, false⟩) }
  let s := env.foldl (fun s (n, v) =>
    if n = "IFS" then s else s.alter n fun _ => ⟨some v, true, false⟩) blank
  let directory := match s.get? "PWD" with
    | some path =>
      match s.tree.find (ofRow path) with
      | .ok l => if Path.isAbsolute path && l = s.here then path else pathOfPlace s.here
      | .error _ => pathOfPlace s.here
    | none => pathOfPlace s.here
  { s.alter "PWD" fun _ => ⟨some directory, true, false⟩ with directory }

end State

end Shell

end Testbench
