import Testbench.Shell.State

/-!
# Descriptors

- `Shell.State.openPath`: a channel to the file at a path, or the one under a descriptor of the
  shell's own.
- `Shell.State.point`: a descriptor that leads to a channel.

Part of the host that `Executor.host` follows; no result on runs depends on it.
-/

namespace Testbench

namespace Shell

open Text

namespace State

/-- The descriptor that a path stands for, if it is one of those that stand for descriptors. -/
def descriptorAt? (path : Row) : Option Nat :=
  if path = "/dev/stdin" then some 0
  else if path = "/dev/stdout" then some 1
  else if path = "/dev/stderr" then some 2
  else
    let front := "/dev/fd/"
    if (path.take front.length).toString = front then natural? (path.drop front.length).toString
    else none

/-- A channel to the file at a path. A path that stands for a descriptor leads to what is under it:
a file is opened once more, and anything else is shared. -/
def openPath (s : State) (o : Opening) (path : Row) : Except FileError (Nat × State) :=
  let opened := fun (path : String) =>
    (s.toWorld.openFile s.here o path).map fun (n, w) => (n, { s with toWorld := w })
  match descriptorAt? path with
  | none => opened (ofRow path)
  | some d =>
    match s.channel? d with
    | none => .error .missing
    | some n =>
      match s.channels.lookup n with
      | some (.file place _ _ _ _ _) => opened ("/" ++ "/".intercalate place)
      | _ => .ok (n, s)

/-- A descriptor leads to a channel, or nowhere. -/
def point (s : State) (descriptor : Nat) (channel : Option Nat) : State :=
  { s with
    descriptors := (channel.toList.map fun n => (descriptor, n)) ++
      s.descriptors.filter (·.1 ≠ descriptor) }

end State

end Shell

end Testbench
