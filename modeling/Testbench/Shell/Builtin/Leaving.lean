import Testbench.Shell.Builtin.Variables

/-!
# Commands that leave

- `Shell.State.leaveLoops`: `break` and `continue`.
- `Shell.State.leaveBody`: `return`.
- `Shell.State.leaveShell`: `exit`.

Part of the host that `Executor.host` follows; no result on runs depends on it.
-/

namespace Testbench

namespace Shell

open Text

namespace State

/-- Loops are left, or their next rounds begun. -/
def leaveLoops (again : Bool) (args : List Row) (s : State) : State :=
  let levels := match args with
    | [] => some 1
    | a :: _ => (count? a).filter (· ≠ 0)
  match levels with
  | none => s.fail (noNumber (args.head?.getD ""))
  | some n =>
    let n := min n s.loops
    { s with status := 0, flow := if n = 0 then .running else .leaving n again }

/-- The innermost function, or the script that was read in, is left. -/
def leaveBody (args : List Row) (s : State) : State :=
  match args with
  | [] => { s with flow := .returned false }
  | a :: _ =>
    match count? a with
    | some n => { s with flow := .returned true, status := n }
    | none => s.fail (noNumber a)

/-- The shell ends, with the status that was to be its last one where it is ending already. -/
def leaveShell (args : List Row) (s : State) : State :=
  match args with
  | [] => s.exit (s.lastStatus.getD s.status)
  | a :: _ =>
    match count? a with
    | some n => s.exit n
    | none => s.fail (noNumber a)

end State

end Shell

end Testbench
