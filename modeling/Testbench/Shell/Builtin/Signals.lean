import Testbench.Shell.Builtin.Variables

/-!
# Commands on signals

- `Shell.State.setTraps`: `trap`.
- `Shell.State.kill`: `kill`.

Part of the host that `Executor.host` follows; no result on runs depends on it.
-/

namespace Testbench

namespace Shell

open Text

/-- The signal of a number or a name. -/
def signalOf? (a : Row) : Option Nat :=
  match natural? a with
  | some n => if n < signalLimit then some n else none
  | none => signalNamed? a

namespace State

/-! ## Traps -/

/-- What is done on a signal is set, or forgotten. -/
def setTrap (s : State) (signal : Nat) (action : Option String) : State :=
  { s with
    traps := (action.toList.map fun a => (signal, a)) ++ s.traps.filter (·.1 ≠ signal) }

/-- What is done on some signals is set, up to the first that is none. -/
def setTrapsFrom (action : Option String) : List Row → State → State
  | [], s => s.withStatus 0
  | a :: args, s =>
    match signalOf? a with
    | some n => setTrapsFrom action args (s.setTrap n action)
    | none => (s.put 2 ("trap: " ++ a ++ ": bad trap\n")).withStatus 1

/-- What is done on signals is listed, set, or forgotten. -/
def setTraps (args : List Row) (s : State) : State :=
  match choices "" "" args with
  | .error e => s.fail e
  | .ok (_, []) =>
    let all := (s.traps.mergeSort fun a b => a.1 ≤ b.1).map fun (n, action) =>
      "trap -- " ++ quoted action ++ " " ++ signalName n ++ "\n"
    (s.print (String.join all)).withStatus 0
  | .ok (_, [a]) => setTrapsFrom none [a] s
  | .ok (_, a :: args) =>
    if (natural? a).any (· < signalLimit) then setTrapsFrom none (a :: args) s
    else setTrapsFrom (if a = "-" then none else some a) args s

/-! ## Sending signals -/

/-- A signal is sent to a program: to the shell itself, to one that it stems from, or to one that it
has not waited for. -/
def sendTo (s : State) (signal pid : Nat) : Except FileError State :=
  if pid = s.process then .ok (s.receive signal)
  else if s.ancestors.contains pid || pid = s.rootProcess then
    .ok (send s signal pid)
  else if s.jobs.any fun j => j.process = pid && j.ending.isNone then .ok (send s signal pid)
  else .error .missing
where
  /-- The signal is on its way. -/
  send (s : State) (signal pid : Nat) : State :=
    { s with raised := s.raised ++ [⟨pid, signal, s.clock⟩] }

/-- The job that an argument stands for. -/
def jobOf? (s : State) (a : Row) : Option Job :=
  let name := (a.drop 1).toString
  if name = "" || name = "%" || name = "+" then s.jobs.getLast?
  else if name = "-" then (s.jobs.dropLast).getLast?
  else match natural? name with
    | some n => s.jobs.find? (·.number = n)
    | none => none

/-- What is said of a job that is none. -/
def noJob (a : Row) : String :=
  let name := (a.drop 1).toString
  if name = "" || name = "%" || name = "+" then "No current job"
  else if name = "-" then "No previous job"
  else "No such job: " ++ a

/-- The program that an argument stands for; one with a hyphen in front stands for its group. -/
def processOf (s : State) (a : Row) : Except String Nat :=
  match a.toList with
  | '%' :: _ =>
    match s.jobOf? a with
    | some j => .ok j.process
    | none => .error (noJob a)
  | '-' :: rest =>
    match count? (String.ofList rest) with
    | some n => .ok (if n = 0 then s.process else n)
    | none => .error (noNumber (String.ofList rest))
  | _ =>
    match count? a with
    | some n => .ok (if n = 0 then s.process else n)
    | none => .error (noNumber a)

/-- A signal is sent to some programs. -/
def sendAll (signal : Nat) (targets : List Row) (s : State) : State :=
  let (s, status) := targets.foldl (fun (s, status) a =>
    if !s.isRunning then (s, status)
    else match s.processOf a with
      | .error e => (s.fail e, status)
      | .ok pid =>
        match s.sendTo signal pid with
        | .ok s => (s, status)
        | .error _ => (s.complain "No such process\n", 1)) (s, 0)
  s.conclude status

/-- What is said to one who does not know how to send signals. -/
def killUsage : String :=
  "Usage: kill [-s sigspec | -signum | -sigspec] [pid | job]... or\nkill -l [exitstatus]"

/-- The names of all signals, or the name of one. -/
def listSignals (args : List Row) (s : State) : State :=
  match args with
  | [] =>
    let names := (List.range signalLimit).tail.map fun n => signalName n ++ "\n"
    (s.print ("0\n" ++ String.join names)).withStatus 0
  | a :: _ =>
    match count? a with
    | none => s.fail (noNumber a)
    | some n =>
      let n := if 128 < n then n - 128 else n
      if 0 < n ∧ n < signalLimit then (s.print (signalName n ++ "\n")).withStatus 0
      else s.fail ("invalid signal number or exit status: " ++ a)

/-- Signals are sent or listed. -/
def kill (args : List Row) (s : State) : State :=
  let send := fun (signal : Nat) (targets : List Row) =>
    if targets = [] then s.fail killUsage else sendAll signal targets s
  match args with
  | [] => s.fail killUsage
  | a :: rest =>
    match a.toList with
    | '-' :: cs =>
      match signalOf? (String.ofList cs) with
      | some n => if cs = "EXIT".toList then chosen s args else send n rest
      | none => chosen s args
    | _ => send 15 args
where
  /-- The signal is chosen by a letter. -/
  chosen (s : State) (args : List Row) : State :=
    match choices "l" "s" args with
    | .error e => s.fail e
    | .ok (cs, targets) =>
      let wrong := cs.find? fun c => c.1 = 's' && (signalOf? c.2).isNone
      let signal := (cs.filter (·.1 = 's')).getLast?.bind fun c => signalOf? c.2
      match wrong, cs.any (·.1 = 'l'), signal with
      | some c, _, _ => s.fail ("invalid signal number or name: " ++ c.2)
      | none, true, some _ => s.fail killUsage
      | none, true, none => listSignals targets s
      | none, false, signal =>
        if targets = [] then s.fail killUsage else sendAll (signal.getD 15) targets s

end State

end Shell

end Testbench
