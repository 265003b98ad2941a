/-!
# Signals

- `Shell.Signal`: the number of a signal, its name, and what is said when it ends a program.
- `Shell.signals`: the signals of the host.
- `Shell.signalOf?`: the signal of a name or a number.
- `Shell.harmless`: signals that do nothing to a program that is not prepared for them.

Part of the host that `Executor.host` follows; no result on runs depends on it.
-/

namespace Testbench

namespace Shell

/-- A signal. -/
structure Signal where
  number : Nat
  name : String
  /-- What is said when the signal ends a program. -/
  title : String
  deriving DecidableEq, Repr

/-- The signals of the host, by number. -/
def signals : List Signal :=
  [⟨1, "HUP", "Hangup"⟩, ⟨2, "INT", "Interrupt"⟩, ⟨3, "QUIT", "Quit"⟩,
   ⟨4, "ILL", "Illegal instruction"⟩, ⟨5, "TRAP", "Trace/breakpoint trap"⟩, ⟨6, "ABRT", "Aborted"⟩,
   ⟨7, "BUS", "Bus error"⟩, ⟨8, "FPE", "Floating point exception"⟩, ⟨9, "KILL", "Killed"⟩,
   ⟨10, "USR1", "User defined signal 1"⟩, ⟨11, "SEGV", "Segmentation fault"⟩,
   ⟨12, "USR2", "User defined signal 2"⟩, ⟨13, "PIPE", "Broken pipe"⟩,
   ⟨14, "ALRM", "Alarm clock"⟩, ⟨15, "TERM", "Terminated"⟩, ⟨16, "16", "Stack fault"⟩,
   ⟨17, "CHLD", "Child exited"⟩, ⟨18, "CONT", "Continued"⟩, ⟨19, "STOP", "Stopped (signal)"⟩,
   ⟨20, "TSTP", "Stopped"⟩, ⟨21, "TTIN", "Stopped (tty input)"⟩,
   ⟨22, "TTOU", "Stopped (tty output)"⟩, ⟨23, "URG", "Urgent I/O condition"⟩,
   ⟨24, "XCPU", "CPU time limit exceeded"⟩, ⟨25, "XFSZ", "File size limit exceeded"⟩,
   ⟨26, "VTALRM", "Virtual timer expired"⟩, ⟨27, "PROF", "Profiling timer expired"⟩,
   ⟨28, "WINCH", "Window changed"⟩, ⟨29, "IO", "I/O possible"⟩, ⟨30, "PWR", "Power failure"⟩,
   ⟨31, "SYS", "Bad system call"⟩]

/-- The least number that is no signal. -/
def signalLimit : Nat := 65

/-- The name of a signal. Signals without a name of their own go by their number, or by how far they
are from the first or the last one that programs may use as they like. -/
def signalName (n : Nat) : String :=
  match signals.find? (·.number = n) with
  | some s => s.name
  | none =>
    if n = 0 then "EXIT"
    else if n < 34 ∨ 64 < n then toString n
    else if n = 34 then "RTMIN"
    else if n < 50 then "RTMIN+" ++ toString (n - 34)
    else if n < 64 then "RTMAX-" ++ toString (64 - n)
    else "RTMAX"

/-- What is said when a signal ends a program. -/
def signalTitle (n : Nat) : String :=
  match signals.find? (·.number = n) with
  | some s => s.title
  | none =>
    if 34 ≤ n ∧ n ≤ 64 then "Real-time signal " ++ toString (n - 34)
    else "Unknown signal " ++ toString n

/-- Signals that do nothing to a program that is not prepared for them; `0` is no signal. -/
def harmless : List Nat := [0, 17, 18, 23, 28]

/-- Signals that no program can be prepared for. -/
def unstoppable : List Nat := [9, 19]

/-- The signal of a name, which may be written in small letters. -/
def signalNamed? (name : String) : Option Nat :=
  (List.range signalLimit).find? fun n => signalName n = name.toUpper

end Shell

end Testbench
