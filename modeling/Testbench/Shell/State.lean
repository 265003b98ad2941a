import Testbench.Command
import Testbench.Shell.Arithmetic
import Testbench.Shell.Channel
import Testbench.Shell.Signal
import Testbench.Shell.Token

/-!
# States of a shell

What a shell knows while it runs a script, and what it shares with the programs it starts.

- `Shell.Flow`: whether the script goes on, and if not, how far it is left.
- `Shell.Ending`: how a program ended.
- `Shell.Own`: what belongs to one shell alone: variables, parameters, descriptors, settings.
- `Shell.Job`: a command that is not waited for.
- `Shell.State`: a shell in its world.
- `Shell.State.child`, `Shell.State.rejoin`: a shell that starts from another one, and the way back.

Part of the host that `Executor.host` follows; no result on runs depends on it.
-/

namespace Testbench

namespace Shell

open Text

/-- The number that a text of digits spells. -/
def natural? (s : String) : Option Nat :=
  if s ≠ "" ∧ s.toList.all Text.isAsciiDigit then some (Text.numberOfDigits s.toList) else none

/-- Whether a script goes on, and if not, how far it is left. -/
inductive Flow where
  | running
  /-- So many loops are left; the last of them goes on with its next round if `again`. -/
  | leaving (levels : Nat) (again : Bool)
  /-- The innermost function, or the script that was read in, is left, perhaps with a status of its
  own. -/
  | returned (stated : Bool)
  /-- A fault ends the shell, unless it happened in a command that may fail. -/
  | failed
  /-- The shell ends. -/
  | ended
  /-- A signal has ended the shell. -/
  | killed (signal : Nat)
  deriving DecidableEq, Repr

/-- How a program ended. -/
inductive Ending where
  | exited (code : Nat)
  | killed (signal : Nat)
  deriving DecidableEq, Repr

/-- The status of a command that ended so. -/
def Ending.status : Ending → Nat
  | exited code => code
  | killed signal => 128 + signal

/-- A variable: a value, if it has one, and whether programs inherit it and it may be changed. -/
structure Variable where
  value : Option Row
  exported : Bool := false
  readOnly : Bool := false
  deriving DecidableEq, Repr

/-- A body that has a name. -/
structure Body where
  name : String
  command : Command

/-- What belongs to one shell alone. -/
structure Own where
  /-- The numbers of the program itself, of the shell it stems from, and of those that wait for
  it. -/
  process : Nat := 4242
  rootProcess : Nat := 4242
  ancestors : List Nat := []
  /-- The current directory, and the path that led there. -/
  here : Location
  directory : Row
  /-- The channels by descriptor. -/
  descriptors : List (Nat × Nat)
  /-- The variables, the oldest first. -/
  memory : List (String × Variable) := []
  /-- What local variables hide, the innermost function first. -/
  hidden : List (List (String × Option Variable)) := []
  bodies : List Body := []
  /-- The programs that were searched for already, and where they stand. -/
  tracked : List (String × Row) := []
  aliases : List (String × String) := []
  documents : List (Nat × Document) := []
  nextDocument : Nat := 0
  /-- What the shell calls itself. -/
  self : Row
  args : List Row := []
  status : Nat := 0
  /-- The status of the last command whose output was put into a word. -/
  outputStatus : Nat := 0
  flow : Flow := .running
  /-- How many loops are being run, one within the other. -/
  loops : Nat := 0
  /-- How many functions are being run, one within the other. -/
  calls : Nat := 0
  /-- How many scripts are being read in, one within the other. -/
  sources : Nat := 0
  switches : List Char := []
  /-- The line of the command that is run, and the line that reading has reached. -/
  line : Nat := 1
  reached : Nat := 1
  /-- The command of the shell that is run. -/
  title : Option String := none
  /-- What cannot be put out was to be put out. -/
  muted : Bool := false
  /-- The last command that is not waited for. -/
  background : Option Nat := none
  /-- What is done on a signal; nothing at all if it is to be ignored. -/
  traps : List (Nat × String) := []
  /-- Signals that wait for what is done on them. -/
  pending : List Nat := []
  /-- The status with which the shell ends, once it has begun to. -/
  lastStatus : Option Nat := none
  /-- Where the reading of options has come to: the next argument, and the place in it. -/
  optionIndex : Nat := 1
  optionOffset : Option Nat := none
  /-- The bits that new files lack. -/
  mask : Nat := 18

/-- A command that is not waited for. -/
structure Job where
  /-- The number under which the shell lists it. -/
  number : Nat
  process : Nat
  /-- When it was started. -/
  start : Nat
  ending : Option Ending := none
  /-- The shell that is to run a command, as long as it has not been run. -/
  waiting : Option (Own × Command) := none
  /-- Its end was waited for. -/
  awaited : Bool := false

/-- A shell in its world. -/
structure State extends World, Own where
  jobs : List Job := []

namespace State

/-! ## Variables -/

/-- The files as they are seen from the current directory. -/
def tree (s : State) : Tree := { s.files with here := s.here }

/-- The value of a variable. -/
def get? (s : State) (name : String) : Option Row := (s.memory.lookup name).bind Variable.value

/-- The state with a variable changed in some way, and made if it is missing. -/
def alter (s : State) (name : String) (f : Variable → Variable) : State :=
  if (s.memory.lookup name).isSome then
    { s with memory := s.memory.map fun (n, v) => if n = name then (n, f v) else (n, v) }
  else { s with memory := s.memory ++ [(name, f ⟨none, false, false⟩)] }

/-- The switch is set. -/
def has (s : State) (switch : Char) : Bool := s.switches.contains switch

/-- What is said of a variable that must not be changed. -/
def readOnlyFault (name : String) : String := name ++ ": is read only"

/-- Some variables are watched: the one that counts options says where they are read from, and
programs are searched for anew where the search path is another one. -/
def note (name : String) (value : Option Row) (s : State) : State :=
  if name = "OPTIND" then
    { s with optionIndex := ((value.bind natural?).filter (· ≠ 0)).getD 1, optionOffset := none }
  else if name = "PATH" then { s with tracked := [] }
  else s

/-- The state with a variable set, unless it must not be changed; `exported` makes programs inherit
it. -/
def assign (s : State) (exported : Bool) (name : String) (value : Row) : Except String State :=
  match s.memory.lookup name with
  | some ⟨_, _, true⟩ => .error (readOnlyFault name)
  | _ =>
    if name = "OPTIND" && (natural? value).isNone then .error ("Illegal number: " ++ value)
    else .ok (note name (some value) (s.alter name fun v =>
      { v with value := some value, exported := v.exported || exported || s.has 'a' }))

/-- The state without a variable, unless it must not be changed. -/
def unset (s : State) (name : String) : Except String State :=
  match s.memory.lookup name with
  | some ⟨_, _, true⟩ => .error (readOnlyFault name)
  | _ => .ok { s with memory := s.memory.filter (·.1 ≠ name) }

/-- The row in which a shell keeps a name, out of so many: by the sum of its characters, the first
one counted more. -/
def rowOfName (rows : Nat) (name : String) : Nat :=
  let cs := name.toList.map Char.toNat
  (cs.foldl (· + ·) (16 * cs.head?.getD 0)) % rows

/-- Named things in the order in which a shell goes through its rows. -/
def inRows {α : Type} (rows : Nat) (all : List (String × α)) : List (String × α) :=
  all.mergeSort fun a b => rowOfName rows a.1 ≤ rowOfName rows b.1

/-- The variables that programs inherit, in the order in which a shell hands them on. -/
def environment (s : State) : List (String × Row) :=
  inRows 39 (s.memory.filterMap fun (n, v) =>
    if v.exported then v.value.map (n, ·) else none)

/-- The value of a parameter that is named by a single character or a number. -/
def parameter? (s : State) (name : String) : Option Row :=
  if name = "?" then some (toString s.status)
  else if name = "#" then some (toString s.args.length)
  else if name = "$" then some (toString s.rootProcess)
  else if name = "!" then s.background.map toString
  else if name = "-" then some (String.ofList s.switches)
  else match natural? name with
    | some 0 => some s.self
    | some (n + 1) => s.args[n]?
    | none => s.get? name

/-! ## Output -/

/-- The channel under a descriptor. -/
def channel? (s : State) (descriptor : Nat) : Option Nat := s.descriptors.lookup descriptor

/-- The state after output under a descriptor, or why there was none. -/
def tryPut (s : State) (descriptor : Nat) (r : Row) : Except FileError State :=
  match s.channel? descriptor with
  | none => if r = "" then .ok s else .error .badDescriptor
  | some n => (s.toWorld.write n r).map fun w => { s with toWorld := w }

/-- The state after output under a descriptor; what cannot be put out is lost. -/
def put (s : State) (descriptor : Nat) (r : Row) : State :=
  (s.tryPut descriptor r).toOption.getD s

/-- The state after a command of the shell has put something out. -/
def print (s : State) (r : Row) : State :=
  match s.tryPut 1 r with
  | .ok s => s
  | .error _ => { s with muted := true }

/-- The state after a complaint. In front of it stand the name of the shell, the line, and the
command of the shell that is run. -/
def complain (s : State) (message : String) : State :=
  let title := match s.title with
    | some t => t ++ ": "
    | none => ""
  s.put 2 (s.self ++ ": " ++ toString s.line ++ ": " ++ title ++ message ++ "\n")

/-- The state with another status. -/
def withStatus (s : State) (status : Nat) : State := { s with status }

/-- The state after a fault. -/
def fail (s : State) (message : String) : State :=
  { s.complain message with status := 2, flow := .failed }

/-- The shell goes on. -/
def isRunning (s : State) : Bool := s.flow = .running

/-- The state with another status, unless there was a fault. -/
def conclude (s : State) (status : Nat) : State := if s.isRunning then s.withStatus status else s

/-- The state in which the shell ends. -/
def exit (s : State) (status : Nat) : State := { s with flow := .ended, status }

/-- A change that may be refused. -/
def orFail (s : State) (r : Except String State) : State :=
  match r with
  | .ok s => s
  | .error e => s.fail e

/-- The state with a variable set, or with a fault. -/
def set (s : State) (name : String) (value : Row) : State := s.orFail (s.assign false name value)

/-! ## Input -/

/-- At most so many octets are read under a descriptor. -/
def read (s : State) (descriptor limit : Nat) : Except FileError (Row × State) :=
  match s.channel? descriptor with
  | none => .error .badDescriptor
  | some n => (s.toWorld.read n limit).map fun (r, w) => (r, { s with toWorld := w })

/-- All that is left is read under a descriptor. -/
def readAll (s : State) (descriptor : Nat) : Except FileError (Row × State) :=
  match s.channel? descriptor with
  | none => .error .badDescriptor
  | some n => (s.toWorld.readAll n).map fun (r, w) => (r, { s with toWorld := w })

/-- The next line is read under a descriptor. -/
def readLine (s : State) (descriptor : Nat) : Except FileError (Row × State) :=
  match s.channel? descriptor with
  | none => .error .badDescriptor
  | some n => (s.toWorld.readLine n).map fun (r, w) => (r, { s with toWorld := w })

/-! ## Signals -/

/-- What the shell does on a signal: nothing special, nothing at all, or some action. -/
def trap? (s : State) (signal : Nat) : Option String := s.traps.lookup signal

/-- The state of a shell that has got a signal. -/
def receive (s : State) (signal : Nat) : State :=
  match if unstoppable.contains signal then none else s.trap? signal with
  | some "" => s
  | some _ => if s.pending.contains signal then s else { s with pending := s.pending ++ [signal] }
  | none =>
    if harmless.contains signal then s
    else match s.flow with
      | .killed _ => s
      | _ => { s with flow := .killed signal }

/-- The shell has been ended by a signal. -/
def isKilled (s : State) : Bool :=
  match s.flow with
  | .killed _ => true
  | _ => false

/-- The signals that were sent to the shell up to now reach it. One that ends it does so at the time
at which it was sent. -/
def takeSignals (s : State) : State :=
  if s.raised = [] then s
  else
    let isDue := fun (e : Sent) => e.process = s.process && e.time ≤ s.clock
    (s.raised.filter isDue).foldl (fun s e =>
      if s.isKilled then s
      else
        let s' := s.receive e.signal
        if s'.isKilled then { s' with clock := e.time } else s')
      { s with raised := s.raised.filter (!isDue ·) }

/-! ## Shells that start from others -/

/-- The shell that starts from another one: it takes over all but what is done on signals. -/
def child (s : State) : State :=
  { s with
    process := s.nextProcess
    nextProcess := s.nextProcess + 1
    ancestors := s.process :: s.ancestors
    traps := s.traps.filter (·.2 = "")
    pending := []
    loops := 0
    flow := .running
    lastStatus := none
    jobs := [] }

/-- A signal tells the shell that a program that it started has ended. -/
def bury (s : State) : State := if s.isKilled then s else s.receive 17

/-- The shell in the world that a program has left behind. -/
def rejoin (s : State) (w : World) : State := { s with toWorld := w }.takeSignals.bury

/-- How the program of a shell ended. -/
def ending (s : State) : Ending :=
  match s.flow with
  | .killed signal => .killed signal
  | _ => .exited (s.status % 256)

/-- What is said of a program that a signal ended, unless that was to be expected. -/
def tell (s : State) : Ending → State
  | .exited _ => s
  | .killed signal =>
    if signal = 2 ∨ signal = 13 then s else s.put 2 (signalTitle signal ++ "\n")

end State

end Shell

end Testbench
