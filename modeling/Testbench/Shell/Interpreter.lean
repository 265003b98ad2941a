import Testbench.Shell.Program
import Testbench.Shell.Reader
import Testbench.Shell.Redirect

/-!
# Running scripts

- `Shell.Runner`, `Shell.Mode`: how commands are run, given from outside to all that runs some.
- `Shell.State.runText`: a text that is read and run one command at a time.
- `Shell.State.finish`: the end of a shell.
- `Shell.State.settleJobs`: commands that are not waited for.
- `Shell.State.simple`: a simple command.
- `Shell.State.step`: any command.
- `Shell.Command.run`: the runner itself; a bound on the depth of the run takes the place of
  patience. Only it recurs.

Part of the host that `Executor.host` follows; no result on runs depends on it.
-/

namespace Testbench

namespace Shell

open Text

/-- How a command is run. -/
structure RunMode where
  /-- Its failure is looked at, and ends no shell that is strict. -/
  tested : Bool := false
  /-- It is the last one, and its shell ends with it. -/
  last : Bool := false
  /-- Commands are asked for. -/
  asks : Bool := false
  deriving DecidableEq, Repr

/-- How commands are run, and what utilities there are. -/
structure Runner where
  utility? : String → Option Utility
  command : RunMode → Command → State → State

namespace State

/-! ## Texts -/

/-- What a shell puts out where it asks for a command. -/
def ask (s : State) : Row := (s.get? "PS1").getD ""

/-- The commands of a text behind a place, one after the other; whether there was any. `fuel` bounds
their number. -/
def runFrom (x : Runner) (m : RunMode) : (fuel : Nat) → (ran : Bool) → Cursor → State →
    Bool × State
  | 0, ran, _, s => (ran, s)
  | fuel + 1, ran, cursor, s =>
    let s := if m.asks then s.put 2 s.ask else s
    let cursor := { cursor with
      aliases := s.aliases, documents := s.documents, nextDocument := s.nextDocument }
    match cursor.command with
    | .error e => (ran, { s with line := e.line }.fail ("Syntax error: " ++ e.message))
    | .ok (c?, cursor) =>
      let s := { s with
        documents := cursor.documents, nextDocument := cursor.nextDocument, reached := cursor.line }
      let (ran, s) := match c? with
        | some c => (true, x.command { m with last := m.last && cursor.atEnd, asks := false } c s)
        | none => (ran, s)
      if cursor.atEnd || !s.isRunning then (ran, s) else runFrom x m fuel ran cursor s

/-- A text is read and run; whether it held any command. -/
def runText (x : Runner) (m : RunMode) (text : Row) (s : State) : Bool × State :=
  let (ran, s') := runFrom x m (text.length + 2) false { rest := text.toList } s
  (ran, { s' with reached := s.reached })

/-- A text is run as an action of its own, which has a status only if it held a command. -/
def act (x : Runner) (m : RunMode) (text : Row) (s : State) : State :=
  let (ran, s) := s.runText x m text
  if ran then s else s.conclude 0

/-! ## Signals -/

/-- What is to be done on signals that have come in is done, the lowest signal first. -/
def runTraps (x : Runner) (s : State) : State :=
  if s.pending = [] || !s.isRunning then s
  else
    let status := s.lastStatus.getD s.status
    let before := s.lastStatus
    let step := fun (s : State) (signal : Nat) =>
      if !s.isRunning then s
      else
        let s := { s with pending := s.pending.filter (· ≠ signal) }
        match s.trap? signal with
        | none => s
        | some action =>
          let s := (s.runText x {} action).2
          if s.flow = .returned true || s.flow = .ended || s.flow = .failed || s.isKilled then s
          else { s with status }
    let s := (s.pending.mergeSort (· ≤ ·)).foldl step { s with lastStatus := some status }
    { s with lastStatus := before }

/-! ## Commands that are not waited for -/

/-- The shell of a job at the time of its start, in a world that has gone on since. -/
def ofJob (s : State) (own : Own) (start : Nat) : State :=
  { toWorld := { s.toWorld with clock := start }, toOwn := own }

/-- The job that ends first among those that have not been run and end until some time: the place
in the list, the end of the job, and the state of its shell then. -/
def nextJob (run : Command → State → State) (limit : Option Nat) (s : State) :
    Option (Nat × State) :=
  let ends := s.jobs.filterMap fun j =>
    match j.waiting with
    | some (own, c) =>
      let inner := run c (s.ofJob own j.start).takeSignals
      if limit.all (inner.clock ≤ ·) then some (j.process, inner) else none
    | none => none
  ends.foldl (fun first e =>
    match first with
    | some f => if e.2.clock < f.2.clock then some e else some f
    | none => some e) none

/-- A job has ended. -/
def closeJob (s : State) (process : Nat) (inner : State) : State :=
  let clock := max s.clock inner.clock
  let close := fun (j : Job) =>
    if j.process = process then { j with ending := some inner.ending, waiting := none } else j
  { s with toWorld := { inner.toWorld with clock }, jobs := s.jobs.map close }.takeSignals.bury

/-- The jobs that end until some time are run, those that end first at first, as long as `goesOn`;
`fuel` bounds their number. -/
def settleJobsWithin (run : Command → State → State) (limit : Option Nat)
    (goesOn : State → Bool) : (fuel : Nat) → State → State
  | 0, s => s
  | fuel + 1, s =>
    if !s.jobs.any (·.waiting.isSome) || !goesOn s then s
    else match s.nextJob run limit with
      | some (process, inner) =>
        settleJobsWithin run limit goesOn fuel (s.closeJob process inner)
      | none => s

/-! ## Ends of shells -/

/-- What a shell has to do at its end is done; its status stays unless something else is said. -/
def atExit (x : Runner) (s : State) : State :=
  if s.isKilled then s
  else match s.trap? 0 with
    | none => { s with flow := .ended }
    | some action =>
      let own := { s with
        traps := s.traps.filter (·.1 ≠ 0), flow := .running, lastStatus := some s.status }
      let own := (own.runText x {} action).2
      match own.flow with
      | .ended => own
      | .failed => own
      | .killed _ => own
      | _ => { own with status := s.status, flow := .ended }

/-- A shell ends: what it has to do then is done, and its jobs come to their ends, which it does not
wait for. `depth` bounds how jobs are started by jobs. -/
def finishWithin (x : Runner) : (depth : Nat) → State → State
  | depth, s =>
    let s := s.takeSignals.atExit x
    match depth with
    | 0 => s
    | depth + 1 =>
      if s.jobs.any (·.waiting.isSome) then
        let run := fun c (inner : State) =>
          finishWithin x depth (x.command { last := true } c inner)
        let world := (s.settleJobsWithin run none (fun _ => true) (s.jobs.length + 1)).toWorld
        { s with toWorld := { world with clock := s.clock } }
      else s

/-- A shell ends. -/
def finish (x : Runner) (s : State) : State := finishWithin x 20 s

/-- A command is run to its end in a shell of its own. -/
def runToEnd (x : Runner) (c : Command) (s : State) : State :=
  finish x (x.command { last := true } c s)

/-- The jobs that end until some time are run. -/
def settleJobs (x : Runner) (limit : Option Nat) (s : State) : State :=
  if s.jobs.any (·.waiting.isSome) then
    s.settleJobsWithin (runToEnd x) limit (fun _ => true) (s.jobs.length + 1)
  else s

/-- The least number that no job has that may still be asked for. -/
def freeJobNumber (jobs : List Job) : Nat :=
  let isFree := fun n => !jobs.any fun j => j.number = n && !(j.ending.isSome && j.awaited)
  ((List.range (jobs.length + 1)).map (· + 1)).find? isFree |>.getD (jobs.length + 1)

/-- A command is started that is not waited for; it takes so many programs, and the last of them
stands for it. -/
def startJob (c : Command) (programs : Nat) (s : State) : State :=
  let inner := { s with nextProcess := s.nextProcess + programs - 1 }.child
  let s := { s with nextProcess := inner.nextProcess }
  let (n, w) := s.toWorld.attach .nothing
  let s := { s with toWorld := w }
  let own := { (inner.point 0 (some n)).toOwn with
    traps := [(2, ""), (3, "")] ++ inner.traps.filter fun t => t.1 ≠ 2 && t.1 ≠ 3 }
  let number := freeJobNumber s.jobs
  let job : Job := ⟨number, inner.process, s.clock, none, some (own, c), false⟩
  { s with jobs := s.jobs.filter (·.number ≠ number) ++ [job]
           background := some inner.process, status := 0 }

/-- A job's end is waited for: those that end before it come to their ends, too. -/
def awaitJob (x : Runner) (process : Nat) (s : State) : State :=
  let isOpen := fun (s : State) => s.jobs.any fun j => j.process = process && j.waiting.isSome
  let s := s.settleJobsWithin (runToEnd x) none isOpen (s.jobs.length + 1)
  { s with jobs := s.jobs.map fun j =>
      if j.process = process then { j with awaited := true } else j }

/-- Jobs are waited for. -/
def wait (x : Runner) (args : List Row) (s : State) : State :=
  match choices "" "" args with
  | .error e => s.fail e
  | .ok (_, []) =>
    let s := s.settleJobs x none
    { s with jobs := s.jobs.map fun j => { j with awaited := true }, status := 0 }
  | .ok (_, operands) =>
    let (s, status) := operands.foldl (fun (s, status) a =>
      if !s.isRunning then (s, status)
      else
        let job : Except String (Option Job) :=
          if a.toList.head? = some '%' then
            match s.jobOf? a with
            | some j => .ok (some j)
            | none => .error (noJob a)
          else match count? a with
            | some n => .ok (s.jobs.find? (·.process = n))
            | none => .error (noNumber a)
        match job with
        | .error e => (s.fail e, status)
        | .ok none => (s, status)
        | .ok (some j) =>
          let isFresh := j.ending.isNone
          let s := s.awaitJob x j.process
          match (s.jobs.find? (·.process = j.process)).bind (·.ending) with
          | some e => (if isFresh then s.tell e else s, e.status)
          | none => (s, status)) (s, 127)
    s.conclude status

/-! ## Shells as programs -/

/-- What the arguments of a shell ask for. -/
structure Calling where
  /-- The script is the first operand. -/
  isText : Bool := false
  /-- The script is read from the input. -/
  fromInput : Bool := false

/-- The switches in front of the operands of a shell, and the operands; `fuel` bounds them. -/
def readCalling : (fuel : Nat) → List Row → Calling → State → Calling × List Row × State
  | 0, args, k, s => (k, args, s)
  | _ + 1, [], k, s => (k, [], s)
  | fuel + 1, a :: args, k, s =>
    match a.toList with
    | ['-'] => (k, args, s)
    | ['-', '-'] => (k, args, s)
    | sign :: cs =>
      if sign ≠ '-' ∧ sign ≠ '+' then (k, a :: args, s)
      else
        let k := { k with
          isText := k.isText || cs.contains 'c', fromInput := k.fromInput || cs.contains 's' }
        let cs := cs.filter fun c => c ≠ 'c' && c ≠ 'l'
        -- what was not said yet counts as said where all switches are listed
        let isKnown := fun c => c = 'o' || switchNames.any (·.1 = some c)
        let isListed := cs.contains 'o' && args = [] && cs.all isKnown
        let s := if isListed then s.print (switchTable (sign = '-') fun _ => true) else s
        let cs := if isListed then cs.filter (· ≠ 'o') else cs
        let (s, args) := switchLetters (sign = '-') cs args s
        if s.isRunning then readCalling fuel args k s else (k, args, s)
    | [] => (k, a :: args, s)

/-- A shell runs as a program of its own. -/
def shellProgram (x : Runner) (args : List Row) (s : State) : State :=
  let s := { s.forShell with line := 0, args := [] }
  let (k, operands, s) := readCalling (args.length + 1) args {} s
  let s := if s.isRunning && s.has 'i' then s.switch true 'm' else s
  let s := if s.isRunning then s.dropControl else s
  let s :=
    if !s.isRunning then s
    else match k.isText, operands with
      | true, [] => s.fail "-c requires an argument"
      | true, text :: rest =>
        let s := match rest with
          | [] => s
          | self :: args => { s with self, args }
        let last := !k.fromInput
        let s := (s.runText x { last } text).2
        if s.isRunning && k.fromInput then readIn x s else s
      | false, [] => readIn x s
      | false, file :: rest =>
        if k.fromInput then readIn x { s with args := file :: rest }
        else
          let o : Opening := { readable := true, writable := false }
          match s.openPath o file with
          | .error e => s.fail (openFault .read file e)
          | .ok (n, s) =>
            let (text, w) := (s.toWorld.readAll n).toOption.getD ("", s.toWorld)
            (runText x {} text { s with toWorld := w, self := file, args := rest }).2
  finish x s
where
  /-- The script is read from the input. -/
  readIn (x : Runner) (s : State) : State :=
    let (text, s) := (s.readAll 0).toOption.getD ("", s)
    let asks := s.has 'i'
    let s := (runText x { asks } text s).2
    if asks && s.isRunning then s.put 2 ((if text = "" then "" else s.ask) ++ "\n") else s

/-- How often a program may hand on to another one. -/
def programLimit : Nat := 40

/-- A program is run in a state of its own; `depth` bounds how often one hands on to another. -/
def program (x : Runner) : (depth : Nat) → Launch → State → State
  | depth, l, s =>
    if shells.contains l.utility then s.shellProgram x l.args
    else match x.utility? l.utility, depth with
      | none, _ => s.withStatus 127
      | some u, 0 => u (fun _ _ s => s.withStatus 126) l.args s
      | some u, depth + 1 =>
        let start : Starter := fun name args s =>
          match Launch.find s.tree true ((s.get? "PATH").getD standardSearchPath) name args with
          | .ok l => program x depth l (s.forProgram s.inherited l.called l.args)
          | .error e => { s with status := if e = .missing then 127 else 126, flow := .failed }
        u start l.args s

/-! ## Shells of their own -/

/-- A body in a shell of its own, which is waited for. -/
def inChild (x : Runner) (body : State → State) (s : State) : State × Ending :=
  let s := s.settleJobs x (some s.clock)
  let inner := finish x (body s.child)
  let s := (s.rejoin inner.toWorld).settleJobs x (some inner.clock)
  let e := inner.ending
  ((s.tell e).withStatus e.status, e)

/-- What a command puts out in a shell of its own. -/
def capture (x : Runner) : Capture := fun body s =>
  match body with
  | none => ("", s)
  | some c =>
    let (n, w) := s.toWorld.attach (.pipe [] [])
    let before := s.status
    let run := fun (inner : State) => x.command { last := true } c (inner.point 1 (some n))
    let (s, e) := inChild x run { s with toWorld := w }
    let (text, w) := (s.toWorld.readAll n).toOption.getD ("", s.toWorld)
    let w := { w with channels := w.channels.filter (·.1 ≠ n) }
    (text, { s with toWorld := w, outputStatus := e.status, status := before })

/-- Commands, each of which reads what the one before puts out. They all start at once, and the last
one that ends ends them all. -/
def pipeFrom (x : Runner) (m : RunMode) (start : Nat) (input : Option Nat) :
    List Command → State → State
  | [], s => s
  | c :: cs, s =>
    let (n, w) := s.toWorld.attach (.pipe [] [])
    let s := { s with toWorld := if cs = [] then s.toWorld else w }
    let wire := fun (inner : State) =>
      let inner := match input with
        | some i => inner.point 0 (some i)
        | none => inner
      if cs = [] then inner else inner.point 1 (some n)
    let latest := s.clock
    let run := fun (inner : State) => x.command { m with last := true } c (wire inner)
    let (s, _) := inChild x run { s with clock := start }
    let s := { s with clock := max latest s.clock }
    let s := match input with
      | some i => { s with channels := s.channels.filter (·.1 ≠ i) }
      | none => s
    pipeFrom x m start (some n) cs s

/-! ## Programs -/

/-- A program is run in the place of the shell. -/
def replace (x : Runner) (l : Launch) (s : State) : State :=
  let inner := program x programLimit l (s.forProgram s.environment l.called l.args)
  let inner := { s with toWorld := inner.toWorld, status := inner.ending.status, traps := []
                        flow := inner.flow }.takeSignals
  if inner.isKilled then inner else { inner with flow := .ended }

/-- What is done about a program that cannot be run after all. -/
def refuse (name : Row) (e : FileError) (s : State) : State :=
  let isAbsent := e = .missing ∨ e = .notDirectory ∨ e = .nameTooLong ∨ e = .tooManyLinks
  { s.complain (name ++ ": " ++ execFault e) with
    status := if isAbsent then 127 else 126, flow := .ended }

/-- The program at a path is run in the place of the shell; it goes by a name. -/
def execute (x : Runner) (name path : Row) (args : List Row) (s : State) : State :=
  match Launch.ofScript s.tree path args with
  | .ok l => replace x { l with called := if l.called = path then name else l.called } s
  | .error e => refuse name e s

/-- Another program takes the place of the shell. -/
def exec (x : Runner) (args : List Row) (s : State) : State :=
  match args with
  | [] => s.withStatus 0
  | name :: args =>
    if name.toList.contains '/' then execute x name name args s
    else match s.locate name .missing (Launch.directories s.searchPath) with
      | .ok path => execute x name path args s
      | .error e => refuse name e s

/-! ## Commands of the shell that run others -/

/-- A named body is run with parameters of its own. -/
def callBody (x : Runner) (m : RunMode) (body : Body) (args : List Row) (s : State) : State :=
  if 1000 ≤ s.calls then s.fail "Maximum function recursion depth (1000) reached"
  else
    let inner := x.command { tested := m.tested } body.command
      { s with args, loops := 0, calls := s.calls + 1, optionIndex := 1, optionOffset := none }
    { inner with
      args := s.args, loops := s.loops, calls := s.calls
      optionIndex := s.optionIndex, optionOffset := s.optionOffset
      flow := match inner.flow with
        | .returned _ => .running
        | f => f }

/-- Where a script stands that is to be read in: a bare name is searched for. -/
def sourcePath? (s : State) (name : Row) : Option Row :=
  if name.toList.contains '/' then some name
  else ((Launch.directories s.searchPath).map (Launch.pathIn · name)).find? fun path =>
    s.tree.isFile (ofRow path)

/-- A shell that reads in scripts one within the other without end is ended by a signal. -/
def sourceLimit : Nat := 1000

/-- A script is read in and run. -/
def source (x : Runner) (args : List Row) (s : State) : State :=
  match choices "" "" args with
  | .error e => s.fail e
  | .ok (_, []) => s.withStatus 0
  | .ok (_, name :: _) =>
    match s.sourcePath? name with
    | none => s.fail (name ++ ": not found")
    | some path =>
      if sourceLimit ≤ s.sources then { s with flow := .killed 11 }
      else
      let o : Opening := { readable := true, writable := false }
      match s.openPath o path with
      | .error e => s.fail (openFault .read path e)
      | .ok (n, s) =>
        let (text, w) := (s.toWorld.readAll n).toOption.getD ("", s.toWorld)
        let s := { s with toWorld := w }
        let inner := act x {} text { s with title := some path, sources := s.sources + 1 }
        { inner with
          title := s.title, sources := s.sources
          flow := match inner.flow with
            | .returned _ => .running
            | f => f }

/-- The command of a name that is the shell's own. -/
def callBuiltin (x : Runner) (m : RunMode) (name : Row) (args : List Row) (s : State) : State :=
  if name = "eval" then act x { tested := m.tested } (" ".intercalate args) s
  else if name = "." then source x args s
  else if name = "exec" then exec x args s
  else if name = "wait" then wait x args s
  else match builtin? name with
    | some run => run args s
    | none => s.withStatus 127

/-! ## Simple commands -/

/-- The fields of words up to the first word that has some, and the words behind it. -/
def firstFields (x : Capture) : List Word → State → List Row × List Word × State
  | [], s => ([], [], s)
  | w :: ws, s =>
    let (fields, s) := s.fieldsOf x w
    if fields ≠ [] || !s.isRunning then (fields, ws, s) else firstFields x ws s

/-- What stands behind the name of the command that runs others: the fields from the next name on,
the words that were not read, and whether the standard path is searched. None if nothing is to be
run. In front stand the fields that were read; `fuel` bounds their number. -/
def behindCommand (x : Capture) : (fuel : Nat) → (standard : Bool) → (fields read : List Row) →
    List Word → State → Option (Bool × List Row) × List Row × List Word × State
  | 0, _, _, read, ws, s => (none, read, ws, s)
  | fuel + 1, standard, fields, read, ws, s =>
    -- more fields are read where none are left
    let (fields, read, ws, s) := match fields with
      | [] =>
        let (more, ws, s) := firstFields x ws s
        (more, read ++ more, ws, s)
      | fields => (fields, read, ws, s)
    match fields with
    | [] => (none, read, ws, s)
    | a :: rest =>
      match a.toList with
      | ['-'] => (some (standard, a :: rest), read, ws, s)
      | ['-', '-'] =>
        match rest with
        | [] =>
          let (more, ws, s) := firstFields x ws s
          if more = [] then (none, read, ws, s)
          else (some (standard, more), read ++ more, ws, s)
        | rest => (some (standard, rest), read, ws, s)
      | '-' :: letters =>
        if letters.all (· = 'p') then behindCommand x fuel true rest read ws s
        else (none, read, ws, s)
      | _ => (some (standard, a :: rest), read, ws, s)

/-- What a simple command comes down to before its arguments are known. -/
structure Target where
  fields : List Row
  /-- The words that were not read yet. -/
  words : List Word
  /-- It is a command of the shell, and if so, whether its faults are faults of the shell. -/
  special : Option Bool := none
  isBuiltin : Bool := false
  noBodies : Bool := false
  standard : Bool := false

/-- The target behind all commands that run others; `fuel` bounds their number. -/
def resolveTarget (x : Capture) : (fuel : Nat) → Target → State → Target × State
  | 0, t, s => (t, s)
  | fuel + 1, t, s =>
    match t.fields with
    | [] => (t, s)
    | name :: rest =>
      let isOwn := specialBuiltins.contains name || plainBuiltins.contains name
      let hasBody := !t.noBodies && s.bodies.any (·.name = name)
      if !isOwn || (hasBody && !specialBuiltins.contains name) then
        ({ t with isBuiltin := false }, s)
      else
        let t := { t with
          isBuiltin := true, special := t.special.or (some (specialBuiltins.contains name)) }
        if name ≠ "command" then (t, s)
        else
          let size := rest.length + t.words.length + 2
          match behindCommand x size t.standard rest rest t.words s with
          | (none, read, ws, s) => ({ t with fields := name :: read, words := ws }, s)
          | (some (standard, fields), _, ws, s) =>
            if !s.isRunning then (t, s)
            else resolveTarget x fuel { t with fields, words := ws, standard, noBodies := true } s

/-- The commands whose arguments are read like assignments. -/
def assigningBuiltins : List String := ["alias", "export", "local", "readonly"]

/-- The fields of arguments; assignments among them are not cut if `assigning`. -/
def argumentFields (x : Capture) (assigning : Bool) (ws : List Word) (s : State) :
    List Row × State :=
  ws.foldl (fun (done, s) w =>
    if !s.isRunning then (done, s)
    else match if assigning then w.assigned? else none with
      | some (name, value) =>
        let (text, s) := s.textOf x { tilde := true, assigning := true } value
        (done ++ [name ++ "=" ++ text], s)
      | none =>
        let (fields, s) := s.fieldsOf x w
        (done ++ fields, s)) ([], s)

/-- The assignments in front of a command, for the command alone if `alone`; their texts are
returned. -/
def assignAll (x : Capture) (alone exported : Bool) (assignments : List (String × Word))
    (s : State) : List Row × State :=
  assignments.foldl (fun (done, s) (name, w) =>
    if !s.isRunning then (done, s)
    else
      let (value, s) := s.textOf x { tilde := true, assigning := true } w
      let text := name ++ "=" ++ value
      if !s.isRunning then (done, s)
      else if alone then (done ++ [text], hide true s text)
      else (done ++ [text], s.orFail (s.assign exported name value))) ([], s)

/-- The command is shown before it is run, where that is asked for; `channel` is where it goes. -/
def trace (x : Capture) (channel : Option Nat) (texts : List Row) (s : State) : State :=
  if !s.has 'x' then s
  else
    let (front, s) := match s.get? "PS4" with
      | some text =>
        if text.toList.any fun c => c = '$' || c = '\x60' then
          match readDocument (fun c => (Cursor.command c)) ⟨0, "\x00", true, false⟩
              { rest := text.toList } with
          | .ok c =>
            match c.documents.lookup 0 with
            | some d =>
              let quiet := { s with switches := s.switches.filter (· ≠ 'x') }
              let (r, s') := quiet.textOf x { quoted := true } d.text
              (r, { s' with switches := s.switches })
            | none => (text, s)
          | .error _ => (text, s)
        else (text, s)
      | none => ("", s)
    match channel with
    | some n =>
      match s.toWorld.write n (front ++ " ".intercalate texts ++ "\n") with
      | .ok w => { s with toWorld := w }
      | .error _ => s
    | none => s

/-- A command of the shell is run under its own name; its faults end the shell only if it is a
special one. -/
def runBuiltin (x : Runner) (m : RunMode) (special : Bool) (name : Row) (args : List Row)
    (s : State) : State :=
  let inner := callBuiltin x m name args { s with title := some name, muted := false }
  let inner :=
    if inner.muted && !inner.isKilled then
      let told := inner.complain (name ++ ": I/O error")
      { told with status := if told.status = 0 then 1 else told.status, muted := false }
    else inner
  let inner := { inner with title := s.title, muted := s.muted }
  if inner.flow = .failed && !special then
    { inner with flow := .running, descriptors := s.descriptors }
  else inner

/-- A program is run; the shell goes on after it, unless this was the last command. -/
def runProgram (x : Runner) (m : RunMode) (standard : Bool) (name : Row) (args : List Row)
    (s : State) : State :=
  let path := if standard then standardSearchPath else s.searchPath
  let hasTraps := s.traps.any (·.2 ≠ "")
  match s.senseOf false path name with
  | .program found =>
    let s := s.remember name found
    if m.last && !hasTraps then execute x name found args s
    else
      let inner := fun (inner : State) => execute x name found args inner
      (inChild x inner s).1
  | .unknown e => (s.complain (name ++ ": " ++ execFault e)).withStatus 127
  | _ => s.withStatus 127

/-- What a simple command does when its arguments are known and its descriptors lead where they
should. -/
def runTarget (x : Runner) (m : RunMode) (t : Target) (fields : List Row) (s : State) : State :=
  match fields with
  | [] => s.withStatus s.outputStatus
  | name :: args =>
    if t.isBuiltin then runBuiltin x m (t.special = some true) name args s
    else match if t.noBodies then none else s.bodies.find? (·.name = name) with
      | some body => callBody x m body args s
      | none => runProgram x m t.standard name args s

/-- What a function hid is there again, down to some depth; `fuel` bounds it. -/
def uncoverTo (depth : Nat) : (fuel : Nat) → State → State
  | 0, s => s
  | fuel + 1, s => if depth < s.hidden.length then uncoverTo depth fuel s.uncover else s

/-- A simple command. -/
def simple (x : Runner) (m : RunMode) (line : Nat) (assignments : List (String × Word))
    (words : List Word) (rs : List Redirection) (s : State) : State :=
  let get := capture x
  let s := { s with line, outputStatus := 0 }
  let depth := s.hidden.length
  let (fields, rest, s) := firstFields get words s
  let (t, s) := if s.isRunning then resolveTarget get 1000 ⟨fields, rest, none, false, false, false⟩ s
    else (⟨fields, rest, none, false, false, false⟩, s)
  if !s.isRunning then s
  else
    let assigning := t.isBuiltin && (t.fields.head?.any assigningBuiltins.contains)
    let (more, s) := argumentFields get assigning t.words s
    let fields := t.fields ++ more
    let alone := fields ≠ [] && t.special ≠ some true
    let exported := t.isBuiltin && fields.head? = some "exec" && 1 < fields.length
    let special := t.special = some true
    let (ws, s) := wires get rs s
    if !s.isRunning then s
    else
      let before := s
      let s := if alone then { s with hidden := [] :: s.hidden } else s
      let s := connect get ws s
      let s :=
        if s.flow = .failed then
          if special then s else { s with flow := .running, status := 2 }
        else if !s.isRunning then s
        else
          let (texts, s) := assignAll get alone exported assignments s
          if !s.isRunning then s
          else runTarget x m t fields (trace get (before.channel? 2) (texts ++ fields) s)
      match s.flow with
      | .ended => s
      | .killed _ => s
      | .failed => uncoverTo depth (s.hidden.length + 1) (s.restore before ws)
      | _ =>
        let keeps := t.isBuiltin && fields.head? = some "exec"
        uncoverTo depth (s.hidden.length + 1) (if keeps then s else s.restore before ws)

/-! ## Compound commands -/

/-- What is left to do behind a body of a loop: whether loops are left, and the state. -/
def behindRound (s : State) : Bool × State :=
  match s.flow with
  | .leaving levels again =>
    if levels ≤ 1 then (!again, { s with flow := .running })
    else (true, { s with flow := .leaving (levels - 1) again })
  | .running => (false, s)
  | _ => (true, s)

/-- A bound on the rounds of a loop. -/
def roundLimit : Nat := 300000

/-- Rounds of a loop with a test; a loop that does not end is taken for one that nobody waits for
any more. -/
def rounds (test body : State → State) (inverted : Bool) : (fuel : Nat) → (status : Nat) → State →
    State
  | 0, _, s => { s with flow := .killed 13 }
  | fuel + 1, status, s =>
    let s := test s
    if s.isRunning then
      if (s.status = 0) == inverted then s.withStatus status
      else
        let s := body s
        let status := s.status
        match behindRound s with
        | (true, s) => s.withStatus status
        | (false, s) => rounds test body inverted fuel status s
    else match s.flow with
      | .returned _ => s
      | .leaving _ _ =>
        match behindRound s with
        | (true, s) => s.withStatus status
        | (false, s) => rounds test body inverted fuel status s
      | _ => s

/-- A loop over fields. -/
def each (x : Runner) (m : RunMode) (name : String) (body : Command) : List Row → (status : Nat) →
    State → State
  | [], status, s => s.withStatus status
  | a :: rest, _, s =>
    let s := s.set name a
    if !s.isRunning then s
    else
      let s := x.command { tested := m.tested } body s
      match behindRound s with
      | (true, s) => s
      | (false, s) => each x m name body rest s.status s

/-- The body of the first arm that has a word of which a text has the form. -/
def chooseArm (x : Capture) (text : Row) : List Arm → State → Option (Option Command) × State
  | [], s => (none, s)
  | (ps, body) :: arms, s =>
    let (hit, s) := ps.foldl (fun (hit, s) w =>
      if hit || !s.isRunning then (hit, s)
      else
        let (pattern, s) := s.patternOf x w
        (s.isRunning && isMatch pattern text.toList, s)) (false, s)
    if hit then (some body, s) else if s.isRunning then chooseArm x text arms s else (none, s)

/-- A body in a shell of its own, with redirections. -/
def subshell (x : Runner) (m : RunMode) (line : Nat) (body : Command) (rs : List Redirection)
    (s : State) : State :=
  let s := { s with line }
  let (ws, s) := wires (capture x) rs s
  let run := fun (s : State) =>
    let s := connect (capture x) ws s
    if s.isRunning then x.command { m with last := true } body s else s
  if !s.isRunning then s
  else if m.last && !s.traps.any (·.2 ≠ "") then run s
  else (inChild x run s).1

/-- A command with redirections behind it. -/
def redirected (x : Runner) (m : RunMode) (line : Nat) (body : Command) (rs : List Redirection)
    (s : State) : State :=
  let s := { s with line }
  let (ws, s) := wires (capture x) rs s
  if !s.isRunning then s
  else
    let before := s
    let s := connect (capture x) ws s
    let s :=
      if s.flow = .failed then { s with flow := .running, status := 2 }
      else if s.isRunning then x.command { tested := m.tested } body s
      else s
    match s.flow with
    | .ended => s
    | .killed _ => s
    | _ => s.restore before ws

/-- A shell that is left early has a status, but no test of it. -/
def invert (s : State) : State :=
  match s.flow with
  | .running => s.withStatus (if s.status = 0 then 1 else 0)
  | .leaving _ _ => s.withStatus (if s.status = 0 then 1 else 0)
  | .returned _ => s.withStatus (if s.status = 0 then 1 else 0)
  | _ => s

/-- The failure of such a command ends a strict shell. -/
def isChecked : Command → Bool
  | .simple _ _ _ _ => true
  | .subshell _ _ _ => true
  | .background _ _ _ => true
  | .pipeline _ _ => true
  | _ => false

/-- A command, apart from what holds for all of them. -/
def perform (x : Runner) (m : RunMode) (c : Command) (s : State) : State :=
  let tested : RunMode := { tested := true }
  match c with
  | .simple line assignments words rs => simple x m line assignments words rs s
  | .redirected line body rs => redirected x m line body rs s
  | .subshell line body rs => subshell x m line body rs s
  | .background line body rs =>
    startJob (if rs.isEmpty then body else .redirected line body rs) 1 { s with line }
  | .pipeline commands true => pipeFrom x m s.clock none commands s
  | .pipeline commands false => startJob (.pipeline commands true) commands.length s
  | .next first second =>
    let s := x.command { tested := m.tested } first s
    if s.isRunning then x.command m second s else s
  | .both first second =>
    let s := x.command tested first s
    if s.isRunning && s.status = 0 then x.command m second s else s
  | .either first second =>
    let s := x.command tested first s
    if s.isRunning && s.status ≠ 0 then x.command m second s else s
  | .not body => invert (x.command tested body s)
  | .cond test yes no =>
    let s := x.command tested test s
    if !s.isRunning then s
    else if s.status = 0 then x.command m yes s
    else match no with
      | some c => x.command m c s
      | none => s.withStatus 0
  | .loop inverted test body =>
    let inner := rounds (x.command tested test) (x.command { tested := m.tested } body) inverted
      roundLimit 0 { s with loops := s.loops + 1 }
    { inner with loops := s.loops }
  | .each line name fields body =>
    let (values, s) := { s with line }.arguments (capture x) fields
    if !s.isRunning then s
    else
      let inner := each x m name body values 0 { s with loops := s.loops + 1 }
      { inner with loops := s.loops }
  | .case line subject arms =>
    let (text, s) := { s with line }.textOf (capture x) { tilde := true } subject
    if !s.isRunning then s
    else match chooseArm (capture x) text arms s with
      | (some (some body), s) => x.command m body s
      | (_, s) => if s.isRunning then s.withStatus 0 else s
  | .define line name body =>
    { s with
      line, status := 0
      bodies := ⟨name, body⟩ :: s.bodies.filter (·.name ≠ name) }

/-- Any command: signals are looked at before and after it, and the shell may end with it. -/
def step (x : Runner) (m : RunMode) (c : Command) (s : State) : State :=
  let s := runTraps x s.takeSignals
  if !s.isRunning || s.has 'n' then s
  else
    let s := runTraps x (perform x m c s).takeSignals
    let isStrict := isChecked c && !m.tested && s.has 'e' && s.status ≠ 0
    match s.flow with
    | .failed => s
    | .ended => s
    | .killed _ => s
    | _ => if m.last || isStrict then { s with flow := .ended } else s

end State

/-- A command is run; `fuel` bounds how deep commands are run within one another. -/
def Command.run (utility? : String → Option Utility) : (fuel : Nat) → RunMode → Command → State →
    State
  | 0, _, _, s => { s with flow := .killed 9 }
  | fuel + 1, m, c, s => s.step ⟨utility?, Command.run utility? fuel⟩ m c

end Shell

end Testbench
