import Testbench.Plan

/-!
# Command lines

What the arguments of the program ask for (specification, §6). They are read from left to right, and
the first one that decides the answer ends the reading.

- `CommandLine.Flag`, `CommandLine.Setting`: the switches without and with a value.
- `CommandLine.Request`: a run, the help text or the version.
- `CommandLine.UsageError`: why arguments make no request.
- `CommandLine.read`: the request that arguments make.
-/

namespace Testbench

namespace CommandLine

/-! ## Switches -/

/-- A switch without a value. -/
inductive Flag where
  | packageOnly
  | coverage
  | skipSqlite
  | clean
  | verbose
  deriving DecidableEq, Repr

/-- A switch with a value. -/
inductive Setting where
  | reportPath
  | filter
  | config
  deriving DecidableEq, Repr

namespace Flag

/-- All flags, in the order in which they are described. -/
def all : List Flag := [packageOnly, coverage, skipSqlite, clean, verbose]

/-- The name behind the two dashes. -/
def name : Flag → String
  | packageOnly => "package-only"
  | coverage => "coverage"
  | skipSqlite => "skip-sqlite"
  | clean => "clean"
  | verbose => "verbose"

/-- The flag of a name. -/
def ofName? (name : String) : Option Flag := all.find? (·.name = name)

theorem ofName?_name (f : Flag) : ofName? f.name = some f := by cases f <;> rfl

end Flag

namespace Setting

/-- All settings, in the order in which they are described. -/
def all : List Setting := [reportPath, filter, config]

/-- The name behind the two dashes. -/
def name : Setting → String
  | reportPath => "report-path"
  | filter => "filter"
  | config => "config"

/-- The setting of a name. -/
def ofName? (name : String) : Option Setting := all.find? (·.name = name)

/-- A path is never empty; a filter may be. -/
def takesEmpty : Setting → Bool
  | filter => true
  | _ => false

theorem ofName?_name (s : Setting) : ofName? s.name = some s := by cases s <;> rfl

end Setting

/-! ## Requests -/

/-- What a command line asks for. -/
inductive Request where
  | run (o : Options) (config : Option String)
  | help
  | version
  deriving DecidableEq, Repr

/-- Why arguments make no request. -/
inductive UsageError where
  /-- An argument that is no switch, or an unknown one. -/
  | unexpected (arg : String)
  /-- A flag with a value. -/
  | needless (name : String)
  /-- A switch that was given before. -/
  | repeated (name : String)
  /-- A setting without a value. -/
  | incomplete (name : String)
  deriving DecidableEq, Repr

/-- What is reported of arguments that make no request. -/
def UsageError.message : UsageError → String
  | unexpected arg => "unexpected argument '" ++ arg ++ "' found"
  | needless name => "unexpected value for '--" ++ name ++ "' found; no more were expected"
  | repeated name => "the argument '--" ++ name ++ "' cannot be used multiple times"
  | incomplete name => "a value is required for '--" ++ name ++ "' but none was supplied"

/-- The switches given so far. -/
structure Given where
  flags : List Flag := []
  values : List (Setting × String) := []
  deriving DecidableEq, Repr

/-- The run that the given switches ask for. -/
def Given.request (g : Given) : Request :=
  let standard : Options := {}
  .run
    { packageOnly := g.flags.contains .packageOnly
      coverage := g.flags.contains .coverage
      reportPath := (g.values.lookup .reportPath).getD standard.reportPath
      skipSqlite := g.flags.contains .skipSqlite
      filter := g.values.lookup .filter
      clean := g.flags.contains .clean
      verbose := g.flags.contains .verbose }
    (g.values.lookup .config)

/-- One more flag. -/
def Given.raise (g : Given) (f : Flag) : Except UsageError Given :=
  if f ∈ g.flags then .error (.repeated f.name) else .ok { g with flags := f :: g.flags }

/-- One more value. -/
def Given.put (g : Given) (s : Setting) (value : String) : Except UsageError Given :=
  if (g.values.lookup s).isSome then .error (.repeated s.name)
  else if value = "" ∧ s.takesEmpty = false then .error (.incomplete s.name)
  else .ok { g with values := (s, value) :: g.values }

/-! ## Reading -/

/-- An argument taken by its form. -/
inductive Form where
  /-- Two dashes and nothing else: no switches follow. -/
  | close
  /-- A name behind two dashes, and the value behind an equals sign. -/
  | long (name : String) (value : Option String)
  /-- Letters behind one dash; the first one decides. -/
  | short (letter : Char)
  /-- Anything else, a lone dash included. -/
  | bare
  deriving DecidableEq, Repr

/-- The form of an argument. -/
def Form.of (arg : String) : Form :=
  match arg.toList with
  | ['-', '-'] => .close
  | '-' :: '-' :: cs =>
    let name := String.ofList (cs.takeWhile (· != '='))
    match cs.dropWhile (· != '=') with
    | _ :: value => .long name (some (String.ofList value))
    | [] => .long name none
  | '-' :: c :: _ => .short c
  | _ => .bare

/-- What one more argument leads to. -/
inductive Step where
  /-- The arguments behind it are read; a setting may wait for its value. -/
  | more (g : Given) (waiting : Option Setting)
  /-- Only the end may follow. -/
  | last (g : Given)
  /-- The answer is decided. -/
  | decided (r : Request)
  deriving DecidableEq, Repr

/-- A switch given by its name. -/
def stepLong (g : Given) (arg name : String) (value : Option String) :
    Except UsageError Step :=
  if name = "help" ∨ name = "version" then
    match value with
    | some _ => .error (.needless name)
    | none => .ok (.decided (if name = "help" then .help else .version))
  else match Flag.ofName? name, Setting.ofName? name with
    | some f, _ =>
      match value with
      | some _ => .error (.needless name)
      | none => (g.raise f).map (.more · none)
    | none, some s =>
      match value with
      | some v => (g.put s v).map (.more · none)
      | none => .ok (.more g (some s))
    | none, none => .error (.unexpected arg)

/-- One more argument. The value of a waiting setting is never a switch. -/
def step (g : Given) (waiting : Option Setting) (arg : String) : Except UsageError Step :=
  match waiting, Form.of arg with
  | some s, .bare => (g.put s arg).map (.more · none)
  | some s, _ => .error (.incomplete s.name)
  | none, .close => .ok (.last g)
  | none, .short c =>
    if c = 'h' then .ok (.decided .help)
    else if c = 'V' then .ok (.decided .version)
    else .error (.unexpected arg)
  | none, .bare => .error (.unexpected arg)
  | none, .long name value => stepLong g arg name value

/-- The request that arguments make, given the switches before them and the setting that waits for
its value. -/
def readFrom : Given → (waiting : Option Setting) → List String → Except UsageError Request
  | g, none, [] => .ok g.request
  | _, some s, [] => .error (.incomplete s.name)
  | g, waiting, arg :: rest =>
    match step g waiting arg with
    | .error e => .error e
    | .ok (.more g waiting) => readFrom g waiting rest
    | .ok (.last g) =>
      match rest with
      | [] => .ok g.request
      | extra :: _ => .error (.unexpected extra)
    | .ok (.decided r) => .ok r

/-- The request that arguments make. -/
def read (args : List String) : Except UsageError Request := readFrom {} none args

end CommandLine

end Testbench
