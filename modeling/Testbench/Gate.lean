import Testbench.Session
import Testbench.Version

/-!
# The toolchain gate

A run only goes on with a toolchain that can be started and states a version that is new enough.
The gate is the environment prober of the specification (§4.1).

The version is searched for with an expression that is put together from the banner. The expression
is taken to be one that can be read: a banner so large that it would be refused
(`Version.findBy` with a scanner that fails) has no error of its own among those of `GateError`.

- `Gate`: what is asked of the toolchain.
- `GateError`: why a toolchain is turned away.
- `Gate.evaluate`: the version that an output states, if it will do.
- `Gate.probe`: the toolchain is asked for its version.
-/

namespace Testbench

/-- What is asked of the toolchain. -/
structure Gate where
  program : String
  /-- The text in front of the version, the `version_prefix` of a configuration. -/
  banner : String
  /-- The least major number that will do, the `min_major_version` of a configuration. -/
  minMajor : Nat
  /-- The project that needs the toolchain. -/
  project : String
  deriving DecidableEq, Repr

/-- Why a toolchain is turned away. -/
inductive GateError where
  /-- The program cannot be started, or fails to state its version. -/
  | unavailable (program : String)
  /-- The output states no version. -/
  | unrecognized (program output : String)
  /-- The version is too old. -/
  | tooOld (program : String) (required : Nat) (found : String)
  deriving DecidableEq, Repr

/-- What is reported of a toolchain that is turned away. -/
def GateError.message : GateError → String
  | unavailable program => program ++ " is not installed or not in PATH"
  | unrecognized program output => "unrecognized " ++ program ++ " version output: " ++ output
  | tooOld program required found =>
    program ++ " " ++ toString required ++ "+ is required (found " ++ found ++ ")"

namespace Gate

/-- The version that an output states, if it will do. -/
def evaluate (g : Gate) (output : String) : Except GateError Version :=
  match Version.find? g.banner output with
  | none => .error (.unrecognized g.program (Text.trim output))
  | some v => if v.major < g.minMajor then .error (.tooOld g.program g.minMajor v.number) else .ok v

/-- The command that asks for the version. -/
def command (g : Gate) : Command := { program := g.program, args := ["--version"] }

/-- What the toolchain has to be, as it is reported when it is turned away. -/
def requirement (g : Gate) : String :=
  g.program ++ " " ++ toString g.minMajor ++ "+ is required to build " ++ g.project

/-- The lines that report a toolchain which stated its version but was turned away. -/
def refusal (g : Gate) : GateError → List Line
  | .tooOld _ _ _ => [⟨.error, g.requirement⟩]
  | e => [⟨.error, g.requirement⟩, ⟨.error, e.message⟩]

/-- The toolchain is asked for its version, which is judged. -/
def probe (g : Gate) (x : Executor) (s : Session) : Except GateError Version × Session :=
  let s := s.say .step ("Checking " ++ g.program ++ " installation...")
  let (outcome, s) := s.execute x g.command
  if outcome.success then
    let s := s.say .success (g.program ++ " version: " ++ Text.trim outcome.stdout)
    match g.evaluate outcome.stdout with
    | .ok v => (.ok v, s)
    | .error e => (.error e, s.emit (g.refusal e))
  else
    let e := GateError.unavailable g.program
    (.error e, s.say .error e.message)

end Gate

end Testbench
