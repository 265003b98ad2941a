import Testbench.Config.Decode
import Testbench.Tree.Operations

/-!
# Where configurations come from

A configuration that is asked for has to be there; otherwise one of the usual name is taken if it
is there, and the standard configuration if it is not (specification, §8). The environment asks for
one too, as long as the value of its variable is text.

- `Config.Variable`: the variable of the environment that names a configuration.
- `Config.loadFile`: the configuration in a file.
- `Config.source`: the file that the configuration is taken from, if any.
- `Config.load`: the configuration for a run.
-/

namespace Testbench

namespace Config

/-- The usual name of a configuration. -/
def usualName : String := "grdb-test-runner.toml"

/-- The name of the variable of the environment that names a configuration. -/
def variableName : String := "GRDB_TEST_RUNNER_CONFIG"

/-- The variable of the environment that names a configuration. Its value is made of octets, which
need not be text. -/
inductive Variable where
  | unset
  | set (octets : ByteArray)
  deriving DecidableEq

namespace Variable

/-- The value of the variable, if there is one and it is text. -/
def text? : Variable → Option String
  | unset => none
  | set octets => String.fromUTF8? octets

/-- The variable with a text as its value, or without any value. -/
def ofText? : Option String → Variable
  | none => unset
  | some value => set value.toUTF8

instance : Coe (Option String) Variable := ⟨ofText?⟩

@[simp] theorem text?_ofText? : ∀ value, (ofText? value).text? = value
  | none => rfl
  | some value => dif_pos value.isValidUTF8

end Variable

/-- The most octets in a configuration. -/
def sizeLimit : Nat := 1024 * 1024

/-- The fault of the path of a configuration. -/
def ownPathFault? (path : String) : Option Fault :=
  if pathLimit < path.utf8ByteSize then some .ownPathTooLong
  else if hasLongSegment path then some .ownSegmentTooLong
  else none

/-- The configuration in a file. -/
def loadFile (t : Tree) (path : String) : Except ConfigError Config :=
  match ownPathFault? path with
  | some f => .error (.invalid f)
  | none =>
    match t.read path with
    | .error e => .error (.unreadable (path ++ ": " ++ e.message))
    | .ok octets =>
      if sizeLimit < octets.size then .error (.invalid .oversized)
      else match String.fromUTF8? octets with
        | none => .error (.invalid .notText)
        | some text => parse text

/-- A file that was asked for has to be there. -/
def required (t : Tree) (path : String) : Except ConfigError String :=
  match ownPathFault? path with
  | some f => .error (.invalid f)
  | none =>
    if t.isFile path then .ok path
    else .error (.unreadable ("config file not found: " ++ path))

/-- The file that the configuration is taken from: the one asked for, else the one that the
environment names, else the one of the usual name, if it is there. A variable whose value is no text
names none. -/
def source (t : Tree) (asked : Option String) (named : Variable) :
    Except ConfigError (Option String) :=
  match asked with
  | some path => (required t path).map some
  | none =>
    match (named.text?.map Text.trim).filter (· ≠ "") with
    | some path =>
      if pathLimit < path.utf8ByteSize then .error (.invalid .ownPathTooLong)
      else (required t path).map some
    | none => .ok (if t.isFile usualName then some usualName else none)

/-- The configuration for a run. -/
def load (t : Tree) (asked : Option String) (named : Variable) : Except ConfigError Config :=
  match source t asked named with
  | .error e => .error e
  | .ok none => .ok standard
  | .ok (some path) => loadFile t path

end Config

end Testbench
