import Testbench.Shell.Descriptor
import Testbench.Shell.Expansion

/-!
# Redirections

Where the descriptors of a command lead.

- `Shell.Wire`: a redirection whose words were expanded.
- `Shell.State.wires`, `Shell.State.connect`: redirections expanded, and carried out.
- `Shell.State.restore`: the descriptors as they were before.

Part of the host that `Executor.host` follows; no result on runs depends on it.
-/

namespace Testbench

namespace Shell

open Text

/-- A redirection whose words were expanded. -/
inductive Wire where
  | file (descriptor : Nat) (way : Way) (path : Row)
  | copy (descriptor : Nat) (source : Option Nat)
  | document (descriptor number : Nat)
  deriving DecidableEq, Repr

/-- The descriptor that a redirection is about. -/
def Wire.descriptor : Wire → Nat
  | file d _ _ => d
  | copy d _ => d
  | document d _ => d

namespace State

/-- What is said of a file that could not be opened or made. -/
def openFault (way : Way) (path : Row) (e : FileError) : String :=
  let absent := e = .missing ∨ e = .notDirectory
  if way = .read then
    "cannot open " ++ path ++ ": " ++ if absent then "No such file" else e.reason
  else
    "cannot create " ++ path ++ ": " ++ if absent then "Directory nonexistent" else e.reason

/-- A redirection with its words expanded. -/
def wireOf (x : Capture) (r : Redirection) (s : State) : Option Wire × State :=
  match r with
  | .file d way path =>
    let (path, s) := s.textOf x { tilde := true } path
    (some (.file d way path), s)
  | .copy d source => (some (.copy d source), s)
  | .document d n => (some (.document d n), s)
  | .copyNamed d source =>
    let (fields, s) := s.fieldsOf x source
    if !s.isRunning then (none, s)
    else
      let text := fields.head?.getD ""
      if text = "-" then (some (.copy d none), s)
      else match text.toList with
        | [c] =>
          if c.isDigit then (some (.copy d (some (digitValue c))), s)
          else (none, { s with line := s.reached }.fail "Syntax error: Bad fd number")
        | _ => (none, { s with line := s.reached }.fail "Syntax error: Bad fd number")

/-- Redirections with their words expanded. -/
def wires (x : Capture) (rs : List Redirection) (s : State) : List Wire × State :=
  rs.foldl (fun (done, s) r =>
    if s.isRunning then
      let (w, s) := wireOf x r s
      (done ++ w.toList, s)
    else (done, s)) ([], s)

/-- How a file is opened for a redirection. -/
def openingOf (s : State) : Way → Opening
  | .read => { readable := true, writable := false }
  | .write =>
    { readable := false, writable := true, create := true, truncate := !s.has 'C'
      exclusive := s.has 'C' }
  | .force => { readable := false, writable := true, create := true, truncate := true }
  | .append => { readable := false, writable := true, create := true, append := true }
  | .readWrite => { readable := true, writable := true, create := true }

/-- A redirection carried out. -/
def connectOne (x : Capture) (w : Wire) (s : State) : State :=
  match w with
  | .file d way path =>
    match s.openPath (s.openingOf way) path with
    | .ok (n, s) => s.point d (some n)
    | .error e => s.fail (openFault way path e)
  | .copy d none => s.point d none
  | .copy d (some source) =>
    if d = source then s
    else match s.channel? source with
      | some n => s.point d (some n)
      | none => s.fail (toString source ++ ": " ++ FileError.badDescriptor.reason)
  | .document d number =>
    match s.documents.lookup number with
    | none => s
    | some doc =>
      let (text, s) :=
        if doc.expanded then s.textOf x { quoted := true } doc.text
        else (textOfSpans [spanOf true (Spot.ofText true (String.join (doc.text.map fun
          | .plain t => t
          | .escaped c => c.toString
          | _ => "")))], s)
      if s.isRunning then
        let (n, w) := s.toWorld.attach (.pipe text.toList [])
        { s with toWorld := w }.point d (some n)
      else s

/-- Redirections carried out one after the other, up to the first fault. -/
def connect (x : Capture) (ws : List Wire) (s : State) : State :=
  ws.foldl (fun s w => if s.isRunning then connectOne x w s else s) s

/-- The descriptors that redirections were about lead where they did before. -/
def restore (s before : State) (ws : List Wire) : State :=
  ws.foldl (fun s w => s.point w.descriptor (before.channel? w.descriptor)) s

end State

end Shell

end Testbench
