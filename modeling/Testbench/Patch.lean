import Testbench.Patch.Amendment
import Testbench.Patch.Layout
import Testbench.Session

/-!
# Patching the sources

Before tests are built, the sources are made fit for the host. Nothing that goes wrong here stops
a run; it is reported as a warning. This is the source patcher of the specification (§4.2).

- `Patch.Action`: what was done to one file or directory.
- `Patch.Report`: what patching did, and what went wrong.
- `Patch.Progress`: a session with the report that is being written.
- `Patch.Job`: a source root and a layout.
- `Patch.Job.apply`: the sources are patched, if the host is the system that needs it.
-/

namespace Testbench

namespace Patch

/-! ## Reports -/

/-- Whether the sources were patched at all. -/
inductive Status where
  | applied
  /-- The host is another system than the one that needs patches. -/
  | notApplicable (host : String)
  deriving DecidableEq, Repr

/-- What was done to one file or directory. -/
inductive Action where
  /-- A file was copied over another. -/
  | copied (source target : String)
  /-- A directory was made. -/
  | createdDir (path : String)
  /-- A file was amended, that is rewritten in place. -/
  | amended (path : String)
  /-- A file was found patched. -/
  | alreadyPatched (path : String)
  deriving DecidableEq, Repr

/-- What patching did, and what went wrong. -/
structure Report where
  status : Status
  actions : List Action
  warnings : List String
  deriving DecidableEq, Repr

/-- Nothing went wrong. -/
def Report.isClean (r : Report) : Bool := r.warnings.isEmpty

/-! ## Progress -/

/-- A session with the actions and warnings of the report that is being written. -/
structure Progress where
  session : Session
  actions : List Action := []
  warnings : List String := []

namespace Progress

/-- One more console line. -/
def say (p : Progress) (tag : Tag) (message : String) : Progress :=
  { p with session := p.session.say tag message }

/-- One more action. -/
def act (p : Progress) (a : Action) : Progress := { p with actions := p.actions ++ [a] }

/-- One more warning, which is put out too. -/
def warn (p : Progress) (message : String) : Progress :=
  { p with session := p.session.say .warning message, warnings := p.warnings ++ [message] }

/-- The files so far. -/
def tree (p : Progress) : Tree := p.session.tree

/-- Other files. -/
def withTree (p : Progress) (t : Tree) : Progress := { p with session := p.session.withTree t }

end Progress

/-! ## Single files -/

/-- The files after one file is given the octets of another; `none` when it has them already. -/
def copyOver (t : Tree) (source target : String) : Except FileError (Option Tree) :=
  match t.read source with
  | .error e => .error e
  | .ok wanted =>
    if (t.read target).toOption = some wanted then .ok none
    else (t.write target wanted).map some

/-- A file is copied over another and the result is reported, success with the word `done`. -/
def copyStep (p : Progress) (source target done : String) : Progress :=
  match copyOver p.tree source target with
  | .ok (some t) =>
    ((p.withTree t).say .success (done ++ " " ++ target)).act (.copied source target)
  | .ok none => p.act (.alreadyPatched target)
  | .error e => p.warn ("copy " ++ target ++ " failed: " ++ e.message)

/-- A file is amended in place and the result is reported. -/
def amendStep (p : Progress) (path : String) (amend : List Char → Option (List Char)) :
    Progress :=
  match p.tree.readText path with
  | .error e => p.warn ("read " ++ path ++ " failed: " ++ e.message)
  | .ok source =>
    match amend source.toList with
    | none => (p.say .step (path ++ " is already patched")).act (.alreadyPatched path)
    | some patched =>
      match p.tree.write path (String.ofList patched).toUTF8 with
      | .ok t => ((p.withTree t).say .success ("Patched " ++ path)).act (.amended path)
      | .error e => p.warn ("write " ++ path ++ " failed: " ++ e.message)

/-! ## Jobs -/

/-- A source root and a layout. -/
structure Job where
  root : String
  layout : Layout
  deriving DecidableEq, Repr

namespace Job

/-- The directory with the replacement files. -/
def patchesDir (j : Job) : String := Path.join j.root j.layout.patchesDir

/-- The directory with the tests. -/
def testsDir (j : Job) : String := Path.join j.root j.layout.testsDir

/-- The directory with the support files. -/
def supportDir (j : Job) : String := Path.join j.testsDir j.layout.supportDir

/-- The file with the tests of graphics numbers. -/
def graphicsTest (j : Job) : String := Path.join j.testsDir j.layout.graphicsTest

/-- The file with the snapshot tests. -/
def snapshotTest (j : Job) : String := Path.join j.testsDir j.layout.snapshotTest

/-- The support file, once it is installed. -/
def labelSupport (j : Job) : String := Path.join j.supportDir j.layout.labelSupport

/-- The replacement for the tests of graphics numbers. -/
def graphicsPatch (j : Job) : String := Path.join j.patchesDir j.layout.graphicsTest

/-- The support file among the replacements. -/
def labelPatch (j : Job) : String := Path.join j.patchesDir j.layout.labelSupport

/-- The replacement is copied over the tests of graphics numbers, if both are there. -/
def copyGraphics (j : Job) (p : Progress) : Progress :=
  if p.tree.isFile j.graphicsPatch && p.tree.isFile j.graphicsTest then
    copyStep (p.say .step ("Copying patched " ++ j.layout.graphicsTest ++ "..."))
      j.graphicsPatch j.graphicsTest "Patched"
  else p

/-- The support file is copied among the tests, if there is one. -/
def copySupport (j : Job) (p : Progress) : Progress :=
  if p.tree.isFile j.labelPatch then
    copyStep (p.say .step ("Copying " ++ j.layout.labelSupport ++ " to " ++ j.supportDir ++ "..."))
      j.labelPatch j.labelSupport "Added"
  else p

/-- The support directory is made if it is missing, and the support file is installed. -/
def installSupport (j : Job) (p : Progress) : Progress :=
  if p.tree.isDir j.supportDir then j.copySupport p
  else match p.tree.makeDir j.supportDir with
    | .ok t => j.copySupport ((p.withTree t).act (.createdDir j.supportDir))
    | .error e => p.warn ("create " ++ j.supportDir ++ " failed: " ++ e.message)

/-- The snapshot tests are amended, if they are there. -/
def amendSnapshots (j : Job) (p : Progress) : Progress :=
  if p.tree.isFile j.snapshotTest then
    amendStep (p.say .step ("Patching " ++ j.layout.snapshotTest ++ "..."))
      j.snapshotTest Amendment.routeLabels
  else p

/-- The tests of graphics numbers are guarded in place, if they are there. -/
def guardGraphics (j : Job) (p : Progress) : Progress :=
  if p.tree.isFile j.graphicsTest then
    amendStep (p.say .step ("Patching " ++ j.graphicsTest ++ "..."))
      j.graphicsTest Amendment.guardGraphics
  else p

/-- All steps for a host that needs patches: with replacement files at hand they are installed,
otherwise the tests are guarded in place. -/
def patch (j : Job) (p : Progress) : Progress :=
  if p.tree.isDir j.patchesDir then j.amendSnapshots (j.installSupport (j.copyGraphics p))
  else j.guardGraphics p

/-- The line that closes a report. -/
def closing (warnings : List String) : Line :=
  if warnings.isEmpty then ⟨.success, "Test files patched for platform compatibility"⟩
  else ⟨.warning, "Failed to patch test files: " ++ toString warnings.length ++
    " issue(s); continuing with unpatched sources"⟩

/-- The sources are patched, if the host is the system that needs it. -/
def apply (j : Job) (host : String) (s : Session) : Report × Session :=
  let s := s.say .step "Patching test files for platform compatibility..."
  if host = j.layout.targetOs then
    let p := j.patch { session := s }
    (⟨.applied, p.actions, p.warnings⟩, p.session.emit [closing p.warnings])
  else
    (⟨.notApplicable host, [], []⟩,
      s.say .step ("Not running on " ++ j.layout.targetOs ++ ", skipping patches"))

end Job

end Patch

end Testbench
