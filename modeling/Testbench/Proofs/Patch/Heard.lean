import Testbench.Patch

/-!
# What the steps of patching say

Patching is made of steps that are taken one after the other. None of them is silent when it has
something to do, and what it warns of is put out as well.

- `Step`, `Job.take`, `Job.steps`: the steps of patching, and those that are taken.
- `Job.alone`, `Job.Due`: what comes of one step alone, and when it has something to do.
- `Heard`, `Heard.patch`: the warnings of the report are those that are put out.
- `Job.due_iff`: a step with something to do reports an action or a warning.
-/

namespace Testbench

namespace Patch

variable {p : Progress} {ls : List Line}

/-! ## Steps -/

/-- The steps of patching. -/
inductive Step where
  | copyGraphics
  | installSupport
  | amendSnapshots
  | guardGraphics
  deriving DecidableEq, Repr

namespace Job

variable {j : Job}

/-- One step of patching. -/
def take (j : Job) : Step → Progress → Progress
  | .copyGraphics, p => j.copyGraphics p
  | .installSupport, p => j.installSupport p
  | .amendSnapshots, p => j.amendSnapshots p
  | .guardGraphics, p => j.guardGraphics p

/-- The steps that are taken on some files. -/
def steps (j : Job) (t : Tree) : List Step :=
  if t.isDir j.patchesDir then [.copyGraphics, .installSupport, .amendSnapshots]
  else [.guardGraphics]

/-- What comes of a step that is taken alone. -/
def alone (j : Job) (t : Tree) (s : Step) : Progress := j.take s { session := { tree := t } }

/-- A step has something to do on some files. -/
def Due (j : Job) (t : Tree) : Step → Prop
  | .copyGraphics => t.isFile j.graphicsPatch = true ∧ t.isFile j.graphicsTest = true
  | .installSupport => t.isDir j.supportDir = false ∨ t.isFile j.labelPatch = true
  | .amendSnapshots => t.isFile j.snapshotTest = true
  | .guardGraphics => t.isFile j.graphicsTest = true

instance (j : Job) (t : Tree) : DecidablePred (j.Due t)
  | .copyGraphics => inferInstanceAs (Decidable (_ ∧ _))
  | .installSupport => inferInstanceAs (Decidable (_ ∨ _))
  | .amendSnapshots => inferInstanceAs (Decidable (_ = _))
  | .guardGraphics => inferInstanceAs (Decidable (_ = _))

/-- The steps are taken one after the other. -/
theorem patch_eq_foldl (j : Job) (p : Progress) :
    j.patch p = (j.steps p.tree).foldl (fun p s => j.take s p) p := by
  unfold patch steps
  split <;> rfl

end Job

/-! ## The console -/

/-- Since there were the lines `ls`, exactly the warnings of the report have been put out as
warnings. -/
def Heard (ls : List Line) (p : Progress) : Prop :=
  ∃ said, p.session.lines = ls ++ said ∧
    (said.filter (·.tag = .warning)).map Line.message = p.warnings

namespace Heard

theorem say (h : Heard ls p) {tag : Tag} (htag : tag ≠ .warning) (m : String) :
    Heard ls (p.say tag m) := by
  obtain ⟨said, hlines, hwarnings⟩ := h
  refine ⟨said ++ [⟨tag, m⟩], ?_, ?_⟩
  · rw [Progress.say, Session.lines_say, hlines, List.append_assoc]
  · rw [List.filter_append, List.map_append, hwarnings]
    simp [htag, Progress.say]

theorem warn (h : Heard ls p) (m : String) : Heard ls (p.warn m) := by
  obtain ⟨said, hlines, hwarnings⟩ := h
  refine ⟨said ++ [⟨.warning, m⟩], ?_, ?_⟩
  · rw [Progress.warn, Session.lines_say, hlines, List.append_assoc]
  · rw [List.filter_append, List.map_append, hwarnings]
    simp [Progress.warn]

theorem act (h : Heard ls p) (a : Action) : Heard ls (p.act a) := h

theorem withTree (h : Heard ls p) (t : Tree) : Heard ls (p.withTree t) := h

theorem copyStep (h : Heard ls p) (source target done : String) :
    Heard ls (Patch.copyStep p source target done) := by
  unfold Patch.copyStep
  split
  · exact ((h.withTree _).say (by decide) _).act _
  · exact h.act _
  · exact h.warn _

theorem amendStep (h : Heard ls p) (path : String) (amend : List Char → Option (List Char)) :
    Heard ls (Patch.amendStep p path amend) := by
  unfold Patch.amendStep
  split
  · exact h.warn _
  · split
    · exact (h.say (by decide) _).act _
    · split
      · exact ((h.withTree _).say (by decide) _).act _
      · exact h.warn _

theorem copySupport (h : Heard ls p) (j : Job) : Heard ls (j.copySupport p) := by
  unfold Job.copySupport
  split
  · exact (h.say (by decide) _).copyStep _ _ _
  · exact h

/-- Every step puts out what it warns of. -/
theorem take (h : Heard ls p) (j : Job) (s : Step) : Heard ls (j.take s p) := by
  cases s with
  | copyGraphics =>
    show Heard ls (j.copyGraphics p)
    unfold Job.copyGraphics
    split
    · exact (h.say (by decide) _).copyStep _ _ _
    · exact h
  | installSupport =>
    show Heard ls (j.installSupport p)
    unfold Job.installSupport
    split
    · exact h.copySupport j
    · split
      · exact ((h.withTree _).act _).copySupport j
      · exact h.warn _
  | amendSnapshots =>
    show Heard ls (j.amendSnapshots p)
    unfold Job.amendSnapshots
    split
    · exact (h.say (by decide) _).amendStep _ _
    · exact h
  | guardGraphics =>
    show Heard ls (j.guardGraphics p)
    unfold Job.guardGraphics
    split
    · exact (h.say (by decide) _).amendStep _ _
    · exact h

theorem takeAll (j : Job) : ∀ (ss : List Step) {p : Progress}, Heard ls p →
    Heard ls (ss.foldl (fun p s => j.take s p) p)
  | [], _, h => h
  | s :: ss, _, h => takeAll j ss (Heard.take h j s)

theorem patch (h : Heard ls p) (j : Job) : Heard ls (j.patch p) := by
  rw [Job.patch_eq_foldl]
  exact takeAll j _ h

end Heard

/-! ## Silence -/

/-- How many actions and warnings have been reported. -/
def Progress.reported (p : Progress) : Nat := p.actions.length + p.warnings.length

namespace Progress

variable (p)

/-- Something is reported if there is an action or a warning. -/
theorem reported_pos_iff : 0 < p.reported ↔ p.actions ≠ [] ∨ p.warnings ≠ [] := by
  rw [reported, Nat.add_pos_iff_pos_or_pos, List.length_pos_iff, List.length_pos_iff]

@[simp] theorem reported_say (tag : Tag) (m : String) : (p.say tag m).reported = p.reported := rfl

@[simp] theorem reported_withTree (t : Tree) : (p.withTree t).reported = p.reported := rfl

@[simp] theorem reported_act (a : Action) : (p.act a).reported = p.reported + 1 := by
  simp only [reported, act, List.length_append, List.length_singleton]
  omega

@[simp] theorem reported_warn (m : String) : (p.warn m).reported = p.reported + 1 := by
  simp only [reported, warn, List.length_append, List.length_singleton]
  omega

end Progress

variable (p) in
@[simp] theorem reported_copyStep (source target done : String) :
    (copyStep p source target done).reported = p.reported + 1 := by
  unfold copyStep
  split <;> simp

variable (p) in
@[simp] theorem reported_amendStep (path : String) (amend : List Char → Option (List Char)) :
    (amendStep p path amend).reported = p.reported + 1 := by
  unfold amendStep
  split
  · simp
  · split
    · simp
    · split <;> simp

namespace Job

variable {j : Job}

variable (j p) in
theorem reported_copySupport : (j.copySupport p).reported =
    p.reported + if p.tree.isFile j.labelPatch then 1 else 0 := by
  unfold copySupport
  split <;> simp

/-- A step reports something if it has something to do, and only then. -/
theorem due_iff (j : Job) (t : Tree) (s : Step) : j.Due t s ↔ 0 < (j.alone t s).reported := by
  have hstart : Progress.reported { session := { tree := t } } = 0 := rfl
  have htree : Progress.tree { session := { tree := t } } = t := rfl
  cases s with
  | copyGraphics =>
    simp only [Due, alone, take, copyGraphics, htree, ← Bool.and_eq_true_iff]
    split <;> simp [*]
  | installSupport =>
    simp only [Due, alone, take, installSupport, htree]
    split
    · next hdir =>
      rw [reported_copySupport, hstart, htree, hdir]
      split <;> simp [*]
    · next hdir =>
      have hdir : t.isDir j.supportDir = false := by simpa using hdir
      -- the directory is made, which is an action, or cannot be made, which is a warning
      split
      · rw [reported_copySupport, Progress.reported_act]
        simp only [hdir, true_or, true_iff]
        omega
      · simp [hdir]
  | amendSnapshots =>
    simp only [Due, alone, take, amendSnapshots, htree]
    split <;> simp [*]
  | guardGraphics =>
    simp only [Due, alone, take, guardGraphics, htree]
    split <;> simp [*]

end Job

end Patch

end Testbench
