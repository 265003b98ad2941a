import Testbench.Proofs.Tree.Operations
import Testbench.Run

/-!
# Phases that only add

All phases of a run but two execute no command and lose no file: sources are patched in place,
directories are made, reports are written. Only the removal of earlier output makes a tree smaller,
and only the gate, the cleaning and the tests execute commands.

- `Session.Grown`: one session comes after another, without a command and without a loss.
- `Patch.Job.apply_grown`, `Report.setup_within`, `Report.write_within`: patching and reporting.
- `Stage.IsPassive`, `Run.settleFrom_grown`: stages that run no command, which never fail.
- `Run.conclude_grown`: the end of a run.
-/

namespace Testbench

open Testbench.Tree

/-! ## Sessions -/

namespace Session

variable {s s' s'' : Session}

/-- The second session comes after the first one: no command was executed in between, and whatever
stood somewhere still stands there. -/
structure Grown (s s' : Session) : Prop where
  calls : s'.calls = s.calls
  within : s.tree.Within s'.tree

namespace Grown

theorem refl (s : Session) : s.Grown s := ⟨rfl, .refl s.tree⟩

theorem trans (h : s.Grown s') (h' : s'.Grown s'') : s.Grown s'' :=
  ⟨h'.calls.trans h.calls, h.within.trans h'.within⟩

theorem emit (h : s.Grown s') (ls : List Line) : s.Grown (s'.emit ls) := ⟨h.calls, h.within⟩

theorem say (h : s.Grown s') (tag : Tag) (m : String) : s.Grown (s'.say tag m) :=
  h.emit [⟨tag, m⟩]

theorem withTree (h : s.Grown s') {t : Tree} (ht : s'.tree.Within t) : s.Grown (s'.withTree t) :=
  ⟨h.calls, h.within.trans ht⟩

end Grown

/-- The outcome of a command is what the executor answers, given the calls and the files so far. -/
theorem execute_fst (s : Session) (x : Executor) (c : Command) :
    (s.execute x c).1 = (x s.calls c s.tree).outcome := by
  unfold execute
  split <;> rfl

/-- A command leaves the files that the executor answers with. -/
theorem tree_execute (s : Session) (x : Executor) (c : Command) :
    (s.execute x c).2.tree = (x s.calls c s.tree).tree := by
  unfold execute
  dsimp only
  split <;> split <;> rfl

end Session

/-! ## Patching -/

namespace Patch

theorem copyOver_within {t t' : Tree} {source target : String}
    (h : copyOver t source target = .ok (some t')) : t.Within t' := by
  unfold copyOver at h
  split at h
  · cases h
  · split at h
    · cases h
    · next octets _ _ =>
      cases hw : t.write target octets with
      | error e =>
        rw [hw] at h
        cases h
      | ok t₁ =>
        rw [hw] at h
        cases h
        exact write_within hw

theorem copyStep_grown (p : Progress) (source target done : String) :
    p.session.Grown (copyStep p source target done).session := by
  unfold copyStep
  split
  · next t ht => exact ((Session.Grown.refl p.session).withTree (copyOver_within ht)).say _ _
  · exact .refl p.session
  · exact (Session.Grown.refl p.session).say _ _

theorem amendStep_grown (p : Progress) (path : String) (amend : List Char → Option (List Char)) :
    p.session.Grown (amendStep p path amend).session := by
  unfold amendStep
  split
  · exact (Session.Grown.refl p.session).say _ _
  · split
    · exact (Session.Grown.refl p.session).say _ _
    · split
      · next t ht => exact ((Session.Grown.refl p.session).withTree (write_within ht)).say _ _
      · exact (Session.Grown.refl p.session).say _ _

namespace Job

variable (j : Job) (p : Progress)

theorem copyGraphics_grown : p.session.Grown (j.copyGraphics p).session := by
  unfold copyGraphics
  split
  · exact ((Session.Grown.refl p.session).say _ _).trans (copyStep_grown (p.say _ _) _ _ _)
  · exact .refl p.session

theorem copySupport_grown : p.session.Grown (j.copySupport p).session := by
  unfold copySupport
  split
  · exact ((Session.Grown.refl p.session).say _ _).trans (copyStep_grown (p.say _ _) _ _ _)
  · exact .refl p.session

theorem installSupport_grown : p.session.Grown (j.installSupport p).session := by
  unfold installSupport
  split
  · exact copySupport_grown j p
  · split
    · next t ht =>
      exact ((Session.Grown.refl p.session).withTree (makeDir_within ht)).trans
        (copySupport_grown j ((p.withTree t).act (.createdDir j.supportDir)))
    · exact (Session.Grown.refl p.session).say _ _

theorem amendSnapshots_grown : p.session.Grown (j.amendSnapshots p).session := by
  unfold amendSnapshots
  split
  · exact ((Session.Grown.refl p.session).say _ _).trans (amendStep_grown (p.say _ _) _ _)
  · exact .refl p.session

theorem guardGraphics_grown : p.session.Grown (j.guardGraphics p).session := by
  unfold guardGraphics
  split
  · exact ((Session.Grown.refl p.session).say _ _).trans (amendStep_grown (p.say _ _) _ _)
  · exact .refl p.session

theorem patch_grown : p.session.Grown (j.patch p).session := by
  unfold patch
  split
  · exact ((copyGraphics_grown j p).trans (installSupport_grown j _)).trans
      (amendSnapshots_grown j _)
  · exact guardGraphics_grown j p

/-- Patching executes nothing and loses nothing. -/
theorem apply_grown (host : String) (s : Session) : s.Grown (j.apply host s).2 := by
  unfold apply
  dsimp only
  split
  · exact (((Session.Grown.refl s).say _ _).trans (patch_grown j { session := s.say _ _ })).emit _
  · exact ((Session.Grown.refl s).say _ _).say _ _

end Job

end Patch

/-! ## The report directory -/

namespace Report

theorem makeAll_within : ∀ (t : Tree) (dirs : List String), t.Within (makeAll t dirs).2
  | t, [] => .refl t
  | t, dir :: dirs => by
    have hdir := makeDirs_within t dir
    unfold makeAll
    split
    · next t₁ ht =>
      rw [ht] at hdir
      exact hdir.trans (makeAll_within t₁ dirs)
    · next t₁ ht =>
      rw [ht] at hdir
      exact hdir

theorem setup_within (t : Tree) (dir : String) : t.Within (setup t dir).2 :=
  makeAll_within t _

theorem write_within (t : Tree) (dir : String) (results : ResultSet) (issues : KnownIssues)
    (c : Context) : t.Within (write t dir results issues c).2 := by
  unfold write
  dsimp only
  split
  · exact .refl t
  · next t₁ ht₁ =>
    have hfirst := Tree.write_within ht₁
    split
    · exact hfirst
    · next t₂ ht₂ => exact hfirst.trans (Tree.write_within ht₂)

end Report

/-! ## Stages without commands -/

/-- The stage runs no command. -/
def Stage.IsPassive (s : Stage) : Prop := ∀ c, s.action ≠ .command c

namespace Run

variable (r : Run)

theorem settle_grown {stage : Stage} (h : stage.IsPassive) (elapsed : Duration) (s : Session) :
    s.Grown (r.settle elapsed stage s).2 := by
  unfold settle
  split
  · next c hc => exact absurd hc (h c)
  · exact ((Session.Grown.refl s).emit _).emit _
  · exact .refl s

/-- A stage that runs no command never fails. -/
theorem settle_isFailed {stage : Stage} (h : stage.IsPassive) (elapsed : Duration) (s : Session) :
    (r.settle elapsed stage s).1.isFailed = false := by
  unfold settle
  split
  · next c hc => exact absurd hc (h c)
  · rfl
  · rfl

theorem settleFrom_grown : ∀ (k : Nat) (plan : Plan) (results : ResultSet) (s : Session),
    (∀ stage ∈ plan, stage.IsPassive) → s.Grown (r.settleFrom k plan results s).2
  | _, [], _, s, _ => .refl s
  | k, stage :: plan, results, s, h => by
    obtain ⟨hstage, hplan⟩ := List.forall_mem_cons.mp h
    have hgrown := settle_grown r hstage (r.host.elapsed k) s
    unfold settleFrom
    cases hs : r.settle (r.host.elapsed k) stage s with
    | mk verdict s₁ =>
      rw [hs] at hgrown
      dsimp only
      split
      · next results' _ => exact hgrown.trans (settleFrom_grown (k + 1) plan results' s₁ hplan)
      · exact hgrown

/-- The end of a run executes nothing and loses nothing. -/
theorem conclude_grown (dir : String) (v : Version) (patch : Patch.Report) (results : ResultSet)
    (s : Session) : s.Grown (r.conclude dir v patch results s).2 := by
  have hwrite := Report.write_within s.tree dir results r.config.knownIssues (r.context v)
  have hsay := (Session.Grown.refl s).say .step "Generating summary report..."
  unfold conclude
  dsimp only [Session.tree_say]
  split
  · next ht =>
    rw [ht] at hwrite
    exact hsay.withTree hwrite
  · next ht =>
    rw [ht] at hwrite
    exact ((hsay.withTree hwrite).say _ _).emit _

end Run

end Testbench
