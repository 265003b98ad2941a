import Testbench.Proofs.Report.Revision
import Testbench.Proofs.Run.Again
import Testbench.Proofs.Run.Shedding

/-!
# Runs that do not depend on earlier output

All that a run makes of the files is told by what is left when earlier output has been removed. Two
trees of which the same is left are therefore patched, tested and reported on alike.

- `RunOutcome.Matches`, `SameEnd`: runs that come to the same end, up to times.
- `perform_of_swept_eq`: two runs that leave the same when they clean.
- `perform_afresh`: a run that cleans comes to the same end with or without earlier output.
-/

namespace Testbench

open Testbench.Tree

/-- The outcomes only differ in the times that were taken. -/
structure RunOutcome.Matches (x y : RunOutcome) : Prop where
  toolchain : y.toolchain = x.toolchain
  patch : y.patch = x.patch
  results : x.results.Matches y.results
  summary : y.summary = x.summary
  reports : y.reports = x.reports

/-- The runs have ended for the same reason, or their outcomes only differ in times. -/
inductive SameEnd : Except RunError RunOutcome → Except RunError RunOutcome → Prop where
  | error (e : RunError) : SameEnd (.error e) (.error e)
  | ok {x y : RunOutcome} (h : x.Matches y) : SameEnd (.ok x) (.ok y)

namespace Run

variable {r : Run} {o : Options} {s s' : Session} {v : Version} {t : Tree}

/-- The files only differ in the summaries, and these in the times. -/
def Retells (r : Run) (v : Version) (timestamp : String) (t u : Tree) : Prop :=
  ∃ results results' : ResultSet, results.Matches results' ∧
    Revised (Report.revisions r.config.knownIssues results results' (r.context v)
      { r.context v with timestamp := timestamp }) t u

theorem Retells.refl (r : Run) (v : Version) (timestamp : String) (t : Tree) :
    r.Retells v timestamp t t :=
  ⟨.empty, .empty, .refl _, .refl _ t⟩

/-- On results that match, a run is concluded alike. -/
theorem conclude_later (dir : String) (v : Version) (patch : Patch.Report)
    {results results' : ResultSet} (h : results.Matches results') (htree : s'.tree = s.tree)
    (timestamp : String) (elapsed : Nat → Duration) :
    SameEnd (r.conclude dir v patch results s).1
        ((r.later timestamp elapsed).conclude dir v patch results' s').1 ∧
      r.Retells v timestamp (r.conclude dir v patch results s).2.tree
        ((r.later timestamp elapsed).conclude dir v patch results' s').2.tree := by
  obtain ⟨hanswer, hrevised⟩ := Report.write_revised s.tree dir r.config.knownIssues results results'
    (r.context v) { r.context v with timestamp := timestamp }
  have hwrite : Report.write s'.tree dir results' (r.later timestamp elapsed).config.knownIssues
      ((r.later timestamp elapsed).context v) = Report.write s.tree dir results' r.config.knownIssues
      { r.context v with timestamp := timestamp } := by
    rw [htree]
    rfl
  unfold conclude
  dsimp only [Session.tree_say]
  rw [hwrite]
  cases hw : Report.write s.tree dir results r.config.knownIssues (r.context v) with
  | mk answer w =>
    cases hw' : Report.write s.tree dir results' r.config.knownIssues
        { r.context v with timestamp := timestamp } with
    | mk answer' w' =>
      rw [hw, hw'] at hanswer hrevised
      dsimp only at hanswer hrevised
      subst hanswer
      cases answer' with
      | error e => exact ⟨.error _, results, results', h, hrevised⟩
      | ok reports => exact ⟨.ok ⟨rfl, rfl, h, h.summary.symm, rfl⟩, results, results', h, hrevised⟩

/-- Behind the same calls and on the same files, a plan is carried out alike. -/
theorem carryOut_later (hx : r.executor.Inert) {timestamp : String} {elapsed : Nat → Duration}
    (hcalls : ((r.later timestamp elapsed).prepared o s').calls = (r.prepared o s).calls)
    (t : Tree) (dir : String) (v : Version) :
    let first := r.carryOut o dir v ((r.prepared o s).withTree t)
    let again := (r.later timestamp elapsed).carryOut o dir v
      (((r.later timestamp elapsed).prepared o s').withTree t)
    SameEnd first.1 again.1 ∧ again.2.calls = first.2.calls ∧
      r.Retells v timestamp first.2.tree again.2.tree := by
  intro first again
  have htree : ((r.later timestamp elapsed).ready o s' t).tree = (r.ready o s t).tree := by
    rw [tree_ready r]
    exact tree_ready (r.later timestamp elapsed) o s' t
  have hready : ((r.later timestamp elapsed).ready o s' t).calls = (r.ready o s t).calls := by
    rw [calls_ready r, ← hcalls]
    exact calls_ready (r.later timestamp elapsed) o s' t
  have hecho : r.executor.Echoes (r.ready o s t) ((r.later timestamp elapsed).ready o s' t) := by
    intro made c
    rw [hready, htree]
  obtain ⟨hstages, made, hmade, hmade'⟩ := settleAll_later timestamp elapsed hx hecho
    (Plan.compose o r.config)
  have hleft := tree_settleFrom hx 0 (Plan.compose o r.config) .empty (r.ready o s t)
  have hleft' := tree_settleFrom (r := r.later timestamp elapsed) hx 0 (Plan.compose o r.config)
    .empty ((r.later timestamp elapsed).ready o s' t)
  -- the stages end alike, and leave the files as they are
  have hfirst : first = _ := carryOut_prepared r o dir v s t
  have hagain : again = _ := carryOut_prepared (r.later timestamp elapsed) o dir v s' t
  rw [hfirst, hagain]
  cases hz : r.settleAll (Plan.compose o r.config) (r.ready o s t) with
  | mk answer z =>
    cases hz' : (r.later timestamp elapsed).settleAll
        (Plan.compose o (r.later timestamp elapsed).config)
        ((r.later timestamp elapsed).ready o s' t) with
    | mk answer' z' =>
      have hz₁ : z.tree = (r.ready o s t).tree := (congrArg (·.2.tree) hz).symm.trans hleft
      have hz₂ : z'.tree = z.tree :=
        ((congrArg (·.2.tree) hz').symm.trans hleft').trans (htree.trans hz₁.symm)
      have hcalls₁ : z.calls = (r.ready o s t).calls ++ made :=
        (congrArg (·.2.calls) hz).symm.trans hmade
      have hcalls₂ : z'.calls = z.calls := by
        rw [hcalls₁, ← hready]
        exact (congrArg (·.2.calls) hz').symm.trans hmade'
      rw [hz] at hstages
      rcases hstages with ⟨e, he, he'⟩ | ⟨x, y, hx, hy, hmatches⟩
      · obtain rfl : answer = .error e := he
        obtain rfl : answer' = .error e := (congrArg (·.1) hz').symm.trans he'
        refine ⟨.error _, hcalls₂, ?_⟩
        show r.Retells v timestamp z.tree z'.tree
        rw [hz₂]
        exact .refl r v timestamp _
      · obtain rfl : answer = .ok x := hx
        obtain rfl : answer' = .ok y := (congrArg (·.1) hz').symm.trans hy
        obtain ⟨hend, htells⟩ := conclude_later (r := r) dir v (r.job.apply r.host.os { tree := t }).1
          hmatches hz₂ timestamp elapsed
        refine ⟨hend, ?_, htells⟩
        have hgrown := conclude_grown r dir v (r.job.apply r.host.os { tree := t }).1 x z
        have hgrown' := conclude_grown (r.later timestamp elapsed) dir v
          (r.job.apply r.host.os { tree := t }).1 y z'
        exact hgrown'.calls.trans (hcalls₂.trans hgrown.calls.symm)

/-- **A run only depends on what it leaves when it removes earlier output**, as long as the executor
answers alike until then. -/
theorem perform_of_swept_eq (hx : r.executor.Inert) (hecho : r.executor.Echoes s s')
    (hcalls : s'.calls = s.calls) (hswept : (r.swept o s').tree = (r.swept o s).tree)
    (timestamp : String) (elapsed : Nat → Duration) :
    let again := (r.later timestamp elapsed).perform o s'
    SameEnd (r.perform o s).1 again.1 ∧ again.2.calls = (r.perform o s).2.calls ∧
      ∀ v, r.gate.judge (r.probe s) = .ok v →
        r.Retells v timestamp (r.perform o s).2.tree again.2.tree := by
  intro again
  have hprobe : (r.later timestamp elapsed).probe s' = r.probe s :=
    (hecho.outcome r.probeCommand).symm
  cases hjudge : r.gate.judge (r.probe s) with
  | error e =>
    have hjudge' : (r.later timestamp elapsed).gate.judge ((r.later timestamp elapsed).probe s') =
        .error e := by
      rw [hprobe]
      exact hjudge
    have hagain : again = (.error (.gate e), (r.later timestamp elapsed).probed s') :=
      perform_of_judge_error hjudge'
    rw [hagain, perform_of_judge_error hjudge]
    refine ⟨.error _, ?_, fun v hv => by cases hv⟩
    show ((r.later timestamp elapsed).probed s').calls = (r.probed s).calls
    rw [calls_probed, calls_probed, hprobe, hcalls]
    rfl
  | ok v =>
    have hjudge' : (r.later timestamp elapsed).gate.judge ((r.later timestamp elapsed).probe s') =
        .ok v := by
      rw [hprobe]
      exact hjudge
    -- the same commands have been executed, and the same files are left
    obtain ⟨before, hbefore, hbefore'⟩ := calls_prepared_later hx hecho timestamp elapsed o
    have hprepared : ((r.later timestamp elapsed).prepared o s').calls = (r.prepared o s).calls := by
      rw [hbefore, hbefore', hcalls]
    have htree : ((r.later timestamp elapsed).prepared o s').tree = (r.prepared o s).tree := by
      rw [tree_prepared r o s hx, ← hswept]
      exact tree_prepared (r.later timestamp elapsed) o s' hx
    cases hsetup : Report.setup (r.prepared o s).tree (r.resolve o.reportPath) with
    | mk answer t =>
      have hsetup' : Report.setup ((r.later timestamp elapsed).prepared o s').tree
          ((r.later timestamp elapsed).resolve o.reportPath) = (answer, t) := by
        rw [htree]
        exact hsetup
      cases answer with
      | error e =>
        have hagain : again = (.error (.report e),
            ((r.later timestamp elapsed).prepared o s').withTree t) :=
          perform_of_setup_error hjudge' hsetup'
        rw [hagain, perform_of_setup_error hjudge hsetup]
        exact ⟨.error _, hprepared, fun v' _ => .refl r v' timestamp t⟩
      | ok _ =>
        have hagain : again = (r.later timestamp elapsed).carryOut o (r.resolve o.reportPath) v
            (((r.later timestamp elapsed).prepared o s').withTree t) :=
          perform_of_setup_ok hjudge' hsetup'
        rw [hagain, perform_of_setup_ok hjudge hsetup]
        obtain ⟨hend, hcalls', htells⟩ :=
          carryOut_later hx hprepared t (r.resolve o.reportPath) v
        refine ⟨hend, hcalls', fun v' hv => ?_⟩
        obtain rfl := Except.ok.inj hv
        exact htells

/-- **A run that cleans does not depend on earlier output.** With all of the output in place and
without any of it, the run ends alike and executes the same commands. Where the toolchain is turned
away the files stay as they were; where it is not, the same files are left up to the times in the
summaries. The root and the report directory must not be reached by way of output, each entry of
output has to lead somewhere, and the executor must not tell the two trees apart. -/
theorem perform_afresh (hx : r.executor.Inert) (hclean : o.clean = true)
    (habs : Path.isAbsolute o.reportPath = false) (hne : Path.names o.reportPath ≠ [])
    (hclosed : s.tree.Closed)
    (hapart : s.tree.isDir (r.resolve o.reportPath) = true →
      s.tree.encloses (r.resolve o.reportPath) r.root = false)
    (h : r.Sheds (r.resolve o.reportPath) s.tree)
    (hecho : r.executor.Echoes s (s.withTree (r.stripped (r.resolve o.reportPath) s.tree)))
    (timestamp : String) (elapsed : Nat → Duration) :
    let bare := r.stripped (r.resolve o.reportPath) s.tree
    let first := r.perform o s
    let afresh := (r.later timestamp elapsed).perform o (s.withTree bare)
    SameEnd first.1 afresh.1 ∧ afresh.2.calls = first.2.calls ∧
      (∀ e, r.gate.judge (r.probe s) = .error e → first.2.tree = s.tree ∧ afresh.2.tree = bare) ∧
      ∀ v, r.gate.judge (r.probe s) = .ok v → r.Retells v timestamp first.2.tree afresh.2.tree := by
  intro bare first afresh
  have hswept : (r.swept o (s.withTree bare)).tree = (r.swept o s).tree :=
    swept_stripped h hclosed hclean habs hne hapart rfl
  obtain ⟨hend, hcalls, htells⟩ := perform_of_swept_eq hx hecho rfl hswept timestamp elapsed
  refine ⟨hend, hcalls, fun e he => ⟨(turnedAway_of_judge_error hx he).tree, ?_⟩, htells⟩
  have hprobe : (r.later timestamp elapsed).probe (s.withTree bare) = r.probe s :=
    (hecho.outcome r.probeCommand).symm
  rw [← hprobe] at he
  exact (turnedAway_of_judge_error (r := r.later timestamp elapsed) hx he).tree

/-- Output of every kind: a link to a directory in which the toolchain has built, reports, and a
link to other files among them. -/
def littered : Tree where
  here := ["pkg"]
  entries := [(["cache"], .dir), (["pkg"], .dir), (["pkg", ".build"], .link "../cache"),
    (["pkg", "docs"], .dir), (["pkg", "docs", "index"], .file .empty false),
    (["pkg", "reports"], .dir), (["pkg", "reports", "html"], .link "../docs"),
    (["pkg", "reports", "test-results"], .dir),
    (["pkg", "reports", "test-results", "stale.xml"], .file .empty false),
    (["pkg", "reports", "summary.txt"], .file .empty false)]

/-- None of this output makes a difference. -/
theorem perform_afresh_littered :
    let r : Run := ⟨.standard, ".", ⟨"linux", "Linux", "2024-05-01T12:00:00Z", fun _ => .zero⟩,
      .scripted [("--version", .exited 0 "Swift version 6.1" "")]⟩
    let o : Options := { clean := true }
    let s : Session := { tree := littered }
    let bare := r.stripped (r.resolve o.reportPath) s.tree
    let first := r.perform o s
    let afresh := (r.later "2024-05-02T12:00:00Z" fun _ => .zero).perform o (s.withTree bare)
    first.1.toOption.isSome = true ∧ SameEnd first.1 afresh.1 ∧ afresh.2.calls = first.2.calls ∧
      r.Retells ⟨"Swift version 6.1", "6.1", 6⟩ "2024-05-02T12:00:00Z" first.2.tree
        afresh.2.tree := by
  intro r o s
  have hsheds : r.Sheds (r.resolve o.reportPath) s.tree :=
    sheds_of_bases (b := ["pkg"]) (d := ["pkg", "reports"]) (by decide +kernel) (by decide +kernel)
      (by decide +kernel) (by decide +kernel) (by decide +kernel) (by decide +kernel)
  obtain ⟨hend, hcalls, -, htells⟩ := perform_afresh (r := r) (o := o) (s := s)
    (Executor.inert_scripted _) rfl (by decide) (by decide) (closed_of_entries (by decide))
    (by decide +kernel)
    hsheds ((Executor.constant_scripted _).echoes _ _) "2024-05-02T12:00:00Z" (fun _ => .zero)
  have hstated : Version.find? r.config.toolchain.banner (r.probe s).stdout =
      some ⟨"Swift version 6.1", "6.1", 6⟩ := by decide +kernel
  have hends : (r.perform o s).1.toOption.isSome = true := by decide +kernel
  exact ⟨hends, hend, hcalls, htells _ (r.gate.judge_of_new rfl hstated (by decide))⟩

/-- The run leaves different entries at a place with and without earlier output. -/
def tellsApart (r : Run) (o : Options) (t : Tree) (l : Location) : Bool :=
  (r.perform o { tree := t }).2.tree.get? l !=
    (r.perform o { tree := r.stripped (r.resolve o.reportPath) t }).2.tree.get? l

/-- Output stays in place where the toolchain is turned away, be it for an answer that depends on
the output, where it is a link that leads nowhere, where the root is reached by way of it, and where
the root is no path, so that it cannot be told from the report directory. -/
theorem perform_afresh_kept :
    let host : Host := ⟨"linux", "Linux", "2024-05-01T12:00:00Z", fun _ => .zero⟩
    let refusing : Executor := .scripted [("--version", .exited 1 "" "")]
    let passing : Executor := .scripted [("--version", .exited 0 "Swift version 6.1" "")]
    let looking : Executor := fun calls c t =>
      if t.has ".build" then refusing calls c t else passing calls c t
    let o : Options := { clean := true, packageOnly := true }
    let built : Tree := ⟨[([".build"], .dir)], []⟩
    let linked : Tree := ⟨[(["reports"], .dir), (["reports", "html"], .link "gone")], []⟩
    let stale : Tree := ⟨[([".build"], .dir), (["reports"], .dir), (["reports", "html"], .dir),
      (["reports", "html", "old"], .file .empty false)], []⟩
    tellsApart ⟨.standard, ".", host, refusing⟩ o built [".build"] ∧
      tellsApart ⟨.standard, ".", host, looking⟩ o built [".build"] ∧
      tellsApart ⟨.standard, ".", host, passing⟩ o linked ["reports", "html"] ∧
      tellsApart ⟨.standard, ".build/..", host, passing⟩ o stale ["reports", "html", "old"] ∧
      tellsApart ⟨.standard, "", host, passing⟩ o stale ["reports", "html", "old"] := by
  decide +kernel

end Run

end Testbench
