import Testbench.Proofs.Run.Course
import Testbench.Proofs.Run.Trace

/-!
# Running twice

A run that came to its end comes to its end again on the files that it has left: it asks the
executor for the same, finds everything patched, and reports the same at another time.

- `Run.ready`: the session in which the stages are settled.
- `course_of_perform`, `perform_of_course`: runs that come to their end are those that take a course
  through the files and whose stages are settled.
- `perform_again`: running twice is running once.
-/

namespace Testbench

open Testbench.Tree

/-- Files that differ in a layout differ below every root. -/
theorem Patch.Job.files_nodup {j : Patch.Job} (hl : j.layout.IsPlain) (h : j.layout.files.Nodup) :
    j.files.Nodup := by
  rw [Patch.Job.files_eq hl]
  refine List.pairwise_map.mpr (h.imp_of_mem ?_)
  intro q q' hq hq' hne heq
  have hplain := hl.files q hq
  have hplain' := hl.files q' hq'
  have hnames := congrArg Path.names heq
  rw [Path.names_join hplain.isAbsolute_eq, Path.names_join hplain'.isAbsolute_eq] at hnames
  exact hne (hplain.eq_of_names_eq hplain' (List.append_cancel_left hnames))

namespace Run

variable {r : Run} {o : Options} {s s' : Session} {v : Version} {results : ResultSet}
  {out : RunOutcome} {u t p w : Tree}

/-! ## Runs and their courses -/

/-- The session in which the stages are settled, once the report directory is made. -/
def ready (r : Run) (o : Options) (s : Session) (t : Tree) : Session :=
  r.staged o ((r.prepared o s).withTree t)

theorem calls_ready (r : Run) (o : Options) (s : Session) (t : Tree) :
    (r.ready o s t).calls = (r.prepared o s).calls :=
  (staged_grown r o _).calls

/-- The stages are settled on the patched sources. -/
theorem tree_ready (r : Run) (o : Options) (s : Session) (t : Tree) :
    (r.ready o s t).tree = (r.job.apply r.host.os { tree := t }).2.tree := by
  have hstaged : (r.ready o s t).tree =
      (r.job.apply r.host.os ((r.prepared o s).withTree t)).2.tree := by
    unfold ready staged
    split
    · rfl
    · rfl
  rw [hstaged]
  exact (r.job.apply_congr r.host.os { tree := t } ((r.prepared o s).withTree t) rfl).2

/-- The stages are settled, and on their results the run is concluded. -/
theorem carryOut_prepared (r : Run) (o : Options) (dir : String) (v : Version) (s : Session)
    (t : Tree) :
    r.carryOut o dir v ((r.prepared o s).withTree t) =
      match r.settleAll (Plan.compose o r.config) (r.ready o s t) with
      | (.error e, z) => (.error (.results e), z)
      | (.ok results, z) => r.conclude dir v (r.job.apply r.host.os { tree := t }).1 results z := by
  have hpatch := (r.job.apply_congr r.host.os { tree := t } ((r.prepared o s).withTree t) rfl).1
  rw [← hpatch]
  exact carryOut_eq ..

section Courses

variable (hx : r.executor.Inert) (hs : s.tree.Solid)
include hx hs

/-- A run that came to its end has passed the gate, taken a course through the files and settled its
stages. -/
theorem course_of_perform (h : (r.perform o s).1 = .ok out) : ∃ u t p,
    r.gate.judge (r.probe s) = .ok out.toolchain ∧
    r.Course o out.toolchain out.results s.tree u t p (r.perform o s).2.tree ∧
    (r.settleAll (Plan.compose o r.config) (r.ready o s t)).1 = .ok out.results ∧
    (r.perform o s).2.calls = (r.settleAll (Plan.compose o r.config) (r.ready o s t)).2.calls ∧
    out = ⟨out.toolchain, (r.job.apply r.host.os { tree := t }).1, out.results,
      out.results.summary, .under (r.resolve o.reportPath)⟩ := by
  obtain ⟨v, t, hjudge, hsetup⟩ := exists_setup_of_perform h
  rw [perform_of_setup_ok hjudge hsetup, carryOut_prepared] at h ⊢
  have hleft := tree_settleFrom hx 0 (Plan.compose o r.config) .empty (r.ready o s t)
  cases hsettled : r.settleAll (Plan.compose o r.config) (r.ready o s t) with
  | mk answer z =>
    rw [hsettled] at h
    cases answer with
    | error e => cases h
    | ok results =>
      obtain ⟨-, rfl, hwrite, -⟩ := conclude_eq_ok h
      have hz : z.tree = (r.job.apply r.host.os { tree := t }).2.tree := by
        have hcongr := congrArg (·.2.tree) hsettled
        exact hcongr.symm.trans (hleft.trans (tree_ready r o s t))
      rw [tree_prepared r o s hx, tree_swept hs] at hsetup
      rw [hz] at hwrite
      refine ⟨_, t, _, hjudge, ⟨rfl, hsetup, rfl, hwrite⟩, congrArg (·.1) hsettled, ?_, rfl⟩
      rw [hsettled]
      exact (conclude_grown r _ v _ results z).calls

/-- A run that passes the gate, can take a course through the files and settles its stages comes to
its end. -/
theorem perform_of_course (hjudge : r.gate.judge (r.probe s) = .ok v)
    (h : r.Course o v results s.tree u t p w)
    (hsettled : (r.settleAll (Plan.compose o r.config) (r.ready o s t)).1 = .ok results) :
    (r.perform o s).1 = .ok ⟨v, (r.job.apply r.host.os { tree := t }).1, results, results.summary,
        .under (r.resolve o.reportPath)⟩ ∧
      (r.perform o s).2.tree = w ∧
      (r.perform o s).2.calls =
        (r.settleAll (Plan.compose o r.config) (r.ready o s t)).2.calls := by
  have hsetup : Report.setup (r.prepared o s).tree (r.resolve o.reportPath) = (.ok (), t) := by
    rw [tree_prepared r o s hx, tree_swept hs, ← h.swept]
    exact h.made
  have hleft := tree_settleFrom hx 0 (Plan.compose o r.config) .empty (r.ready o s t)
  rw [tree_ready, h.patched] at hleft
  rw [perform_of_setup_ok hjudge hsetup, carryOut_prepared]
  cases hz : r.settleAll (Plan.compose o r.config) (r.ready o s t) with
  | mk answer z =>
    rw [hz] at hsettled
    dsimp only at hsettled
    subst hsettled
    have htree : z.tree = p := (congrArg (·.2.tree) hz).symm.trans hleft
    have hwrite := h.written
    rw [← htree] at hwrite
    dsimp only
    unfold conclude
    dsimp only [Session.tree_say]
    rw [hwrite]
    exact ⟨rfl, rfl, rfl⟩

end Courses

/-! ## The same run again -/

/-- In front of the report directory the same commands are executed at another time. -/
theorem calls_prepared_later (hx : r.executor.Inert) (h : r.executor.Echoes s s')
    (timestamp : String) (elapsed : Nat → Duration) (o : Options) :
    ∃ made, (r.prepared o s).calls = s.calls ++ made ∧
      ((r.later timestamp elapsed).prepared o s').calls = s'.calls ++ made := by
  have hprobe : r.probe s = r.probe s' := h.outcome r.probeCommand
  have hclean := h [⟨r.probeCommand, r.probe s⟩] r.cleanCommand
  refine ⟨[⟨r.probeCommand, r.probe s⟩] ++ if o.clean then [⟨r.cleanCommand,
    (r.executor (s.calls ++ [⟨r.probeCommand, r.probe s⟩]) r.cleanCommand s.tree).outcome⟩] else [],
    ?_, ?_⟩
  · rw [calls_prepared_of_inert r o s hx, ← List.append_assoc]
    rfl
  · rw [hclean, hprobe, ← List.append_assoc]
    exact calls_prepared_of_inert (r.later timestamp elapsed) o s' hx

/-- **Running twice is running once.** A run that came to its end in a tree without links comes to
its end again on the files that it has left, whatever was shown and executed in between and whatever
time it is. It executes the same commands, finds everything patched, comes to the same results up to
the times that they took, and only renews the reports. The directory from which the root is taken
has to be there when earlier output has been removed: it is no part of that output. If any is
removed, the directories that the root and the report directory are reached through by `..` have to
be there from the start. -/
theorem perform_again (hx : r.executor.Inert) (hconstant : r.executor.Constant)
    (hlayout : r.config.patches = .standard) (ht : s.tree.Solid)
    (hordinary : ∀ l e, s.tree.spot r.root <+: l → s.tree.get? l = some e → e.isOrdinary = true)
    (hstart : (r.swept o s).tree.get? (s.tree.start r.root) = some .dir)
    (hgrounded : o.clean = true →
      s.tree.Grounded r.root ∧ s.tree.Grounded (r.resolve o.reportPath))
    (h : (r.perform o s).1 = .ok out) (timestamp : String) (elapsed : Nat → Duration)
    (s' : Session) (hs' : s'.tree = (r.perform o s).2.tree) :
    let again := (r.later timestamp elapsed).perform o s'
    (∃ made, (r.perform o s).2.calls = s.calls ++ made ∧ again.2.calls = s'.calls ++ made) ∧
      ∃ out', again.1 = .ok out' ∧
        out'.toolchain = out.toolchain ∧
        out.results.Matches out'.results ∧
        out'.summary = out.summary ∧
        out'.exitSuccess = out.exitSuccess ∧
        Patch.Quiet out'.patch.actions ∧
        r.Renews o out.toolchain timestamp out.results out'.results s.tree (r.perform o s).2.tree
          again.2.tree := by
  intro again
  have hl : r.config.patches.IsPlain := hlayout ▸ Patch.Layout.isPlain_standard
  have hapart : r.config.patches.Apart := hlayout ▸ Patch.Layout.apart_standard
  have hfiles : r.job.files.Nodup := by
    refine Patch.Job.files_nodup hl ?_
    show r.config.patches.files.Nodup
    rw [hlayout]
    decide
  -- the first run
  obtain ⟨u, t, p, hjudge, hcourse, hsettled, hcalls, hout⟩ := course_of_perform hx ht h
  rw [tree_swept ht, ← hcourse.swept] at hstart
  obtain ⟨u', t', hquiet, hagain⟩ :=
    hcourse.again ht hstart hl hapart hfiles hordinary hgrounded timestamp elapsed
  -- the executor answers alike, so that the stages are settled alike
  have hecho := hconstant.echoes s s'
  obtain ⟨before, hbefore, hbefore'⟩ := calls_prepared_later hx hecho timestamp elapsed o
  obtain ⟨hstages, made, hmade, hmade'⟩ := settleAll_later timestamp elapsed hx
    (hconstant.echoes (r.ready o s t) ((r.later timestamp elapsed).ready o s' t'))
    (Plan.compose o r.config)
  rw [calls_ready, hbefore, List.append_assoc] at hmade
  rw [calls_ready, hbefore', List.append_assoc] at hmade'
  obtain ⟨e, he, -⟩ | ⟨results, results', hresults, hresults', hmatches⟩ := hstages
  · rw [hsettled] at he
    cases he
  rw [hsettled] at hresults
  obtain rfl := Except.ok.inj hresults
  -- the second run
  obtain ⟨w', hcourse', hrenews⟩ := hagain results'
  have hsolid := (hcourse.layers ht hstart hl).written
  rw [← hs'] at hcourse' hsolid
  have hjudge' : (r.later timestamp elapsed).gate.judge ((r.later timestamp elapsed).probe s') =
      .ok out.toolchain := by
    rw [← hjudge]
    exact congrArg r.gate.judge (hecho.outcome r.probeCommand).symm
  obtain ⟨hanswer, htree, hcalls'⟩ := perform_of_course (r := r.later timestamp elapsed) hx hsolid
    hjudge' hcourse' hresults'
  have hsummary : results'.summary = out.summary := by
    rw [hout]
    exact hmatches.summary.symm
  refine ⟨⟨before ++ made, hcalls.trans hmade, hcalls'.trans hmade'⟩, _, hanswer, rfl, hmatches,
    hsummary, ?_, hquiet, ?_⟩
  · exact congrArg Summary.overallSuccess hsummary
  · rw [htree]
    exact hrenews

/-- Sources that the first run has to patch are found patched by the second one, although both
remove the report directory first. -/
theorem perform_again_patched :
    let r : Run := ⟨.standard, "pkg", ⟨"linux", "Linux", "2024-05-01T12:00:00Z", fun _ => .zero⟩,
      .scripted [("--version", .exited 0 "Swift version 6.1" "")]⟩
    let o : Options := { clean := true, reportPath := "patches/../reports" }
    let s : Session := { tree := Patch.Job.unpatched }
    let first := r.perform o s
    let again := (r.later "2024-05-02T12:00:00Z" fun _ => .zero).perform o { tree := first.2.tree }
    ∃ out out', first.1 = .ok out ∧ again.1 = .ok out' ∧ out.patch.actions ≠ [] ∧
      again.2.calls = first.2.calls ∧ out'.toolchain = out.toolchain ∧
      out.results.Matches out'.results ∧ out'.summary = out.summary ∧
      out'.exitSuccess = out.exitSuccess ∧ Patch.Quiet out'.patch.actions ∧
      r.Renews o out.toolchain "2024-05-02T12:00:00Z" out.results out'.results s.tree first.2.tree
        again.2.tree := by
  intro r o s
  have hordinary : ∀ l e, s.tree.spot r.root <+: l → s.tree.get? l = some e →
      e.isOrdinary = true := by
    intro l e _ he
    rcases mem_entries_of_get? he with ⟨-, rfl⟩ | hmem
    · rfl
    · exact (by decide : ∀ x ∈ Patch.Job.unpatched.entries, x.2.isOrdinary = true) _ hmem
  have htree (t : Tree) : ({ tree := t } : Session).tree = t := rfl
  have hends : (r.perform o s).1.toOption.any (fun out => !out.patch.actions.isEmpty) = true := by
    decide +kernel
  cases hout : (r.perform o s).1 with
  | error e =>
    rw [hout] at hends
    cases hends
  | ok out =>
    rw [hout] at hends
    obtain ⟨⟨made, hcalls, hcalls'⟩, out', hout', hsame⟩ := perform_again (r := r) (o := o) (s := s)
      (Executor.inert_scripted _) (Executor.constant_scripted _) rfl
      (solid_of_entries (by decide) (by decide)) hordinary (by decide +kernel)
      (fun _ => ⟨grounded_of_take (by decide +kernel), grounded_of_take (by decide +kernel)⟩) hout
      "2024-05-02T12:00:00Z" (fun _ => .zero) { tree := (r.perform o s).2.tree } (htree _)
    refine ⟨out, out', hout, hout', ?_, hcalls'.trans hcalls.symm, hsame⟩
    intro hnil
    simp [Except.toOption, hnil] at hends

/-- A directory that the report path leaves by `..` and that is made by the first run only hides the
report directory from the removal by this run, but not from that by the second one. -/
theorem perform_again_hidden :
    let r : Run := ⟨.standard, ".", ⟨"linux", "Linux", "2024-05-01T12:00:00Z", fun _ => .zero⟩,
      .scripted [("--version", .exited 0 "Swift version 6.1" "")]⟩
    let o : Options := { clean := true, packageOnly := true, reportPath := "x/../reports" }
    let s : Session := { tree := ⟨[(["reports"], .dir), (["reports", "coverage"], .dir),
      (["reports", "coverage", "old.txt"], .file "old".toUTF8 false)], []⟩ }
    let first := r.perform o s
    let again := r.perform o { tree := first.2.tree }
    s.tree.Solid ∧ first.1.toOption.isSome = true ∧ again.1.toOption.isSome = true ∧
      first.2.tree.get? ["reports", "coverage", "old.txt"] = some (.file "old".toUTF8 false) ∧
      again.2.tree.get? ["reports", "coverage", "old.txt"] = none := by
  intro r o s first again
  exact ⟨solid_of_entries (by decide) (by decide), by decide +kernel⟩

end Run

end Testbench
