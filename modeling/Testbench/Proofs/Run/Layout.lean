import Testbench.Instant
import Testbench.Proofs.Report.Layout
import Testbench.Proofs.Run.Plan
import Testbench.Proofs.Run.Views
import Testbench.Proofs.Version

/-!
# The layout of what a run reports

The names and reasons in a text summary are those of the plan. All other texts in it are on one line
each: the version is made of digits and points, the instant is written with digits and signs, and
the counts and times are numbers. Whether scripts can read the text summary can therefore be told
from the plan and the name of the project, before anything is run. The layout is the one that the
specification documents (§4.5 and §11).

- `Instant.isOneLine_text`, `Version.isOneLine_number`: texts of one line.
- `Plan.IsPlain`: names and reasons of one line.
- `Run.Records.isOneLine_iff`: the results of a plan are on one line each if the plan is plain.
- `Run.exists_records_of_perform`: what a run that comes to its end has learned and recorded.
- `Run.perform_layout`: the layout of the text summary that a run leaves.
-/

namespace Testbench

open Testbench.Text

/-! ## Texts of one line -/

namespace Instant

theorem isOneLine_padded (width n : Nat) : IsOneLine (padded width n) := by
  unfold padded
  rw [isOneLine_append, isOneLine_ofList]
  exact ⟨by simp, isOneLine_repr n⟩

theorem isOneLine_fraction (nanos : Nat) : IsOneLine (fraction nanos) := by
  unfold fraction
  split
  · decide
  · rw [isOneLine_append]
    refine ⟨by decide, isOneLine_ofList.mpr fun h => ?_⟩
    have hdigits := (List.dropWhile_sublist _).subset (List.mem_reverse.mp h)
    exact isOneLine_padded 9 nanos (List.mem_reverse.mp hdigits)

/-- An instant is written on one line. -/
theorem isOneLine_text (i : Instant) : IsOneLine i.text := by
  have hsigns : IsOneLine "-" ∧ IsOneLine "T" ∧ IsOneLine ":" ∧ IsOneLine "Z" := by decide
  simp [text, isOneLine_padded, isOneLine_fraction, hsigns]

end Instant

namespace Version

/-- The number of a version is written on one line. -/
theorem isOneLine_number {banner output : String} {v : Version}
    (h : find? banner output = some v) : IsOneLine v.number := by
  obtain ⟨digits, rest, -, -, -, htells⟩ := find?_eq_some h
  intro hend
  rcases htells.plain _ hend with hdigit | hpoint
  · exact absurd hdigit (by decide)
  · exact absurd hpoint (by decide)

end Version

/-! ## Plans -/

/-- The name of the stage, and the reason if it is to be skipped, are on one line. -/
def Stage.IsPlain (s : Stage) : Prop :=
  IsOneLine s.name ∧ ∀ reason, s.action = .skip reason → IsOneLine reason

instance (s : Stage) : Decidable s.IsPlain :=
  match h : s.action with
  | .command _ => decidable_of_iff (IsOneLine s.name) (by simp [Stage.IsPlain, h])
  | .check _ => decidable_of_iff (IsOneLine s.name) (by simp [Stage.IsPlain, h])
  | .skip reason =>
    decidable_of_iff (IsOneLine s.name ∧ IsOneLine reason) (by simp [Stage.IsPlain, h])

/-- All names and reasons of the plan are on one line. -/
def Plan.IsPlain (p : Plan) : Prop := ∀ stage ∈ p, stage.IsPlain

instance (p : Plan) : Decidable p.IsPlain := inferInstanceAs (Decidable (∀ stage ∈ p, _))

namespace Run

variable {r : Run} {o : Options} {s : Session} {out : RunOutcome}

/-- The results of a plan are on one line each if the plan is plain, and only then. -/
theorem Records.isOneLine_iff {k : Nat} {p : Plan} {calls : List Call}
    {results : List StageResult} (h : r.Records k p calls results) :
    (∀ e ∈ results, IsOneLine e.line) ↔ p.IsPlain := by
  unfold Plan.IsPlain
  induction h with
  | nil => simp
  | command name c outcome rest ih =>
    rw [List.forall_mem_cons, List.forall_mem_cons, ih, StageResult.isOneLine_line_iff]
    simp [Stage.IsPlain, StageResult.completed]
  | check name header rest ih =>
    rw [List.forall_mem_cons, List.forall_mem_cons, ih, StageResult.isOneLine_line_iff]
    simp [Stage.IsPlain, StageResult.completed]
  | skip name reason rest ih =>
    rw [List.forall_mem_cons, List.forall_mem_cons, ih, StageResult.isOneLine_line_iff]
    simp [Stage.IsPlain, StageResult.skipped]

/-- The gate only lets versions pass that were stated. -/
theorem exists_find?_of_judge {g : Gate} {answer : Outcome} {v : Version}
    (h : g.judge answer = .ok v) : ∃ output, Version.find? g.banner output = some v := by
  unfold Gate.judge Gate.evaluate at h
  split at h
  · split at h
    · cases h
    · next v' hfind =>
      split at h
      · cases h
      · cases h
        exact ⟨_, hfind⟩
  · cases h

/-- A run that comes to its end has been told a version, and has recorded a result for each stage of
its plan. -/
theorem exists_records_of_perform (h : (r.perform o s).1 = .ok out) :
    (∃ output, Version.find? r.config.toolchain.banner output = some out.toolchain) ∧
      ∃ made, r.Records 0 (Plan.compose o r.config) made out.results.entries := by
  obtain ⟨v, t, hjudge, hsetup⟩ := exists_setup_of_perform h
  rw [perform_of_setup_ok hjudge hsetup] at h
  obtain ⟨results, s', hall, hconclude⟩ := exists_settled_of_carryOut h
  rw [hconclude] at h
  obtain ⟨-, rfl, -⟩ := conclude_eq_ok h
  have hok : (r.settleAll (Plan.compose o r.config)
    (r.staged o ((r.prepared o s).withTree t))).1 = .ok results := congrArg Prod.fst hall
  -- no name repeats in the plan, since none does in the results
  have hnodup : ((Plan.compose o r.config).map (·.name)).Nodup :=
    names_settleAll hok ▸ results.nodup
  obtain ⟨results', made, hok', -, hrecords⟩ := settleAll_records (r := r) hnodup
    (r.staged o ((r.prepared o s).withTree t))
  cases hok.symm.trans hok'
  exact ⟨exists_find?_of_judge hjudge, made, hrecords⟩

/-- A run that comes to its end leaves the text summary of its results, where the path of that leads
to a regular file. -/
theorem readText_of_perform (h : (r.perform o s).1 = .ok out)
    (hfile : (r.perform o s).2.tree.isFile out.reports.text = true) :
    (r.perform o s).2.tree.readText out.reports.text =
        .ok (Report.text out.results (r.context out.toolchain)) ∧
      out.summary = out.results.summary := by
  obtain ⟨v, patch, results, s', hperform, -⟩ := exists_conclude_of_perform h
  rw [hperform] at h
  obtain ⟨before, rfl, hwrite, -⟩ := conclude_eq_ok h
  rw [← hperform] at hwrite
  exact ⟨(Report.readText_of_write hwrite).1 hfile, rfl⟩

/-- **The text summary of a run keeps its layout** exactly if all names and reasons of the plan are
on one line and the name of the project puts no heading over results and no verdict into the title.
The plan and the name are those of the configuration; the clock, which writes every instant on one
line, and the host add one line each. -/
theorem perform_layout (h : (r.perform o s).1 = .ok out) (hclock : IsOneLine r.host.timestamp)
    (hplatform : IsOneLine r.host.platform)
    (hfile : (r.perform o s).2.tree.isFile out.reports.text = true) :
    ∃ text, (r.perform o s).2.tree.readText out.reports.text = .ok text ∧
      (Report.LaidOut (endedLines text) out.results.entries out.exitSuccess ↔
        (Plan.compose o r.config).IsPlain ∧ ¬ Report.Forges r.config.projectName) := by
  obtain ⟨⟨output, hfind⟩, made, hrecords⟩ := exists_records_of_perform h
  obtain ⟨htext, hsummary⟩ := readText_of_perform h hfile
  refine ⟨_, htext, ?_⟩
  have hlayout := Report.laidOut_text_iff (c := r.context out.toolchain) hclock hplatform
    (Version.isOneLine_number hfind) out.results
  rw [RunOutcome.exitSuccess, hsummary]
  exact hlayout.trans (and_congr_left' hrecords.isOneLine_iff)

/-- A run with known issues whose tests fail. -/
theorem perform_layout_failed :
    let i : Instant := ⟨0, 0⟩
    let r : Run := ⟨.standard, ".", ⟨"linux", "Linux", i.text, fun _ => .zero⟩,
      .scripted [("--version", .exited 0 "Swift version 6.1" ""), ("test", .exited 1 "" "")]⟩
    let s : Session := { tree := ⟨[(["pkg"], .dir)], ["pkg"]⟩ }
    ∃ out text, (r.perform {} s).1 = .ok out ∧
      (r.perform {} s).2.tree.readText out.reports.text = .ok text ∧
      Report.LaidOut (endedLines text) out.results.entries false := by
  intro i r s
  have hends : ((r.perform {} s).1.toOption.map fun out =>
      (out.exitSuccess, (r.perform {} s).2.tree.isFile out.reports.text)) = some (false, true) := by
    decide +kernel
  cases hout : (r.perform {} s).1 with
  | error e =>
    rw [hout] at hends
    cases hends
  | ok out =>
    rw [hout] at hends
    obtain ⟨hfailed, hfile⟩ := Prod.mk.inj (Option.some.inj hends)
    obtain ⟨text, htext, hlayout⟩ := perform_layout hout i.isOneLine_text (by decide) hfile
    refine ⟨out, text, rfl, htext, ?_⟩
    rw [← hfailed]
    exact hlayout.mpr ⟨by decide +kernel, by decide +kernel⟩

/-- The reason to skip a stage of a valid configuration writes a verdict of its own, which tells of
success where the tests failed. -/
theorem perform_layout_forged :
    let issues : KnownIssues :=
      ⟨[⟨"Docs", "later)\nOverall: SUCCESS\n(not yet"⟩], by decide, by decide⟩
    let i : Instant := ⟨0, 0⟩
    let r : Run := ⟨{ Config.standard with knownIssues := issues }, ".",
      ⟨"linux", "Linux", i.text, fun _ => .zero⟩,
      .scripted [("--version", .exited 0 "Swift version 6.1" ""), ("test", .exited 1 "" "")]⟩
    let s : Session := { tree := ⟨[(["pkg"], .dir)], ["pkg"]⟩ }
    r.config.validate = .ok r.config ∧ IsOneLine r.host.platform ∧
      ∃ out text, (r.perform {} s).1 = .ok out ∧ out.exitSuccess = false ∧
        (r.perform {} s).2.tree.readText out.reports.text = .ok text ∧
        "Overall: SUCCESS" ∈ endedLines text ∧
        ¬ Report.LaidOut (endedLines text) out.results.entries out.exitSuccess := by
  intro issues i r s
  refine ⟨Config.validate_eq_ok_iff.mpr ⟨by decide +kernel, rfl⟩, by decide, ?_⟩
  have hends : ((r.perform {} s).1.toOption.map fun out =>
      (out.exitSuccess, (r.perform {} s).2.tree.isFile out.reports.text,
        decide (⟨"Docs", .skipped "later)\nOverall: SUCCESS\n(not yet"⟩ ∈ out.results.entries))) =
      some (false, true, true) := by
    decide +kernel
  cases hout : (r.perform {} s).1 with
  | error e =>
    rw [hout] at hends
    cases hends
  | ok out =>
    rw [hout] at hends
    obtain ⟨hfailed, hrest⟩ := Prod.mk.inj (Option.some.inj hends)
    obtain ⟨hfile, hdocs⟩ := Prod.mk.inj hrest
    have hverdict := Report.mem_endedLines_text (of_decide_eq_true hdocs)
      (r.context out.toolchain) (l := "Overall: SUCCESS") (by decide)
    refine ⟨out, _, rfl, hfailed, (readText_of_perform hout hfile).1, hverdict, fun h => ?_⟩
    have hsuccess : true = out.exitSuccess := h.eq_of_mem hverdict
    rw [hfailed] at hsuccess
    cases hsuccess

end Run

end Testbench
