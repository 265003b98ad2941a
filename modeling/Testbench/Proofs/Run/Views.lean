import Testbench.Proofs.Report.Document
import Testbench.Proofs.Run.Phases
import Testbench.Proofs.Stage.Summary

/-!
# The views of a run

A run that comes to its end has told of its results four times: in the structured summary, in the
text summary, on the console and in its outcome. All four say the same, and the two files hold what
was written to them unless links lead both paths to one file, which then holds the text summary.

- `StageResult.IsShownBy`, `Run.ViewsAgree`: what it means that the views say the same.
- `Run.names_settleAll`: the results have the names of the stages.
- `Run.exists_conclude_of_perform`: a run that comes to its end has concluded on such results.
- `viewsAgree_of_closing`: the views of a run that closes with such results.
- `perform_views`: those of a whole run, and what its files hold.
-/

namespace Testbench

/-! ## Views that agree -/

/-- A line shows a result: it has the name and the label, and its tag goes with the verdict. -/
structure StageResult.IsShownBy (e : StageResult) (l : Line) : Prop where
  message : l.message = e.name ++ ": " ++ e.verdict.label
  tag : l.tag = if e.verdict.isSkipped then .warning
    else if e.verdict.isPassed then .success else .error

namespace Run

/-- The outcome of a run of a plan, its structured summary, the text summary and the console say the
same. -/
structure ViewsAgree (plan : Plan) (out : RunOutcome) (doc : Json) (text : String)
    (console : List Line) : Prop where
  summary : out.summary = out.results.summary
  /-- There is a result for each stage, in the order of the plan. -/
  names : out.results.entries.map (·.name) = plan.map (·.name)
  /-- The structured summary has a test for each result, in their order. -/
  tests : ∃ tests, doc.field? "tests" = some (.object tests) ∧
    tests.map (·.1) = plan.map (·.name) ∧
    List.Forall₂ StageResult.Shows out.results.entries tests
  total : doc.field? "total_tests" = some (.nat out.summary.total)
  successful : doc.field? "successful_tests" = some (.nat out.summary.successful)
  skipped : doc.field? "skipped_tests" = some (.nat out.summary.skipped)
  overall : doc.field? "overall_success" = some (.bool out.exitSuccess)
  /-- What is neither passed nor skipped has failed. -/
  failed : out.summary.total = out.summary.successful + out.summary.skipped + out.summary.failed
  /-- The text summary ends with the lines that the console shows of the results, the counts and the
  verdict; the last line on the console has the tag of the verdict. -/
  lines : ∃ head before shown last, List.Forall₂ StageResult.IsShownBy out.results.entries shown ∧
    text = String.join ((head ++ ["Results:", "--------"] ++ shown.map ("- " ++ ·.message) ++
      ["", "Summary:", "--------", "Total Tests: " ++ toString out.summary.total,
        "Passed: " ++ toString out.summary.successful, "Failed: " ++ toString out.summary.failed,
        "Skipped: " ++ toString out.summary.skipped,
        "Overall: " ++ if out.exitSuccess then "SUCCESS" else "FAILURE"]).map (· ++ "\n")) ∧
    console = before ++ Line.heading "Test Results" ++ shown ++ [last] ∧
    last.tag = if out.exitSuccess then .success else .error

variable {r : Run} {o : Options} {s : Session} {out : RunOutcome}

/-! ## Names -/

/-- The results that a plan adds have the names of its stages. -/
theorem names_settleFrom : ∀ (k : Nat) (plan : Plan) (results : ResultSet) (s : Session)
    {results' : ResultSet}, (r.settleFrom k plan results s).1 = .ok results' →
    results'.entries.map (·.name) = results.entries.map (·.name) ++ plan.map (·.name)
  | _, [], results, _, _, h => by
    cases h
    simp
  | k, stage :: plan, results, s, results', h => by
    rw [settleFrom] at h
    dsimp only at h
    cases hrecord : results.record
        ⟨stage.name, (r.settle (r.host.elapsed k) stage s).1⟩ with
    | error e =>
      rw [hrecord] at h
      cases h
    | ok results₁ =>
      rw [hrecord] at h
      rw [names_settleFrom (k + 1) plan results₁ _ h, (ResultSet.record_eq_ok_iff.mp hrecord).2]
      simp

theorem names_settleAll {plan : Plan} {results : ResultSet}
    (h : (r.settleAll plan s).1 = .ok results) :
    results.entries.map (·.name) = plan.map (·.name) :=
  names_settleFrom 0 plan .empty s h

/-- A run that comes to its end has concluded on results with the names of its stages. -/
theorem exists_conclude_of_perform (h : (r.perform o s).1 = .ok out) :
    ∃ v patch results s', r.perform o s = r.conclude (r.resolve o.reportPath) v patch results s' ∧
      results.entries.map (·.name) = (Plan.compose o r.config).map (·.name) := by
  obtain ⟨v, t, hperform⟩ := exists_carryOut_of_perform h
  rw [hperform] at h
  obtain ⟨results, s', hall, hconclude⟩ := exists_settled_of_carryOut h
  exact ⟨v, _, results, s', hperform.trans hconclude, names_settleAll (congrArg Prod.fst hall)⟩

/-! ## The end of a run -/

/-- What shows a result at the end of a run. -/
def shown (e : StageResult) : Line :=
  ⟨match e.verdict with
    | .skipped _ => .warning
    | .ran true _ => .success
    | .ran false _ => .error, e.line⟩

theorem isShownBy_shown : ∀ e : StageResult, e.IsShownBy (shown e)
  | ⟨_, .ran true _⟩ => ⟨rfl, rfl⟩
  | ⟨_, .ran false _⟩ => ⟨rfl, rfl⟩
  | ⟨_, .skipped _⟩ => ⟨rfl, rfl⟩

/-- The views of what was concluded agree. -/
theorem viewsAgree_of_closing {plan : Plan} {v : Version} {patch : Patch.Report}
    {results : ResultSet} {reports : Report.Paths} (issues : KnownIssues) (c : Report.Context)
    (before : List Line) (hnames : results.entries.map (·.name) = plan.map (·.name)) :
    ViewsAgree plan ⟨v, patch, results, results.summary, reports⟩
      (Report.document results issues c) (Report.text results c) (before ++ closing results) := by
  obtain ⟨tests, htests, hdoc⟩ := (Report.describes_document results issues c).members
  rw [hdoc]
  refine ⟨rfl, hnames, ⟨tests, rfl, (StageResult.map_fst_of_shows htests).trans hnames, htests⟩,
    rfl, rfl, rfl, rfl, Summary.total_ofList _, ?_⟩
  -- seven lines stand over the results in the text summary
  refine ⟨(Report.lines results c).take 7, before, results.entries.map shown,
    if results.summary.overallSuccess then ⟨.success, "All tests passed!"⟩
    else ⟨.error, "Some tests failed. Check the reports directory for details."⟩, ?_, ?_, ?_, ?_⟩
  · exact List.forall₂_map_right_iff.mpr (List.forall₂_same.mpr fun e _ => isShownBy_shown e)
  · rw [List.map_map]
    rfl
  · unfold closing
    simp only [List.append_assoc]
    rfl
  · exact apply_ite Line.tag ..

/-- **The views of a run agree.** The structured summary and the text summary that a run renders
when it comes to its end, what it shows on the console and its outcome tell of the same results.
Where the path of the text summary leads to a regular file, the file holds that text; where the path
of the structured summary leads to another regular file, this one is decoded to that summary. -/
theorem perform_views (h : (r.perform o s).1 = .ok out) :
    let doc := Report.document out.results r.config.knownIssues (r.context out.toolchain)
    let text := Report.text out.results (r.context out.toolchain)
    let paths := Report.Paths.under (r.resolve o.reportPath)
    let after := (r.perform o s).2
    ViewsAgree (Plan.compose o r.config) out doc text after.lines ∧ out.reports = paths ∧
      (after.tree.isFile paths.text = true → after.tree.readText paths.text = .ok text) ∧
      (after.tree.isFile paths.json = true →
        after.tree.find paths.json ≠ after.tree.find paths.text → ∃ document,
          after.tree.readText paths.json = .ok document ∧ Json.read document = some doc) := by
  intro doc text paths after
  obtain ⟨v, patch, results, s', hperform, hnames⟩ := exists_conclude_of_perform h
  rw [hperform] at h
  obtain ⟨before, rfl, hwrite, hlines⟩ := conclude_eq_ok h
  rw [← hperform] at hwrite hlines
  obtain ⟨htext, hjson⟩ := Report.readText_of_write hwrite
  refine ⟨?_, rfl, htext, fun hfile hne => ⟨_, hjson hfile hne, Report.read_json ..⟩⟩
  rw [hlines]
  exact viewsAgree_of_closing r.config.knownIssues (r.context v) before hnames

/-- A run of all stages, the first of which fails, with two regular files in the end. -/
theorem perform_views_failed :
    let r : Run := ⟨.standard, ".", ⟨"linux", "Linux", "2024-05-01T12:00:00Z", fun _ => .zero⟩,
      .scripted [("--version", .exited 0 "Swift version 6.1" ""), ("test", .exited 1 "" "")]⟩
    let o : Options := {}
    let s : Session := { tree := ⟨[(["pkg"], .dir)], ["pkg"]⟩ }
    let paths := Report.Paths.under (r.resolve o.reportPath)
    let after := (r.perform o s).2
    ∃ out doc text document, (r.perform o s).1 = .ok out ∧
      ViewsAgree (Plan.compose o r.config) out doc text after.lines ∧
      after.tree.readText paths.text = .ok text ∧
      after.tree.readText paths.json = .ok document ∧ Json.read document = some doc := by
  intro r o s paths after
  have hends : (r.perform o s).1.toOption.isSome = true ∧ after.tree.isFile paths.text = true ∧
      after.tree.isFile paths.json = true ∧
      (after.tree.find paths.json).toOption ≠ (after.tree.find paths.text).toOption := by
    decide +kernel
  obtain ⟨hok, htextFile, hjsonFile, hne⟩ := hends
  cases hout : (r.perform o s).1 with
  | error e =>
    rw [hout] at hok
    cases hok
  | ok out =>
    obtain ⟨hagree, -, htext, hjson⟩ := perform_views hout
    obtain ⟨document, hdocument, hread⟩ := hjson hjsonFile (mt (congrArg Except.toOption) hne)
    exact ⟨out, _, _, document, rfl, hagree, htext htextFile, hdocument, hread⟩

/-- The text summary starts with the name of the project, and no value starts with this letter. -/
theorem read_text_eq_none (results : ResultSet) {c : Report.Context} {cs : List Char}
    (h : c.project.toList = 'G' :: cs) : Json.read (Report.text results c) = none := by
  obtain ⟨rest, hrest⟩ : ∃ rest, Report.text results c = c.project ++ rest := by
    unfold Report.text Report.lines Report.title
    simp only [List.cons_append, List.map_cons, String.join_cons, String.append_assoc]
    exact ⟨_, rfl⟩
  have hletter : (Report.text results c).toList = 'G' :: (cs ++ rest.toList) := by
    rw [hrest, String.toList_append, h, List.cons_append]
  unfold Json.read
  rw [hletter]
  rfl

/-- Where a link leads the text summary to the structured one, the run comes to its end all the same
and leaves no structured summary. -/
theorem perform_views_linked :
    let r : Run := ⟨.standard, ".", ⟨"linux", "Linux", "2024-05-01T12:00:00Z", fun _ => .zero⟩,
      .scripted [("--version", .exited 0 "Swift version 6.1" "")]⟩
    let o : Options := {}
    let s : Session := { tree := ⟨[(["pkg"], .dir), (["pkg", "reports"], .dir),
      (["pkg", "reports", "summary.txt"], .link "summary.json")], ["pkg"]⟩ }
    let paths := Report.Paths.under (r.resolve o.reportPath)
    let after := (r.perform o s).2
    (∃ out, (r.perform o s).1 = .ok out ∧ out.reports = paths) ∧
      ∃ document, after.tree.readText paths.json = .ok document ∧ Json.read document = none := by
  intro r o s paths after
  have hends : (r.perform o s).1.toOption.isSome = true ∧ after.tree.isFile paths.text = true ∧
      after.tree.find paths.json = .ok ["pkg", "reports", "summary.json"] ∧
      after.tree.find paths.text = .ok ["pkg", "reports", "summary.json"] := by decide +kernel
  obtain ⟨hok, hfile, hjson, htext⟩ := hends
  cases hout : (r.perform o s).1 with
  | error e =>
    rw [hout] at hok
    cases hok
  | ok out =>
    obtain ⟨v, patch, results, s', hperform, -⟩ := exists_conclude_of_perform hout
    rw [hperform] at hout
    obtain ⟨before, rfl, hwrite, -⟩ := conclude_eq_ok hout
    rw [← hperform] at hwrite
    have hread := (Report.readText_of_write hwrite).1 hfile
    have hsame : after.tree.readText paths.json = after.tree.readText paths.text :=
      Tree.readText_of_find_eq (hjson.trans htext.symm)
    have hproject : (r.context v).project.toList = 'G' :: "RDB.swift".toList := by
      show "GRDB.swift".toList = _
      decide
    exact ⟨⟨_, rfl, rfl⟩, _, hsame.trans hread, read_text_eq_none results hproject⟩

end Run

end Testbench
