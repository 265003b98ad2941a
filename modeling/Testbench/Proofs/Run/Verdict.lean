import Testbench.CommandLine.Answer
import Testbench.Proofs.Run.Phases
import Testbench.Proofs.Stage.Summary

/-!
# The verdict on a run

Of all stages only the tests can fail: the others run no command and pass or are skipped. The
verdict on a run that comes to its end is therefore that of the test command, and the exit code of
the program says the same, as the specification has it (§4.7 and §6).

- `Run.settleFrom_entries`: stages without commands add no failure.
- `Run.carryOut_exitSuccess`: the verdict is that of the test command.
- `CommandLine.code_iff_tests`: the verdict and the exit code of the program.
-/

namespace Testbench

namespace Run

variable {r : Run} {o : Options} {s : Session}

/-! ## Stages -/

/-- Stages that run no command add results, but no failures. -/
theorem settleFrom_entries : ∀ (k : Nat) (plan : Plan) (results : ResultSet) (s : Session)
    {results' : ResultSet}, (∀ stage ∈ plan, stage.IsPassive) →
    (r.settleFrom k plan results s).1 = .ok results' →
    ∃ more, results'.entries = results.entries ++ more ∧ ∀ e ∈ more, e.verdict.isFailed = false
  | _, [], results, _, _, _, h => by
    cases h
    exact ⟨[], by simp⟩
  | k, stage :: plan, results, s, results', hplan, h => by
    obtain ⟨hstage, hplan⟩ := List.forall_mem_cons.mp hplan
    have hpasses := settle_isFailed r hstage (r.host.elapsed k) s
    rw [settleFrom] at h
    cases hs : r.settle (r.host.elapsed k) stage s with
    | mk verdict s₁ =>
      rw [hs] at h hpasses
      dsimp only at h hpasses
      cases hrecord : results.record ⟨stage.name, verdict⟩ with
      | error e =>
        rw [hrecord] at h
        cases h
      | ok results₁ =>
        rw [hrecord] at h
        obtain ⟨more, hmore, hall⟩ := settleFrom_entries (k + 1) plan results₁ s₁ hplan h
        refine ⟨⟨stage.name, verdict⟩ :: more, ?_, List.forall_mem_cons.mpr ⟨hpasses, hall⟩⟩
        rw [hmore, (ResultSet.record_eq_ok_iff.mp hrecord).2, List.append_assoc]
        rfl

/-- What concludes a run judges its results. -/
theorem conclude_exitSuccess {dir : String} {v : Version} {patch : Patch.Report}
    {results : ResultSet} {out : RunOutcome}
    (h : (r.conclude dir v patch results s).1 = .ok out) :
    out.exitSuccess = results.summary.overallSuccess := by
  obtain ⟨before, rfl, -⟩ := conclude_eq_ok h
  rfl

/-- The verdict on a plan that was carried out is that of the test command. -/
theorem carryOut_exitSuccess {dir : String} {v : Version} {out : RunOutcome}
    (h : (r.carryOut o dir v s).1 = .ok out) :
    out.exitSuccess = (r.tested o s).outcome.success := by
  obtain ⟨results, s', hentries, -, -, hall⟩ := settleAll_compose r o (r.staged o s)
  rw [(staged_grown r o s).calls] at hentries
  obtain ⟨results', u, hsettled, hconclude⟩ := exists_settled_of_carryOut h
  rw [hconclude] at h
  rw [hall] at hsettled
  -- the results are that of the tests and some that are no failures
  obtain ⟨more, hmore, hpasses⟩ := settleFrom_entries 1 _ results s'
    (fun _ => isPassive_of_mem_compose) (congrArg Prod.fst hsettled)
  have hmore' : (more.all fun e => !e.verdict.isFailed) = true := by
    rw [List.all_eq_true]
    intro e he
    rw [hpasses e he]
    rfl
  rw [conclude_exitSuccess h, ResultSet.summary, Summary.overallSuccess_ofList, hmore, hentries,
    List.all_append, hmore']
  simp [Verdict.isFailed, tested]

/-! ## Whole runs -/

theorem head?_args_testCommand (r : Run) (o : Options) :
    (r.testCommand o).args.head? = some "test" := rfl

/-- A run that comes to its end has executed the test command once, behind all others, and its
verdict is that of this command. -/
theorem perform_exitSuccess {out : RunOutcome} (h : (r.perform o s).1 = .ok out) :
    ∃ before outcome,
      (r.perform o s).2.calls = s.calls ++ before ++ [⟨r.testCommand o, outcome⟩] ∧
      (∀ c ∈ before, c.command ≠ r.testCommand o) ∧
      (∃ t, outcome = (r.executor (s.calls ++ before) (r.testCommand o) t).outcome) ∧
      (out.exitSuccess = true ↔ outcome.exitCode = 0) := by
  obtain ⟨v, t, hperform⟩ := exists_carryOut_of_perform h
  rw [hperform] at h ⊢
  have hcalls := (carryOut_spec r o (r.resolve o.reportPath) v ((r.prepared o s).withTree t)).1
  have hverdict := carryOut_exitSuccess h
  have hprepared := calls_prepared r o s
  rw [List.append_assoc] at hprepared
  rw [Session.calls_withTree, hprepared] at hcalls
  -- the commands in front have other first arguments
  refine ⟨_, _, hcalls, fun c hc heq => ?_,
    ⟨(r.staged o ((r.prepared o s).withTree t)).tree, ?_⟩, ?_⟩
  · have hhead : c.command.args.head? = some "test" := by rw [heq, head?_args_testCommand]
    rcases List.mem_append.mp hc with hc | hc
    · rw [List.mem_singleton.mp hc] at hhead
      exact absurd hhead (by simp [probeCommand])
    · split at hc
      · rw [List.mem_singleton.mp hc] at hhead
        exact absurd hhead (by simp [cleanCommand])
      · cases hc
  · rw [tested, Session.calls_withTree, hprepared]
  · rw [hverdict, Outcome.success, decide_eq_true_iff]

end Run

/-! ## The exit code -/

namespace CommandLine

/-- The exit code of a run is that of a success or of a failure, and it is that of a success exactly
if a configuration was found, the run came to its end, and its verdict is one. -/
theorem code_answerRun (around : Surroundings) (o : Options) (asked : Option String) (t : Tree) :
    ((answerRun around o asked t).code = 0 ∨ (answerRun around o asked t).code = 1) ∧
      ((answerRun around o asked t).code = 0 ↔ ∃ config out,
        Config.load t asked around.named = .ok config ∧
        (Run.perform ⟨config, ".", around.host, around.executor⟩ o { tree := t }).1 = .ok out ∧
        out.exitSuccess = true) := by
  unfold answerRun
  dsimp only
  cases hload : Config.load t asked around.named with
  | error e => simp [reportFailure, Answer.ofSession, failureCode]
  | ok config =>
    dsimp only
    cases hrun : Run.perform ⟨config, ".", around.host, around.executor⟩ o { tree := t } with
    | mk answer s =>
      cases answer with
      | ok out => cases hout : out.exitSuccess <;>
          simp [hrun, hout, Answer.ofSession, successCode, failureCode]
      | error e => cases e <;> simp [hrun, reportFailure, Answer.ofSession, failureCode]

/-- **The verdict on a run is the exit status of the test command.** A run that comes to its end has
executed that command once, and succeeds exactly if the command ended with code `0`. The exit code
of the program is `0` exactly if the configuration was loaded, the run came to its end and
succeeded; otherwise it is `1`. -/
theorem code_iff_tests :
    (∀ (r : Run) (o : Options) (s : Session) (out : RunOutcome), (r.perform o s).1 = .ok out →
      ∃ before outcome,
        (r.perform o s).2.calls = s.calls ++ before ++ [⟨r.testCommand o, outcome⟩] ∧
        (∀ c ∈ before, c.command ≠ r.testCommand o) ∧
        (∃ t, outcome = (r.executor (s.calls ++ before) (r.testCommand o) t).outcome) ∧
        (out.exitSuccess = true ↔ outcome.exitCode = 0)) ∧
    ∀ (around : Surroundings) (args : List String) (t : Tree) (o : Options)
      (asked : Option String), read args = .ok (.run o asked) →
      ((answer around args t).code = 0 ∨ (answer around args t).code = 1) ∧
      ((answer around args t).code = 0 ↔ ∃ config out,
        Config.load t asked around.named = .ok config ∧
        (Run.perform ⟨config, ".", around.host, around.executor⟩ o { tree := t }).1 = .ok out ∧
        out.exitSuccess = true) := by
  refine ⟨fun r o s out h => Run.perform_exitSuccess h, fun around args t o asked hread => ?_⟩
  have hanswer : answer around args t = answerRun around o asked t := by
    unfold answer
    rw [hread]
  rw [hanswer]
  exact code_answerRun around o asked t

/-- Where the tests pass the run and the program succeed, although the package cannot be cleaned and
there is no header; where they fail so does the program, however well all else went. -/
theorem code_iff_tests_both :
    let host : Host := ⟨"linux", "Linux", "", fun _ => .zero⟩
    let green : Executor := .scripted
      [("--version", .exited 0 "Swift version 6.1" ""), ("package", .exited 1 "" "")]
    let red : Executor := .scripted
      [("--version", .exited 0 "Swift version 6.1" ""), ("test", .exited 1 "" "")]
    let t : Tree := ⟨[(["pkg"], .dir)], ["pkg"]⟩
    (∃ out, (Run.perform ⟨.standard, ".", host, green⟩ { clean := true } { tree := t }).1 = .ok out ∧
        out.exitSuccess = true) ∧
      (answer ⟨.unset, host, green⟩ ["--clean"] t).code = 0 ∧
      (answer ⟨.unset, host, red⟩ [] t).code = 1 ∧
      ¬ ∃ config out, Config.load t none .unset = .ok config ∧
        (Run.perform ⟨config, ".", host, red⟩ {} { tree := t }).1 = .ok out ∧
        out.exitSuccess = true := by
  intro host green red t
  have hpasses : ∃ out, (Run.perform ⟨.standard, ".", host, green⟩ { clean := true }
      { tree := t }).1 = .ok out ∧ out.exitSuccess = true := by
    have hends : (Run.perform ⟨.standard, ".", host, green⟩ { clean := true }
        { tree := t }).1.toOption.isSome = true := by decide +kernel
    cases hout : (Run.perform ⟨.standard, ".", host, green⟩ { clean := true } { tree := t }).1 with
    | error e =>
      rw [hout] at hends
      cases hends
    | ok out =>
      obtain ⟨before, outcome, -, -, ⟨u, houtcome⟩, hverdict⟩ := code_iff_tests.1 _ _ _ out hout
      refine ⟨out, rfl, hverdict.mpr ?_⟩
      rw [houtcome]
      rfl
  obtain ⟨out, hout, hsuccess⟩ := hpasses
  obtain ⟨-, hgreen⟩ :=
    code_iff_tests.2 ⟨.unset, host, green⟩ ["--clean"] t { clean := true } none rfl
  obtain ⟨-, hred⟩ := code_iff_tests.2 ⟨.unset, host, red⟩ [] t {} none rfl
  have hone : (answer ⟨.unset, host, red⟩ [] t).code = 1 := by decide +kernel
  refine ⟨⟨out, hout, hsuccess⟩, hgreen.mpr ⟨.standard, out, rfl, hout, hsuccess⟩, hone, fun h => ?_⟩
  have := hred.mpr h
  omega

end CommandLine

end Testbench
