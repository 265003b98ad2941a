import Testbench.Proofs.Report.Directory
import Testbench.Proofs.Run.Growth

/-!
# The phases of a run

A run passes the gate, removes earlier output if that is wanted, makes the report directory and
carries the plan out. It ends at the gate, at the report directory, or at the end of the plan.

- `Gate.judge`, `Run.probed`: what the gate makes of an answer, and the session behind the gate.
- `Run.prepared`: the session in which the report directory is made.
- `perform_of_judge_error`, `perform_of_setup_error`, `perform_of_setup_ok`: the three ways on which
  a run ends. Every run takes one of them.
- `Run.probeCommand`, `Run.cleanCommand`, `Run.testCommand`: the commands that a run can execute.
- `calls_probed`, `calls_prepared`, `settleAll_compose`: the commands of the phases.
- `exists_settled_of_carryOut`: a plan that is carried out to its end has settled all stages.
- `conclude_eq_ok`: what a run that comes to its end has written and shown.
-/

namespace Testbench

open Testbench.Tree

/-! ## The gate -/

/-- What the gate makes of the outcome of its command. -/
def Gate.judge (g : Gate) (o : Outcome) : Except GateError Version :=
  if o.success then g.evaluate o.stdout else .error (.unavailable g.program)

section Judgement

variable (g : Gate) {o : Outcome}

theorem Gate.judge_of_failed (h : o.exitCode ≠ 0) :
    g.judge o = .error (.unavailable g.program) := by
  unfold judge Outcome.success
  exact if_neg (by simpa using h)

theorem Gate.judge_of_success (h : o.exitCode = 0) : g.judge o = g.evaluate o.stdout := by
  unfold judge Outcome.success
  exact if_pos (by simpa using h)

theorem Gate.judge_of_unstated (h : o.exitCode = 0) (hv : Version.find? g.banner o.stdout = none) :
    g.judge o = .error (.unrecognized g.program (Text.trim o.stdout)) := by
  rw [judge_of_success g h, evaluate, hv]

theorem Gate.judge_of_old {v : Version} (h : o.exitCode = 0)
    (hv : Version.find? g.banner o.stdout = some v) (hold : v.major < g.minMajor) :
    g.judge o = .error (.tooOld g.program g.minMajor v.number) := by
  rw [judge_of_success g h, evaluate, hv]
  exact if_pos hold

theorem Gate.judge_of_new {v : Version} (h : o.exitCode = 0)
    (hv : Version.find? g.banner o.stdout = some v) (hnew : g.minMajor ≤ v.major) :
    g.judge o = .ok v := by
  rw [judge_of_success g h, evaluate, hv]
  exact if_neg (Nat.not_lt.mpr hnew)

end Judgement

/-- The gate executes its one command and judges the outcome. -/
theorem Gate.probe_spec (g : Gate) (x : Executor) (s : Session) :
    (g.probe x s).1 = g.judge (x s.calls g.command s.tree).outcome ∧
      (g.probe x s).2.tree = (x s.calls g.command s.tree).tree ∧
      (g.probe x s).2.calls =
        s.calls ++ [⟨g.command, (x s.calls g.command s.tree).outcome⟩] := by
  have hout := Session.execute_fst (s.say .step ("Checking " ++ g.program ++ " installation..."))
    x g.command
  have htree := Session.tree_execute
    (s.say .step ("Checking " ++ g.program ++ " installation...")) x g.command
  have hcalls := Session.calls_execute
    (s.say .step ("Checking " ++ g.program ++ " installation...")) x g.command
  simp only [Session.calls_say, Session.tree_say] at hout htree hcalls
  rw [hout] at hcalls
  unfold probe judge
  dsimp only
  rw [hout]
  split
  · cases g.evaluate (x s.calls g.command s.tree).outcome.stdout <;> exact ⟨rfl, htree, hcalls⟩
  · exact ⟨rfl, htree, hcalls⟩

/-- The first result is always recorded. -/
theorem ResultSet.exists_record_empty (e : StageResult) :
    ∃ results, ResultSet.empty.record e = .ok results ∧ results.entries = [e] := by
  have hnot : ¬ ResultSet.empty.Has e.name := by simp [Has]
  unfold record
  rw [dif_neg hnot]
  exact ⟨_, rfl, rfl⟩

namespace Run

/-! ## The ways on which a run ends -/

/-- The session in front of the gate, when the run has introduced itself. -/
def opening (r : Run) (s : Session) : Session :=
  (s.emit (Line.heading (r.config.projectName ++ " Test Runner"))).say .plain
    ("Running on " ++ r.host.platform)

/-- The session behind the gate, whether it has been passed or not. -/
def probed (r : Run) (s : Session) : Session := (r.gate.probe r.executor (r.opening s)).2

/-- The session in which the report directory is made. -/
def prepared (r : Run) (o : Options) (s : Session) : Session :=
  if o.clean then r.clean (r.resolve o.reportPath) (r.probed s) else r.probed s

/-- The command that asks for the version. It needs no directory, and its output is collected. -/
def probeCommand (r : Run) : Command where
  program := r.config.toolchain.program
  args := ["--version"]
  cwd := none
  streamed := false

/-- The command of the gate is the one that asks for the version. -/
theorem gate_command (r : Run) : r.gate.command = r.probeCommand := rfl

/-- The command that cleans the package, at the root of the sources. -/
def cleanCommand (r : Run) : Command where
  program := r.config.toolchain.program
  args := ["package", "clean"]
  cwd := some r.root
  streamed := true

/-- The command that runs the tests, at the root of the sources. -/
def testCommand (r : Run) (o : Options) : Command where
  program := r.config.toolchain.program
  args := ["test", "--parallel"] ++ (if o.coverage then ["--enable-code-coverage"] else []) ++
    match o.filter with
    | some pattern => ["--filter", pattern]
    | none => []
  cwd := some r.root
  streamed := true

/-- What the executor answers when it is asked for the version. -/
def probe (r : Run) (s : Session) : Outcome :=
  (r.executor s.calls r.probeCommand s.tree).outcome

variable {r : Run} {o : Options} {s : Session}

/-- A run that is turned away ends at the gate. -/
theorem perform_of_judge_error {e : GateError} (h : r.gate.judge (r.probe s) = .error e) :
    r.perform o s = (.error (.gate e), r.probed s) := by
  have hprobe : r.gate.probe r.executor (r.opening s) = (.error e, r.probed s) :=
    Prod.ext ((r.gate.probe_spec r.executor (r.opening s)).1.trans h) rfl
  unfold opening at hprobe
  unfold perform
  dsimp only
  rw [hprobe]

theorem perform_of_judge_ok {v : Version} (h : r.gate.judge (r.probe s) = .ok v) :
    r.perform o s =
      match Report.setup (r.prepared o s).tree (r.resolve o.reportPath) with
      | (.error e, t) => (.error (.report e), (r.prepared o s).withTree t)
      | (.ok (), t) => r.carryOut o (r.resolve o.reportPath) v ((r.prepared o s).withTree t) := by
  have hprobe : r.gate.probe r.executor (r.opening s) = (.ok v, r.probed s) :=
    Prod.ext ((r.gate.probe_spec r.executor (r.opening s)).1.trans h) rfl
  unfold opening at hprobe
  unfold perform
  dsimp only
  rw [hprobe]
  rfl

/-- A run whose report directory cannot be made ends there. -/
theorem perform_of_setup_error {v : Version} {e : ReportError} {t : Tree}
    (h : r.gate.judge (r.probe s) = .ok v)
    (hs : Report.setup (r.prepared o s).tree (r.resolve o.reportPath) = (.error e, t)) :
    r.perform o s = (.error (.report e), (r.prepared o s).withTree t) := by
  rw [perform_of_judge_ok h, hs]

/-- Every other run carries its plan out. -/
theorem perform_of_setup_ok {v : Version} {t : Tree} (h : r.gate.judge (r.probe s) = .ok v)
    (hs : Report.setup (r.prepared o s).tree (r.resolve o.reportPath) = (.ok (), t)) :
    r.perform o s =
      r.carryOut o (r.resolve o.reportPath) v ((r.prepared o s).withTree t) := by
  rw [perform_of_judge_ok h, hs]

/-- A run that comes to its end has passed the gate and made the report directory. -/
theorem exists_setup_of_perform {out : RunOutcome} (h : (r.perform o s).1 = .ok out) :
    ∃ v t, r.gate.judge (r.probe s) = .ok v ∧
      Report.setup (r.prepared o s).tree (r.resolve o.reportPath) = (.ok (), t) := by
  cases hjudge : r.gate.judge (r.probe s) with
  | error e =>
    rw [perform_of_judge_error hjudge] at h
    cases h
  | ok v =>
    cases hsetup : Report.setup (r.prepared o s).tree (r.resolve o.reportPath) with
    | mk answer t =>
      cases answer with
      | error e =>
        rw [perform_of_setup_error hjudge hsetup] at h
        cases h
      | ok _ => exact ⟨v, t, rfl, rfl⟩

/-- A run that comes to its end has carried its plan out. -/
theorem exists_carryOut_of_perform {out : RunOutcome} (h : (r.perform o s).1 = .ok out) :
    ∃ v t, r.perform o s =
      r.carryOut o (r.resolve o.reportPath) v ((r.prepared o s).withTree t) := by
  obtain ⟨v, t, hjudge, hsetup⟩ := exists_setup_of_perform h
  exact ⟨v, t, perform_of_setup_ok hjudge hsetup⟩

/-! ## Commands -/

theorem tree_probed (r : Run) (s : Session) :
    (r.probed s).tree = (r.executor s.calls r.probeCommand s.tree).tree := by
  rw [← gate_command]
  exact (r.gate.probe_spec r.executor (r.opening s)).2.1

theorem calls_probed (r : Run) (s : Session) :
    (r.probed s).calls = s.calls ++ [⟨r.probeCommand, r.probe s⟩] := by
  unfold probe
  rw [← gate_command]
  exact (r.gate.probe_spec r.executor (r.opening s)).2.2

theorem calls_removePath (path : String) (s : Session) : (removePath path s).calls = s.calls := by
  unfold removePath
  split
  · dsimp only
    split <;> rfl
  · rfl

theorem calls_removeIfEmpty (dir : String) (s : Session) :
    (removeIfEmpty dir s).calls = s.calls := by
  unfold removeIfEmpty
  split <;> rfl

theorem calls_removePaths : ∀ (paths : List String) (s : Session),
    (paths.foldl (fun s path => removePath path s) s).calls = s.calls
  | [], _ => rfl
  | path :: paths, s => by
    rw [List.foldl_cons, calls_removePaths paths, calls_removePath]

theorem calls_removeReports (r : Run) (dir : String) (s : Session) :
    (r.removeReports dir s).calls = s.calls := by
  unfold removeReports
  split
  · split
    · rfl
    · rw [calls_removeIfEmpty, calls_removePaths]
  · rfl

/-- Cleaning executes one command, whatever comes of it. -/
theorem calls_clean (r : Run) (dir : String) (s : Session) :
    (r.clean dir s).calls = s.calls ++
      [⟨r.cleanCommand, (r.executor s.calls r.cleanCommand s.tree).outcome⟩] := by
  unfold clean
  dsimp only
  rw [calls_removeReports, calls_removePath, Session.calls_execute, Session.execute_fst]
  rfl

/-- In front of the report directory two commands are executed at most. -/
theorem calls_prepared (r : Run) (o : Options) (s : Session) :
    (r.prepared o s).calls = s.calls ++ [⟨r.probeCommand, r.probe s⟩] ++
      if o.clean then [⟨r.cleanCommand,
        (r.executor (r.probed s).calls r.cleanCommand (r.probed s).tree).outcome⟩] else [] := by
  unfold prepared
  split
  · rw [calls_clean, calls_probed]
  · rw [calls_probed, List.append_nil]

/-! ## Removal without the command -/

/-- Earlier output is removed, if that is wanted; the package is not cleaned. -/
def swept (r : Run) (o : Options) (s : Session) : Session :=
  if o.clean then r.removeReports (r.resolve o.reportPath) (removePath (r.resolve buildDir) s)
  else s

section Congruence

variable {s s' : Session}

/-- What is removed only depends on the files. -/
theorem tree_removePath (path : String) (s : Session) :
    (removePath path s).tree = if s.tree.has path then
      (if s.tree.isDir path then s.tree.removeAll path
        else s.tree.removeFile path).toOption.getD s.tree
      else s.tree := by
  unfold removePath
  split
  · dsimp only
    split
    · next t ht =>
      have hremoved : (if s.tree.isDir path then s.tree.removeAll path
        else s.tree.removeFile path) = .ok t := ht
      rw [hremoved]
      rfl
    · next e he =>
      have hfailed : (if s.tree.isDir path then s.tree.removeAll path
        else s.tree.removeFile path) = .error e := he
      rw [hfailed]
      rfl
  · rfl

theorem tree_removePath_congr (path : String) (h : s'.tree = s.tree) :
    (removePath path s').tree = (removePath path s).tree := by
  rw [tree_removePath, tree_removePath, h]

theorem tree_removePaths_congr : ∀ (paths : List String) {s s' : Session}, s'.tree = s.tree →
    (paths.foldl (fun s path => removePath path s) s').tree =
      (paths.foldl (fun s path => removePath path s) s).tree
  | [], _, _, h => h
  | path :: paths, _, _, h => tree_removePaths_congr paths (tree_removePath_congr path h)

theorem tree_removeIfEmpty_congr (dir : String) (h : s'.tree = s.tree) :
    (removeIfEmpty dir s').tree = (removeIfEmpty dir s).tree := by
  unfold removeIfEmpty
  rw [h]
  split
  · rfl
  · exact h

theorem tree_removeReports_congr (r : Run) (dir : String) (h : s'.tree = s.tree) :
    (r.removeReports dir s').tree = (r.removeReports dir s).tree := by
  unfold removeReports
  rw [h]
  split
  · split
    · exact h
    · exact tree_removeIfEmpty_congr dir (tree_removePaths_congr _ h)
  · exact h

end Congruence

/-- Where commands leave the files as they are, what has been removed in front of the report
directory does not depend on any answer. -/
theorem tree_prepared (r : Run) (o : Options) (s : Session) (hx : r.executor.Inert) :
    (r.prepared o s).tree = (r.swept o s).tree := by
  have hprobed : (r.probed s).tree = s.tree := (tree_probed r s).trans (hx ..)
  unfold prepared swept
  split
  · unfold clean
    dsimp only
    refine tree_removeReports_congr r _ (tree_removePath_congr _ ?_)
    rw [Session.tree_execute, hx]
    exact hprobed
  · exact hprobed

/-! ## Stages -/

/-- A stage with a command executes it, at the root of the sources unless it has a directory of its
own, and passes if that ends well. -/
theorem settle_command (r : Run) (name : String) (c : Command) (elapsed : Duration) (s : Session) :
    (r.settle elapsed ⟨name, .command c⟩ s).1 =
        .ran (r.executor s.calls (r.atRoot c) s.tree).outcome.success elapsed ∧
      (r.settle elapsed ⟨name, .command c⟩ s).2.tree =
        (r.executor s.calls (r.atRoot c) s.tree).tree ∧
      (r.settle elapsed ⟨name, .command c⟩ s).2.calls = s.calls ++
        [⟨r.atRoot c, (r.executor s.calls (r.atRoot c) s.tree).outcome⟩] := by
  have hout := Session.execute_fst (s.emit (Line.heading ("Running " ++ name ++ " Tests")))
    r.executor (r.atRoot c)
  have htree := Session.tree_execute (s.emit (Line.heading ("Running " ++ name ++ " Tests")))
    r.executor (r.atRoot c)
  have hcalls := Session.calls_execute (s.emit (Line.heading ("Running " ++ name ++ " Tests")))
    r.executor (r.atRoot c)
  simp only [Session.calls_emit, Session.tree_emit] at hout htree hcalls
  rw [hout] at hcalls
  refine ⟨?_, htree, hcalls⟩
  rw [← hout]
  rfl

/-- The stage of the tests executes the test command at the root of the sources and passes if that
ends well. -/
theorem settle_test (r : Run) (o : Options) (elapsed : Duration) (s : Session) :
    (r.settle elapsed (Stage.test o r.config) s).1 =
        .ran (r.executor s.calls (r.testCommand o) s.tree).outcome.success elapsed ∧
      (r.settle elapsed (Stage.test o r.config) s).2.tree =
        (r.executor s.calls (r.testCommand o) s.tree).tree ∧
      (r.settle elapsed (Stage.test o r.config) s).2.calls = s.calls ++
        [⟨r.testCommand o, (r.executor s.calls (r.testCommand o) s.tree).outcome⟩] :=
  settle_command r _ _ elapsed s

/-- Besides the tests, no stage of a plan runs a command. -/
theorem isPassive_of_mem_compose {o : Options} {c : Config} {stage : Stage}
    (h : stage ∈ (Plan.compose o c).tail) : stage.IsPassive := by
  unfold Plan.compose at h
  rw [List.tail_cons] at h
  split at h
  · cases h
  · rcases List.mem_append.mp h with h | h
    · split at h
      · cases h
      · rw [List.mem_singleton.mp h]
        intro c' hc'
        cases hc'
    · obtain ⟨i, -, rfl⟩ := List.mem_map.mp h
      intro c' hc'
      cases hc'

/-- The stages of a plan are the tests, and behind them stages without commands. The name of the
tests is the first one recorded, so that it is always recorded. -/
theorem settleAll_compose (r : Run) (o : Options) (s : Session) :
    ∃ results s', results.entries = [⟨r.config.toolchain.testStage,
          .ran (r.executor s.calls (r.testCommand o) s.tree).outcome.success (r.host.elapsed 0)⟩] ∧
      s'.tree = (r.executor s.calls (r.testCommand o) s.tree).tree ∧
      s'.calls = s.calls ++
        [⟨r.testCommand o, (r.executor s.calls (r.testCommand o) s.tree).outcome⟩] ∧
      r.settleAll (Plan.compose o r.config) s =
        r.settleFrom 1 (Plan.compose o r.config).tail results s' := by
  obtain ⟨hverdict, htree, hcalls⟩ := settle_test r o (r.host.elapsed 0) s
  -- no result stands in the way of the first one
  obtain ⟨results, hrecord, hentries⟩ := ResultSet.exists_record_empty
    ⟨r.config.toolchain.testStage, (r.settle (r.host.elapsed 0) (Stage.test o r.config) s).1⟩
  rw [hverdict] at hentries
  refine ⟨results, _, hentries, htree, hcalls, ?_⟩
  have hrecord' : ResultSet.empty.record ⟨(Stage.test o r.config).name,
      (r.settle (r.host.elapsed 0) (Stage.test o r.config) s).1⟩ = .ok results := hrecord
  unfold settleAll Plan.compose
  rw [settleFrom]
  dsimp only
  rw [hrecord']
  rfl

/-- The session in which the stages are settled: the sources are patched and the plan is shown. -/
def staged (r : Run) (o : Options) (s : Session) : Session :=
  if o.verbose then
    (Patch.Job.apply ⟨r.root, r.config.patches⟩ r.host.os s).2.emit
      (Plan.compose o r.config).lines
  else (Patch.Job.apply ⟨r.root, r.config.patches⟩ r.host.os s).2

theorem staged_grown (r : Run) (o : Options) (s : Session) : s.Grown (r.staged o s) := by
  have hpatch := Patch.Job.apply_grown ⟨r.root, r.config.patches⟩ r.host.os s
  unfold staged
  split
  · exact hpatch.emit _
  · exact hpatch

/-- The stages are settled, and on their results the run is concluded. -/
theorem carryOut_eq (r : Run) (o : Options) (dir : String) (v : Version) (s : Session) :
    r.carryOut o dir v s = match r.settleAll (Plan.compose o r.config) (r.staged o s) with
      | (.error e, s') => (.error (.results e), s')
      | (.ok results, s') => r.conclude dir v
          (Patch.Job.apply ⟨r.root, r.config.patches⟩ r.host.os s).1 results s' := rfl

/-- A run that comes to its end has settled its stages and is concluded on their results. -/
theorem exists_settled_of_carryOut {dir : String} {v : Version} {out : RunOutcome}
    (h : (r.carryOut o dir v s).1 = .ok out) :
    ∃ results s', r.settleAll (Plan.compose o r.config) (r.staged o s) = (.ok results, s') ∧
      r.carryOut o dir v s = r.conclude dir v
        (Patch.Job.apply ⟨r.root, r.config.patches⟩ r.host.os s).1 results s' := by
  rw [carryOut_eq] at h ⊢
  cases hall : r.settleAll (Plan.compose o r.config) (r.staged o s) with
  | mk answer s' =>
    rw [hall] at h
    cases answer with
    | error e => cases h
    | ok results => exact ⟨results, s', rfl, rfl⟩

/-- What the executor answers to the test command, on the patched sources. -/
def tested (r : Run) (o : Options) (s : Session) : Reply :=
  r.executor s.calls (r.testCommand o) (r.staged o s).tree

/-- Behind the report directory one command is executed, that of the tests, on the patched sources.
What the command leaves is not lost. -/
theorem carryOut_spec (r : Run) (o : Options) (dir : String) (v : Version) (s : Session) :
    (r.carryOut o dir v s).2.calls =
        s.calls ++ [⟨r.testCommand o, (r.tested o s).outcome⟩] ∧
      (r.tested o s).tree.Within (r.carryOut o dir v s).2.tree := by
  obtain ⟨results, s', -, htree, hcalls, hall⟩ := settleAll_compose r o (r.staged o s)
  have hgrown := settleFrom_grown r 1 (Plan.compose o r.config).tail results s'
    (fun _ => isPassive_of_mem_compose)
  rw [(staged_grown r o s).calls] at htree hcalls
  -- behind the tests nothing is executed any more
  have hfrom {u : Session} (hu : s'.Grown u) :
      u.calls = s.calls ++ [⟨r.testCommand o, (r.tested o s).outcome⟩] ∧
        (r.tested o s).tree.Within u.tree := by
    refine ⟨hu.calls.trans hcalls, ?_⟩
    rw [tested, ← htree]
    exact hu.within
  rw [carryOut_eq, hall]
  cases hs : r.settleFrom 1 (Plan.compose o r.config).tail results s' with
  | mk answer u =>
    rw [hs] at hgrown
    cases answer with
    | error e => exact hfrom hgrown
    | ok results' => exact hfrom (hgrown.trans (conclude_grown r dir v _ results' u))

/-! ## The end of a run -/

/-- A run that is concluded has written its reports, and all that is shown behind that are its
closing lines. -/
theorem conclude_eq_ok {dir : String} {v : Version} {patch : Patch.Report} {results : ResultSet}
    {out : RunOutcome} (h : (r.conclude dir v patch results s).1 = .ok out) :
    ∃ before, out = ⟨v, patch, results, results.summary, .under dir⟩ ∧
      Report.write s.tree dir results r.config.knownIssues (r.context v) =
        (.ok (.under dir), (r.conclude dir v patch results s).2.tree) ∧
      (r.conclude dir v patch results s).2.lines = before ++ closing results := by
  unfold conclude at h ⊢
  dsimp only [Session.tree_say] at h ⊢
  cases hwrite : Report.write s.tree dir results r.config.knownIssues (r.context v) with
  | mk answer t =>
    rw [hwrite] at h
    cases answer with
    | error e => cases h
    | ok reports =>
      obtain ⟨rfl, -⟩ := Report.write_eq_ok_iff.mp hwrite
      cases h
      dsimp only
      rw [Session.lines_emit]
      exact ⟨_, rfl, rfl, rfl⟩

end Run

end Testbench
