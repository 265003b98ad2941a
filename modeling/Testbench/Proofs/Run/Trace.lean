import Testbench.Proofs.Run.Phases

/-!
# The commands of a run

Which commands a run executes, and in which order, is settled by the answer to the first one, the
switch for cleaning and the report directory. No other answer matters. The commands are those that
the specification gives (§4.1, §4.3 and §4.7).

- `Run.TurnedAway`: a run that ended at the gate and touched nothing.
- `Run.callsBefore`: the calls in front of the report directory.
- `perform_trace`: the commands of every run whose commands leave the files as they are.
-/

namespace Testbench

open Testbench.Tree

namespace Run

/-- The run ends at the gate: one command was executed, and the files are what they were. -/
structure TurnedAway (r : Run) (o : Options) (s : Session) (e : GateError) : Prop where
  answer : (r.perform o s).1 = .error (.gate e)
  calls : (r.perform o s).2.calls = s.calls ++ [⟨r.probeCommand, r.probe s⟩]
  tree : (r.perform o s).2.tree = s.tree

theorem turnedAway_of_judge_error {r : Run} {o : Options} {s : Session} {e : GateError}
    (hx : r.executor.Inert) (h : r.gate.judge (r.probe s) = .error e) : r.TurnedAway o s e := by
  have hperform := perform_of_judge_error (o := o) h
  refine ⟨?_, ?_, ?_⟩
  · rw [hperform]
  · rw [hperform]
    exact calls_probed r s
  · rw [hperform]
    exact (tree_probed r s).trans (hx ..)

/-- The calls in front of the report directory: the question for the version, and the cleaning of
the package if that is wanted. -/
def callsBefore (r : Run) (o : Options) (s : Session) : List Call :=
  let gated := s.calls ++ [⟨r.probeCommand, r.probe s⟩]
  gated ++ if o.clean then [⟨r.cleanCommand, (r.executor gated r.cleanCommand s.tree).outcome⟩]
    else []

theorem calls_prepared_of_inert (r : Run) (o : Options) (s : Session) (hx : r.executor.Inert) :
    (r.prepared o s).calls = r.callsBefore o s := by
  have htree : (r.probed s).tree = s.tree := (tree_probed r s).trans (hx ..)
  rw [calls_prepared, calls_probed, htree]
  rfl

/-- **The commands of a run.** The toolchain is asked for its version first. If it does not answer,
states no version or an old one, nothing else happens. Otherwise the package is cleaned if that is
wanted, whatever comes of it, and the tests are run once if the report directory could be made; if
not, the run ends there and nothing has been patched. -/
theorem perform_trace (r : Run) (o : Options) (s : Session) (hx : r.executor.Inert) :
    let answer := r.probe s
    let setup := Report.setup (r.swept o s).tree (r.resolve o.reportPath)
    (answer.exitCode ≠ 0 → r.TurnedAway o s (.unavailable r.config.toolchain.program)) ∧
    (answer.exitCode = 0 →
      (Version.find? r.config.toolchain.banner answer.stdout = none → r.TurnedAway o s
        (.unrecognized r.config.toolchain.program (Text.trim answer.stdout))) ∧
      ∀ v, Version.find? r.config.toolchain.banner answer.stdout = some v →
        (v.major < r.config.toolchain.minMajor → r.TurnedAway o s
          (.tooOld r.config.toolchain.program r.config.toolchain.minMajor v.number)) ∧
        (r.config.toolchain.minMajor ≤ v.major →
          (∀ e t, setup = (.error e, t) → (r.perform o s).1 = .error (.report e) ∧
            (r.perform o s).2.calls = r.callsBefore o s ∧ (r.perform o s).2.tree = t) ∧
          (∀ t, setup = (.ok (), t) → ∃ u, (r.perform o s).2.calls = r.callsBefore o s ++
            [⟨r.testCommand o, (r.executor (r.callsBefore o s) (r.testCommand o) u).outcome⟩]))) := by
  intro answer setup
  refine ⟨fun hcode => turnedAway_of_judge_error hx (r.gate.judge_of_failed hcode),
    fun hcode => ⟨fun hnone => ?_, fun v hv => ⟨fun hold => ?_, fun hnew => ?_⟩⟩⟩
  · exact turnedAway_of_judge_error hx (r.gate.judge_of_unstated hcode hnone)
  · exact turnedAway_of_judge_error hx (r.gate.judge_of_old hcode hv hold)
  have hjudge := r.gate.judge_of_new hcode hv hnew
  refine ⟨fun e t hs => ?_, fun t hs => ?_⟩
  · have hs' : Report.setup (r.prepared o s).tree (r.resolve o.reportPath) = (.error e, t) := by
      rw [tree_prepared r o s hx]
      exact hs
    rw [perform_of_setup_error hjudge hs']
    exact ⟨rfl, calls_prepared_of_inert r o s hx, rfl⟩
  · have hs' : Report.setup (r.prepared o s).tree (r.resolve o.reportPath) = (.ok (), t) := by
      rw [tree_prepared r o s hx]
      exact hs
    have hcalls := (carryOut_spec r o (r.resolve o.reportPath) v
      ((r.prepared o s).withTree t)).1
    rw [tested, Session.calls_withTree, calls_prepared_of_inert r o s hx] at hcalls
    rw [perform_of_setup_ok hjudge hs']
    exact ⟨_, hcalls⟩

/-- A run that is asked to clean executes three commands. -/
theorem perform_trace_cleaning :
    let r : Run := ⟨.standard, "pkg", ⟨"linux", "Linux", "", fun _ => .zero⟩,
      .scripted [("--version", .exited 0 "Swift version 6.1" "")]⟩
    let o : Options := { clean := true }
    let s : Session := { tree := ⟨[(["pkg"], .dir)], []⟩ }
    (r.perform o s).2.calls.map (·.command) =
      [{ program := "swift", args := ["--version"], cwd := none },
        { program := "swift", args := ["package", "clean"], cwd := some "pkg", streamed := true },
        { program := "swift", args := ["test", "--parallel"], cwd := some "pkg",
          streamed := true }] := by
  intro r o s
  have hstated : Version.find? r.config.toolchain.banner (r.probe s).stdout =
      some ⟨"Swift version 6.1", "6.1", 6⟩ := by decide +kernel
  have hmade : (Report.setup (r.swept o s).tree (r.resolve o.reportPath)).1.isOk = true := by
    decide +kernel
  obtain ⟨-, hstates⟩ := (perform_trace r o s (Executor.inert_scripted _)).2 rfl
  obtain ⟨-, hready⟩ := (hstates _ hstated).2 (by decide)
  cases hsetup : Report.setup (r.swept o s).tree (r.resolve o.reportPath) with
  | mk answer t =>
    rw [hsetup] at hmade
    cases answer with
    | error e => cases hmade
    | ok _ =>
      obtain ⟨u, hcalls⟩ := hready t hsetup
      rw [hcalls]
      rfl

end Run

end Testbench
