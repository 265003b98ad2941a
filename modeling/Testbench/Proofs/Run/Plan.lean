import Testbench.Config.Validation
import Testbench.Proofs.Run.Settle

/-!
# Composed plans

The stages of a composed plan have their names from three sources: the tests, the header check and
the table of known issues. The table holds no name twice, and a valid configuration keeps the three
sources apart, so that no run ever loses its results to a repeated name.

- `Plan.names_compose`: the names of a composed plan.
- `Plan.nodup_names_compose`: they differ whenever the three sources are apart, and on full runs
  only then.
- `Config.Apart`, `Config.apart_of_validate`: valid configurations keep the sources apart.
- `Run.carryOut_ne_results`, `Run.perform_ne_results`: a run only ends with a repeated stage if its
  plan repeats a name.
- `compose_distinct`: plans of valid configurations.
-/

namespace Testbench

/-! ## Names -/

/-- The two executed stages differ in name, and neither of them is a known issue. -/
def Config.Apart (c : Config) : Prop :=
  c.toolchain.testStage ≠ c.sqlite.stage ∧
    c.toolchain.testStage ∉ c.knownIssues.entries.map (·.stage) ∧
    c.sqlite.stage ∉ c.knownIssues.entries.map (·.stage)

/-- A valid configuration keeps the names of its stages apart. -/
theorem Config.apart_of_validate {c c' : Config} (h : c.validate = .ok c') : c.Apart := by
  obtain ⟨hfaults, -⟩ := validate_eq_ok_iff.mp h
  have hsame : (if c.toolchain.testStage = c.sqlite.stage then some Fault.sameStages else none) =
      none := hfaults _ (by simp [faults])
  have htest : collision? c.knownIssues c.toolchain.testStage = none :=
    hfaults _ (by simp [faults])
  have hheader : collision? c.knownIssues c.sqlite.stage = none := hfaults _ (by simp [faults])
  exact ⟨by simpa using hsame, collision?_eq_none_iff.mp htest, collision?_eq_none_iff.mp hheader⟩

namespace Plan

variable {o : Options} {c : Config}

theorem names_compose (o : Options) (c : Config) :
    (compose o c).map (·.name) = c.toolchain.testStage ::
      if o.packageOnly then []
      else (if o.skipSqlite then [] else [c.sqlite.stage]) ++
        c.knownIssues.entries.map (·.stage) := by
  have hknown : (c.knownIssues.entries.map Stage.known).map (·.name) =
      c.knownIssues.entries.map (·.stage) := by
    rw [List.map_map]
    rfl
  unfold compose
  split
  · rfl
  · split <;> simp [hknown, Stage.test, Stage.header]

/-- Where the names are apart, those of every plan differ. -/
theorem nodup_names_compose (h : c.Apart) (o : Options) : ((compose o c).map (·.name)).Nodup := by
  obtain ⟨hsame, htest, hheader⟩ := h
  rw [names_compose]
  split
  · simp
  · split
    · exact List.nodup_cons.mpr ⟨htest, c.knownIssues.nodup⟩
    · refine List.nodup_cons.mpr ⟨?_, List.nodup_cons.mpr ⟨hheader, c.knownIssues.nodup⟩⟩
      rw [List.singleton_append, List.mem_cons, not_or]
      exact ⟨hsame, htest⟩

/-- Where the names of a full plan differ, those of the configuration are apart. -/
theorem apart_of_nodup_names (hfull : o.packageOnly = false) (hheader : o.skipSqlite = false)
    (h : ((compose o c).map (·.name)).Nodup) : c.Apart := by
  rw [names_compose, hfull, hheader] at h
  simp only [Bool.false_eq_true, if_false, List.singleton_append, List.nodup_cons, List.mem_cons,
    not_or] at h
  exact ⟨h.1.1, h.1.2, h.2.1⟩

/-- In front of the known issues stand the stages that are executed. -/
theorem exists_compose_eq (o : Options) (c : Config) :
    ∃ executed, (∀ stage ∈ executed, stage.isSkip = false) ∧
      compose o c = executed ++
        if o.packageOnly then [] else c.knownIssues.entries.map Stage.known := by
  unfold compose
  split
  · exact ⟨[Stage.test o c], by simp [Stage.test, Stage.isSkip], rfl⟩
  · split
    · exact ⟨[Stage.test o c], by simp [Stage.test, Stage.isSkip], rfl⟩
    · exact ⟨[Stage.test o c, Stage.header c],
        by simp [Stage.test, Stage.header, Stage.isSkip], rfl⟩

/-- A known issue is a stage of all plans but those for the package alone. -/
theorem known_mem_compose_iff {i : KnownIssue} (hi : i ∈ c.knownIssues.entries) :
    Stage.known i ∈ compose o c ↔ o.packageOnly = false := by
  obtain ⟨executed, hskip, hcompose⟩ := exists_compose_eq o c
  have hnot : Stage.known i ∉ executed := fun hmem => by
    have := hskip _ hmem
    simp [Stage.known, Stage.isSkip] at this
  rw [hcompose, List.mem_append]
  cases o.packageOnly with
  | true => simp [hnot]
  | false => simp [List.mem_map_of_mem hi]

end Plan

/-! ## Runs -/

namespace Run

variable {r : Run} {o : Options} {s : Session} {e : RepeatedStage}

/-- A run that is concluded has recorded its results: it only fails if they cannot be kept. -/
theorem conclude_ne_results {dir : String} {v : Version} {patch : Patch.Report}
    {results : ResultSet} : (r.conclude dir v patch results s).1 ≠ .error (.results e) := by
  unfold conclude
  dsimp only
  split <;> simp

/-- A plan whose names differ never ends with a repeated stage. -/
theorem carryOut_ne_results {dir : String} {v : Version}
    (h : ((Plan.compose o r.config).map (·.name)).Nodup) :
    (r.carryOut o dir v s).1 ≠ .error (.results e) := by
  obtain ⟨results, made, hok, -⟩ := settleAll_records (r := r) h (r.staged o s)
  have hall : r.settleAll (Plan.compose o r.config) (r.staged o s) = (.ok results, _) :=
    Prod.ext hok rfl
  rw [carryOut_eq, hall]
  exact conclude_ne_results

/-- A run whose stages differ in name never ends with a repeated stage. -/
theorem perform_ne_results (h : ((Plan.compose o r.config).map (·.name)).Nodup) :
    (r.perform o s).1 ≠ .error (.results e) := by
  cases hjudge : r.gate.judge (r.probe s) with
  | error e' => simp [perform_of_judge_error hjudge]
  | ok v =>
    cases hsetup : Report.setup (r.prepared o s).tree (r.resolve o.reportPath) with
    | mk answer t =>
      cases answer with
      | error e' => simp [perform_of_setup_error hjudge hsetup]
      | ok _ =>
        rw [perform_of_setup_ok hjudge hsetup]
        exact carryOut_ne_results h

end Run

namespace Plan

/-- **The stages of a valid configuration differ in name.** Whatever is asked for, all of them get
their results, and no run ends with a repeated stage. On full runs the names differ exactly if the
two executed stages differ in name and neither of them is declared a known issue. Known issues stand
in the plan, all of them in their order and behind what is executed, unless the run is for the
package alone. -/
theorem compose_distinct :
    (∀ c : Config, c.validate = .ok c → ∀ o : Options,
      ((compose o c).map (·.name)).Nodup ∧
      (∀ (r : Run) (s : Session), ∃ results made,
        (r.settleAll (compose o c) s).1 = .ok results ∧
        results.entries.map (·.name) = (compose o c).map (·.name) ∧
        r.Records 0 (compose o c) made results.entries) ∧
      ∀ (r : Run) (s : Session) (e : RepeatedStage), r.config = c →
        (r.perform o s).1 ≠ .error (.results e)) ∧
    (∀ (entries : List KnownIssue) (c : Config) (o : Options),
      KnownIssues.ofList entries = .ok c.knownIssues →
      o.packageOnly = false → o.skipSqlite = false →
      (((compose o c).map (·.name)).Nodup ↔
        c.toolchain.testStage ≠ c.sqlite.stage ∧
        (∀ i ∈ entries, i.stage ≠ c.toolchain.testStage) ∧
        ∀ i ∈ entries, i.stage ≠ c.sqlite.stage)) ∧
    ∀ (c : Config) (o : Options),
      (∀ i ∈ c.knownIssues.entries, Stage.known i ∈ compose o c ↔ o.packageOnly = false) ∧
      ∃ executed, (∀ stage ∈ executed, stage.isSkip = false) ∧
        compose o c = executed ++
          if o.packageOnly then [] else c.knownIssues.entries.map Stage.known := by
  refine ⟨fun c hc o => ?_, fun entries c o hentries hfull hheader => ?_, fun c o => ?_⟩
  · have hnodup := nodup_names_compose (Config.apart_of_validate hc) o
    refine ⟨hnodup, fun r s => ?_, fun r s e hr => Run.perform_ne_results (hr ▸ hnodup)⟩
    obtain ⟨results, made, hok, -, hrecords⟩ := Run.settleAll_records (r := r) hnodup s
    exact ⟨results, made, hok, hrecords.names, hrecords⟩
  · have hiff : ((compose o c).map (·.name)).Nodup ↔ c.Apart :=
      ⟨apart_of_nodup_names hfull hheader, fun h => nodup_names_compose h o⟩
    rw [hiff, Config.Apart, KnownIssues.ofList_eq_ok_iff.mp hentries]
    simp only [List.mem_map, not_exists, not_and, ne_eq]
  · exact ⟨fun i hi => known_mem_compose_iff hi, exists_compose_eq o c⟩

/-- A full plan of three stages, none of which repeats a name; with the header check named like the
known issue one would. -/
theorem compose_distinct_declared :
    let issues : KnownIssues := ⟨[⟨"Fonts", "no display"⟩], by decide, by decide⟩
    let c : Config := { Config.standard with knownIssues := issues }
    let clash : Config := { c with sqlite := ⟨"Fonts", "sqlite3.h"⟩ }
    let r : Run := ⟨c, "pkg", ⟨"linux", "Linux", "", fun _ => .zero⟩, .scripted []⟩
    let s : Session := { tree := ⟨[], []⟩ }
    c.validate = .ok c ∧ ((compose {} c).map (·.name)).Nodup ∧
      (∃ results made, (r.settleAll (compose {} c) s).1 = .ok results ∧
        results.entries.map (·.name) = ["SwiftPackageManager", "SQLiteConfiguration", "Fonts"] ∧
        r.Records 0 (compose {} c) made results.entries) ∧
      (∀ e, (r.perform {} s).1 ≠ .error (.results e)) ∧
      ¬ ((compose {} clash).map (·.name)).Nodup := by
  intro issues c clash r s
  have hvalid : c.validate = .ok c := by
    rw [Config.validate_eq_ok_iff]
    exact ⟨by decide +kernel, rfl⟩
  obtain ⟨hnodup, hsettled, hresults⟩ := compose_distinct.1 c hvalid {}
  have hentries : KnownIssues.ofList [⟨"Fonts", "no display"⟩] = .ok clash.knownIssues :=
    KnownIssues.ofList_eq_ok_iff.mpr rfl
  have hiff := compose_distinct.2.1 [⟨"Fonts", "no display"⟩] clash {} hentries rfl rfl
  refine ⟨hvalid, hnodup, hsettled r s, fun e => hresults r s e rfl, fun h => ?_⟩
  exact (hiff.mp h).2.2 ⟨"Fonts", "no display"⟩ (List.mem_singleton.mpr rfl) rfl

end Plan

end Testbench
