import Testbench.Proofs.Run.Phases

/-!
# Settling any plan

Plans need not be composed: whatever stages stand in a list, they are settled from the front. Every
stage is settled once, commands are executed in the order of their stages, and the first stage whose
name has a result already ends the run of the plan, after its command has been executed.

- `Plan.RepeatsAt`: a stage has the name of an earlier one.
- `Run.commands`, `Executor.serve`: the commands of a plan, and what comes of commands that are
  executed one after the other.
- `Run.Records`: the results of stages whose commands made given calls.
- `settle_step`, `settleFrom_records`: one stage, and stages of different names.
- `settleFrom_append`: a plan in two parts.
- `settleAll_exact`: any plan, whether a name repeats in it or not.
-/

namespace Testbench

/-! ## Repeated names -/

namespace Plan

/-- The stage at a position has the name of an earlier one. -/
def RepeatsAt (p : Plan) (k : Nat) : Prop :=
  ∃ h : k < p.length, p[k].name ∈ (p.take k).map (·.name)

instance (p : Plan) (k : Nat) : Decidable (p.RepeatsAt k) :=
  inferInstanceAs (Decidable (∃ _ : _, _))

theorem repeatsAt_iff {p : Plan} {k : Nat} :
    p.RepeatsAt k ↔ ∃ (i : Nat) (_ : i < k) (_ : k < p.length), p[i].name = p[k].name := by
  unfold RepeatsAt
  constructor
  · rintro ⟨hk, hmem⟩
    obtain ⟨stage, hstage, hname⟩ := List.mem_map.mp hmem
    obtain ⟨i, hi, rfl⟩ := List.mem_take_iff_getElem.mp hstage
    exact ⟨i, by omega, hk, hname⟩
  · rintro ⟨i, hi, hk, hname⟩
    refine ⟨hk, List.mem_map.mpr ⟨p[i], ?_, hname⟩⟩
    exact List.mem_take_iff_getElem.mpr ⟨i, by omega, rfl⟩

/-- The names of a plan differ when no stage has the name of an earlier one. -/
theorem nodup_names_iff {p : Plan} : (p.map (·.name)).Nodup ↔ ∀ k, ¬ p.RepeatsAt k := by
  rw [List.Nodup, List.pairwise_iff_getElem]
  simp only [repeatsAt_iff, List.length_map, List.getElem_map]
  constructor
  · rintro h k ⟨i, hi, hk, hname⟩
    exact h i k (by omega) hk hi hname
  · intro h i k _ hk hi hname
    exact h k ⟨i, hi, hk, hname⟩

/-- In front of the first repeated name all names differ. -/
theorem nodup_names_take {p : Plan} {k : Nat} (hfirst : ∀ j < k, ¬ p.RepeatsAt j) :
    ((p.take k).map (·.name)).Nodup := by
  rw [nodup_names_iff]
  rintro j ⟨hj, hmem⟩
  rw [List.length_take] at hj
  refine hfirst j (by omega) ⟨by omega, ?_⟩
  rw [List.getElem_take, List.take_take, Nat.min_eq_left (by omega)] at hmem
  exact hmem

end Plan

/-! ## Commands one after the other -/

/-- The calls that commands make when they are executed one after the other behind earlier calls,
and the files as the last of them leaves them. -/
def Executor.serve (x : Executor) : List Command → List Call → Tree → List Call × Tree
  | [], _, t => ([], t)
  | c :: cs, calls, t =>
    let call : Call := ⟨c, (x calls c t).outcome⟩
    let rest := serve x cs (calls ++ [call]) (x calls c t).tree
    (call :: rest.1, rest.2)

namespace Executor

theorem serve_append (x : Executor) : ∀ (cs ds : List Command) (calls : List Call) (t : Tree),
    x.serve (cs ++ ds) calls t =
      let front := x.serve cs calls t
      let back := x.serve ds (calls ++ front.1) front.2
      (front.1 ++ back.1, back.2)
  | [], ds, calls, t => by simp [serve]
  | c :: cs, ds, calls, t => by
    rw [List.cons_append, serve, serve_append x cs ds]
    simp only [serve, List.append_assoc, List.cons_append, List.nil_append]

/-- Every command is executed once, in order. -/
theorem command_serve (x : Executor) : ∀ (cs : List Command) (calls : List Call) (t : Tree),
    (x.serve cs calls t).1.map (·.command) = cs
  | [], _, _ => rfl
  | c :: cs, calls, t => by
    rw [serve, List.map_cons, command_serve x cs]

end Executor

namespace Run

/-- The commands of the stages that have one, in order. One without a directory of its own is
executed at the root of the sources. -/
def commands (r : Run) (p : Plan) : List Command :=
  p.filterMap fun stage =>
    match stage.action with
    | .command c => some { c with cwd := some (c.cwd.getD r.root) }
    | .check _ => none
    | .skip _ => none

/-- The results of stages whose commands made these calls; `k` stages were settled before. Every
command has one call, and no other stage has any. -/
inductive Records (r : Run) : (k : Nat) → Plan → List Call → List StageResult → Prop where
  | nil (k : Nat) : Records r k [] [] []
  /-- A command passes if it ends with code `0`. -/
  | command {k : Nat} {p : Plan} {calls : List Call} {results : List StageResult} (name : String)
      (c : Command) (outcome : Outcome) (rest : Records r (k + 1) p calls results) :
      Records r k (⟨name, .command c⟩ :: p)
        (⟨{ c with cwd := some (c.cwd.getD r.root) }, outcome⟩ :: calls)
        (.completed name (outcome.exitCode = 0) (r.host.elapsed k) :: results)
  /-- A check passes. -/
  | check {k : Nat} {p : Plan} {calls : List Call} {results : List StageResult}
      (name header : String) (rest : Records r (k + 1) p calls results) :
      Records r k (⟨name, .check header⟩ :: p) calls
        (.completed name true (r.host.elapsed k) :: results)
  /-- A skipped stage is recorded with its reason and without any time. -/
  | skip {k : Nat} {p : Plan} {calls : List Call} {results : List StageResult}
      (name reason : String) (rest : Records r (k + 1) p calls results) :
      Records r k (⟨name, .skip reason⟩ :: p) calls (.skipped name reason :: results)

variable {r : Run} {s : Session}

/-- There is one result for each stage, under its name. -/
theorem Records.names {k : Nat} {p : Plan} {calls : List Call} {results : List StageResult}
    (h : r.Records k p calls results) : results.map (·.name) = p.map (·.name) := by
  induction h with
  | nil => rfl
  | command name _ _ _ ih => rw [List.map_cons, List.map_cons, ih]; rfl
  | check name _ _ ih => rw [List.map_cons, List.map_cons, ih]; rfl
  | skip name _ _ ih => rw [List.map_cons, List.map_cons, ih]; rfl

/-! ## One stage -/

/-- A stage executes its command, if it has one, and nothing else; its result is told by what came
of the command. -/
theorem settle_step (r : Run) (k : Nat) (stage : Stage) (s : Session) :
    let after := r.settle (r.host.elapsed k) stage s
    let served := r.executor.serve (r.commands [stage]) s.calls s.tree
    after.2.calls = s.calls ++ served.1 ∧ after.2.tree = served.2 ∧
      ∀ {p calls results}, r.Records (k + 1) p calls results →
        r.Records k (stage :: p) (served.1 ++ calls) (⟨stage.name, after.1⟩ :: results) := by
  obtain ⟨name, action⟩ := stage
  intro after served
  cases action with
  | command c =>
    obtain ⟨hverdict, htree, hcalls⟩ := settle_command r name c (r.host.elapsed k) s
    refine ⟨hcalls, htree, fun rest => ?_⟩
    show r.Records k _ _ (⟨name, (r.settle (r.host.elapsed k) ⟨name, .command c⟩ s).1⟩ :: _)
    rw [hverdict]
    exact .command name c _ rest
  | check header => exact ⟨(List.append_nil _).symm, rfl, .check name header⟩
  | skip reason => exact ⟨(List.append_nil _).symm, rfl, .skip name reason⟩

theorem commands_cons (r : Run) (stage : Stage) (p : Plan) :
    r.commands (stage :: p) = r.commands [stage] ++ r.commands p := by
  rw [← List.singleton_append]
  exact List.filterMap_append

/-! ## Stages of different names -/

/-- Stages whose names differ from one another, and from those of the results there are, are all
settled: their commands are executed in order, and each of them gets its result. -/
theorem settleFrom_records : ∀ (k : Nat) (p : Plan) (results : ResultSet) (s : Session),
    (results.entries.map (·.name) ++ p.map (·.name)).Nodup →
    ∃ results' more, (r.settleFrom k p results s).1 = .ok results' ∧
      results'.entries = results.entries ++ more ∧
      (r.settleFrom k p results s).2.calls =
        s.calls ++ (r.executor.serve (r.commands p) s.calls s.tree).1 ∧
      (r.settleFrom k p results s).2.tree =
        (r.executor.serve (r.commands p) s.calls s.tree).2 ∧
      r.Records k p (r.executor.serve (r.commands p) s.calls s.tree).1 more
  | k, [], results, s, _ =>
    ⟨results, [], rfl, (List.append_nil _).symm, (List.append_nil _).symm, rfl, .nil k⟩
  | k, stage :: p, results, s, hnodup => by
    obtain ⟨hcalls, htree, hrecords⟩ := settle_step r k stage s
    rw [settleFrom]
    cases hs : r.settle (r.host.elapsed k) stage s with
    | mk verdict s₁ =>
      rw [hs] at hcalls htree hrecords
      dsimp only at hcalls htree hrecords ⊢
      -- the name is new, so that the result is recorded
      cases hrecord : results.record ⟨stage.name, verdict⟩ with
      | error e =>
        obtain ⟨hhas, -⟩ := ResultSet.record_eq_error_iff.mp hrecord
        rw [List.map_cons] at hnodup
        exact absurd rfl ((List.nodup_append.mp hnodup).2.2 _ hhas _ (List.mem_cons_self ..))
      | ok results₁ =>
        obtain ⟨-, hentries⟩ := ResultSet.record_eq_ok_iff.mp hrecord
        have hnodup₁ : (results₁.entries.map (·.name) ++ p.map (·.name)).Nodup := by
          rw [hentries, List.map_append, List.append_assoc]
          exact hnodup
        obtain ⟨results', more, hok, hmore, hcalls', htree', hrest⟩ :=
          settleFrom_records (k + 1) p results₁ s₁ hnodup₁
        rw [hcalls, htree] at hcalls' htree' hrest
        rw [commands_cons, Executor.serve_append]
        refine ⟨results', ⟨stage.name, verdict⟩ :: more, hok, ?_, ?_, htree', hrecords hrest⟩
        · rw [hmore, hentries, List.append_assoc]
          rfl
        · rw [hcalls', List.append_assoc]

/-! ## Plans in two parts -/

/-- A plan in two parts is settled part by part, and the second one only if no name has been
repeated in the first. -/
theorem settleFrom_append (r : Run) (q : Plan) :
    ∀ (k : Nat) (p : Plan) (results : ResultSet) (s : Session),
      r.settleFrom k (p ++ q) results s =
        match r.settleFrom k p results s with
        | (.ok results, s) => r.settleFrom (k + p.length) q results s
        | (.error e, s) => (.error e, s)
  | k, [], results, s => rfl
  | k, stage :: p, results, s => by
    rw [List.cons_append, settleFrom, settleFrom]
    cases r.settle (r.host.elapsed k) stage s with
    | mk verdict s₁ =>
      dsimp only
      cases results.record ⟨stage.name, verdict⟩ with
      | error e => rfl
      | ok results₁ =>
        dsimp only
        rw [settleFrom_append r q (k + 1) p results₁ s₁, List.length_cons,
          Nat.add_right_comm, Nat.add_assoc]

/-- A stage whose name has a result ends the run of the plan once it has been settled. -/
theorem settleFrom_repeated {k : Nat} {stage : Stage} {results : ResultSet} (q : Plan) (s : Session)
    (h : results.Has stage.name) :
    r.settleFrom k (stage :: q) results s =
      (.error ⟨stage.name⟩, (r.settle (r.host.elapsed k) stage s).2) := by
  rw [settleFrom]
  have hrecord : results.record ⟨stage.name, (r.settle (r.host.elapsed k) stage s).1⟩ =
      .error ⟨stage.name⟩ := ResultSet.record_eq_error_iff.mpr ⟨h, rfl⟩
  dsimp only
  rw [hrecord]

/-! ## Whole plans -/

/-- Between two sessions the commands of a plan are executed, each once and in order, and nothing
else is; the executor answers each of them in view of the calls before and of the files then. -/
structure Executes (r : Run) (p : Plan) (s s' : Session) (made : List Call) : Prop where
  calls : s'.calls = s.calls ++ made
  commands : made.map (·.command) = r.commands p
  answers : r.executor.serve (r.commands p) s.calls s.tree = (made, s'.tree)

/-- Stages of different names all get their results. -/
theorem settleAll_records {p : Plan} (h : (p.map (·.name)).Nodup) (s : Session) :
    ∃ results made, (r.settleAll p s).1 = .ok results ∧
      r.Executes p s (r.settleAll p s).2 made ∧ r.Records 0 p made results.entries := by
  obtain ⟨results, more, hok, hmore, hcalls, htree, hrecords⟩ :=
    settleFrom_records (r := r) 0 p .empty s h
  rw [ResultSet.entries_empty, List.nil_append] at hmore
  rw [← hmore] at hrecords
  refine ⟨results, _, hok, ⟨hcalls, r.executor.command_serve _ _ _, ?_⟩, hrecords⟩
  exact Prod.ext rfl htree.symm

/-- The first stage whose name is repeated ends the run of the plan once it has been settled,
whatever stands behind it. -/
theorem settleAll_of_repeated {front : Plan} {stage : Stage} (q : Plan) (s : Session)
    (hfront : (front.map (·.name)).Nodup) (hstage : stage.name ∈ front.map (·.name)) :
    r.settleAll (front ++ stage :: q) s = (.error ⟨stage.name⟩,
      (r.settle (r.host.elapsed front.length) stage (r.settleAll front s).2).2) := by
  obtain ⟨results, made, hok, -, hrecords⟩ := settleAll_records (r := r) hfront s
  have hhas : results.Has stage.name := by
    rw [ResultSet.Has, hrecords.names]
    exact hstage
  have hfrom : r.settleFrom 0 front .empty s = (.ok results, (r.settleAll front s).2) :=
    Prod.ext hok rfl
  rw [settleAll, settleFrom_append, hfrom]
  dsimp only
  rw [Nat.zero_add, settleFrom_repeated q _ hhas]

/-- Up to the first stage whose name is repeated, its own command included, all commands are
executed. -/
theorem executes_of_repeated {front : Plan} {stage : Stage} (q : Plan) (s : Session)
    (hfront : (front.map (·.name)).Nodup) (hstage : stage.name ∈ front.map (·.name)) :
    ∃ made, r.Executes (front ++ [stage]) s (r.settleAll (front ++ stage :: q) s).2 made := by
  obtain ⟨results, made, -, ⟨hcalls, -, hanswers⟩, -⟩ := settleAll_records (r := r) hfront s
  obtain ⟨hcalls', htree', -⟩ := settle_step r front.length stage (r.settleAll front s).2
  have hcommands : r.commands (front ++ [stage]) = r.commands front ++ r.commands [stage] :=
    List.filterMap_append
  -- the calls of the stages in front, and then those of the stage itself
  rw [hcalls] at hcalls' htree'
  rw [settleAll_of_repeated q s hfront hstage]
  refine ⟨_, ⟨?_, r.executor.command_serve _ s.calls s.tree, Prod.ext rfl ?_⟩⟩
  · rw [hcalls', hcommands, Executor.serve_append, hanswers, List.append_assoc]
  · rw [htree', hcommands, Executor.serve_append, hanswers]

/-- **A plan is settled stage by stage, up to the first repeated name.** Where no name repeats, all
commands are executed and every stage gets its result. Where one does, the commands up to that of
the first stage that repeats a name are executed, the answer names this stage, and everything is as
if the plan ended there. -/
theorem settleAll_exact (r : Run) (plan : Plan) (s : Session) :
    let answer := (r.settleAll plan s).1
    let after := (r.settleAll plan s).2
    ((∀ k, ¬ plan.RepeatsAt k) → ∃ results made, answer = .ok results ∧
      r.Executes plan s after made ∧ r.Records 0 plan made results.entries) ∧
    ∀ k, plan.RepeatsAt k → (∀ j < k, ¬ plan.RepeatsAt j) → ∃ stage made,
      plan[k]? = some stage ∧ answer = .error ⟨stage.name⟩ ∧
      r.Executes (plan.take (k + 1)) s after made ∧
      r.settleAll plan s = r.settleAll (plan.take (k + 1)) s := by
  intro answer after
  refine ⟨fun h => settleAll_records (Plan.nodup_names_iff.mpr h) s, ?_⟩
  rintro k ⟨hk, hmem⟩ hfirst
  have hfront := Plan.nodup_names_take hfirst
  have htake : plan.take (k + 1) = plan.take k ++ [plan[k]] := List.take_succ_eq_append_getElem hk
  have hplan : r.settleAll plan s =
      r.settleAll (plan.take k ++ plan[k] :: plan.drop (k + 1)) s := by
    rw [← List.drop_eq_getElem_cons hk, List.take_append_drop]
  obtain ⟨made, hmade⟩ := executes_of_repeated (r := r) (plan.drop (k + 1)) s hfront hmem
  rw [← hplan, ← htake] at hmade
  have hall := hplan.trans (settleAll_of_repeated (plan.drop (k + 1)) s hfront hmem)
  refine ⟨plan[k], made, List.getElem?_eq_getElem hk, congrArg Prod.fst hall, hmade, ?_⟩
  rw [hall, htake, settleAll_of_repeated [] s hfront hmem]

/-- A plan with five stages, the fourth of which has the name of the second: its command has been
executed when the run of the plan ends, and that of the fifth has not. Without the last two stages
the plan is settled to its end. -/
theorem settleAll_exact_repeated :
    let r : Run := ⟨.standard, "pkg", ⟨"linux", "Linux", "", fun _ => .zero⟩,
      .scripted [("build", .exited 2 "" "")]⟩
    let build : Command := { program := "swift", args := ["build"] }
    let bench : Command := { program := "swift", args := ["bench"], cwd := some "tools" }
    let front : Plan := [⟨"Build", .command build⟩, ⟨"Bench", .skip "slow"⟩, ⟨"Header", .check "h"⟩]
    let plan : Plan := front ++ [⟨"Bench", .command bench⟩, ⟨"Lint", .command build⟩]
    let s : Session := { tree := ⟨[], []⟩ }
    (∃ results made, (r.settleAll front s).1 = .ok results ∧
      r.Executes front s (r.settleAll front s).2 made ∧ r.Records 0 front made results.entries) ∧
    (r.settleAll plan s).1 = .error ⟨"Bench"⟩ ∧
      (r.settleAll plan s).2.calls.map (·.command) =
        [{ build with cwd := some "pkg" }, { bench with cwd := some "tools" }] := by
  intro r build bench front plan s
  have hfront : ∀ k, ¬ front.RepeatsAt k := Plan.nodup_names_iff.mp (by decide)
  obtain ⟨stage, made, hstage, hanswer, hmade, -⟩ :=
    (settleAll_exact r plan s).2 3 (by decide) (by decide)
  cases hstage
  refine ⟨(settleAll_exact r front s).1 hfront, hanswer, ?_⟩
  rw [hmade.calls]
  exact hmade.commands

end Run

end Testbench
