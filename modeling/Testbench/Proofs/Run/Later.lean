import Testbench.Proofs.Run.Settle

/-!
# The same run at another time

Two runs that only differ in their clock settle their stages alike, as long as the executor answers
alike: the names, the verdicts and the reasons are the same, and only the times that were taken may
differ.

- `StageResult.untimed`, `ResultSet.Matches`: results that only differ in the times.
- `Executor.Constant`, `Executor.Echoes`: executors that answer alike.
- `Run.later`: the same run at another time.
- `settle_later`, `settleAll_later`: one stage, and a whole plan.
-/

namespace Testbench

/-! ## Results without times -/

/-- The verdict without the time that was taken. -/
def Verdict.untimed : Verdict → Verdict
  | .ran success _ => .ran success .zero
  | .skipped reason => .skipped reason

/-- The result without the time that was taken. -/
def StageResult.untimed (e : StageResult) : StageResult := ⟨e.name, e.verdict.untimed⟩

namespace ResultSet

variable {x y x' y' : ResultSet}

/-- The results only differ in the times that were taken. -/
def Matches (x y : ResultSet) : Prop :=
  x.entries.map StageResult.untimed = y.entries.map StageResult.untimed

theorem Matches.refl (x : ResultSet) : x.Matches x := rfl

theorem Matches.names (h : x.Matches y) :
    x.entries.map (·.name) = y.entries.map (·.name) := by
  have hnames (s : ResultSet) :
      s.entries.map (·.name) = (s.entries.map StageResult.untimed).map (·.name) := by
    rw [List.map_map]
    rfl
  rw [hnames x, hnames y, h]

theorem Matches.has_iff (h : x.Matches y) (name : String) : x.Has name ↔ y.Has name := by
  unfold Has
  rw [h.names]

/-- What is counted does not depend on times. -/
theorem foldl_add_untimed : ∀ (results : List StageResult) (s : Summary),
    (results.map StageResult.untimed).foldl Summary.add s = results.foldl Summary.add s
  | [], _ => rfl
  | e :: results, s => by
    have hadd : s.add e.untimed = s.add e := by
      obtain ⟨name, ⟨_ | _, _⟩ | _⟩ := e <;> rfl
    rw [List.map_cons, List.foldl_cons, List.foldl_cons, hadd, foldl_add_untimed results]

theorem Matches.summary (h : x.Matches y) : x.summary = y.summary := by
  unfold ResultSet.summary Summary.ofList
  rw [← foldl_add_untimed x.entries, h, foldl_add_untimed]

/-- Where one more result is recorded in two sets that match, they match again. -/
theorem Matches.record (h : x.Matches y) {e f : StageResult} (hef : e.untimed = f.untimed) :
    (∃ repeated, x.record e = .error repeated ∧ y.record f = .error repeated) ∨
      ∃ x' y', x.record e = .ok x' ∧ y.record f = .ok y' ∧ x'.Matches y' := by
  have hname : e.name = f.name :=
    (congrArg StageResult.name hef : e.untimed.name = f.untimed.name)
  cases hx : x.record e with
  | error repeated =>
    obtain ⟨hhas, rfl⟩ := record_eq_error_iff.mp hx
    refine .inl ⟨_, rfl, record_eq_error_iff.mpr ⟨?_, by rw [hname]⟩⟩
    rwa [← h.has_iff, ← hname]
  | ok x' =>
    obtain ⟨hhas, hentries⟩ := record_eq_ok_iff.mp hx
    cases hy : y.record f with
    | error repeated =>
      obtain ⟨hhas', -⟩ := record_eq_error_iff.mp hy
      rw [← h.has_iff, ← hname] at hhas'
      exact absurd hhas' hhas
    | ok y' =>
      obtain ⟨-, hentries'⟩ := record_eq_ok_iff.mp hy
      refine .inr ⟨x', y', rfl, rfl, ?_⟩
      unfold Matches
      rw [hentries, hentries', List.map_append, List.map_append, h, List.map_singleton,
        List.map_singleton, hef]

end ResultSet

/-! ## Executors that answer alike -/

namespace Executor

/-- Equal commands are answered equally, whatever was executed before and whatever the files are. -/
def Constant (x : Executor) : Prop :=
  ∀ calls calls' c t t', (x calls c t).outcome = (x calls' c t').outcome

/-- From the one session on, commands are answered as from the other one on, as long as the files
stay what they are. -/
def Echoes (x : Executor) (s s' : Session) : Prop :=
  ∀ made c, (x (s.calls ++ made) c s.tree).outcome = (x (s'.calls ++ made) c s'.tree).outcome

theorem Constant.echoes {x : Executor} (h : x.Constant) (s s' : Session) : x.Echoes s s' :=
  fun _ c => h _ _ c _ _

theorem Echoes.outcome {x : Executor} {s s' : Session} (h : x.Echoes s s') (c : Command) :
    (x s.calls c s.tree).outcome = (x s'.calls c s'.tree).outcome := by
  have hnil := h [] c
  rwa [List.append_nil, List.append_nil] at hnil

/-- Where the same commands have been executed in between, commands are still answered alike. -/
theorem Echoes.of_calls {x : Executor} {s s' u u' : Session} (h : x.Echoes s s') {made : List Call}
    (hcalls : u.calls = s.calls ++ made) (hcalls' : u'.calls = s'.calls ++ made)
    (htree : u.tree = s.tree) (htree' : u'.tree = s'.tree) : x.Echoes u u' := by
  intro more c
  rw [hcalls, hcalls', htree, htree', List.append_assoc, List.append_assoc]
  exact h (made ++ more) c

theorem constant_scripted (script : List (String × Outcome)) : (scripted script).Constant :=
  fun _ _ _ _ _ => rfl

end Executor

/-! ## Stages -/

namespace Run

/-- The same run at another time. -/
def later (r : Run) (timestamp : String) (elapsed : Nat → Duration) : Run :=
  { r with host := { r.host with timestamp := timestamp, elapsed := elapsed } }

variable {r : Run} {s s' : Session} (timestamp : String) (elapsed : Nat → Duration)

/-- Where commands leave the files as they are, a stage does. -/
theorem tree_settle (hx : r.executor.Inert) (elapsed : Duration) (stage : Stage) (s : Session) :
    (r.settle elapsed stage s).2.tree = s.tree := by
  obtain ⟨name, action⟩ := stage
  cases action with
  | command c => exact (settle_command r name c elapsed s).2.1.trans (hx ..)
  | check header => rfl
  | skip reason => rfl

/-- A stage comes to the same verdict at another time. -/
theorem settle_later (h : r.executor.Echoes s s') (stage : Stage) (d d' : Duration) :
    ((r.later timestamp elapsed).settle d' stage s').1.untimed = (r.settle d stage s).1.untimed ∧
      ∃ made, (r.settle d stage s).2.calls = s.calls ++ made ∧
        ((r.later timestamp elapsed).settle d' stage s').2.calls = s'.calls ++ made := by
  obtain ⟨name, action⟩ := stage
  cases action with
  | command c =>
    obtain ⟨hverdict, -, hcalls⟩ := settle_command r name c d s
    obtain ⟨hverdict', -, hcalls'⟩ := settle_command (r.later timestamp elapsed) name c d' s'
    have houtcome := h.outcome (r.atRoot c)
    rw [hverdict, hverdict']
    refine ⟨?_, _, hcalls, ?_⟩
    · show Verdict.ran (r.executor s'.calls (r.atRoot c) s'.tree).outcome.success .zero = _
      rw [← houtcome]
      rfl
    · rw [houtcome]
      exact hcalls'
  | check header => exact ⟨rfl, [], (List.append_nil _).symm, (List.append_nil _).symm⟩
  | skip reason => exact ⟨rfl, [], (List.append_nil _).symm, (List.append_nil _).symm⟩

section Inert

variable (hx : r.executor.Inert)
include hx

/-- Where commands leave the files as they are, stages do. -/
theorem tree_settleFrom : ∀ (k : Nat) (plan : Plan) (results : ResultSet) (s : Session),
    (r.settleFrom k plan results s).2.tree = s.tree
  | _, [], _, _ => rfl
  | k, stage :: plan, results, s => by
    have hstage := tree_settle hx (r.host.elapsed k) stage s
    unfold settleFrom
    cases hs : r.settle (r.host.elapsed k) stage s with
    | mk verdict s₁ =>
      rw [hs] at hstage
      dsimp only at hstage ⊢
      split
      · rw [tree_settleFrom (k + 1) plan, hstage]
      · exact hstage

/-- Stages come to the same verdicts at another time, up to the first whose name is repeated. -/
theorem settleFrom_later : ∀ (k : Nat) (plan : Plan) {x y : ResultSet} {s s' : Session},
    r.executor.Echoes s s' → x.Matches y →
    ((∃ e, (r.settleFrom k plan x s).1 = .error e ∧
        ((r.later timestamp elapsed).settleFrom k plan y s').1 = .error e) ∨
      ∃ x' y', (r.settleFrom k plan x s).1 = .ok x' ∧
        ((r.later timestamp elapsed).settleFrom k plan y s').1 = .ok y' ∧ x'.Matches y') ∧
      ∃ made, (r.settleFrom k plan x s).2.calls = s.calls ++ made ∧
        ((r.later timestamp elapsed).settleFrom k plan y s').2.calls = s'.calls ++ made
  | _, [], x, y, s, s', _, h =>
    ⟨.inr ⟨x, y, rfl, rfl, h⟩, [], (List.append_nil _).symm, (List.append_nil _).symm⟩
  | k, stage :: plan, x, y, s, s', hecho, h => by
    obtain ⟨hverdict, made, hcalls, hcalls'⟩ := settle_later timestamp elapsed hecho stage
      (r.host.elapsed k) ((r.later timestamp elapsed).host.elapsed k)
    have htree := tree_settle hx (r.host.elapsed k) stage s
    have htree' := tree_settle (r := r.later timestamp elapsed) hx
      ((r.later timestamp elapsed).host.elapsed k) stage s'
    have hecho' := hecho.of_calls hcalls hcalls' htree htree'
    unfold settleFrom
    cases hs : r.settle (r.host.elapsed k) stage s with
    | mk verdict s₁ =>
      cases hs' : (r.later timestamp elapsed).settle ((r.later timestamp elapsed).host.elapsed k)
          stage s' with
      | mk verdict' s₁' =>
        rw [hs, hs'] at hverdict hecho'
        rw [hs] at hcalls
        rw [hs'] at hcalls'
        dsimp only at hverdict hcalls hcalls' hecho' ⊢
        have hresult : (⟨stage.name, verdict⟩ : StageResult).untimed =
            (⟨stage.name, verdict'⟩ : StageResult).untimed := by
          unfold StageResult.untimed
          rw [hverdict]
        rcases h.record hresult with ⟨e, he, he'⟩ | ⟨x₁, y₁, hx₁, hy₁, hmatches⟩
        · rw [he, he']
          exact ⟨.inl ⟨e, rfl, rfl⟩, made, hcalls, hcalls'⟩
        · rw [hx₁, hy₁]
          dsimp only
          obtain ⟨hrest, more, hmore, hmore'⟩ := settleFrom_later (k + 1) plan hecho' hmatches
          rw [hcalls, List.append_assoc] at hmore
          rw [hcalls', List.append_assoc] at hmore'
          exact ⟨hrest, made ++ more, hmore, hmore'⟩

/-- A plan is settled alike at another time. -/
theorem settleAll_later (h : r.executor.Echoes s s') (plan : Plan) :
    ((∃ e, (r.settleAll plan s).1 = .error e ∧
        ((r.later timestamp elapsed).settleAll plan s').1 = .error e) ∨
      ∃ x y, (r.settleAll plan s).1 = .ok x ∧
        ((r.later timestamp elapsed).settleAll plan s').1 = .ok y ∧ x.Matches y) ∧
      ∃ made, (r.settleAll plan s).2.calls = s.calls ++ made ∧
        ((r.later timestamp elapsed).settleAll plan s').2.calls = s'.calls ++ made :=
  settleFrom_later timestamp elapsed hx 0 plan h (.refl .empty)

end Inert

end Run

end Testbench
