import Testbench.Stage.Summary

/-!
# What summaries count

A summary counts every result once: as passed, as failed or as skipped. It is a success when no
result is a failure. Summaries of parts are put together by adding them up, so that neither the
order of the results nor where the skipped ones stand among them makes a difference (specification,
§3 and §11).

- `Summary.foldl_add`: a summary continued over more results.
- `Summary.ofList_eq`: the counts over a list of results.
- `Summary.overallSuccess_ofList`: the verdict on a list of results.
- `Summary.total_ofList`: the three kinds of results make up the whole.
- `Summary.ofList_append`, `Summary.ofList_perm`, `Summary.ofList_inserted`: results put together,
  in another order, with skipped ones among them.
- `ResultSet.summary_exact`: what the summary of a set is, and when it is that of another one.
-/

namespace Testbench

namespace Summary

/-- A result is counted once, as what it is. -/
theorem add_eq (s : Summary) (e : StageResult) :
    s.add e =
      ⟨s.total + 1, s.successful + (if e.verdict.isPassed then 1 else 0),
        s.skipped + (if e.verdict.isSkipped then 1 else 0),
        s.failed + (if e.verdict.isFailed then 1 else 0),
        s.overallSuccess && !e.verdict.isFailed⟩ := by
  obtain ⟨name, (_ | _) | _⟩ := e <;>
    simp [add, Verdict.isPassed, Verdict.isSkipped, Verdict.isFailed]

theorem foldl_add : ∀ (es : List StageResult) (s : Summary),
    es.foldl add s =
      ⟨s.total + es.length, s.successful + es.countP (·.verdict.isPassed),
        s.skipped + es.countP (·.verdict.isSkipped), s.failed + es.countP (·.verdict.isFailed),
        s.overallSuccess && es.all fun e => !e.verdict.isFailed⟩
  | [], s => by simp
  | e :: es, s => by
    rw [List.foldl_cons, foldl_add es, add_eq]
    simp only [List.length_cons, List.countP_cons, List.all_cons, Bool.and_assoc, Nat.add_assoc,
      Nat.add_comm 1, Nat.add_comm (ite ..)]

/-- The counts over a list of results. -/
theorem ofList_eq (es : List StageResult) :
    ofList es = ⟨es.length, es.countP (·.verdict.isPassed), es.countP (·.verdict.isSkipped),
      es.countP (·.verdict.isFailed), es.all fun e => !e.verdict.isFailed⟩ := by
  rw [ofList, foldl_add]
  simp [empty]

/-- A summary is a success when no result is a failure. -/
theorem overallSuccess_ofList (es : List StageResult) :
    (ofList es).overallSuccess = es.all fun e => !e.verdict.isFailed := by
  rw [ofList_eq]

/-- Every result is passed, skipped or failed, and only one of these. -/
theorem length_eq_countP (es : List StageResult) :
    es.length = es.countP (·.verdict.isPassed) + es.countP (·.verdict.isSkipped) +
      es.countP (·.verdict.isFailed) := by
  induction es with
  | nil => rfl
  | cons e es ih =>
    obtain ⟨name, (_ | _) | _⟩ := e <;>
      simp [Verdict.isPassed, Verdict.isSkipped, Verdict.isFailed, ih] <;> omega

/-- The three kinds of results make up the whole. -/
theorem total_ofList (es : List StageResult) :
    (ofList es).total = (ofList es).successful + (ofList es).skipped + (ofList es).failed := by
  rw [ofList_eq]
  exact length_eq_countP es

/-- A list of results is a success when none of them is counted as a failure. -/
theorem overallSuccess_iff (es : List StageResult) :
    (ofList es).overallSuccess = true ↔ (ofList es).failed = 0 := by
  rw [ofList_eq, List.all_eq_true, List.countP_eq_zero]
  simp only [Bool.not_eq_true', Bool.not_eq_true]

/-! ## Summaries put together -/

/-- The summary of two parts: counts add up, and both parts have to succeed. -/
protected def append (a b : Summary) : Summary :=
  ⟨a.total + b.total, a.successful + b.successful, a.skipped + b.skipped, a.failed + b.failed,
    a.overallSuccess && b.overallSuccess⟩

instance : Append Summary := ⟨Summary.append⟩

theorem append_def (a b : Summary) : a ++ b =
    ⟨a.total + b.total, a.successful + b.successful, a.skipped + b.skipped, a.failed + b.failed,
      a.overallSuccess && b.overallSuccess⟩ :=
  rfl

theorem ofList_append (es more : List StageResult) :
    ofList (es ++ more) = ofList es ++ ofList more := by
  simp only [ofList_eq, append_def, List.length_append, List.countP_append, List.all_append]

/-- The order of the results makes no difference. -/
theorem ofList_perm {es es' : List StageResult} (h : es.Perm es') : ofList es = ofList es' := by
  have hall : (es.all fun e => !e.verdict.isFailed) = es'.all fun e => !e.verdict.isFailed :=
    h.all_eq
  rw [ofList_eq, ofList_eq, h.length_eq, h.countP_eq, h.countP_eq, h.countP_eq, hall]

/-- A skipped result is counted as skipped and as nothing else. -/
theorem add_of_isSkipped {e : StageResult} (h : e.verdict.isSkipped = true) (s : Summary) :
    s.add e = { s with total := s.total + 1, skipped := s.skipped + 1 } := by
  obtain ⟨name, _ | reason⟩ := e
  · cases h
  · rfl

theorem ofList_of_isSkipped {es : List StageResult} (h : ∀ e ∈ es, e.verdict.isSkipped = true) :
    ofList es = ⟨es.length, 0, es.length, 0, true⟩ := by
  induction es with
  | nil => rfl
  | cons e es ih =>
    have hfirst : ofList [e] = ⟨1, 0, 1, 0, true⟩ :=
      add_of_isSkipped (h e List.mem_cons_self) empty
    rw [← List.singleton_append, ofList_append, hfirst,
      ih fun e' he' => h e' (List.mem_cons_of_mem e he'), append_def]
    simp [Nat.add_comm]

/-- Results with others put among them one after the other, each at a position among those that are
there by then. A position behind the last result is the end. -/
def inserted (es : List StageResult) : List (Nat × StageResult) → List StageResult
  | [] => es
  | (i, r) :: more => inserted (es.take i ++ r :: es.drop i) more

theorem inserted_perm : ∀ (more : List (Nat × StageResult)) (es : List StageResult),
    (inserted es more).Perm (more.map Prod.snd ++ es)
  | [], es => List.Perm.refl es
  | (i, r) :: more, es => by
    have hone : (es.take i ++ r :: es.drop i).Perm (r :: es) := by
      have hfront : (es.take i ++ r :: es.drop i).Perm (r :: (es.take i ++ es.drop i)) :=
        List.perm_middle
      rwa [List.take_append_drop] at hfront
    calc
      List.Perm (inserted (es.take i ++ r :: es.drop i) more)
        (more.map Prod.snd ++ (es.take i ++ r :: es.drop i)) := inserted_perm more _
      List.Perm _ (more.map Prod.snd ++ r :: es) := hone.append_left _
      List.Perm _ (r :: (more.map Prod.snd ++ es)) := List.perm_middle

/-- Skipped results are counted as skipped, wherever they stand, and change no other count and not
the verdict. -/
theorem ofList_inserted (es : List StageResult) {skips : List (Nat × StageResult)}
    (h : ∀ x ∈ skips, x.2.verdict.isSkipped = true) : ofList (inserted es skips) =
      { ofList es with
        total := (ofList es).total + skips.length
        skipped := (ofList es).skipped + skips.length } := by
  have hskips : ∀ e ∈ skips.map Prod.snd, e.verdict.isSkipped = true := by
    intro e he
    obtain ⟨x, hx, rfl⟩ := List.mem_map.mp he
    exact h x hx
  rw [ofList_perm (inserted_perm skips es), ofList_append, ofList_of_isSkipped hskips, append_def,
    List.length_map]
  simp only [Nat.zero_add, Bool.true_and, Nat.add_comm]

end Summary

namespace ResultSet

/-- No stage has a result in both sets. -/
def Disjoint (s t : ResultSet) : Prop := ∀ name, s.Has name → ¬ t.Has name

/-- The results of a set behind those of another one. -/
def append (s t : ResultSet) (h : s.Disjoint t) : ResultSet where
  entries := s.entries ++ t.entries
  nodup := by
    rw [List.map_append]
    refine List.nodup_append.mpr ⟨s.nodup, t.nodup, ?_⟩
    rintro name hs _ ht rfl
    exact h name hs ht

theorem summary_append (s t : ResultSet) (h : s.Disjoint t) :
    (s.append t h).summary = s.summary ++ t.summary :=
  Summary.ofList_append s.entries t.entries

/-- **A summary counts every result once, and skipped ones decide nothing.** The results of a set
are those that passed, those that were skipped and those that failed, and the set is a success if
and only if none failed, so also if all of them were skipped. The counts of two sets put together
are the sums, and both have to succeed. The order of the results makes no difference, and skipped
results put anywhere among them are counted as skipped and change nothing else. -/
theorem summary_exact (s : ResultSet) :
    (s.summary.total = s.size ∧
      s.summary.successful = s.entries.countP (·.verdict.isPassed) ∧
      s.summary.skipped = s.entries.countP (·.verdict.isSkipped) ∧
      s.summary.failed = s.entries.countP (·.verdict.isFailed) ∧
      s.summary.successful + s.summary.skipped + s.summary.failed = s.summary.total) ∧
    (s.summary.overallSuccess = true ↔ s.summary.failed = 0) ∧
    ((∀ r ∈ s.entries, r.verdict.isSkipped = true) → s.summary.overallSuccess = true) ∧
    (∀ t (h : s.Disjoint t), (s.append t h).summary =
      ⟨s.summary.total + t.summary.total, s.summary.successful + t.summary.successful,
        s.summary.skipped + t.summary.skipped, s.summary.failed + t.summary.failed,
        s.summary.overallSuccess && t.summary.overallSuccess⟩) ∧
    (∀ t : ResultSet, t.entries.Perm s.entries → t.summary = s.summary) ∧
    ∀ (t : ResultSet) (skips : List (Nat × StageResult)),
      (∀ x ∈ skips, x.2.verdict.isSkipped = true) →
      t.entries = Summary.inserted s.entries skips →
      t.summary.successful = s.summary.successful ∧ t.summary.failed = s.summary.failed ∧
      t.summary.overallSuccess = s.summary.overallSuccess ∧
      t.summary.skipped = s.summary.skipped + skips.length ∧
      t.summary.total = s.summary.total + skips.length := by
  refine ⟨?counts, Summary.overallSuccess_iff s.entries, ?skips, ?append, ?order, ?inserted⟩
  case counts =>
    have heq : s.summary = _ := Summary.ofList_eq s.entries
    rw [heq]
    exact ⟨rfl, rfl, rfl, rfl, (Summary.length_eq_countP s.entries).symm⟩
  case skips =>
    intro h
    rw [summary, Summary.ofList_of_isSkipped h]
  case append => exact fun t h => summary_append s t h
  case order => exact fun t h => Summary.ofList_perm h
  case inserted =>
    intro t skips hskips hentries
    have heq : t.summary = _ := congrArg Summary.ofList hentries
    rw [heq, Summary.ofList_inserted s.entries hskips]
    exact ⟨rfl, rfl, rfl, rfl, rfl⟩

/-- A failed run stays a failure next to one that passed, turned around, and with two skips around
it. -/
theorem summary_exact_failed :
    let build : StageResult := .completed "build" true .zero
    let tests : StageResult := .completed "tests" false .zero
    let lint : StageResult := .skipped "lint" "known"
    let docs : StageResult := .skipped "docs" "known"
    let first : ResultSet := ⟨[build], by decide⟩
    let second : ResultSet := ⟨[tests], by decide⟩
    let both : ResultSet := ⟨[build, tests], by decide⟩
    let turned : ResultSet := ⟨[tests, build], by decide⟩
    let padded : ResultSet := ⟨[lint, build, docs, tests], by decide⟩
    let skipped : ResultSet := ⟨[lint, docs], by decide⟩
    both.summary = ⟨2, 1, 0, 1, false⟩ ∧ turned.summary = both.summary ∧
      (∃ h, (first.append second h).summary = both.summary) ∧
      (padded.summary.skipped = 2 ∧ padded.summary.overallSuccess = false) ∧
      skipped.summary.overallSuccess = true := by
  intro build tests lint docs first second both turned padded skipped
  have hdisjoint : first.Disjoint second := by
    intro name hfirst hsecond
    simp [Has, first, second, build, tests, StageResult.completed] at hfirst hsecond
    subst hfirst
    exact absurd hsecond (by decide)
  obtain ⟨-, -, -, happend, -, -⟩ := summary_exact first
  obtain ⟨-, -, -, -, horder, hinserted⟩ := summary_exact both
  obtain ⟨-, -, hskips, -, -, -⟩ := summary_exact skipped
  obtain ⟨-, -, hverdict, hskipped, -⟩ :=
    hinserted padded [(0, lint), (2, docs)] (by decide) rfl
  exact ⟨by decide, horder turned (List.Perm.swap ..), ⟨hdisjoint, happend second hdisjoint⟩,
    ⟨hskipped, hverdict⟩, hskips (by decide)⟩

end ResultSet

end Testbench
