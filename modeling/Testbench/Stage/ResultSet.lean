import Testbench.Stage.Result

/-!
# Result sets

The results of a run in the order in which they were recorded. A set only grows, and no stage is
recorded twice (specification, §3).

- `ResultSet`: the recorded results with pairwise different names.
- `ResultSet.record`: one more result, refused when its stage has one.
- `ResultSet.get?`: the result of a stage.
-/

namespace Testbench

/-- Results in the order of recording, their names pairwise different. -/
structure ResultSet where
  entries : List StageResult
  nodup : (entries.map (·.name)).Nodup
  deriving DecidableEq

/-- A stage was to be recorded a second time. -/
structure RepeatedStage where
  name : String
  deriving DecidableEq, Repr

/-- What is reported of a stage that was to be recorded a second time. -/
def RepeatedStage.message (e : RepeatedStage) : String := "stage already recorded: " ++ e.name

namespace ResultSet

/-- The set without results. -/
def empty : ResultSet := ⟨[], by simp⟩

instance : Inhabited ResultSet := ⟨empty⟩

/-- The result recorded for a stage. -/
def get? (s : ResultSet) (name : String) : Option StageResult :=
  s.entries.find? (·.name = name)

/-- The set holds a result for the stage. -/
def Has (s : ResultSet) (name : String) : Prop := name ∈ s.entries.map (·.name)

instance (s : ResultSet) (name : String) : Decidable (s.Has name) :=
  inferInstanceAs (Decidable (name ∈ s.entries.map (·.name)))

/-- The set with one more result behind the others, refused when its stage has a result. -/
def record (s : ResultSet) (r : StageResult) : Except RepeatedStage ResultSet :=
  if h : s.Has r.name then .error ⟨r.name⟩
  else .ok ⟨s.entries ++ [r], by
    simp only [List.map_append, List.map_cons, List.map_nil]
    exact List.nodup_append.2
      ⟨s.nodup, by simp, by rintro _ ha _ hb rfl; exact h (by simp_all [Has])⟩⟩

/-- The set of a list of results, recorded one after the other. -/
def ofList (results : List StageResult) : Except RepeatedStage ResultSet :=
  results.foldlM record empty

/-- The number of results. -/
def size (s : ResultSet) : Nat := s.entries.length

@[simp] theorem entries_empty : empty.entries = [] := rfl

theorem record_eq_ok_iff {s t : ResultSet} {r : StageResult} :
    s.record r = .ok t ↔ ¬ s.Has r.name ∧ t.entries = s.entries ++ [r] := by
  cases t
  by_cases h : s.Has r.name <;> simp [record, h, eq_comm]

theorem record_eq_error_iff {s : ResultSet} {r : StageResult} {e : RepeatedStage} :
    s.record r = .error e ↔ s.Has r.name ∧ e = ⟨r.name⟩ := by
  by_cases h : s.Has r.name <;> simp [record, h, eq_comm]

end ResultSet

end Testbench
