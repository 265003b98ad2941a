import Mathlib.Data.List.Induction
import Testbench.Stage.ResultSet

/-!
# What a result set remembers

A set is only ever appended to. Whatever is recorded and looked up, it holds what was first recorded
under every name, in the order of recording, and what it has once answered for a name it answers
from then on.

- `ResultSet.Operation`, `ResultSet.run`: operations on a set, one after the other.
- `ResultSet.firsts`: the results that are the first of their name.
- `ResultSet.entries_run`, `ResultSet.has_run_iff`: what is kept.
- `ResultSet.run_exact`: what is kept, and what is answered.
-/

namespace Testbench

namespace ResultSet

/-- What can be done with a set. -/
inductive Operation where
  | record (r : StageResult)
  | get (name : String)
  deriving DecidableEq

/-- What is answered to an operation. -/
inductive Answer where
  | recorded
  | refused (e : RepeatedStage)
  | found (r : Option StageResult)
  deriving DecidableEq

/-- One operation. What is refused leaves the set as it was. -/
def step (s : ResultSet) : Operation → Answer × ResultSet
  | .record r =>
    match s.record r with
    | .ok t => (.recorded, t)
    | .error e => (.refused e, s)
  | .get name => (.found (s.get? name), s)

/-- Operations one after the other, with all that is answered. -/
def run (s : ResultSet) : List Operation → List Answer × ResultSet
  | [] => ([], s)
  | op :: ops => ((s.step op).1 :: ((s.step op).2.run ops).1, ((s.step op).2.run ops).2)

/-- The results that are to be recorded, in order. -/
def offered (ops : List Operation) : List StageResult :=
  ops.filterMap fun
    | .record r => some r
    | .get _ => none

/-- The results that are the first of their name, in order. -/
def firsts (rs : List StageResult) : List StageResult :=
  (rs.zipIdx.filter fun x => x.1.name ∉ (rs.take x.2).map (·.name)).map Prod.fst

variable {s : ResultSet} {ops : List Operation} {rs : List StageResult} {r : StageResult}
  {name : String}

/-! ## The first of every name -/

/-- One more result is the first of its name if no other one has it. -/
theorem firsts_concat (rs : List StageResult) (r : StageResult) :
    firsts (rs ++ [r]) = firsts rs ++ if r.name ∈ rs.map (·.name) then [] else [r] := by
  have hfront : rs.zipIdx.filter (fun x => x.1.name ∉ ((rs ++ [r]).take x.2).map (·.name)) =
      rs.zipIdx.filter fun x => x.1.name ∉ (rs.take x.2).map (·.name) := by
    refine List.filter_congr fun x hx => ?_
    have hlt : x.2 < rs.length := by
      have := List.snd_lt_of_mem_zipIdx hx
      omega
    rw [List.take_append_of_le_length (Nat.le_of_lt hlt)]
  rw [firsts, List.zipIdx_append, List.filter_append, List.map_append, hfront]
  by_cases hr : r.name ∈ rs.map (·.name) <;> simp [firsts, hr]

/-- The names are those of all results. -/
theorem mem_names_firsts : name ∈ (firsts rs).map (·.name) ↔ name ∈ rs.map (·.name) := by
  induction rs using List.reverseRecOn with
  | nil => simp [firsts]
  | append_singleton rs r ih =>
    rw [firsts_concat, List.map_append, List.map_append, List.mem_append, List.mem_append, ih]
    split
    · next hr =>
      constructor
      · rintro (h | h)
        · exact .inl h
        · cases h
      · rintro (h | h)
        · exact .inl h
        · rw [List.map_singleton, List.mem_singleton] at h
          exact .inl (h ▸ hr)
    · exact Iff.rfl

/-- Under a name stands the first result that has it. -/
theorem find?_firsts : (firsts rs).find? (·.name = name) = rs.find? (·.name = name) := by
  induction rs using List.reverseRecOn with
  | nil => rfl
  | append_singleton rs r ih =>
    rw [firsts_concat, List.find?_append, List.find?_append, ih]
    split
    · next hr =>
      cases hfind : rs.find? (·.name = name) with
      | some r' => rfl
      | none =>
        have hne : r.name ≠ name := by
          rintro rfl
          obtain ⟨r', hmem, hname⟩ := List.mem_map.mp hr
          have hnot := List.find?_eq_none.mp hfind r' hmem
          exact hnot (decide_eq_true hname)
        simp [hne]
    · rfl

/-! ## Runs -/

theorem run_append (s : ResultSet) : ∀ ops more : List Operation, s.run (ops ++ more) =
    ((s.run ops).1 ++ ((s.run ops).2.run more).1, ((s.run ops).2.run more).2)
  | [], _ => rfl
  | op :: ops, more => by
    rw [List.cons_append, run, run, run_append (s.step op).2 ops more]
    rfl

theorem run_concat (ops : List Operation) (op : Operation) :
    (empty.run (ops ++ [op])).2 = ((empty.run ops).2.step op).2 := by
  rw [run_append]
  rfl

theorem getLast?_run_concat (ops : List Operation) (op : Operation) :
    (empty.run (ops ++ [op])).1.getLast? = some ((empty.run ops).2.step op).1 := by
  rw [run_append]
  exact List.getLast?_concat

theorem length_run (s : ResultSet) : ∀ ops : List Operation, (s.run ops).1.length = ops.length
  | [] => rfl
  | op :: ops => congrArg (· + 1) (length_run (s.step op).2 ops)

theorem offered_append (ops more : List Operation) :
    offered (ops ++ more) = offered ops ++ offered more :=
  List.filterMap_append

/-- A record is refused when the name is there, and then nothing is changed. -/
theorem step_record (s : ResultSet) (r : StageResult) :
    (s.Has r.name ∧ s.step (.record r) = (.refused ⟨r.name⟩, s)) ∨
      ¬ s.Has r.name ∧ ∃ t, s.step (.record r) = (.recorded, t) ∧ t.entries = s.entries ++ [r] := by
  cases hrecord : s.record r with
  | ok t =>
    obtain ⟨hnew, hentries⟩ := record_eq_ok_iff.mp hrecord
    refine .inr ⟨hnew, t, ?_, hentries⟩
    simp only [step, hrecord]
  | error e =>
    obtain ⟨hhas, rfl⟩ := record_eq_error_iff.mp hrecord
    refine .inl ⟨hhas, ?_⟩
    simp only [step, hrecord]

/-- A set only grows behind what it holds. -/
theorem entries_prefix_step (s : ResultSet) (op : Operation) :
    s.entries <+: (s.step op).2.entries := by
  cases op with
  | record r =>
    rcases step_record s r with ⟨-, hstep⟩ | ⟨-, t, hstep, hentries⟩
    · have hsame : (s.step (.record r)).2.entries = s.entries := by rw [hstep]
      exact hsame ▸ List.prefix_refl _
    · have hmore : (s.step (.record r)).2.entries = s.entries ++ [r] := by rw [hstep, hentries]
      exact hmore ▸ List.prefix_append _ _
  | get name => exact List.prefix_refl _

theorem entries_prefix_run : ∀ (ops : List Operation) (s : ResultSet),
    s.entries <+: (s.run ops).2.entries
  | [], _ => List.prefix_refl _
  | op :: ops, s => (entries_prefix_step s op).trans (entries_prefix_run ops (s.step op).2)

/-- What is found under a name is found under it from then on. -/
theorem get?_run (h : s.get? name = some r) (ops : List Operation) :
    (s.run ops).2.get? name = some r := by
  obtain ⟨more, hmore⟩ := entries_prefix_run ops s
  rw [get?, ← hmore, List.find?_append]
  rw [get?] at h
  rw [h]
  rfl

/-- What is kept are the results that were the first of their name. -/
theorem entries_run (ops : List Operation) :
    (empty.run ops).2.entries = firsts (offered ops) := by
  induction ops using List.reverseRecOn with
  | nil => rfl
  | append_singleton ops op ih =>
    rw [run_concat, offered_append]
    cases op with
    | record r =>
      have hhas : (empty.run ops).2.Has r.name ↔ r.name ∈ (offered ops).map (·.name) := by
        unfold Has
        rw [ih, mem_names_firsts]
      show _ = firsts (offered ops ++ [r])
      rw [firsts_concat]
      rcases step_record (empty.run ops).2 r with ⟨hmem, hstep⟩ | ⟨hnew, t, hstep, hentries⟩
      · rw [hstep, if_pos (hhas.mp hmem), List.append_nil]
        exact ih
      · rw [hstep, if_neg (mt hhas.mpr hnew), hentries, ih]
    | get name =>
      show (empty.run ops).2.entries = firsts (offered ops ++ [])
      rw [List.append_nil]
      exact ih

/-- A name is there when a record of it has succeeded. -/
theorem has_run_iff (ops : List Operation) : (empty.run ops).2.Has name ↔
    ∃ r, r.name = name ∧ (.record r, .recorded) ∈ ops.zip (empty.run ops).1 := by
  induction ops using List.reverseRecOn with
  | nil => simp [run, Has]
  | append_singleton ops op ih =>
    have hrun := run_append empty ops [op]
    have hzip : (ops ++ [op]).zip (empty.run (ops ++ [op])).1 =
        ops.zip (empty.run ops).1 ++ [(op, ((empty.run ops).2.step op).1)] := by
      rw [hrun]
      exact List.zip_append (length_run empty ops).symm
    rw [hzip, hrun]
    show ((empty.run ops).2.step op).2.Has name ↔ _
    simp only [List.mem_append, List.mem_singleton, Prod.mk.injEq, and_or_left, exists_or, ← ih]
    cases op with
    | record r =>
      rcases step_record (empty.run ops).2 r with ⟨hmem, hstep⟩ | ⟨hnew, t, hstep, hentries⟩
      · rw [hstep]
        simp
      · rw [hstep]
        simp [Has, hentries, eq_comm]
    | get name' => simp [step]

/-- What is looked up is what was first recorded. -/
theorem get?_run_eq (ops : List Operation) (name : String) :
    (empty.run ops).2.get? name = (offered ops).find? (·.name = name) := by
  rw [get?, entries_run, find?_firsts]

/-- **A set is a map that is only appended to.** After any operations it holds the results that were
the first of their name, in the order of recording. The next record is refused if and only if one of
its name has succeeded, and then nothing is changed. What is looked up is what was first recorded
under the name, and what has once been found is found from then on. -/
theorem run_exact (ops : List Operation) :
    let set := (empty.run ops).2
    set.entries = firsts (offered ops) ∧ (set.entries.map (·.name)).Nodup ∧
    (∀ r, let next := empty.run (ops ++ [.record r])
      (next.1.getLast? = some .recorded ∨ next.1.getLast? = some (.refused ⟨r.name⟩)) ∧
      (next.1.getLast? = some (.refused ⟨r.name⟩) ↔
        ∃ r', r'.name = r.name ∧ (.record r', .recorded) ∈ ops.zip (empty.run ops).1) ∧
      (next.1.getLast? = some (.refused ⟨r.name⟩) → next.2 = set)) ∧
    (∀ name, let next := empty.run (ops ++ [.get name])
      next.1.getLast? = some (.found ((offered ops).find? (·.name = name))) ∧ next.2 = set) ∧
    ∀ name r later, (empty.run (ops ++ [.get name])).1.getLast? = some (.found (some r)) →
      (empty.run (ops ++ [.get name] ++ later ++ [.get name])).1.getLast? =
        some (.found (some r)) := by
  intro set
  refine ⟨entries_run ops, set.nodup, fun r => ?_, fun name => ?_, fun name r later hfound => ?_⟩
  · intro next
    have hset : next.2 = (set.step (.record r)).2 := run_concat ops (.record r)
    rw [getLast?_run_concat, hset, ← has_run_iff]
    rcases step_record set r with ⟨hhas, hstep⟩ | ⟨hnew, t, hstep, -⟩
    · rw [hstep]
      exact ⟨.inr rfl, iff_of_true rfl hhas, fun _ => rfl⟩
    · rw [hstep]
      refine ⟨.inl rfl, iff_of_false ?_ hnew, ?_⟩
      · intro h
        cases h
      · intro h
        cases h
  · intro next
    have hset : next.2 = (set.step (.get name)).2 := run_concat ops (.get name)
    rw [getLast?_run_concat, hset, ← get?_run_eq]
    exact ⟨rfl, rfl⟩
  · have hget : set.get? name = some r := by
      rw [getLast?_run_concat] at hfound
      exact Answer.found.inj (Option.some.inj hfound)
    have hafter : (empty.run (ops ++ [.get name] ++ later)).2 = (set.run later).2 := by
      rw [run_append, run_append]
      rfl
    rw [getLast?_run_concat, hafter]
    exact congrArg (fun r => some (Answer.found r)) (get?_run hget later)

/-- A second result of a name is refused, and the first one is found before and after. -/
theorem run_exact_repeated :
    let first : StageResult := .completed "tests" true .zero
    let second : StageResult := .skipped "tests" "known"
    let ops : List Operation := [.get "tests", .record first, .get "tests", .record second]
    (empty.run ops).1 = [.found none, .recorded, .found (some first), .refused ⟨"tests"⟩] ∧
      (empty.run ops).2.entries = [first] ∧
      (empty.run (ops ++ [.get "tests"] ++ [.record second] ++ [.get "tests"])).1.getLast? =
        some (.found (some first)) := by
  intro first second ops
  obtain ⟨hentries, -, -, -, hstable⟩ := run_exact ops
  exact ⟨by decide, hentries, hstable "tests" first [.record second] (by decide)⟩

end ResultSet

end Testbench
