import Testbench.Text.Expression

/-!
# Leftmost positions and longest runs

A search answers at the leftmost position where there is an answer. Where nothing that follows a run
can begin with a character of the run, only the longest run leads on, so that a search that goes
back to shorter runs finds nothing else.

- `firstMatch?_eq_some_iff`, `firstMatch?_eq_none_iff`: what a search answers.
- `firstMatch?_map`: a search for what is made of other answers.
- `head?_runs`, `flatMap_runs`: the longest run comes first, and is the only one that leads on.
- `Expression.first?_phrase`: a phrase has to be there as it is.
- `Expression.first?_run`, `Expression.ways_group_run`: a run that is not gone back on.
-/

namespace Testbench

namespace Text

variable {α β : Type} {read : List Char → Option α} {accepts : Char → Bool}

/-! ## Leftmost positions -/

/-- A search answers at a position when nothing in front of it is an answer. -/
theorem firstMatch?_eq_some_iff {a : α} : ∀ {text : List Char}, firstMatch? read text = some a ↔
    ∃ i, read (text.drop i) = some a ∧ ∀ j < i, read (text.drop j) = none
  | [] => by
    constructor
    · intro h
      exact ⟨0, h, fun j hj => absurd hj (Nat.not_lt_zero j)⟩
    · rintro ⟨i, h, -⟩
      rwa [List.drop_nil] at h
  | c :: cs => by
    rw [firstMatch?]
    constructor
    · intro h
      split at h
      · next hread =>
        cases h
        exact ⟨0, hread, fun j hj => absurd hj (Nat.not_lt_zero j)⟩
      · next hnone =>
        obtain ⟨i, hi, hbefore⟩ := firstMatch?_eq_some_iff.mp h
        refine ⟨i + 1, hi, fun j hj => ?_⟩
        cases j with
        | zero => exact hnone
        | succ j => exact hbefore j (Nat.lt_of_succ_lt_succ hj)
    · rintro ⟨i, hi, hbefore⟩
      cases i with
      | zero =>
        rw [List.drop_zero] at hi
        rw [hi]
      | succ i =>
        have hnone : read (c :: cs) = none := hbefore 0 (Nat.succ_pos i)
        rw [hnone]
        exact firstMatch?_eq_some_iff.mpr ⟨i, hi, fun j hj => hbefore (j + 1) (Nat.succ_lt_succ hj)⟩

/-- A search has no answer when there is none at any position. -/
theorem firstMatch?_eq_none_iff : ∀ {text : List Char}, firstMatch? read text = none ↔
    ∀ i, read (text.drop i) = none
  | [] => by
    constructor
    · intro h i
      rwa [List.drop_nil]
    · intro h
      exact h 0
  | c :: cs => by
    rw [firstMatch?]
    constructor
    · intro h i
      split at h
      · cases h
      · next hnone =>
        cases i with
        | zero => exact hnone
        | succ i => exact firstMatch?_eq_none_iff.mp h i
    · intro h
      have hnone : read (c :: cs) = none := h 0
      rw [hnone]
      exact firstMatch?_eq_none_iff.mpr fun i => h (i + 1)

/-- Answers that are made of other ones are found where these are. -/
theorem firstMatch?_map (f : α → β) : ∀ text : List Char,
    firstMatch? (fun s => (read s).map f) text = (firstMatch? read text).map f
  | [] => rfl
  | c :: cs => by
    rw [firstMatch?, firstMatch?, firstMatch?_map f cs]
    cases read (c :: cs) <;> rfl

/-! ## Longest runs -/

/-- The longest run comes first. -/
theorem head?_runs : ∀ text : List Char,
    (runs accepts text).head? = some (text.takeWhile accepts, text.dropWhile accepts)
  | [] => rfl
  | c :: cs => by
    by_cases hc : accepts c = true
    · rw [runs, if_pos hc, List.head?_append, List.head?_map, head?_runs cs, List.takeWhile_cons_of_pos hc,
        List.dropWhile_cons_of_pos hc]
      rfl
    · rw [runs, if_neg hc, List.takeWhile_cons_of_neg hc, List.dropWhile_cons_of_neg hc]
      rfl

/-- Where nothing goes on with a character of the run, only the longest run leads on. -/
theorem flatMap_runs : ∀ (keep : List Char × List Char → Bool) (f : List Char × List Char → List β)
    (text : List Char), (∀ front c rest, accepts c = true → f (front, c :: rest) = []) →
    ((runs accepts text).filter keep).flatMap f =
      if keep (text.takeWhile accepts, text.dropWhile accepts) then
        f (text.takeWhile accepts, text.dropWhile accepts)
      else []
  | keep, f, [], _ => by
    cases hkeep : keep ([], []) <;> simp [runs, hkeep]
  | keep, f, c :: cs, hstop => by
    by_cases hc : accepts c = true
    · -- the run that ends in front of the character leads nowhere
      have hempty : ([([], c :: cs)].filter keep).flatMap f = [] := by
        cases hkeep : keep ([], c :: cs) <;> simp [hkeep, hstop [] c cs hc]
      have hrest := flatMap_runs (keep ∘ fun r => (c :: r.1, r.2)) (fun r => f (c :: r.1, r.2)) cs
        fun front d rest hd => hstop (c :: front) d rest hd
      rw [runs, if_pos hc, List.filter_append, List.flatMap_append, hempty, List.append_nil,
        List.filter_map, List.flatMap_map, List.takeWhile_cons_of_pos hc,
        List.dropWhile_cons_of_pos hc]
      exact hrest
    · rw [runs, if_neg hc, List.takeWhile_cons_of_neg hc, List.dropWhile_cons_of_neg hc]
      cases hkeep : keep ([], c :: cs) <;> simp [hkeep]

namespace Expression

variable {next : Expression} {kind : CharClass}

/-- A phrase has to stand there as it is. -/
theorem ways_phrase (next : Expression) : ∀ phrase text : List Char,
    (Expression.phrase phrase next).ways text =
      match after? phrase text with
      | none => []
      | some rest => (next.ways rest).map (·.behind phrase [])
  | [], text => by
    simp [Expression.phrase, after?, Hit.behind]
  | p :: ps, [] => rfl
  | p :: ps, c :: cs => by
    show (if c = p then ((Expression.phrase ps next).ways cs).map (·.behind [p] []) else []) = _
    rw [ways_phrase next ps cs, after?]
    by_cases hc : p = c
    · rw [if_pos hc, if_pos hc.symm]
      split
      · rfl
      · rw [List.map_map]
        rfl
    · rw [if_neg hc, if_neg (Ne.symm hc)]

/-- What is preferred of a phrase and what follows is what is preferred of the latter. -/
theorem first?_phrase (next : Expression) (phrase text : List Char) :
    (Expression.phrase phrase next).first? text =
      match after? phrase text with
      | none => none
      | some rest => (next.first? rest).map (·.behind phrase []) := by
  rw [first?, ways_phrase]
  split
  · rfl
  · exact List.head?_map

/-- Where nothing that follows begins with a character of the class, only the longest run leads on.
-/
theorem first?_run (text : List Char)
    (hstop : ∀ c rest, kind.accepts c = true → next.ways (c :: rest) = []) :
    (run kind false next).first? text =
      if text.takeWhile kind.accepts = [] then none
      else (next.first? (text.dropWhile kind.accepts)).map
        (·.behind (text.takeWhile kind.accepts) []) := by
  rw [first?, ways, flatMap_runs _ _ text fun front c rest hc => by rw [hstop c rest hc, List.map_nil]]
  by_cases hrun : text.takeWhile kind.accepts = [] <;> simp [hrun, first?]

/-- The same with the run as a group; without a character of the class there is no way at all. -/
theorem ways_group_run (name : GroupName) (text : List Char)
    (hstop : ∀ c rest, kind.accepts c = true → next.ways (c :: rest) = []) :
    (group name (run kind false done) next).ways text =
      if text.takeWhile kind.accepts = [] then []
      else (next.ways (text.dropWhile kind.accepts)).map
        (·.behind (text.takeWhile kind.accepts) [(name.1, text.takeWhile kind.accepts)]) := by
  have hfront (r : List Char × List Char) :
      ((done.ways r.2).map (·.behind r.1 [])).flatMap (fun h =>
        (next.ways h.rest).map (·.behind h.front ((name.1, h.front) :: h.captures))) =
      (next.ways r.2).map (·.behind r.1 [(name.1, r.1)]) := by
    simp [ways, Hit.behind]
  rw [ways, ways, List.flatMap_assoc]
  simp only [hfront]
  rw [flatMap_runs _ _ text fun front c rest hc => by rw [hstop c rest hc, List.map_nil]]
  by_cases hrun : text.takeWhile kind.accepts = [] <;> simp [hrun]

/-- The whole of what is read as a group. -/
theorem first?_group_done (name : GroupName) (body : Expression) (text : List Char) :
    (group name body done).first? text =
      (body.first? text).map fun h => ⟨h.front, h.rest, (name.1, h.front) :: h.captures⟩ := by
  have hdone (h : Hit) : (done.ways h.rest).map (·.behind h.front ((name.1, h.front) :: h.captures)) =
      [⟨h.front, h.rest, (name.1, h.front) :: h.captures⟩] := by
    simp [ways, Hit.behind]
  rw [first?, ways]
  simp only [hdone]
  rw [← List.map_eq_flatMap, List.head?_map]
  rfl

end Expression

end Text

end Testbench
